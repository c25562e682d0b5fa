import TypedTables.Proofs.Effect.Settling
import TypedTables.Validation.Leaf

/-!
# What leaves bring

A leaf brings the value it is given, or that value in the kind its schema is about: a text, a
number, an identifier, a point in time. Its issues are about the value as a whole.
-/

namespace TypedTables

namespace Value

/-- A whole number, or a number with a point that is not infinite. -/
def isFiniteNumber : Value → Bool
  | .integer _ => true
  | .float number => number.isFinite
  | _ => false

end Value

namespace Leaf

theorem coerceText_eq_ok {input value : Value} (coerced : coerceText input = .ok value) :
    value = input ∨ ∃ written, value = .text written := by
  unfold coerceText at coerced
  split at coerced
  · exact Or.inl (Except.ok.inj coerced).symm
  · exact Or.inl (Except.ok.inj coerced).symm
  · exact Or.inr ⟨_, (Except.ok.inj coerced).symm⟩
  · obtain ⟨written, -, equal⟩ := (except_map_eq_ok_iff _ _ _).mp coerced
    exact Or.inr ⟨written, equal.symm⟩

theorem checkFormat_value (format : TextFormat) (text : String) :
    ∃ written, (checkFormat format text).value = .text written := by
  unfold checkFormat
  cases format with
  | free => exact ⟨text, rfl⟩
  | email =>
      simp only
      split <;> exact ⟨text, rfl⟩
  | url protocols normalize =>
      simp only
      cases Url.ofText? text with
      | none => exact ⟨text, rfl⟩
      | some url =>
          simp only
          split
          · exact ⟨text, rfl⟩
          · exact ⟨_, rfl⟩

theorem coerced_text (rules : TextRules) (characters : String) :
    (if rules.coerce then coerceText (.text characters) else .ok (.text characters)) =
      .ok (.text characters) := by
  split <;> rfl

/-- A schema for texts is run on a text, the value itself or what it is coerced to, or leaves the
value it refuses as it is. -/
theorem exists_text_of_eq_ok {rules : TextRules} {input : Value} {payload : Payload}
    (brings : text rules input = .ok payload) :
    (∃ written, text rules (.text written) = .ok payload) ∨ payload = .wrongKind "string" input := by
  unfold text at brings
  obtain ⟨value, coerced, remaining⟩ := (except_bind_eq_ok_iff _ _ _).mp brings
  have same : value = input ∨ ∃ written, value = .text written := by
    split at coerced
    · exact coerceText_eq_ok coerced
    · exact Or.inl (Except.ok.inj coerced).symm
  cases value with
  | text characters =>
      refine Or.inl ⟨characters, ?_⟩
      rw [text, coerced_text]
      exact remaining
  | _ =>
      right
      rcases same with rfl | ⟨written, equal⟩
      · exact (Except.ok.inj remaining).symm
      · cases equal

/-- What a schema for texts makes of a text: the issues of its bounds and its pattern, or what the
format brings. -/
theorem text_text_eq_ok {rules : TextRules} {characters : String} {payload : Payload}
    (brings : text rules (.text characters) = .ok payload) :
    ∃ sizes mismatch,
      boundIssues "String" "character(s)" characters.length rules.least rules.most
        (.text characters) = .ok sizes ∧
      patternIssues rules.pattern characters = .ok mismatch ∧
      payload = if (sizes ++ mismatch).isEmpty then checkFormat rules.format characters
        else ⟨.text characters, sizes ++ mismatch⟩ := by
  rw [text, coerced_text] at brings
  obtain ⟨value, equal, remaining⟩ := (except_bind_eq_ok_iff _ _ _).mp brings
  cases equal
  obtain ⟨sizes, bounded, checked⟩ := (except_bind_eq_ok_iff _ _ _).mp remaining
  obtain ⟨mismatch, matched, equal⟩ := (except_map_eq_ok_iff _ _ _).mp checked
  exact ⟨sizes, mismatch, bounded, matched, equal.symm⟩

theorem text_eq_ok {rules : TextRules} {input : Value} {payload : Payload}
    (brings : text rules input = .ok payload) :
    (∃ written, payload.value = .text written) ∨ payload = .wrongKind "string" input := by
  rcases exists_text_of_eq_ok brings with ⟨characters, bringsText⟩ | refused
  · obtain ⟨sizes, mismatch, -, -, rfl⟩ := text_text_eq_ok bringsText
    left
    split
    · exact checkFormat_value rules.format characters
    · exact ⟨characters, rfl⟩
  · exact Or.inr refused

theorem value_number {rules : NumberRules} {input : Value} {payload : Payload}
    (brings : number rules input = .ok payload) :
    payload.value = if rules.coerce then coerceNumber input else input := by
  unfold number at brings
  generalize (if rules.coerce then coerceNumber input else input) = value at brings ⊢
  have bounded (limits : Except Fault (List Issue)) (issues : List Issue)
      (maps : (limits.map fun beyond => (⟨value, issues ++ beyond⟩ : Payload)) = .ok payload) :
      payload.value = value := by
    obtain ⟨beyond, -, rfl⟩ := (except_map_eq_ok_iff _ _ _).mp maps
    rfl
  simp only at brings
  split at brings
  all_goals
    split at brings
    · cases brings
      rfl
    · cases found : rules.format.bind numberRange? with
      | none =>
          rw [found] at brings
          exact bounded _ [] brings
      | some range =>
          rw [found] at brings
          simp only at brings
          split at brings
          · cases brings
            rfl
          · obtain ⟨outside, -, ranged⟩ := (except_bind_eq_ok_iff _ _ _).mp brings
            exact bounded _ outside ranged

theorem ofKind_clean {expected : String} {passes : Value → Bool} {value : Value}
    (clean : (ofKind expected passes value).isClean = true) :
    passes value = true ∧ (ofKind expected passes value).value = value := by
  unfold ofKind at clean ⊢
  split at clean
  · rename_i passed
    rw [if_pos passed]
    exact ⟨passed, rfl⟩
  · cases clean

theorem text_clean {rules : TextRules} {input : Value} {payload : Payload}
    (brings : text rules input = .ok payload) (clean : payload.isClean = true) :
    payload.value.isText = true := by
  rcases text_eq_ok brings with ⟨written, equal⟩ | rfl
  · rw [equal]
    rfl
  · cases clean

theorem checkUuid_clean {format : String} {identifier : Uuid} {value : Value}
    (clean : (checkUuid format identifier value).isClean = true) :
    (checkUuid format identifier value).value = .uuid identifier := by
  unfold checkUuid at clean ⊢
  grind [Payload.isClean, Payload.reject, Payload.accept]

theorem uuid_clean {format : String} {value : Value}
    (clean : (uuid format value).isClean = true) :
    ∃ identifier, (uuid format value).value = .uuid identifier := by
  unfold uuid at clean ⊢
  cases value with
  | uuid identifier => exact ⟨identifier, checkUuid_clean clean⟩
  | text written =>
      cases reads : Uuid.ofText? written with
      | none => simp [reads] at clean
      | some identifier =>
          simp only [reads] at clean ⊢
          exact ⟨identifier, checkUuid_clean clean⟩
  | _ => cases clean

theorem date_clean {coerce : Bool} {value : Value} (clean : (date coerce value).isClean = true) :
    ∃ moment, (date coerce value).value = .timestamp moment := by
  unfold date at clean ⊢
  cases value with
  | timestamp moment => exact ⟨moment, rfl⟩
  | text _ | integer _ | float _ | notANumber _ =>
      cases coerce with
      | false => cases clean
      | true =>
          simp only [if_true] at clean ⊢
          split at clean
          · exact ⟨_, rfl⟩
          · cases clean
  | _ => cases clean

theorem bigint_clean {format : Option String} {value : Value}
    (clean : (bigint format value).isClean = true) :
    isWhole (bigint format value).value = true := by
  unfold bigint at clean ⊢
  cases value with
  | integer number =>
      cases found : format.bind bigintRange? with
      | none => rfl
      | some range =>
          simp only [found] at clean ⊢
          split
          · rfl
          · split <;> rfl
  | _ => cases clean

theorem number_of_finite (rules : NumberRules) (input : Value) :
    number rules input =
      let value := if rules.coerce then coerceNumber input else input
      if !value.isFiniteNumber then .ok (.wrongKind "number" value)
      else
        match rules.format.bind numberRange? with
        | some range =>
            if range.whole && !isWhole value then .ok (.wrongKind "int" value)
            else
              (rangeIssues range value).bind fun outside =>
                (numberBoundIssues rules value).map fun beyond => ⟨value, outside ++ beyond⟩
        | none => (numberBoundIssues rules value).map fun beyond => ⟨value, beyond⟩ := by
  unfold number
  generalize (if rules.coerce then coerceNumber input else input) = value
  cases value <;> rfl

/-- An accepted number is finite, and whole where the format has whole numbers only. -/
theorem number_clean {rules : NumberRules} {input : Value} {payload : Payload}
    (brings : number rules input = .ok payload) (clean : payload.isClean = true) :
    payload.value.isFiniteNumber = true ∧
      ∀ range, rules.format.bind numberRange? = some range → range.whole = true →
        isWhole payload.value = true := by
  have valueIs := value_number brings
  rw [number_of_finite] at brings
  generalize (if rules.coerce then coerceNumber input else input) = value at brings valueIs
  rw [valueIs]
  simp only at brings
  split at brings
  · cases brings
    cases clean
  · rename_i isFinite
    refine ⟨by simpa using isFinite, ?_⟩
    intro range found onlyWhole
    rw [found] at brings
    simp only [onlyWhole, Bool.true_and] at brings
    split at brings
    · cases brings
      cases clean
    · rename_i whole
      simpa using whole

theorem listed_clean {values : List Value} {input value : Value} {issue : Issue}
    (clean : (if values.any fun expected => Value.sameLiteral expected value then
        Payload.accept value else Payload.reject input issue).isClean = true) :
    ∃ expected ∈ values, Value.sameLiteral expected
      (if values.any fun expected => Value.sameLiteral expected value then
        Payload.accept value else Payload.reject input issue).value = true := by
  split at clean
  · rename_i listed
    rw [if_pos listed]
    exact List.any_eq_true.mp listed
  · cases clean

theorem enumeration_clean {values : List Value} {input : Value}
    (clean : (enumeration values input).isClean = true) :
    ∃ expected ∈ values, Value.sameLiteral expected (enumeration values input).value = true :=
  listed_clean clean

theorem literal_clean {values : List Value} {input : Value}
    (clean : (literal values input).isClean = true) :
    ∃ expected ∈ values, Value.sameLiteral expected (literal values input).value = true :=
  listed_clean clean

section Issues

variable {input : Value}

/-- Issues that tell nothing but a message about the input as a whole. -/
def AllAbout (input : Value) (issues : List Issue) : Prop :=
  ∀ issue ∈ issues, ∃ code message, issue = Issue.plain code message input

theorem AllAbout.append {first second : List Issue} (aboutFirst : AllAbout input first)
    (aboutSecond : AllAbout input second) : AllAbout input (first ++ second) := by
  intro issue member
  rcases List.mem_append.mp member with before | after
  · exact aboutFirst issue before
  · exact aboutSecond issue after

theorem allAbout_nil : AllAbout input [] := fun _ member => absurd member List.not_mem_nil

theorem allAbout_plain (code : IssueCode) (message : String) (input : Value) :
    AllAbout input [Issue.plain code message input] := by
  intro issue member
  rw [List.mem_singleton.mp member]
  exact ⟨code, message, rfl⟩

theorem allAbout_sizeIssue {comparison : Comparison} {code : IssueCode} {size : Nat}
    {bound : Option Value} {message : String → String} {issues : List Issue}
    (brings : sizeIssue comparison code size bound message input = .ok issues) :
    AllAbout input issues := by
  unfold sizeIssue at brings
  cases bound with
  | none =>
      cases brings
      exact allAbout_nil
  | some limit =>
      obtain ⟨broken, -, remaining⟩ := (except_bind_eq_ok_iff _ _ _).mp brings
      cases broken with
      | false =>
          cases remaining
          exact allAbout_nil
      | true =>
          obtain ⟨text, -, rfl⟩ := (except_map_eq_ok_iff _ _ _).mp remaining
          exact allAbout_plain _ _ _

theorem allAbout_boundIssues {label unit : String} {size : Nat} {least most : Option Value}
    {issues : List Issue} (brings : boundIssues label unit size least most input = .ok issues) :
    AllAbout input issues := by
  obtain ⟨below, bringsBelow, remaining⟩ := (except_bind_eq_ok_iff _ _ _).mp brings
  obtain ⟨above, bringsAbove, rfl⟩ := (except_map_eq_ok_iff _ _ _).mp remaining
  exact (allAbout_sizeIssue bringsBelow).append (allAbout_sizeIssue bringsAbove)

theorem allAbout_patternIssues {pattern : Option String} {text : String} {issues : List Issue}
    (brings : patternIssues pattern text = .ok issues) : AllAbout (.text text) issues := by
  unfold patternIssues at brings
  split at brings
  · cases brings
    exact allAbout_nil
  · split at brings
    · cases brings
    · cases brings
      split
      · exact allAbout_nil
      · exact allAbout_plain _ _ _

theorem allAbout_checkFormat (format : TextFormat) (text : String) :
    AllAbout (.text text) (checkFormat format text).issues := by
  unfold checkFormat
  cases format with
  | free => exact allAbout_nil
  | email =>
      simp only
      split
      · exact allAbout_nil
      · exact allAbout_plain _ _ _
  | url protocols normalize =>
      simp only
      split
      · exact allAbout_plain _ _ _
      · split
        · exact allAbout_plain _ _ _
        · exact allAbout_nil

theorem allAbout_text {rules : TextRules} {characters : String} {payload : Payload}
    (brings : text rules (.text characters) = .ok payload) :
    AllAbout (.text characters) payload.issues := by
  obtain ⟨sizes, mismatch, bounded, matched, rfl⟩ := text_text_eq_ok brings
  split
  · exact allAbout_checkFormat rules.format characters
  · exact (allAbout_boundIssues bounded).append (allAbout_patternIssues matched)

theorem allAbout_numberIssue {comparison : Comparison} {code : IssueCode} {relation : String}
    {limit : Value} {issues : List Issue}
    (brings : numberIssue comparison code relation limit input = .ok issues) :
    AllAbout input issues := by
  obtain ⟨holds, -, remaining⟩ := (except_bind_eq_ok_iff _ _ _).mp brings
  cases holds with
  | true =>
      cases remaining
      exact allAbout_nil
  | false =>
      obtain ⟨text, -, rfl⟩ := (except_map_eq_ok_iff _ _ _).mp remaining
      exact allAbout_plain _ _ _

theorem allAbout_numberBoundIssues {rules : NumberRules} {issues : List Issue}
    (brings : numberBoundIssues rules input = .ok issues) : AllAbout input issues := by
  obtain ⟨below, bringsBelow, remaining⟩ := (except_bind_eq_ok_iff _ _ _).mp brings
  obtain ⟨above, bringsAbove, rfl⟩ := (except_map_eq_ok_iff _ _ _).mp remaining
  apply AllAbout.append
  · split at bringsBelow
    · cases bringsBelow
      exact allAbout_nil
    · exact allAbout_numberIssue bringsBelow
    · exact allAbout_numberIssue bringsBelow
  · split at bringsAbove
    · cases bringsAbove
      exact allAbout_nil
    · exact allAbout_numberIssue bringsAbove
    · exact allAbout_numberIssue bringsAbove

theorem allAbout_number {rules : NumberRules} {input : Value} {payload : Payload}
    (brings : number rules input = .ok payload) :
    (∃ expected, payload = .wrongKind expected payload.value) ∨
      AllAbout payload.value payload.issues := by
  rw [number_of_finite] at brings
  generalize (if rules.coerce then coerceNumber input else input) = value at brings
  simp only at brings
  split at brings
  · cases brings
    exact Or.inl ⟨_, rfl⟩
  · split at brings
    · split at brings
      · cases brings
        exact Or.inl ⟨_, rfl⟩
      · obtain ⟨outside, ranged, remaining⟩ := (except_bind_eq_ok_iff _ _ _).mp brings
        obtain ⟨beyond, bounded, rfl⟩ := (except_map_eq_ok_iff _ _ _).mp remaining
        obtain ⟨below, bringsBelow, aboveLow⟩ := (except_bind_eq_ok_iff _ _ _).mp ranged
        obtain ⟨above, bringsAbove, rfl⟩ := (except_map_eq_ok_iff _ _ _).mp aboveLow
        have aboutRange :=
          (allAbout_numberIssue bringsBelow).append (allAbout_numberIssue bringsAbove)
        exact Or.inr (aboutRange.append (allAbout_numberBoundIssues bounded))
    · obtain ⟨beyond, bounded, rfl⟩ := (except_map_eq_ok_iff _ _ _).mp brings
      exact Or.inr (allAbout_numberBoundIssues bounded)

end Issues

end Leaf
end TypedTables
