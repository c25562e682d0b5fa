import TypedTables.Proofs.Validation.Intersections

/-!
# Entries of keyed collections

A keyed collection puts the item of each entry under what its key schema makes of the key, one entry
after the other. Where two keys become alike, the entry of the first is written over by that of the
second. Otherwise no entry is lost: the last item under each key is found, and the keys are those
that a set of the key outputs would hold.
-/

namespace TypedTables

namespace Value

theorem find?_put_self (key item : Value) (entries : List (Value × Value)) :
    find? key (put key item entries) = some item := by
  induction entries with
  | nil => simp [put, find?, alike_self]
  | cons entry rest ih =>
      cases same : alike key entry.1 with
      | true => simp [put, find?, same]
      | false =>
          rw [put, if_neg (by simp [same]), find?, List.find?_cons_of_neg (by simp [same])]
          exact ih

theorem find?_put_of_unlike {key other : Value} (wellFormed : other.IsWellFormed)
    (unlike : alike key other = false) (item : Value) (entries : List (Value × Value)) :
    find? key (put other item entries) = find? key entries := by
  induction entries with
  | nil => simp [put, find?, unlike]
  | cons entry rest ih =>
      cases same : alike other entry.1 with
      | true =>
          have apart : alike key entry.1 = false := by
            by_contra found
            rw [alike_trans (by simpa using found) (wellFormed.alike_symm same)] at unlike
            cases unlike
          simp [put, find?, same, apart]
      | false =>
          rw [put, if_neg (by simp [same])]
          cases found : alike key entry.1 with
          | true => simp [find?, found]
          | false =>
              rw [find?, List.find?_cons_of_neg (by simp [found]), find?,
                List.find?_cons_of_neg (by simp [found])]
              exact ih

def putAll (entries outputs : List (Value × Value)) : List (Value × Value) :=
  entries.foldl (fun before entry => put entry.1 entry.2 before) outputs

theorem find?_putAll_of_unlike {key : Value} {entries : List (Value × Value)}
    (wellFormed : ∀ entry ∈ entries, entry.1.IsWellFormed)
    (unlike : ∀ entry ∈ entries, alike key entry.1 = false) (outputs : List (Value × Value)) :
    find? key (putAll entries outputs) = find? key outputs := by
  induction entries generalizing outputs with
  | nil => rfl
  | cons entry rest ih =>
      change find? key (putAll rest (put entry.1 entry.2 outputs)) = _
      rw [ih (fun next member => wellFormed next (by simp [member]))
        (fun next member => unlike next (by simp [member])),
        find?_put_of_unlike (wellFormed entry (by simp)) (unlike entry (by simp))]

theorem find?_putAll {before after : List (Value × Value)} {entry : Value × Value}
    (wellFormed : ∀ later ∈ after, later.1.IsWellFormed)
    (last : ∀ later ∈ after, alike entry.1 later.1 = false) (outputs : List (Value × Value)) :
    find? entry.1 (putAll (before ++ entry :: after) outputs) = some entry.2 := by
  have split : putAll (before ++ entry :: after) outputs =
      putAll after (put entry.1 entry.2 (putAll before outputs)) := by
    simp [putAll, List.foldl_append]
  rw [split, find?_putAll_of_unlike wellFormed last, find?_put_self]

theorem putAll_of_distinct {entries outputs : List (Value × Value)}
    (distinct : Distinct ((outputs ++ entries).map Prod.fst)) :
    putAll entries outputs = outputs ++ entries := by
  induction entries generalizing outputs with
  | nil => simp [putAll]
  | cons entry rest ih =>
      have together : outputs ++ entry :: rest = outputs ++ [entry] ++ rest := by simp
      rw [together] at distinct ⊢
      have unlike : ∀ present ∈ outputs.map Prod.fst, alike entry.1 present = false := by
        rw [List.map_append, List.map_append, List.map_singleton] at distinct
        exact ((distinct_append_singleton_iff _ _).mp (List.pairwise_append.mp distinct).1).2
      change putAll rest (put entry.1 entry.2 outputs) = _
      rw [put_of_unlike unlike]
      exact ih distinct

end Value

namespace Container

theorem collectMembers_putAll {entries : List (Value × Value)}
    (hashable : ∀ entry ∈ entries, entry.1.unhashableClass? = none)
    (outputs : List (Value × Value)) :
    collectMembers (entries.map Prod.fst) (outputs.map Prod.fst) =
      .ok ((Value.putAll entries outputs).map Prod.fst) := by
  induction entries generalizing outputs with
  | nil => rfl
  | cons entry rest ih =>
      have added : (Value.put entry.1 entry.2 outputs).map Prod.fst =
          Value.addMember entry.1 (outputs.map Prod.fst) := by
        rw [Value.map_fst_put, Value.addMember, Value.hasKey, List.any_map]
        rfl
      rw [List.map_cons, collectMembers, hashable entry (by simp)]
      simp only
      rw [← added, ih fun next member => hashable next (by simp [member])]
      rfl

/-- The entry that an entry of the input makes: what its key and its item are accepted as, unless
the item is absent then. -/
def writtenPair? (validate : Validator) (key value : Schema) (entry : Value × Value) :
    Option (Value × Value) :=
  (validate.accepted key entry.1).bind fun keyOutput =>
    ((validate.accepted value entry.2).filter fun item => !item.isUndefined).map fun item =>
      (keyOutput, item)

/-- The entries that the entries of the input make, in their order. -/
def writtenEntries (validate : Validator) (key value : Schema) (entries : List (Value × Value)) :
    List (Value × Value) :=
  entries.filterMap (writtenPair? validate key value)

def AcceptsEntry (validate : Validator) (key value : Schema) (entry : Value × Value) : Prop :=
  (validate.accepted key entry.1).isSome = true ∧ (validate.accepted value entry.2).isSome = true

/-- What is assembled without issues: every key and item is accepted, the keys that are written can
be keys, and the entries are put one after the other. The induction is on the entries of the input.
-/
theorem putAll_of_assembleKeyed {validate : Validator} {label : String} {key value : Schema}
    {given before : List (Value × Value)} {done : List (Entry Payload)} {data : Value}
    (evaluated : Evaluation.parts validate.alone (keyedJobs key value given) = .ok done)
    (assembles : assembleKeyed label done (.accept (.mapping before)) = .ok (.accept data)) :
    (∀ entry ∈ given, AcceptsEntry validate key value entry) ∧
      (∀ entry ∈ writtenEntries validate key value given, entry.1.unhashableClass? = none) ∧
      data = .mapping (Value.putAll (writtenEntries validate key value given) before) := by
  induction given generalizing before done with
  | nil =>
      cases evaluated
      cases assembles
      exact ⟨by simp, by simp [writtenEntries], rfl⟩
  | cons entry rest ih =>
      obtain ⟨keyPayload, payload, others, ofKey, ofValue, further, rfl⟩ :=
        (Evaluation.parts_keyedJobs_cons_eq_ok_iff _ _ _ _ _).mp evaluated
      rw [assembleKeyed] at assembles
      split at assembles
      · obtain ⟨issue, -, remaining⟩ := (except_bind_eq_ok_iff _ _ _).mp assembles
        cases issues_eq_nil_of_assembleKeyed remaining
      · rename_i refused
        have cleanKey : keyPayload.isClean = true := by simpa using refused
        rw [Payload.eq_accept cleanKey, ← Validator.accepted_eq_some_iff] at ofKey
        simp only [Payload.accept, List.nil_append] at assembles
        have accepted (none : payload.issues.map (Issue.within entry.1) = []) :
            validate.accepted value entry.2 = some payload.value := by
          have clean : payload.isClean = true := List.isEmpty_iff.mpr (List.map_eq_nil_iff.mp none)
          rw [Validator.accepted_eq_some_iff, ← Payload.eq_accept clean]
          exact ofValue
        split at assembles
        · rename_i absent
          have none := issues_eq_nil_of_assembleKeyed assembles
          simp only at none
          rw [none] at assembles
          have skipped : writtenPair? validate key value entry = Option.none := by
            simp [writtenPair?, ofKey, accepted none, Option.filter, absent]
          obtain ⟨each, hashable, rfl⟩ := ih further assembles
          rw [writtenEntries, List.filterMap_cons_none skipped]
          refine ⟨List.forall_mem_cons.mpr ⟨?_, each⟩, hashable, rfl⟩
          exact ⟨by rw [ofKey]; rfl, by rw [accepted none]; rfl⟩
        · rename_i present
          split at assembles
          · cases assembles
          · rename_i hashable
            have none := issues_eq_nil_of_assembleKeyed assembles
            simp only at none
            rw [none] at assembles
            have written : writtenPair? validate key value entry =
                some (keyPayload.value, payload.value) := by
              simp [writtenPair?, ofKey, accepted none, Option.filter, present]
            obtain ⟨each, hashables, rfl⟩ := ih further assembles
            rw [writtenEntries, List.filterMap_cons_some written]
            refine ⟨List.forall_mem_cons.mpr ⟨?_, each⟩,
              List.forall_mem_cons.mpr ⟨hashable, hashables⟩, rfl⟩
            exact ⟨by rw [ofKey]; rfl, by rw [accepted none]; rfl⟩

/-- What a keyed collection accepts a mapping as. -/
theorem putAll_of_settled_keyed {validate : Validator} {label : String} {key value : Schema}
    {input output : Value}
    (accepts : (keyed validate label key value input).settled = .ok (.accept output)) :
    ∃ entries, input.entries? = some entries ∧
      (∀ entry ∈ entries, AcceptsEntry validate key value entry) ∧
      (∀ entry ∈ writtenEntries validate key value entries, entry.1.unhashableClass? = none) ∧
      output = .mapping (Value.putAll (writtenEntries validate key value entries) []) := by
  unfold keyed at accepts
  cases mapping : input.entries? with
  | none =>
      rw [mapping] at accepts
      cases accepts
  | some entries =>
      simp only [mapping] at accepts
      obtain ⟨done, evaluated, assembles⟩ :=
        (settled_fanOut_joinEntries_eq_ok_iff _ _ _).mp accepts
      exact ⟨entries, rfl, putAll_of_assembleKeyed evaluated assembles⟩

end Container

namespace Validation

variable {scope : ParseScope} {limit : Nat} {input output : Value}

theorem settled_form_of_accepted {schema : Schema}
    (accepts : (run scope (limit + 1)).accepted schema input = some output) :
    (runForm scope (run scope limit) schema.form input).settled = .ok (.accept output) := by
  have settles : (runSchema scope (run scope limit) schema input).settled = .ok (.accept output) :=
    (Validator.accepted_eq_some_iff _ _ _ _).mp accepts
  obtain ⟨payload, formed, refined⟩ := exists_formed_of_settled settles
  have same : output = payload.value := value_of_settled_refine refined
  cases clean : payload.isClean with
  | true =>
      rw [same, ← Payload.eq_accept clean]
      exact formed
  | false =>
      rw [Wrapper.refine, if_pos (by simp [clean])] at refined
      cases refined
      cases clean

open Container

/-- A record or a map loses no entry but one that is written over. Let it accept a well-formed
mapping, with a well-formed schema of its keys. Then it accepts every key and every item. Among the
entries that these make, the absent items left aside, the last one with a key is found under it, and
the keys are as many as those that differ; where all of them differ, the output is these entries,
one for each, in their order. -/
theorem keyed_keeps_last_entries {schema key value : Schema}
    (isKeyed : schema.form = .record key value ∨ schema.form = .map key value)
    (isFormed : key.IsWellFormed scope.environment) (wellFormed : input.IsWellFormed)
    (accepts : (run scope (limit + 1)).accepted schema input = some output) :
    ∃ entries outputs, input.entries? = some entries ∧ output = .mapping outputs ∧
      (∀ entry ∈ entries, AcceptsEntry (run scope limit) key value entry) ∧
      (∀ before after entry,
        writtenEntries (run scope limit) key value entries = before ++ entry :: after →
        (∀ later ∈ after, Value.alike entry.1 later.1 = false) →
        Value.find? entry.1 outputs = some entry.2) ∧
      collectMembers ((writtenEntries (run scope limit) key value entries).map Prod.fst) [] =
        .ok (outputs.map Prod.fst) ∧
      (Value.Distinct ((writtenEntries (run scope limit) key value entries).map Prod.fst) →
        outputs = writtenEntries (run scope limit) key value entries) := by
  have formed := settled_form_of_accepted accepts
  have keyed : ∃ label, (Container.keyed (run scope limit) label key value input).settled =
      .ok (.accept output) := by
    rcases isKeyed with isRecord | isMap
    · rw [isRecord] at formed
      exact ⟨_, formed⟩
    · rw [isMap] at formed
      exact ⟨_, formed⟩
  obtain ⟨label, settles⟩ := keyed
  obtain ⟨entries, mapping, each, hashable, rfl⟩ := putAll_of_settled_keyed settles
  refine ⟨entries, _, mapping, rfl, each, ?_, collectMembers_putAll hashable [], ?_⟩
  · intro before after entry together last
    rw [together]
    refine Value.find?_putAll (fun later isLater => ?_) last []
    have written : later ∈ writtenEntries (run scope limit) key value entries := by
      rw [together]
      simp [isLater]
    obtain ⟨given, isGiven, makes⟩ := List.mem_filterMap.mp written
    obtain ⟨keyOutput, ofKey, rest⟩ := Option.bind_eq_some_iff.mp makes
    obtain ⟨item, -, rfl⟩ := Option.map_eq_some_iff.mp rest
    exact isWellFormed_of_accepted isFormed (wellFormed.entries mapping given isGiven).1 ofKey
  · intro distinct
    exact Value.putAll_of_distinct distinct

def coercedText : Schema := .anonymous (.text { Schema.freeText with coerce := true })

def coercedKeys : Schema := .anonymous (.record coercedText (.anonymous .any))

/-- Two keys of which the first is written as the second. -/
def nullEntries : List (Value × Value) := [(.null, .integer 1), (.text "null", .integer 2)]

theorem isWellFormed_nullEntries : (Value.mapping nullEntries).IsWellFormed := by
  have distinct : Value.Distinct (nullEntries.map Prod.fst) :=
    List.pairwise_pair.mpr (Bool.eq_false_iff.mpr fun same => by
      cases (Value.alike_text_iff _ _).mp same)
  refine Value.isWellFormed_mapping distinct ?_
  simp only [nullEntries, List.forall_mem_cons]
  refine ⟨⟨?_, ?_⟩, ⟨?_, ?_⟩, by simp⟩ <;> exact Value.isWellFormed_of_no_parts rfl rfl rfl

theorem accepted_nullEntries :
    (run ⟨⟨[], none⟩, .synchronous⟩ 2).accepted coercedKeys (.mapping nullEntries) =
      some (.mapping [(.text "null", .integer 2)]) := by cbv

theorem accepted_coercedText :
    (run ⟨⟨[], none⟩, .synchronous⟩ 1).accepted coercedText .null = some (.text "null") := by cbv

/-- The second of two entries under keys that become one is found, and it is the only one. -/
theorem keyed_keeps_last_entries_null :
    ∃ outputs, Value.mapping [(.text "null", .integer 2)] = .mapping outputs ∧
      Value.find? (.text "null") outputs = some (.integer 2) ∧
      collectMembers [.text "null", .text "null"] [] = .ok (outputs.map Prod.fst) := by
  have written : writtenEntries (run ⟨⟨[], none⟩, .synchronous⟩ 1) coercedText (.anonymous .any)
      nullEntries = [(.text "null", .integer 1), (.text "null", .integer 2)] := by cbv
  have isFormed : coercedText.IsWellFormed ⟨[], none⟩ :=
    .of_leaf trivial rfl fun target isLazy => by cases isLazy
  obtain ⟨entries, outputs, mapping, equal, -, last, collected, -⟩ :=
    keyed_keeps_last_entries (.inl rfl) isFormed isWellFormed_nullEntries accepted_nullEntries
  cases mapping
  rw [written] at last collected
  exact ⟨outputs, equal, last [(.text "null", .integer 1)] [] (.text "null", .integer 2) rfl
    (by simp), collected⟩

/-- Where two keys become one, the first entry is lost. -/
theorem not_keyed_keeps_entries :
    ¬∀ (scope : ParseScope) (limit : Nat) (key value : Schema) (input output : Value),
      (run scope (limit + 1)).accepted (.anonymous (.record key value)) input = some output →
      ∃ entries outputs, input.entries? = some entries ∧ output = .mapping outputs ∧
        ∀ entry ∈ entries, ∀ keyOutput item,
          (run scope limit).accepted key entry.1 = some keyOutput →
          (run scope limit).accepted value entry.2 = some item → item.isUndefined = false →
          Value.find? keyOutput outputs = some item := by
  intro keeps
  obtain ⟨entries, outputs, mapping, equal, each⟩ := keeps ⟨⟨[], none⟩, .synchronous⟩ 1 coercedText
    (.anonymous .any) (.mapping nullEntries) _ accepted_nullEntries
  cases mapping
  cases equal
  have found := each (.null, .integer 1) (by simp [nullEntries]) (.text "null") (.integer 1)
    accepted_coercedText (by cbv) rfl
  simp [Value.find?, Value.alike_self] at found

end Validation
end TypedTables
