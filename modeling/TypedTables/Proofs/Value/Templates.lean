import TypedTables.Proofs.Value.Refusals
import TypedTables.Value.Template

/-!
# Filling templates

Every conversion takes some of the characters of a template, so that filling it takes no more steps
than it has characters. It ends in a text or in a fault of a conversion, and is never cut off.
-/

namespace TypedTables

theorem Value.inTime_plain (value : Value) : InTime value.plain := by
  cases value with
  | record table identifier =>
      exact (Written.endsIn_recordText table (Written.endsIn_write .literal identifier)).mono
        (fun _ refuses same => by simp [same, Fault.IsRefusal] at refuses) fun _ _ => trivial
  | _ => trivial

namespace Template

theorem length_takeFlags (characters : List Char) (flags : Flags) :
    (takeFlags characters flags).2.length ≤ characters.length := by
  fun_induction takeFlags characters flags <;> simp_all <;> omega

theorem length_takeCount {characters rest : List Char} {arguments others : List Value}
    {count : Option Int} (takes : takeCount characters arguments = .ok (count, rest, others)) :
    rest.length ≤ characters.length := by
  unfold takeCount at takes
  split at takes
  · split at takes <;> cases takes
    exact Nat.le_succ _
  · dsimp only at takes
    split at takes <;> cases takes
    · exact Nat.le_refl _
    · exact (List.dropWhile_sublist _).length_le

theorem length_takeKey {characters key rest : List Char}
    (takes : takeKey? characters = some (key, rest)) : rest.length ≤ characters.length := by
  unfold takeKey? at takes
  split at takes
  · rename_i inner
    split at takes
    · rename_i mark after found
      cases takes
      have shorter := (List.dropWhile_sublist (l := inner) (· != ')')).length_le
      rw [found] at shorter
      simp only [List.length_cons] at shorter ⊢
      omega
    · cases takes
  · cases takes

theorem length_takeKeyed {characters rest : List Char} {arguments : Arguments}
    {keyed : Option Value} (takes : takeKeyed characters arguments = .ok (keyed, rest)) :
    rest.length ≤ characters.length := by
  unfold takeKeyed at takes
  split at takes
  · split at takes
    · rename_i found _
      split at takes <;> cases takes
      exact length_takeKey found
    · cases takes
    · cases takes
  · cases takes
    exact Nat.le_refl _

theorem length_dropModifier (characters : List Char) :
    (dropModifier characters).length ≤ characters.length := by
  unfold dropModifier
  split <;> simp

theorem length_takePrecision {characters rest : List Char} {arguments others : List Value}
    {precision : Option Nat}
    (takes : takePrecision characters arguments = .ok (precision, rest, others)) :
    rest.length ≤ characters.length := by
  unfold takePrecision at takes
  split at takes
  · obtain ⟨⟨count, after, remaining⟩, counted, same⟩ := (except_map_eq_ok_iff _ _ _).mp takes
    cases same
    exact Nat.le_succ_of_le (length_takeCount counted)
  · cases takes
    exact Nat.le_refl _

theorem length_takeLayout {characters rest : List Char} {arguments others : List Value}
    {layout : Layout} (takes : takeLayout characters arguments = .ok (layout, rest, others)) :
    rest.length ≤ characters.length := by
  obtain ⟨⟨width, afterWidth, remaining⟩, counted, further⟩ := (except_bind_eq_ok_iff _ _ _).mp takes
  obtain ⟨⟨precision, afterPrecision, last⟩, precise, same⟩ :=
    (except_map_eq_ok_iff _ _ _).mp further
  cases same
  calc
    (dropModifier afterPrecision).length ≤ afterPrecision.length := length_dropModifier _
    _ ≤ afterWidth.length := length_takePrecision precise
    _ ≤ (takeFlags characters noFlags).2.length := length_takeCount counted
    _ ≤ characters.length := length_takeFlags _ _

theorem inTime_takeCount (characters : List Char) (arguments : List Value) :
    InTime (takeCount characters arguments) := by
  unfold takeCount
  split
  · split <;> simp
  · dsimp only
    split <;> simp

theorem inTime_takeKeyed (characters : List Char) (arguments : Arguments) :
    InTime (takeKeyed characters arguments) := by
  unfold takeKeyed
  split
  · split
    · split <;> simp
    · simp
    · simp
  · simp

theorem inTime_takeLayout (characters : List Char) (arguments : List Value) :
    InTime (takeLayout characters arguments) := by
  refine (inTime_takeCount _ _).bind fun ⟨width, afterWidth, others⟩ _ => InTime.map _ ?_
  unfold takePrecision
  split
  · exact (inTime_takeCount _ _).map _
  · simp

theorem inTime_takeArgument (keyed : Option Value) (arguments : Arguments)
    (available : List Value) : InTime (takeArgument keyed arguments available) := by
  unfold takeArgument
  split
  · simp
  · simp
  · split <;> simp

theorem inTime_pointText (layout : Layout) (letter : Char) (value : Value) :
    InTime (pointText layout letter value) := by
  unfold pointText
  split
  · simp
  · simp
  · split <;> simp

theorem inTime_convert (layout : Layout) (letter : Char) (value : Value) (index : Nat) :
    InTime (convert layout letter value index) := by
  unfold convert
  dsimp only
  split
  case h_1 => exact value.inTime_plain.map _
  case h_11 | h_12 | h_13 | h_14 | h_15 | h_16 => exact (inTime_pointText _ _ _).map _
  case h_10 =>
    split
    · split <;> simp
    · split <;> simp
    · simp
  case h_2 | h_3 | h_17 => simp
  all_goals split <;> simp

/-- A template is filled in as many steps as it has characters: each step takes some of them. -/
theorem inTime_fill {fuel : Nat} {characters : List Char} (enough : characters.length < fuel)
    (index : Nat) (arguments : Arguments) : InTime (fill fuel characters index arguments) := by
  induction fuel generalizing characters index arguments with
  | zero => omega
  | succ fuel ih =>
      cases characters with
      | nil => simp [fill]
      | cons character rest =>
          simp only [List.length_cons] at enough
          by_cases mark : character = '%'
          · rw [mark, fill]
            refine (inTime_takeKeyed _ _).bind fun ⟨keyed, afterKey⟩ found => ?_
            refine (inTime_takeLayout _ _).bind fun ⟨layout, afterLayout, available⟩ described => ?_
            have keyTaken := length_takeKeyed found
            have layoutTaken := length_takeLayout described
            cases afterLayout with
            | nil => simp
            | cons letter tail =>
                simp only [List.length_cons] at layoutTaken
                have shorter : tail.length < fuel := by omega
                dsimp only
                split
                · exact (ih shorter _ _).map _
                · refine (inTime_takeArgument _ _ _).bind fun ⟨value, remaining⟩ _ => ?_
                  exact (inTime_convert _ _ _ _).bind fun written _ => (ih shorter _ _).map _
          · rw [fill]
            · exact (ih (by omega) _ _).map _
            · exact mark

theorem inTime_format (template : String) (arguments : Arguments) :
    InTime (format template arguments) := by
  unfold format
  refine (inTime_fill (Nat.lt_succ_self _) _ _).bind fun ⟨filled, left⟩ _ => ?_
  dsimp only
  split <;> simp [pure, Except.pure]

end Template
end TypedTables
