import Mathlib.Data.List.Nodup
import TypedTables.Proofs.Effect.Settling
import TypedTables.Table.Registry

/-!
# Runs of registry calls

A registry is driven by calls, and a call that fails leaves it as it was. What a registry holds
after a run is read off the history of its calls alone: a name is registered when the name has
been registered and not been removed since, its place among the names is that of the call that
registered it first since then, and its table is that of the last call that was not refused.
-/

namespace TypedTables

inductive RegistryCall where
  | register (table : TableSchema) (replacing : Bool)
  | unregister (name : String)
  | get (name : String)

namespace RegistryCall

def Registers (call : RegistryCall) (name : String) : Prop :=
  ∃ table replacing, call = .register table replacing ∧ table.name = name

@[simp] theorem registers_register (table : TableSchema) (replacing : Bool) (name : String) :
    (register table replacing).Registers name ↔ table.name = name := by
  simp [Registers]

@[simp] theorem not_registers_unregister (removed name : String) :
    ¬ (unregister removed).Registers name := by
  simp [Registers]

@[simp] theorem not_registers_get (sought name : String) : ¬ (get sought).Registers name := by
  simp [Registers]

end RegistryCall

namespace Registry

def perform (registry : Registry) : RegistryCall → Except Fault Registry
  | .register table replacing => (registry.register table replacing).outcome
  | .unregister name => registry.unregister name
  | .get name => (registry.get name).map fun _ => registry

def after (registry : Registry) (call : RegistryCall) : Registry :=
  match registry.perform call with
  | .ok changed => changed
  | .error _ => registry

def afterAll (registry : Registry) (calls : List RegistryCall) : Registry :=
  calls.foldl after registry

end Registry

/-! ## What a history says -/

section History

variable {history more : List RegistryCall} {call : RegistryCall} {name : String} {place : Nat}

/-- The name is free before the call at a place: whenever it was registered, it has been removed
since. -/
def FreeAt (history : List RegistryCall) (name : String) (place : Nat) : Prop :=
  ∀ earlier < place, ∀ call, history[earlier]? = some call → call.Registers name →
    ∃ between, earlier < between ∧ between < place ∧
      history[between]? = some (.unregister name)

/-- The name is not removed after the call at a place. -/
def KeptSince (history : List RegistryCall) (name : String) (place : Nat) : Prop :=
  ∀ later, place < later → history[later]? ≠ some (.unregister name)

/-- The call at a place is the first that registered the name since it was last removed. -/
structure BeginsAt (history : List RegistryCall) (name : String) (place : Nat) : Prop where
  registers : ∃ call, history[place]? = some call ∧ call.Registers name
  free : FreeAt history name place
  kept : KeptSince history name place

/-- The table is that of the last call that registered its name, or replaced what was registered,
and the name has not been removed since. -/
def LastRegistered (history : List RegistryCall) (name : String) (table : TableSchema) : Prop :=
  ∃ place replacing, history[place]? = some (.register table replacing) ∧ table.name = name ∧
    (replacing = true ∨ FreeAt history name place) ∧ KeptSince history name place ∧
    ∀ later, place < later → ∀ other, history[later]? = some (.register other true) →
      other.name ≠ name

theorem getElem?_eq_some_of_lt {called : RegistryCall} (before : place < history.length) :
    (history ++ more)[place]? = some called ↔ history[place]? = some called := by
  rw [List.getElem?_append_left before]

theorem lt_length_of_made {called : RegistryCall} (made : history[place]? = some called) :
    place < history.length :=
  (List.getElem?_eq_some_iff.mp made).1

theorem le_length_of_made_concat {called : RegistryCall}
    (made : (history ++ [call])[place]? = some called) : place ≤ history.length := by
  have within := lt_length_of_made made
  rw [List.length_append, List.length_singleton] at within
  omega

theorem made_concat_iff {called : RegistryCall} :
    (history ++ [call])[place]? = some called ↔
      history[place]? = some called ∨ place = history.length ∧ call = called := by
  rcases Nat.lt_trichotomy place history.length with before | last | beyond
  · rw [getElem?_eq_some_of_lt before]
    constructor
    · exact .inl
    · rintro (made | ⟨last, -⟩)
      · exact made
      · omega
  · rw [last, List.getElem?_concat_length, List.getElem?_eq_none (Nat.le_refl _)]
    simp
  · constructor
    · intro made
      have within := le_length_of_made_concat made
      omega
    · rintro (made | ⟨last, -⟩)
      · have within := lt_length_of_made made
        omega
      · omega

theorem freeAt_append_of_le (within : place ≤ history.length) :
    FreeAt (history ++ more) name place ↔ FreeAt history name place := by
  constructor
  · intro free earlier before called made registers
    obtain ⟨between, follows, inside, removed⟩ := free earlier before called
      ((getElem?_eq_some_of_lt (by omega)).mpr made) registers
    exact ⟨between, follows, inside, (getElem?_eq_some_of_lt (by omega)).mp removed⟩
  · intro free earlier before called made registers
    obtain ⟨between, follows, inside, removed⟩ := free earlier before called
      ((getElem?_eq_some_of_lt (by omega)).mp made) registers
    exact ⟨between, follows, inside, (getElem?_eq_some_of_lt (by omega)).mpr removed⟩

theorem freeAt_concat_end :
    FreeAt (history ++ [call]) name (history ++ [call]).length ↔
      call = .unregister name ∨
        ¬ call.Registers name ∧ FreeAt history name history.length := by
  rw [List.length_append, List.length_singleton]
  constructor
  · intro free
    by_cases removes : call = .unregister name
    · exact .inl removes
    · refine .inr ⟨fun registers => ?_, fun earlier before called made registers => ?_⟩
      · obtain ⟨between, follows, inside, -⟩ :=
          free history.length (by omega) call (made_concat_iff.mpr (.inr ⟨rfl, rfl⟩)) registers
        omega
      · obtain ⟨between, follows, inside, removed⟩ :=
          free earlier (by omega) called (made_concat_iff.mpr (.inl made)) registers
        rcases made_concat_iff.mp removed with removed | ⟨-, same⟩
        · exact ⟨between, follows, lt_length_of_made removed, removed⟩
        · exact absurd same removes
  · rintro (removes | ⟨other, free⟩) earlier before called made registers
    · rcases made_concat_iff.mp made with made | ⟨-, rfl⟩
      · exact ⟨history.length, lt_length_of_made made, by omega,
          made_concat_iff.mpr (.inr ⟨rfl, removes⟩)⟩
      · obtain ⟨table, replacing, asked, -⟩ := registers
        rw [removes] at asked
        cases asked
    · rcases made_concat_iff.mp made with made | ⟨-, rfl⟩
      · obtain ⟨between, follows, inside, removed⟩ :=
          free earlier (lt_length_of_made made) called made registers
        exact ⟨between, follows, by omega, made_concat_iff.mpr (.inl removed)⟩
      · exact absurd registers other

theorem keptSince_concat_of_lt (before : place < history.length) :
    KeptSince (history ++ [call]) name place ↔
      KeptSince history name place ∧ call ≠ .unregister name := by
  constructor
  · intro kept
    refine ⟨fun later follows removed => ?_, fun removes => ?_⟩
    · exact kept later follows (made_concat_iff.mpr (.inl removed))
    · exact kept history.length before (made_concat_iff.mpr (.inr ⟨rfl, removes⟩))
  · rintro ⟨kept, other⟩ later follows removed
    rcases made_concat_iff.mp removed with removed | ⟨-, removes⟩
    · exact kept later follows removed
    · exact other removes

theorem keptSince_concat_end : KeptSince (history ++ [call]) name history.length := by
  intro later follows removed
  have within := le_length_of_made_concat removed
  omega

theorem BeginsAt.lt_length (begins : BeginsAt history name place) : place < history.length := by
  obtain ⟨called, made, -⟩ := begins.registers
  exact lt_length_of_made made

/-- With one more call, a name begins where it began before, unless the call removes it, or it
begins with the call when the call registers it for the first time. -/
theorem beginsAt_concat_iff :
    BeginsAt (history ++ [call]) name place ↔
      BeginsAt history name place ∧ call ≠ .unregister name ∨
        place = history.length ∧ call.Registers name ∧ FreeAt history name history.length := by
  constructor
  · rintro ⟨⟨called, made, registers⟩, free, kept⟩
    rcases made_concat_iff.mp made with made | ⟨rfl, rfl⟩
    · have before := lt_length_of_made made
      have lasting := (keptSince_concat_of_lt before).mp kept
      have freed := (freeAt_append_of_le (Nat.le_of_lt before)).mp free
      exact .inl ⟨⟨⟨called, made, registers⟩, freed, lasting.1⟩, lasting.2⟩
    · exact .inr ⟨rfl, registers, (freeAt_append_of_le (Nat.le_refl _)).mp free⟩
  · rintro (⟨begins, other⟩ | ⟨rfl, registers, free⟩)
    · have before := begins.lt_length
      obtain ⟨called, made, registers⟩ := begins.registers
      exact ⟨⟨called, made_concat_iff.mpr (.inl made), registers⟩,
        (freeAt_append_of_le (Nat.le_of_lt before)).mpr begins.free,
        (keptSince_concat_of_lt before).mpr ⟨begins.kept, other⟩⟩
    · exact ⟨⟨call, made_concat_iff.mpr (.inr ⟨rfl, rfl⟩), registers⟩,
        (freeAt_append_of_le (Nat.le_refl _)).mpr free, keptSince_concat_end⟩

/-- With one more call, the last table of a name is the one of that call, when the call registers
or replaces it, or else the one of before, unless the call removes it. -/
theorem lastRegistered_concat_iff {table : TableSchema} :
    LastRegistered (history ++ [call]) name table ↔
      (LastRegistered history name table ∧ call ≠ .unregister name ∧
        ∀ other, call = .register other true → other.name ≠ name) ∨
      ∃ replacing, call = .register table replacing ∧ table.name = name ∧
        (replacing = true ∨ FreeAt history name history.length) := by
  constructor
  · rintro ⟨place, replacing, made, named, accepted, kept, last⟩
    rcases made_concat_iff.mp made with made | ⟨rfl, rfl⟩
    · have before := lt_length_of_made made
      have lasting := (keptSince_concat_of_lt before).mp kept
      have freed := accepted.imp_right (freeAt_append_of_le (Nat.le_of_lt before)).mp
      refine .inl ⟨⟨place, replacing, made, named, freed, lasting.1, ?_⟩, lasting.2, ?_⟩
      · exact fun later follows other replaced =>
          last later follows other (made_concat_iff.mpr (.inl replaced))
      · exact fun other replaces =>
          last history.length before other (made_concat_iff.mpr (.inr ⟨rfl, replaces⟩))
    · exact .inr ⟨replacing, rfl, named,
        accepted.imp_right (freeAt_append_of_le (Nat.le_refl _)).mp⟩
  · rintro (⟨⟨place, replacing, made, named, accepted, kept, last⟩, other, newest⟩ |
      ⟨replacing, rfl, named, accepted⟩)
    · have before := lt_length_of_made made
      refine ⟨place, replacing, made_concat_iff.mpr (.inl made), named,
        accepted.imp_right (freeAt_append_of_le (Nat.le_of_lt before)).mpr,
        (keptSince_concat_of_lt before).mpr ⟨kept, other⟩, fun later follows next replaced => ?_⟩
      rcases made_concat_iff.mp replaced with replaced | ⟨-, replaces⟩
      · exact last later follows next replaced
      · exact newest next replaces
    · refine ⟨history.length, replacing, made_concat_iff.mpr (.inr ⟨rfl, rfl⟩), named,
        accepted.imp_right (freeAt_append_of_le (Nat.le_refl _)).mpr, keptSince_concat_end,
        fun later follows next replaced => ?_⟩
      have within := le_length_of_made_concat replaced
      omega

end History

/-! ## What a call does -/

namespace Registry

variable {registry : Registry} {name : String}

theorem contains_iff : registry.contains name = true ↔ name ∈ registry.names := by
  rw [contains, List.contains_iff_mem]

theorem find?_name_eq_none_iff :
    registry.tables.find? (fun table => table.name == name) = none ↔ name ∉ registry.names := by
  simp [names, List.find?_eq_none]

theorem register_fails_iff (table : TableSchema) (replacing : Bool) (cause : Fault) :
    registry.perform (.register table replacing) = .error cause ↔
      cause = .duplicateTable table.name ∧ replacing = false ∧ table.name ∈ registry.names := by
  rw [perform, register, ← contains_iff]
  cases taken : registry.contains table.name <;> cases replacing <;>
    simp [Traced.emit, Traced.result, Traced.fault, eq_comm]

theorem unregister_fails_iff (cause : Fault) :
    registry.perform (.unregister name) = .error cause ↔
      cause = .tableNotFound name ∧ name ∉ registry.names := by
  rw [perform, unregister, ← contains_iff]
  cases registry.contains name <;> simp [eq_comm]

theorem get_fails_iff (cause : Fault) :
    registry.get name = .error cause ↔ cause = .tableNotFound name ∧ name ∉ registry.names := by
  rw [get, ← find?_name_eq_none_iff]
  cases registry.tables.find? fun table => table.name == name <;> simp [eq_comm]

theorem mem_names_of_get {table : TableSchema} (found : registry.get name = .ok table) :
    name ∈ registry.names := by
  by_contra absent
  rw [(get_fails_iff _).mpr ⟨rfl, absent⟩] at found
  cases found

theorem after_of_fails {call : RegistryCall} {cause : Fault}
    (fails : registry.perform call = .error cause) : registry.after call = registry := by
  rw [after, fails]

theorem after_register (table : TableSchema) (replacing : Bool) :
    registry.after (.register table replacing) =
      if replacing = false ∧ table.name ∈ registry.names then registry
      else ⟨put table registry.tables⟩ := by
  by_cases refused : replacing = false ∧ table.name ∈ registry.names
  · rw [if_pos refused]
    exact after_of_fails ((register_fails_iff table replacing _).mpr ⟨rfl, refused⟩)
  · have accepted : (registry.contains table.name && !replacing) = false := by
      rw [Bool.eq_false_iff, Ne, Bool.and_eq_true, contains_iff, Bool.not_eq_true']
      exact fun both => refused both.symm
    rw [if_neg refused, after, perform, register, accepted]
    rfl

theorem after_unregister :
    registry.after (.unregister name) =
      ⟨registry.tables.filter fun table => table.name != name⟩ := by
  by_cases present : name ∈ registry.names
  · rw [after, perform, unregister, if_pos (contains_iff.mpr present)]
  · have all : registry.tables.filter (fun table => table.name != name) = registry.tables := by
      rw [List.filter_eq_self]
      intro table member
      have other : table.name ≠ name := fun same =>
        present (List.mem_map.mpr ⟨table, member, same⟩)
      simpa using other
    rw [after_of_fails ((unregister_fails_iff _).mpr ⟨rfl, present⟩), all]

theorem after_get : registry.after (.get name) = registry := by
  rw [after, perform]
  cases registry.get name <;> rfl

theorem names_after_register (table : TableSchema) (replacing : Bool) :
    (registry.after (.register table replacing)).names =
      if table.name ∈ registry.names then registry.names
      else registry.names ++ [table.name] := by
  rw [after_register]
  by_cases refused : replacing = false ∧ table.name ∈ registry.names
  · rw [if_pos refused, if_pos refused.2]
  · rw [if_neg refused]
    exact map_name_put table registry.tables

theorem mem_names_after_register (table : TableSchema) (replacing : Bool) :
    name ∈ (registry.after (.register table replacing)).names ↔
      name ∈ registry.names ∨ name = table.name := by
  rw [names_after_register]
  by_cases present : table.name ∈ registry.names
  · rw [if_pos present]
    exact ⟨.inl, fun either => either.elim id fun same => same ▸ present⟩
  · simp [if_neg present]

theorem names_after_unregister :
    (registry.after (.unregister name)).names = registry.names.filter (· ≠ name) := by
  rw [after_unregister, names, names, List.filter_map]
  apply congrArg (List.map TableSchema.name)
  apply List.filter_congr
  intro table _
  by_cases same : table.name = name <;> simp [same]

theorem get_after_register (table : TableSchema) (replacing : Bool) :
    (registry.after (.register table replacing)).get name =
      if table.name = name ∧ (replacing = true ∨ name ∉ registry.names) then .ok table
      else registry.get name := by
  rw [after_register]
  by_cases same : table.name = name
  · subst same
    by_cases refused : replacing = false ∧ table.name ∈ registry.names
    · have kept : ¬ (replacing = true ∨ table.name ∉ registry.names) := by
        rw [refused.1]
        simpa using refused.2
      rw [if_pos refused, if_neg fun both => kept both.2]
    · have accepted : replacing = true ∨ table.name ∉ registry.names := by
        cases replacing
        · exact .inr fun present => refused ⟨rfl, present⟩
        · exact .inl rfl
      rw [if_neg refused, if_pos ⟨rfl, accepted⟩, get, find_put_self]
  · have other : ¬ (table.name = name ∧ (replacing = true ∨ name ∉ registry.names)) :=
      fun both => same both.1
    rw [if_neg other]
    by_cases refused : replacing = false ∧ table.name ∈ registry.names
    · rw [if_pos refused]
    · rw [if_neg refused, get, get, find_put_of_ne same]

theorem get_after_unregister (removed : String) :
    (registry.after (.unregister removed)).get name =
      if name = removed then .error (.tableNotFound name) else registry.get name := by
  rw [after_unregister]
  by_cases same : name = removed
  · subst same
    rw [if_pos rfl]
    refine (get_fails_iff _).mpr ⟨rfl, fun present => ?_⟩
    obtain ⟨table, member, named⟩ := List.mem_map.mp present
    simp [named] at member
  · rw [if_neg same, get, get, List.find?_filter]
    have agree : (fun table : TableSchema =>
        decide ((table.name != removed) = true ∧ (table.name == name) = true)) =
          fun table => table.name == name := by
      funext table
      by_cases named : table.name = name <;> simp [named, same]
    rw [agree]

theorem nodup_names_after (unique : registry.names.Nodup) (call : RegistryCall) :
    (registry.after call).names.Nodup := by
  cases call with
  | register table replacing =>
      rw [names_after_register]
      by_cases present : table.name ∈ registry.names
      · rw [if_pos present]
        exact unique
      · rw [if_neg present, ← List.concat_eq_append]
        exact unique.concat present
  | unregister name =>
      rw [names_after_unregister]
      exact unique.filter _
  | get name =>
      rw [after_get]
      exact unique

theorem get_name_of_mem (unique : registry.names.Nodup) {table : TableSchema}
    (member : table ∈ registry.tables) : registry.get table.name = .ok table := by
  rcases registry with ⟨tables⟩
  rw [names] at unique
  rw [get]
  induction tables with
  | nil => cases member
  | cons first rest ih =>
      rw [List.map_cons, List.nodup_cons] at unique
      rcases List.mem_cons.mp member with rfl | later
      · simp
      · have other : first.name ≠ table.name := fun same =>
          unique.1 (same ▸ List.mem_map_of_mem later)
        simpa [other] using ih unique.2 later

end Registry

/-! ## What a registry holds -/

/-- The registry holds what a history of calls says: names once, in the order in which they begin
in the history, each with the table that was last registered under it, which has that name. -/
structure Reflects (history : List RegistryCall) (registry : Registry) : Prop where
  unique : registry.names.Nodup
  absent_iff (name : String) : name ∉ registry.names ↔ FreeAt history name history.length
  present_iff (name : String) : name ∈ registry.names ↔ ∃ place, BeginsAt history name place
  ordered : registry.names.Pairwise fun first second => ∀ place later,
    BeginsAt history first place → BeginsAt history second later → place < later
  stored : ∀ table ∈ registry.tables, registry.get table.name = .ok table
  get_iff (name : String) (table : TableSchema) :
    registry.get name = .ok table ↔ LastRegistered history name table

namespace Reflects

variable {history : List RegistryCall} {registry : Registry}

theorem empty_registry : Reflects [] Registry.empty where
  unique := .nil
  absent_iff name := by simp [Registry.names, Registry.empty, FreeAt]
  present_iff name := by
    constructor
    · intro present
      cases present
    · rintro ⟨place, begins⟩
      exact absurd begins.lt_length (Nat.not_lt_zero place)
  ordered := .nil
  stored := by
    intro table member
    cases member
  get_iff name table := by
    constructor
    · intro found
      cases found
    · rintro ⟨place, replacing, made, -⟩
      exact absurd (lt_length_of_made made) (Nat.not_lt_zero place)

theorem beginsAt_of_concat (reflects : Reflects history registry) {call : RegistryCall}
    {name : String} {place : Nat} (present : name ∈ registry.names)
    (begins : BeginsAt (history ++ [call]) name place) : BeginsAt history name place := by
  rcases beginsAt_concat_iff.mp begins with ⟨before, -⟩ | ⟨-, -, free⟩
  · exact before
  · exact absurd present ((reflects.absent_iff name).mpr free)

theorem ordered_of_concat (reflects : Reflects history registry) (call : RegistryCall) :
    registry.names.Pairwise fun first second => ∀ place later,
      BeginsAt (history ++ [call]) first place → BeginsAt (history ++ [call]) second later →
        place < later := by
  refine reflects.ordered.imp_of_mem fun {first second} member other before place later => ?_
  intro begins follows
  exact before place later (reflects.beginsAt_of_concat member begins)
    (reflects.beginsAt_of_concat other follows)

theorem register (reflects : Reflects history registry) (table : TableSchema) (replacing : Bool) :
    Reflects (history ++ [.register table replacing])
      (registry.after (.register table replacing)) where
  unique := registry.nodup_names_after reflects.unique _
  absent_iff name := by
    rw [freeAt_concat_end, Registry.mem_names_after_register, not_or, reflects.absent_iff]
    simp [and_comm, eq_comm]
  present_iff name := by
    rw [Registry.mem_names_after_register]
    constructor
    · intro asked
      by_cases present : name ∈ registry.names
      · obtain ⟨place, begins⟩ := (reflects.present_iff name).mp present
        exact ⟨place, beginsAt_concat_iff.mpr (.inl ⟨begins, by simp⟩)⟩
      · have named : table.name = name := (asked.resolve_left present).symm
        exact ⟨history.length, beginsAt_concat_iff.mpr
          (.inr ⟨rfl, by simpa using named, (reflects.absent_iff name).mp present⟩)⟩
    · rintro ⟨place, begins⟩
      rcases beginsAt_concat_iff.mp begins with ⟨before, -⟩ | ⟨-, registers, -⟩
      · exact .inl ((reflects.present_iff name).mpr ⟨place, before⟩)
      · exact .inr (((RegistryCall.registers_register _ _ _).mp registers).symm)
  ordered := by
    rw [Registry.names_after_register]
    have kept := reflects.ordered_of_concat (.register table replacing)
    by_cases present : table.name ∈ registry.names
    · rw [if_pos present]
      exact kept
    · -- A new name begins with this call, and all others have begun before it.
      rw [if_neg present, List.pairwise_append]
      refine ⟨kept, List.pairwise_singleton _ _, fun first member second single place later => ?_⟩
      rw [List.mem_singleton] at single
      intro begins follows
      have before := (reflects.beginsAt_of_concat member begins).lt_length
      rcases beginsAt_concat_iff.mp follows with ⟨already, -⟩ | ⟨last, -, -⟩
      · exact absurd ((reflects.present_iff second).mpr ⟨later, already⟩) (single ▸ present)
      · omega
  stored _ := Registry.get_name_of_mem (registry.nodup_names_after reflects.unique _)
  get_iff name found := by
    rw [Registry.get_after_register, lastRegistered_concat_iff, ← reflects.get_iff,
      ← reflects.absent_iff]
    -- A call that is accepted puts its own table before all that was registered; one that is
    -- refused, or is about another name, leaves what was there.
    by_cases accepted : table.name = name ∧ (replacing = true ∨ name ∉ registry.names)
    · rw [if_pos accepted]
      constructor
      · intro same
        cases same
        exact .inr ⟨replacing, rfl, accepted⟩
      · rintro (⟨before, -, newest⟩ | ⟨again, same, -⟩)
        · rcases accepted.2 with rfl | absent
          · exact absurd accepted.1 (newest table rfl)
          · exact absurd (Registry.mem_names_of_get before) absent
        · cases same
          rfl
    · rw [if_neg accepted]
      constructor
      · intro before
        refine .inl ⟨before, by simp, fun other same named => accepted ?_⟩
        cases same
        exact ⟨named, .inl rfl⟩
      · rintro (⟨before, -, -⟩ | ⟨again, same, named, free⟩)
        · exact before
        · cases same
          exact absurd ⟨named, free⟩ accepted

theorem unregister (reflects : Reflects history registry) (removed : String) :
    Reflects (history ++ [.unregister removed]) (registry.after (.unregister removed)) where
  unique := registry.nodup_names_after reflects.unique _
  absent_iff name := by
    rw [freeAt_concat_end, Registry.names_after_unregister, ← reflects.absent_iff]
    by_cases same : name = removed
    · simp [same]
    · simp [same, Ne.symm same]
  present_iff name := by
    rw [Registry.names_after_unregister]
    simp only [beginsAt_concat_iff]
    rw [List.mem_filter, reflects.present_iff]
    constructor
    · rintro ⟨⟨place, begins⟩, other⟩
      exact ⟨place, .inl ⟨begins, by simpa using Ne.symm (of_decide_eq_true other)⟩⟩
    · rintro ⟨place, ⟨begins, other⟩ | ⟨-, registers, -⟩⟩
      · have different : removed ≠ name := by simpa using other
        exact ⟨⟨place, begins⟩, decide_eq_true different.symm⟩
      · exact absurd registers (RegistryCall.not_registers_unregister removed name)
  ordered := by
    rw [Registry.names_after_unregister]
    exact (reflects.ordered_of_concat _).filter _
  stored _ := Registry.get_name_of_mem (registry.nodup_names_after reflects.unique _)
  get_iff name found := by
    rw [Registry.get_after_unregister, lastRegistered_concat_iff, ← reflects.get_iff]
    by_cases same : name = removed
    · simp [same]
    · simp [same, Ne.symm same]

theorem get (reflects : Reflects history registry) (sought : String) :
    Reflects (history ++ [.get sought]) (registry.after (.get sought)) where
  unique := registry.nodup_names_after reflects.unique _
  absent_iff name := by
    rw [freeAt_concat_end, Registry.after_get, ← reflects.absent_iff]
    simp
  present_iff name := by
    simp [beginsAt_concat_iff, Registry.after_get, reflects.present_iff]
  ordered := by
    rw [Registry.after_get]
    exact reflects.ordered_of_concat _
  stored _ := Registry.get_name_of_mem (registry.nodup_names_after reflects.unique _)
  get_iff name found := by
    rw [Registry.after_get, lastRegistered_concat_iff, ← reflects.get_iff]
    simp

theorem step (reflects : Reflects history registry) (call : RegistryCall) :
    Reflects (history ++ [call]) (registry.after call) := by
  cases call with
  | register table replacing => exact reflects.register table replacing
  | unregister name => exact reflects.unregister name
  | get name => exact reflects.get name

theorem run (reflects : Reflects history registry) (calls : List RegistryCall) :
    Reflects (history ++ calls) (registry.afterAll calls) := by
  induction calls generalizing history registry with
  | nil =>
      rw [List.append_nil]
      exact reflects
  | cons call rest ih =>
      have later := ih (reflects.step call)
      rw [List.append_assoc] at later
      exact later

end Reflects

/-- What calls are refused: registering a name that is taken without replacing it, and removing or
looking up a name that is not there; a refused call changes nothing. -/
structure Answers (registry : Registry) : Prop where
  register_fails_iff (table : TableSchema) (replacing : Bool) (cause : Fault) :
    registry.perform (.register table replacing) = .error cause ↔
      cause = .duplicateTable table.name ∧ replacing = false ∧ table.name ∈ registry.names
  unregister_fails_iff (name : String) (cause : Fault) :
    registry.perform (.unregister name) = .error cause ↔
      cause = .tableNotFound name ∧ name ∉ registry.names
  get_fails_iff (name : String) (cause : Fault) :
    registry.get name = .error cause ↔ cause = .tableNotFound name ∧ name ∉ registry.names
  unchanged (call : RegistryCall) (cause : Fault) (fails : registry.perform call = .error cause) :
    registry.after call = registry

theorem Registry.answers (registry : Registry) : Answers registry where
  register_fails_iff := registry.register_fails_iff
  unregister_fails_iff _ := registry.unregister_fails_iff
  get_fails_iff _ := registry.get_fails_iff
  unchanged _ _ := after_of_fails

namespace Registry

theorem put_of_not_mem {table : TableSchema} {tables : List TableSchema}
    (absent : table.name ∉ tables.map TableSchema.name) : put table tables = tables ++ [table] := by
  induction tables with
  | nil => rfl
  | cons present rest ih =>
      rw [List.map_cons, List.mem_cons, not_or] at absent
      rw [put, if_neg (Ne.symm absent.1), ih absent.2, List.cons_append]

theorem registerAll_of_nodup (registry : Registry) (tables : List TableSchema)
    (distinct : ((registry.tables ++ tables).map TableSchema.name).Nodup) :
    (registry.registerAll tables).outcome = .ok ⟨registry.tables ++ tables⟩ ∧
      registry.afterAll (tables.map (.register · false)) = ⟨registry.tables ++ tables⟩ := by
  induction tables generalizing registry with
  | nil => simp [registerAll, Traced.result, afterAll]
  | cons table rest ih =>
      have absent : table.name ∉ registry.names := by
        rw [List.map_append, List.nodup_append] at distinct
        exact fun present => distinct.2.2 _ present _ (by simp) rfl
      have registered : (registry.register table false).outcome =
          .ok ⟨registry.tables ++ [table]⟩ := by
        rw [register, ← put_of_not_mem absent, Bool.eq_false_iff.mpr fun taken =>
          absent (contains_iff.mp taken)]
        rfl
      obtain ⟨made, same⟩ := ih ⟨registry.tables ++ [table]⟩ (by simpa using distinct)
      rw [List.append_assoc, List.singleton_append] at made same
      refine ⟨?_, ?_⟩
      · rw [registerAll, Traced.outcome_andThen, registered]
        exact made
      · rw [List.map_cons, afterAll, List.foldl_cons, after, perform, registered]
        exact same

/-- A registry behaves as an ordered map over any run. It starts with tables of distinct names in
their order. After any calls, refused ones included, its names are unique and in the order in which
they were registered first since they were last removed, and each has the table that was last
registered under it. Calls are refused just for names that are taken, or not there, and then leave
everything as it was. -/
theorem keeps_to_its_history (initial : List TableSchema)
    (distinct : (initial.map TableSchema.name).Nodup) :
    ∃ start, (ofTables initial).outcome = .ok start ∧ start.tables = initial ∧
      ∀ calls, Reflects (initial.map (.register · false) ++ calls) (start.afterAll calls) ∧
        Answers (start.afterAll calls) := by
  obtain ⟨made, same⟩ := registerAll_of_nodup empty initial distinct
  refine ⟨⟨initial⟩, made, rfl, fun calls => ⟨?_, answers _⟩⟩
  have begun := Reflects.empty_registry.run (initial.map (.register · false))
  rw [same] at begun
  exact begun.run calls

def plainTable (name : String) (description : Value) : TableSchema :=
  ⟨none, [], description, Table.named name .normal⟩

/-- A name that is taken, a name that is removed and comes back, and a table that is replaced. -/
def mixedCalls : List RegistryCall :=
  [.register (plainTable "user" .null) false, .unregister "user", .get "user",
    .register (plainTable "post" (.text "new")) true, .register (plainTable "user" .null) false]

theorem keeps_to_its_history_mixed :
    ([plainTable "user" .null, plainTable "post" .null].map TableSchema.name).Nodup ∧
    ∃ start, (ofTables [plainTable "user" .null, plainTable "post" .null]).outcome = .ok start ∧
      (start.afterAll mixedCalls).names = ["post", "user"] ∧
      LastRegistered
        ([plainTable "user" .null, plainTable "post" .null].map (.register · false) ++ mixedCalls)
        "post" (plainTable "post" (.text "new")) := by
  have distinct : ([plainTable "user" .null, plainTable "post" .null].map TableSchema.name).Nodup :=
    by decide
  obtain ⟨⟨tables⟩, made, rfl, runs⟩ := keeps_to_its_history _ distinct
  obtain ⟨reflects, -⟩ := runs mixedCalls
  exact ⟨distinct, _, made, by rfl, (reflects.get_iff "post" _).mp (by rfl)⟩

end Registry

end TypedTables
