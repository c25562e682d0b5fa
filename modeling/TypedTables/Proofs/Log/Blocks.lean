import TypedTables.Proofs.Effect.Settling
import TypedTables.Statement.Generation

/-!
# Blocks of work

Blocks of work are opened one inside the other and one after the other, and each ends when its work
does, be it in a result or in a fault. So whatever is done in blocks, the open blocks afterwards are
those of before; and the context that work finds is told by the blocks around it alone: each part
by the innermost of them that names it, the further entries by all of them together.
-/

namespace TypedTables

namespace Traced

variable {α β : Type}

/-- Wherever the computation runs, the open blocks after it are those before it. -/
def KeepsContexts (computation : Traced α) : Prop :=
  ∀ stack, Log.followAll stack computation.events = stack

/-- Goes on with a handler where a computation ends in a fault. -/
def rescue (computation : Traced α) (handler : Fault → Traced α) : Traced α :=
  match computation.outcome with
  | .ok value => ⟨computation.events, .ok value⟩
  | .error cause =>
      ⟨computation.events ++ (handler cause).events, (handler cause).outcome⟩

theorem events_andThen_of_ok {first : Traced α} {value : α} (succeeds : first.outcome = .ok value)
    (next : α → Traced β) : (first.andThen next).events = first.events ++ (next value).events := by
  rw [andThen, succeeds]

theorem events_andThen_of_error {first : Traced α} {cause : Fault}
    (fails : first.outcome = .error cause) (next : α → Traced β) :
    (first.andThen next).events = first.events := by
  rw [andThen, fails]

theorem events_rescue_of_ok {computation : Traced α} {value : α}
    (succeeds : computation.outcome = .ok value) (handler : Fault → Traced α) :
    (computation.rescue handler).events = computation.events := by
  rw [rescue, succeeds]

theorem events_rescue_of_error {computation : Traced α} {cause : Fault}
    (fails : computation.outcome = .error cause) (handler : Fault → Traced α) :
    (computation.rescue handler).events = computation.events ++ (handler cause).events := by
  rw [rescue, fails]

namespace KeepsContexts

theorem silent {computation : Traced α} (events : computation.events = []) :
    computation.KeepsContexts := by
  intro stack
  rw [events, Log.followAll_nil]

theorem notify (notice : Notice) : (Traced.notify notice).KeepsContexts := fun _ => rfl

theorem andThen {first : Traced α} {next : α → Traced β} (keeps : first.KeepsContexts)
    (further : ∀ value, (next value).KeepsContexts) : (first.andThen next).KeepsContexts := by
  intro stack
  cases ends : first.outcome with
  | error cause => rw [events_andThen_of_error ends, keeps]
  | ok value => rw [events_andThen_of_ok ends, Log.followAll_append, keeps, further]

theorem rescue {computation : Traced α} {handler : Fault → Traced α}
    (keeps : computation.KeepsContexts) (handles : ∀ cause, (handler cause).KeepsContexts) :
    (computation.rescue handler).KeepsContexts := by
  intro stack
  cases ends : computation.outcome with
  | error cause => rw [events_rescue_of_error ends, Log.followAll_append, keeps, handles]
  | ok value => rw [events_rescue_of_ok ends, keeps]

theorem inBlock {work : Traced α} (keeps : work.KeepsContexts) (change : ContextChange) :
    (Traced.inBlock change work).KeepsContexts :=
  fun stack => followAll_inBlock change work stack (keeps _)

theorem forEach {items : List α} {action : α → Traced β}
    (each : ∀ item, (action item).KeepsContexts) :
    (Traced.forEach items action).KeepsContexts := by
  induction items with
  | nil => exact silent rfl
  | cons item rest ih =>
      exact (each item).andThen fun first => ih.andThen fun others => silent rfl

end KeepsContexts
end Traced

namespace Generator

open Traced (KeepsContexts)

variable (generator : Generator)

theorem keepsContexts_lowered (schema : Schema) (scope : LoweringScope)
    (ancestors : List Ancestor) : (schema.lowered scope ancestors).KeepsContexts := by
  intro stack
  have notices : (schema.lowered scope ancestors).events =
      (Lowering.enter scope schema (.ofField ancestors)).2.notices.map .noticed := rfl
  rw [notices]
  induction (Lowering.enter scope schema (.ofField ancestors)).2.notices with
  | nil => rfl
  | cons notice rest ih => exact ih

theorem keepsContexts_fieldDefinitions (table : String) (choices : DefineChoices) (levels : Nat)
    (path : List String) (schema : Schema) (ancestors : List Ancestor) :
    (generator.fieldDefinitions table choices levels path schema ancestors).KeepsContexts := by
  induction levels generalizing path schema ancestors with
  | zero => exact .silent rfl
  | succ levels ih =>
      refine .andThen (.inBlock (keepsContexts_lowered _ _ _) _) fun lowered => ?_
      refine .andThen (.silent rfl) fun text => ?_
      refine .andThen (.notify _) fun noticed => ?_
      exact .andThen (.forEach fun child => ih _ _ _) fun below => .silent rfl

theorem keepsContexts_tableFields (table : Table Schema) (choices : DefineChoices) :
    (generator.tableFields table choices).KeepsContexts := by
  refine .andThen (.forEach fun field => ?_) fun trees => .silent rfl
  exact generator.keepsContexts_fieldDefinitions _ _ _ _ _ _

theorem keepsContexts_tableStatements (table : Table Schema) (choices : DefineChoices) :
    (generator.tableStatements table choices).KeepsContexts := by
  refine .inBlock (.andThen (.silent rfl) fun head => ?_) _
  have afterwards (fields : List FieldDefinition) :
      ((written (fields.map .defineField)).andThen fun statements =>
        (Traced.notify (.tableStatements (head ++ statements).length table.name)).andThen fun _ =>
          Traced.result (head ++ statements)).KeepsContexts :=
    .andThen (.silent rfl) fun statements => .andThen (.notify _) fun noticed => .silent rfl
  cases choices.fields with
  | false => exact afterwards []
  | true => exact .andThen (generator.keepsContexts_tableFields table choices) afterwards

theorem keepsContexts_defineTable (table : Table Schema) (options : Option DefineOptions)
    (overrides : GivenOptions) :
    (generator.defineTable table options overrides).KeepsContexts :=
  .andThen (.silent rfl) fun choices => generator.keepsContexts_tableStatements table choices

theorem keepsContexts_defineFields (table : Table Schema) (options : Option DefineOptions)
    (overrides : GivenOptions) :
    (generator.defineFields table options overrides).KeepsContexts := by
  refine .andThen (.silent rfl) fun choices => ?_
  exact .andThen (generator.keepsContexts_tableFields table choices) fun fields => .silent rfl

theorem keepsContexts_defineAll (tables : Option (List (Table Schema)))
    (options : Option DefineOptions) (overrides : GivenOptions) :
    (generator.defineAll tables options overrides).KeepsContexts := by
  refine .andThen (.forEach fun table => ?_) fun each => ?_
  · exact generator.keepsContexts_defineTable table options (askingForFields overrides)
  · exact .andThen (.notify _) fun noticed => .silent rfl

end Generator

/-- The parts of a context that are handed down one by one. -/
inductive ContextPart where
  | table
  | field
  | statement
  | component
  | operation
  deriving DecidableEq, Repr

/-- What a block passes for a part, if it names it. -/
def ContextChange.given (change : ContextChange) : ContextPart → Option Datum
  | .table => change.table
  | .field => change.field
  | .statement => change.statement
  | .component => change.component
  | .operation => change.operation

def LogContext.value (context : LogContext) : ContextPart → Datum
  | .table => context.table
  | .field => context.field
  | .statement => context.statement
  | .component => context.component
  | .operation => context.operation

/-- The context is that of blocks, given from the outermost on, in an outer context. Each part is
the one that the innermost block that names it passes, or else the outer one; the further entries
are those of all blocks, merged in their order into the outer ones, so that of several entries of
one name the last is found. -/
structure LogContext.IsInside (context outer : LogContext) (blocks : List ContextChange) :
    Prop where
  value (part : ContextPart) : context.value part =
    (blocks.reverse.findSome? fun change => change.given part).getD (outer.value part)
  extra : context.extra = Datum.putAll outer.extra (blocks.flatMap ContextChange.extra)
  find_extra (name : List Point) : Datum.find? (.text name) context.extra =
    (Datum.find? (.text name) (blocks.flatMap ContextChange.extra).reverse).or
      (Datum.find? (.text name) outer.extra)

namespace Datum

theorem find?_append (key : Datum) (entries others : List (Datum × Datum)) :
    find? key (entries ++ others) = (find? key entries).or (find? key others) := by
  rw [find?, List.find?_append, Option.map_or]
  rfl

theorem find?_cons (key : Datum) (entry : Datum × Datum) (rest : List (Datum × Datum)) :
    find? key (entry :: rest) = if alike key entry.1 then some entry.2 else find? key rest := by
  cases found : alike key entry.1 <;> simp [find?, found]

theorem find?_text_put (name : List Point) (key item : Datum) (entries : List (Datum × Datum)) :
    find? (.text name) (put key item entries) =
      if alike (.text name) key then some item else find? (.text name) entries := by
  induction entries with
  | nil => rw [put, find?_cons]
  | cons entry rest ih =>
      have sameKey (equal : entry.1 = .text name) :
          alike key entry.1 = true ↔ alike (.text name) key = true := by
        rw [equal, alike_to_text_iff, alike_text_iff]
      rw [put, find?_cons]
      cases replaced : alike key entry.1 with
      | true =>
          rw [if_pos rfl, find?_cons]
          cases found : alike (.text name) entry.1 with
          | true => simp [(sameKey ((alike_text_iff _ _).mp found)).mp replaced]
          | false =>
              have other : alike (.text name) key = false := by
                rw [Bool.eq_false_iff, Ne, alike_text_iff]
                rintro rfl
                exact absurd replaced (by simp [found])
              simp [other]
      | false =>
          rw [if_neg Bool.false_ne_true, find?_cons, ih]
          cases found : alike (.text name) entry.1 with
          | true =>
              have other : alike (.text name) key = false := by
                rw [Bool.eq_false_iff, Ne, ← sameKey ((alike_text_iff _ _).mp found), replaced]
                exact Bool.false_ne_true
              simp [other]
          | false => simp

/-- Of several entries of one name the last is found. -/
theorem find?_text_putAll (name : List Point) (entries added : List (Datum × Datum)) :
    find? (.text name) (putAll entries added) =
      (find? (.text name) added.reverse).or (find? (.text name) entries) := by
  induction added generalizing entries with
  | nil => rfl
  | cons entry rest ih =>
      change find? (.text name) (putAll (put entry.1 entry.2 entries) rest) = _
      rw [ih, List.reverse_cons, find?_append, find?_text_put, find?_cons, Option.or_assoc]
      cases alike (.text name) entry.1 <;> rfl

end Datum

namespace LogContext

theorem value_changed (outer : LogContext) (change : ContextChange) (part : ContextPart) :
    (outer.changed change).value part = (change.given part).getD (outer.value part) := by
  cases part <;> rfl

theorem value_foldl_changed (outer : LogContext) (blocks : List ContextChange)
    (part : ContextPart) : (blocks.foldl changed outer).value part =
      (blocks.reverse.findSome? fun change => change.given part).getD (outer.value part) := by
  induction blocks generalizing outer with
  | nil => rfl
  | cons change rest ih =>
      rw [List.foldl_cons, ih, value_changed, List.reverse_cons, List.findSome?_append]
      cases rest.reverse.findSome? fun change => change.given part with
      | some value => rfl
      | none => simp

theorem extra_foldl_changed (outer : LogContext) (blocks : List ContextChange) :
    (blocks.foldl changed outer).extra =
      Datum.putAll outer.extra (blocks.flatMap ContextChange.extra) := by
  induction blocks generalizing outer with
  | nil => rfl
  | cons change rest ih =>
      rw [List.foldl_cons, ih, List.flatMap_cons, Datum.putAll, Datum.putAll, List.foldl_append]
      rfl

theorem isInside_foldl_changed (outer : LogContext) (blocks : List ContextChange) :
    (blocks.foldl changed outer).IsInside outer blocks where
  value := value_foldl_changed outer blocks
  extra := extra_foldl_changed outer blocks
  find_extra name := by rw [extra_foldl_changed, Datum.find?_text_putAll]

end LogContext

namespace ContextStack

/-- Opens several blocks, each inside the one before. -/
def enterAll (stack : ContextStack) (blocks : List ContextChange) : ContextStack :=
  blocks.foldl (fun outer change => outer.enter change) stack

theorem current_enterAll (stack : ContextStack) (blocks : List ContextChange) :
    (stack.enterAll blocks).current = blocks.foldl LogContext.changed stack.current := by
  induction blocks generalizing stack with
  | nil => rfl
  | cons change rest ih => exact ih (stack.enter change)

end ContextStack

/-- A program that does work in blocks: what it does is nothing, a notice, a fault, the work of a
block, one thing after the other, or work with a handler for the fault that it may end in. A block
that cannot be opened, as what it adds is no mapping, is a fault in its place. -/
inductive Work where
  | nothing
  | happens (notice : Notice)
  | fails (cause : Fault)
  | block (change : ContextChange) (inner : Work)
  | inTurn (first second : Work)
  | rescued (inner : Work) (handler : Fault → Work)

namespace Work

def run : Work → Traced Unit
  | .nothing => .result ()
  | .happens notice => .notify notice
  | .fails cause => .fault cause
  | .block change inner => .inBlock change inner.run
  | .inTurn first second => first.run.andThen fun _ => second.run
  | .rescued inner handler => inner.run.rescue fun cause => (handler cause).run

/-- A part of a program is begun inside some blocks, given from the outermost on, after some
events. -/
inductive Reaches : Work → List ContextChange → List Event → Work → Prop where
  | here (work : Work) : Reaches work [] [] work
  | block (change : ContextChange) {inner part : Work} {blocks : List ContextChange}
      {before : List Event} (reaches : Reaches inner blocks before part) :
      Reaches (.block change inner) (change :: blocks) (.entered change :: before) part
  | first (second : Work) {first part : Work} {blocks : List ContextChange} {before : List Event}
      (reaches : Reaches first blocks before part) :
      Reaches (.inTurn first second) blocks before part
  | second {first second part : Work} {blocks : List ContextChange} {before : List Event}
      (succeeds : first.run.outcome = .ok ()) (reaches : Reaches second blocks before part) :
      Reaches (.inTurn first second) blocks (first.run.events ++ before) part
  | tried (handler : Fault → Work) {inner part : Work} {blocks : List ContextChange}
      {before : List Event} (reaches : Reaches inner blocks before part) :
      Reaches (.rescued inner handler) blocks before part
  | handled {inner part : Work} {handler : Fault → Work} {cause : Fault}
      {blocks : List ContextChange} {before : List Event}
      (fails : inner.run.outcome = .error cause)
      (reaches : Reaches (handler cause) blocks before part) :
      Reaches (.rescued inner handler) blocks (inner.run.events ++ before) part

theorem keepsContexts_run (work : Work) : work.run.KeepsContexts := by
  induction work with
  | nothing => exact .silent rfl
  | happens notice => exact .notify notice
  | fails cause => exact .silent rfl
  | block change inner ih => exact .inBlock ih change
  | inTurn first second first_ih second_ih => exact .andThen first_ih fun _ => second_ih
  | rescued inner handler inner_ih handler_ih => exact .rescue inner_ih handler_ih

variable {work part : Work} {blocks : List ContextChange} {before : List Event}

theorem Reaches.exists_events (reaches : work.Reaches blocks before part) :
    ∃ after, work.run.events = before ++ (part.run.events ++ after) := by
  induction reaches with
  | here work => exact ⟨[], by simp⟩
  | @block change inner part blocks before reaches ih =>
      obtain ⟨after, follows⟩ := ih
      refine ⟨after ++ [.left], ?_⟩
      change .entered change :: (inner.run.events ++ [.left]) = _
      simp [follows]
  | @first second first part blocks before reaches ih =>
      obtain ⟨after, follows⟩ := ih
      rw [run]
      cases ends : first.run.outcome with
      | error cause => exact ⟨after, by rw [Traced.events_andThen_of_error ends, follows]⟩
      | ok value =>
          refine ⟨after ++ second.run.events, ?_⟩
          rw [Traced.events_andThen_of_ok ends, follows]
          simp
  | @second first second part blocks before succeeds reaches ih =>
      obtain ⟨after, follows⟩ := ih
      refine ⟨after, ?_⟩
      rw [run, Traced.events_andThen_of_ok succeeds, follows, List.append_assoc]
  | @tried handler inner part blocks before reaches ih =>
      obtain ⟨after, follows⟩ := ih
      rw [run]
      cases ends : inner.run.outcome with
      | ok value => exact ⟨after, by rw [Traced.events_rescue_of_ok ends, follows]⟩
      | error cause =>
          refine ⟨after ++ (handler cause).run.events, ?_⟩
          rw [Traced.events_rescue_of_error ends, follows]
          simp
  | @handled inner part handler cause blocks before fails reaches ih =>
      obtain ⟨after, follows⟩ := ih
      refine ⟨after, ?_⟩
      rw [run, Traced.events_rescue_of_error fails, follows, List.append_assoc]

/-- Where a part is begun, just the blocks around it have been opened and not closed. -/
theorem Reaches.followAll_before (reaches : work.Reaches blocks before part)
    (stack : ContextStack) :
    Log.followAll stack before = stack.enterAll blocks := by
  induction reaches generalizing stack with
  | here work => rfl
  | block change reaches ih => exact ih (stack.enter change)
  | first second reaches ih => exact ih stack
  | second succeeds reaches ih => rw [Log.followAll_append, keepsContexts_run, ih]
  | tried handler reaches ih => exact ih stack
  | handled fails reaches ih => rw [Log.followAll_append, keepsContexts_run, ih]

/-- Blocks are well bracketed, whatever is done in them and however it ends. The open blocks after
a program are those before it, and so it is with each part of it that is begun. What such a part
finds is the context of the blocks around it, where outside all blocks every part is null and there
are no further entries. Generating the statements of a field, of a table or of several tables is
work of this kind. -/
theorem blocks_are_bracketed (work : Work) (stack : ContextStack) (generator : Generator)
    (table : Table Schema) (tables : Option (List (Table Schema)))
    (options : Option DefineOptions) (overrides : GivenOptions) :
    Log.followAll stack work.run.events = stack ∧
    (∀ blocks before part, work.Reaches blocks before part →
      (∃ after, work.run.events = before ++ (part.run.events ++ after)) ∧
      Log.followAll stack (before ++ part.run.events) = Log.followAll stack before ∧
      (Log.followAll stack before).current.IsInside stack.current blocks) ∧
    (∀ part, ContextStack.empty.current.value part = .null) ∧
    ContextStack.empty.current.extra = [] ∧
    (generator.defineTable table options overrides).KeepsContexts ∧
    (generator.defineFields table options overrides).KeepsContexts ∧
    (generator.defineAll tables options overrides).KeepsContexts := by
  refine ⟨work.keepsContexts_run stack, fun blocks before part reaches => ⟨?_, ?_, ?_⟩, ?_, rfl,
    generator.keepsContexts_defineTable table options overrides,
    generator.keepsContexts_defineFields table options overrides,
    generator.keepsContexts_defineAll tables options overrides⟩
  · exact reaches.exists_events
  · rw [Log.followAll_append, keepsContexts_run]
  · rw [reaches.followAll_before, ContextStack.current_enterAll]
    exact LogContext.isInside_foldl_changed stack.current blocks
  · intro part
    cases part <;> rfl

def definingBlock : ContextChange :=
  { ContextChange.aboutStatement "user" "define" with
    extra := [(.ofText "run", .other (.integer 1))] }

/-- A block that passes null for the table and puts another entry in the place of the first. -/
def retryingBlock : ContextChange :=
  { ContextChange.nothing with
    table := some .null, extra := [(.ofText "run", .other (.integer 2))] }

/-- A block inside another fails, and a further block inside the first handles it. -/
def retriedWork : Work :=
  .block definingBlock
    (.rescued
      (.block (.aboutField "name") (.inTurn (.happens (.executed 0)) (.fails .asynchronous)))
      fun _ => .block retryingBlock (.happens (.executed 1)))

/-- The handler runs in the outer block and in its own: the table is null, the statement that of
the outer block, no field is left over, and the later entry is found. -/
theorem blocks_are_bracketed_retried :
    ∃ before, retriedWork.Reaches [definingBlock, retryingBlock] before (.happens (.executed 1)) ∧
      (Log.followAll .empty before).current.table = .null ∧
      (Log.followAll .empty before).current.field = .null ∧
      (Log.followAll .empty before).current.statement = .ofText "define" ∧
      Datum.find? (.ofText "run") (Log.followAll .empty before).current.extra =
        some (.other (.integer 2)) := by
  have reaches : retriedWork.Reaches [definingBlock, retryingBlock] _ (.happens (.executed 1)) :=
    .block definingBlock (.handled rfl (.block retryingBlock (.here _)))
  obtain ⟨-, inside, -⟩ := blocks_are_bracketed retriedWork .empty ⟨⟨[], none⟩, .builtIn⟩
    (Table.named "user" .normal) none none []
  obtain ⟨-, -, context⟩ := inside _ _ _ reaches
  refine ⟨_, reaches, context.value .table, context.value .field, context.value .statement, ?_⟩
  rw [Datum.ofText, context.find_extra]
  change (Datum.find? (.ofText "run") [(.ofText "run", .other (.integer 2)),
    (.ofText "run", .other (.integer 1))]).or _ = _
  rw [Datum.find?_cons, Datum.ofText, if_pos ((Datum.alike_text_iff _ _).mpr rfl)]
  rfl

end Work

end TypedTables
