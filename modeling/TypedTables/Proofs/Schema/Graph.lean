import Mathlib.Data.Fintype.Card
import TypedTables.Proofs.FieldType.Chains

/-!
# Graphs of schemas

Schemas are trees whose cycles go through the names that lazy schemas hold. In a graph of schemas
any node may be part of any other, and of itself. A tree shows a graph to a depth; where it is cut
off stands a schema that runs too deep. What is built anew each time has no identity, and is a
finite tree: among such nodes a part comes before what it is part of.

Lowering a view of the graph ends before it comes to where the view is cut off: every chain passes
a node that has an identity once, and between two of them it descends in a tree.
-/

namespace TypedTables

def LazyTarget.mapSchema {σ τ : Type} (read : σ → τ) : LazyTarget σ → LazyTarget τ
  | .table name => .table name
  | .definition name => .definition name
  | .template schema => .template (read schema)
  | .unbuildable cause => .unbuildable cause

def Table.mapSchemas {σ τ : Type} (read : σ → τ) (table : Table σ) : Table τ :=
  { name := table.name
    declared := table.declared.map fun field => (field.1, read field.2)
    catchall := read table.catchall
    mode := table.mode
    source := table.source.map read
    target := table.target.map read
    drops := table.drops
    comment := table.comment
    isDraft := table.isDraft }

/-- The same form with other schemas for its parts. -/
def Form.mapParts {σ τ : Type} (read : σ → τ) : Form σ → Form τ
  | .any => .any
  | .unknown => .unknown
  | .never => .never
  | .undefined => .undefined
  | .void => .void
  | .null => .null
  | .boolean => .boolean
  | .text rules => .text rules
  | .uuid format => .uuid format
  | .number rules => .number rules
  | .bigint format => .bigint format
  | .date coerce => .date coerce
  | .enumeration values => .enumeration values
  | .literal values => .literal values
  | .symbol => .symbol
  | .function => .function
  | .promise inner => .promise (read inner)
  | .custom check message => .custom check message
  | .object shape catchall =>
      .object (shape.map fun field => (field.1, read field.2)) (catchall.map read)
  | .array element least most => .array (read element) least most
  | .set element least most => .set (read element) least most
  | .tuple items rest => .tuple (items.map read) (rest.map read)
  | .record key value => .record (read key) (read value)
  | .map key value => .map (read key) (read value)
  | .union options => .union (options.map read)
  | .intersection left right => .intersection (read left) (read right)
  | .optional inner => .optional (read inner)
  | .nullable inner => .nullable (read inner)
  | .nonoptional inner => .nonoptional (read inner)
  | .default inner value => .default (read inner) value
  | .prefault inner value => .prefault (read inner) value
  | .fallback inner replacement => .fallback (read inner) replacement
  | .readonly inner => .readonly (read inner)
  | .transform change => .transform change
  | .pipe source target => .pipe (read source) (read target)
  | .lazily target => .lazily (target.mapSchema read)
  | .reference tables identifier => .reference tables (read identifier)
  | .table described => .table (described.mapSchemas read)

namespace Form

variable {σ τ : Type} {read : σ → τ} {form : Form σ}

theorem lowered_mapParts (read : σ → τ) (form : Form σ) :
    (form.mapParts read).lowered = form.lowered.map read := by
  cases form with
  | object shape catchall => simp [mapParts, lowered]
  | tuple items rest => cases rest <;> rfl
  | _ => rfl

theorem mapParts_eq_lazily {target : LazyTarget τ} (equal : form.mapParts read = .lazily target) :
    ∃ original, form = .lazily original ∧ target = original.mapSchema read := by
  cases form with
  | lazily original =>
      cases equal
      exact ⟨original, rfl, rfl⟩
  | _ => cases equal

theorem mapParts_eq_reference {tables : Option (List String)} {identifier : τ}
    (equal : form.mapParts read = .reference tables identifier) :
    ∃ original, read original = identifier := by
  cases form with
  | reference names original =>
      cases equal
      exact ⟨original, rfl⟩
  | _ => cases equal

end Form

/-- A node of a graph: a schema whose parts are nodes. A fresh node is built anew each time. -/
structure SchemaNode (count : Nat) where
  isFresh : Bool
  refinements : List Refinement
  description : Value
  form : Form (Fin count)

/-- A graph of schemas: its nodes, and the nodes that lazy schemas stand for by name. -/
structure SchemaGraph (count : Nat) where
  node : Fin count → SchemaNode count
  definitions : List (String × Fin count)
  /-- What is built anew is a finite tree. -/
  descends : ∀ outer inner, (node outer).isFresh = true → (node inner).isFresh = true →
    inner ∈ (node outer).form.lowered ∨ (node outer).form = .lazily (.template inner) →
      inner < outer
  /-- Named nodes are there once. -/
  isOnce : ∀ place ∈ definitions.map Prod.snd, (node place).isFresh = false
  /-- What cannot be built fails in another way than by running too deep. -/
  builds : ∀ place, (node place).form ≠ .lazily (.unbuildable .tooDeep)

namespace SchemaGraph

variable {count : Nat} (graph : SchemaGraph count)

def identity (place : Fin count) : Option Nat :=
  if (graph.node place).isFresh then none else some place

/-- What the graph looks like from a node, to a depth. -/
def view : Nat → Fin count → Schema
  | 0, _ => .anonymous (.lazily (.unbuildable .tooDeep))
  | depth + 1, place =>
      { identity := graph.identity place
        refinements := (graph.node place).refinements
        description := (graph.node place).description
        form := (graph.node place).form.mapParts (view depth) }

/-- Lazy schemas stand for views of named nodes, and for tables of a registry. -/
def environment (depth : Nat) (registry : Option Registry) : Environment :=
  ⟨graph.definitions.map fun definition => (definition.1, graph.view depth definition.2), registry⟩

/-- The nodes that have an identity and are not among the ancestors. -/
def missing (ancestors : List Ancestor) : Nat :=
  (Finset.univ.filter fun place =>
    (graph.node place).isFresh = false ∧ some place.val ∉ ancestors).card

/-- The height of what is built anew; other nodes have none. -/
def rank (place : Fin count) : Nat := if (graph.node place).isFresh then place + 1 else 0

/-- No chain from a node below some ancestors is longer. -/
def span (ancestors : List Ancestor) (place : Fin count) : Nat :=
  graph.missing ancestors * (count + 1) + graph.rank place + 1

/-- No chain in the graph is longer. -/
def longest (count : Nat) : Nat := count * (count + 1) + count + 1

theorem rank_le (place : Fin count) : graph.rank place ≤ count := by
  unfold rank
  split
  · exact place.isLt
  · exact Nat.zero_le _

theorem span_le_longest (ancestors : List Ancestor) (place : Fin count) :
    graph.span ancestors place ≤ longest count := by
  have few : graph.missing ancestors ≤ count :=
    (Finset.card_filter_le _ _).trans (by simp)
  have product := Nat.mul_le_mul_right (count + 1) few
  have low := graph.rank_le place
  unfold span longest
  omega

theorem missing_cons_le (newest : Ancestor) (ancestors : List Ancestor) :
    graph.missing (newest :: ancestors) ≤ graph.missing ancestors := by
  refine Finset.card_le_card fun place member => ?_
  simp only [Finset.mem_filter, List.mem_cons, not_or] at member ⊢
  exact ⟨member.1, member.2.1, member.2.2.2⟩

theorem missing_cons_lt {ancestors : List Ancestor} {place : Fin count}
    (isOnce : (graph.node place).isFresh = false) (isNew : some place.val ∉ ancestors) :
    graph.missing (some place.val :: ancestors) < graph.missing ancestors := by
  refine Finset.card_lt_card ((Finset.ssubset_iff_of_subset fun other member => ?_).mpr
    ⟨place, ?_, ?_⟩)
  · simp only [Finset.mem_filter, List.mem_cons, not_or] at member ⊢
    exact ⟨member.1, member.2.1, member.2.2.2⟩
  · simp [isOnce, isNew]
  · simp

/-- What comes after a node has shorter chains: a node that has an identity is missing no more, and
what is built anew is less high. -/
theorem span_lt {ancestors : List Ancestor} {outer inner : Fin count}
    (isNew : (graph.node outer).isFresh = false → some outer.val ∉ ancestors)
    (descends : (graph.node outer).isFresh = true → (graph.node inner).isFresh = true →
      inner < outer) :
    graph.span (graph.identity outer :: ancestors) inner < graph.span ancestors outer := by
  have low := graph.rank_le inner
  unfold span
  -- One missing node less outweighs any rank; where none is less, the rank decides.
  cases isFresh : (graph.node outer).isFresh with
  | false =>
      have less := graph.missing_cons_lt isFresh (isNew isFresh)
      have identified : graph.identity outer = some outer.val := by simp [identity, isFresh]
      rw [identified]
      have product := Nat.mul_le_mul_right (count + 1) (Nat.succ_le_of_lt less)
      rw [Nat.succ_mul] at product
      omega
  | true =>
      have product := Nat.mul_le_mul_right (count + 1)
        (graph.missing_cons_le (graph.identity outer) ancestors)
      have lower : graph.rank inner < graph.rank outer := by
        unfold rank
        rw [isFresh, if_pos rfl]
        split
        · rename_i freshInner
          exact Nat.succ_lt_succ (descends isFresh freshInner)
        · exact Nat.succ_pos _
      omega

theorem one_lt_span {ancestors : List Ancestor} {place : Fin count}
    (isNew : (graph.node place).isFresh = false → some place.val ∉ ancestors) :
    1 < graph.span ancestors place := by
  unfold span
  cases isFresh : (graph.node place).isFresh with
  | false =>
      have less := graph.missing_cons_lt isFresh (isNew isFresh)
      have product := Nat.mul_le_mul_right (count + 1) (Nat.succ_le_of_lt less)
      rw [Nat.succ_mul] at product
      omega
  | true =>
      simp only [rank, isFresh, if_true]
      omega

theorem not_mem_of_isOpen_view {ancestors : List Ancestor} {depth : Nat} {place : Fin count}
    (isNew : (LoweringState.ofField ancestors).isOpen (graph.view (depth + 1) place) = false)
    (isOnce : (graph.node place).isFresh = false) : some place.val ∉ ancestors := by
  intro member
  have identified : (graph.view (depth + 1) place).identity = some place.val := by
    simp [view, identity, isOnce]
  simp [Schema.isOpen_iff.mpr ⟨place.val, identified, member⟩] at isNew

theorem definition_eq_view {depth : Nat} {registry : Option Registry} {schema : Schema}
    (member : schema ∈ (graph.environment depth registry).definitions.map Prod.snd) :
    ∃ place ∈ graph.definitions.map Prod.snd, graph.view depth place = schema := by
  simp only [environment, List.map_map, List.mem_map, Function.comp_apply] at member
  obtain ⟨definition, present, rfl⟩ := member
  exact ⟨definition.2, List.mem_map_of_mem present, rfl⟩

theorem isIdentified_environment (depth : Nat) (registry : Option Registry) :
    (graph.environment (depth + 1) registry).IsIdentified := by
  intro schema member
  obtain ⟨place, named, rfl⟩ := graph.definition_eq_view member
  exact ⟨place.val, by simp [view, identity, graph.isOnce place named]⟩

/-- Chains of views end: each node passed leaves a shorter span, and as much depth as that. -/
theorem endsWithin_view {registry : Option Registry} {whole : Nat} (isDeep : longest count ≤ whole)
    {length depth : Nat} {ancestors : List Ancestor} {place : Fin count}
    (isLong : graph.span ancestors place ≤ length) (fits : graph.span ancestors place ≤ depth) :
    (graph.view depth place).EndsWithin (graph.environment whole registry) length ancestors := by
  -- Length and depth go down together, and the span stays below both.
  induction length generalizing depth ancestors place with
  | zero => simp [span] at isLong
  | succ length ih =>
      obtain ⟨below, rfl⟩ : ∃ below, depth = below + 1 :=
        ⟨depth - 1, by unfold span at fits; omega⟩
      cases isOpen : (LoweringState.ofField ancestors).isOpen (graph.view (below + 1) place) with
      | true => exact Or.inl isOpen
      | false =>
          have isNew := graph.not_mem_of_isOpen_view isOpen
          have less (inner : Fin count)
              (descends : (graph.node place).isFresh = true → (graph.node inner).isFresh = true →
                inner < place) :
              graph.span ((graph.view (below + 1) place).identity :: ancestors) inner <
                graph.span ancestors place := graph.span_lt isNew descends
          refine Or.inr ⟨fun part member => ?_, fun target isLazy => ?_⟩
          · change part ∈ ((graph.node place).form.mapParts (graph.view below)).lowered at member
            rw [Form.lowered_mapParts] at member
            obtain ⟨inner, isPart, rfl⟩ := List.mem_map.mp member
            have shorter := less inner fun fresh freshInner =>
              graph.descends place inner fresh freshInner (Or.inl isPart)
            exact ih (by omega) (by omega)
          · obtain ⟨original, isOriginal, rfl⟩ := Form.mapParts_eq_lazily isLazy
            cases resolves : (graph.environment whole registry).resolve
                (original.mapSchema (graph.view below)) with
            | error cause =>
                refine Environment.ne_tooDeep_of_unresolved resolves fun unbuildable => ?_
                cases original <;> cases unbuildable
                exact graph.builds place isOriginal
            | ok other =>
                refine Or.inr ?_
                -- A definition is shown to the whole depth again, a template to what is left of it.
                rcases Environment.resolved_cases resolves with ⟨table, rfl⟩ | isDefinition | built
                · have long := graph.one_lt_span isNew
                  exact .of_leaf rfl (by intro; simp [TableSchema.toSchema]) (by omega)
                · obtain ⟨named, isNamed, rfl⟩ := graph.definition_eq_view isDefinition
                  have shorter := less named fun _ fresh => by
                    simp [graph.isOnce named isNamed] at fresh
                  have short := graph.span_le_longest
                    ((graph.view (below + 1) place).identity :: ancestors) named
                  exact ih (by omega) (by omega)
                · cases original with
                  | template inner =>
                      cases built
                      have shorter := less inner fun fresh freshInner =>
                        graph.descends place inner fresh freshInner (Or.inr isOriginal)
                      exact ih (by omega) (by omega)
                  | _ => cases built

end SchemaGraph
end TypedTables
