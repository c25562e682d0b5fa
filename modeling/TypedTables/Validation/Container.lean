import TypedTables.Schema.Basic
import TypedTables.Validation.Joining
import TypedTables.Validation.Leaf

/-!
# Containers

How containers run their parts and assemble the results. Every part is run before anything is
reported, and the issues of a part get the key or index it belongs to in front of their paths.
-/

namespace TypedTables.Container

def issuesUnderKeys (entries : List (Entry Payload)) : List Issue :=
  entries.flatMap fun entry => entry.result.issues.map (Issue.within entry.key)

def isFieldName (shape : List (String × Schema)) : Value → Bool
  | .text name => shape.any fun field => field.1 == name
  | _ => false

/-- The entries whose keys are no field names. -/
def extraEntries (shape : List (String × Schema)) (entries : List (Value × Value)) :
    List (Value × Value) :=
  entries.filter fun entry => !isFieldName shape entry.1

/-- What becomes of the keys that are no field names. -/
inductive ExtraKeys where
  | dropped
  | refused
  | kept
  | validated (schema : Schema)

/-- A catchall that refuses or keeps everything does so without being run. -/
def ExtraKeys.ofCatchall : Option Schema → ExtraKeys
  | none => .dropped
  | some schema =>
      match schema.kind with
      | .never => .refused
      | .unknown => .kept
      | _ => .validated schema

/-- The part of a field: the item under its name, or absence. -/
def fieldJob (entries : List (Value × Value)) (field : String × Schema) : Job :=
  match Value.find? (.text field.1) entries with
  | some item => ⟨.text field.1, true, field.2, item⟩
  | none => ⟨.text field.1, false, field.2, .undefined⟩

/-- The parts of an object: its fields, and the extra entries where they are validated. -/
def objectJobs (shape : List (String × Schema)) (extraKeys : ExtraKeys)
    (entries : List (Value × Value)) : List Job :=
  shape.map (fieldJob entries) ++
    match extraKeys with
    | .validated schema =>
        (extraEntries shape entries).map fun entry => ⟨entry.1, true, schema, entry.2⟩
    | _ => []

def refusedKeys (keys : List String) (input : Value) : Issue :=
  let shown := ", ".intercalate (keys.map Text.quoted)
  { Issue.plain .unrecognizedKeys s!"Unrecognized key(s) in object: {shown}" input with
    keys := some keys }

/-- The entries of the output: results that are absent are left out where the key was absent. -/
def outputEntries (entries : List (Entry Payload)) : List (Value × Value) :=
  entries.filterMap fun entry =>
    if entry.result.value.isUndefined && !entry.present then none
    else some (entry.key, entry.result.value)

/-- Assembles an object from the results of its parts and the keys that were refused. -/
def assembleObject (input : Value) (refused : List String) (entries : List (Entry Payload)) :
    Payload :=
  { value := .mapping (outputEntries entries)
    issues := issuesUnderKeys entries ++
      (if refused.isEmpty then [] else [refusedKeys refused input]) }

/-- Validates a mapping against the fields of a shape and what becomes of other keys. -/
def object (validate : Validator) (shape : List (String × Schema)) (catchall : Option Schema)
    (input : Value) : Traced (Progress Payload) :=
  match input.entries? with
  | none => .result (.ready (.wrongKind "object" input))
  | some entries =>
      let extraKeys := ExtraKeys.ofCatchall catchall
      let extra := extraEntries shape entries
      (fanOut validate (objectJobs shape extraKeys entries)).andThen fun results =>
        match extraKeys with
        | .refused =>
            (Traced.ofExcept ((extra.map Prod.fst).mapM Value.plain)).andThen fun refused =>
              joinEntries results fun done => .ok (assembleObject input refused done)
        | .kept =>
            let kept : List (Entry (Progress Payload)) :=
              extra.map fun entry => ⟨entry.1, true, .ready (.accept entry.2)⟩
            joinEntries (results ++ kept) fun done => .ok (assembleObject input [] done)
        | .validated _ => joinEntries results fun done => .ok (assembleObject input [] done)
        | .dropped =>
            (if extra.isEmpty then .result ()
              else Traced.emit (.noticed (.strippedKeys extra.length))).andThen fun _ =>
                joinEntries results fun done => .ok (assembleObject input [] done)

/-- Assembles a list; `issues` were found before the items were run. -/
def assembleList (issues : List Issue) (entries : List (Entry Payload)) : Payload :=
  { value := .list (entries.map fun entry => entry.result.value)
    issues := issues ++ issuesUnderKeys entries }

def indexedJobs (schemaAt : Nat → Schema) (items : List Value) : List Job :=
  items.zipIdx.map fun (item, index) =>
    ⟨.integer (Int.ofNat index), true, schemaAt index, item⟩

/-- Validates a list or tuple whose items share a schema. -/
def array (validate : Validator) (element : Schema) (least most : Option Value) (input : Value) :
    Traced (Progress Payload) :=
  match input.items? with
  | none => .result (.ready (.wrongKind "array" input))
  | some items =>
      (Traced.ofExcept (Leaf.boundIssues "Array" "element(s)" items.length least most
        input)).andThen fun sizes =>
          (fanOut validate (indexedJobs (fun _ => element) items)).andThen fun results =>
            joinEntries results fun done => .ok (assembleList sizes done)

/-- The items that must be there: all up to the last that is not optional. -/
def requiredCount (items : List Schema) : Nat :=
  (items.reverse.dropWhile fun item => item.kind == .optional).length

def tuple (validate : Validator) (items : List Schema) (rest : Option Schema) (input : Value) :
    Traced (Progress Payload) :=
  match input.items? with
  | none => .result (.ready (.wrongKind "tuple" input))
  | some values =>
      let refuse (code : IssueCode) (message : String) : Traced (Progress Payload) :=
        .result (.ready (.reject input (Issue.plain code message input)))
      let required := requiredCount items
      if values.length < required then
        refuse .tooSmall s!"Tuple must contain at least {required} element(s)"
      else if rest.isNone && items.length < values.length then
        refuse .tooBig s!"Tuple must contain at most {items.length} element(s)"
      else
        let schemaAt (index : Nat) : Schema :=
          match items[index]?, rest with
          | some schema, _ => schema
          | none, some schema => schema
          | none, none => Schema.anonymous .any
        (fanOut validate (indexedJobs schemaAt values)).andThen fun results =>
          joinEntries results fun done => .ok (assembleList [] done)

/-- Adds members one by one; what cannot be a member is a fault. -/
def collectMembers : List Value → List Value → Except Fault (List Value)
  | [], members => .ok members
  | member :: rest, members =>
      match member.unhashableClass? with
      | some className => .error (.unhashable className)
      | none => collectMembers rest (Value.addMember member members)

/-- Assembles a set; issues of members keep their paths. -/
def assembleSet (issues : List Issue) (entries : List (Entry Payload)) : Except Fault Payload :=
  (collectMembers (entries.map fun entry => entry.result.value) []).map fun members =>
    { value := .set members
      issues := issues ++ entries.flatMap fun entry => entry.result.issues }

/-- Validates a set of either kind whose members share a schema. -/
def set (validate : Validator) (element : Schema) (least most : Option Value) (input : Value) :
    Traced (Progress Payload) :=
  match input.members? with
  | none => .result (.ready (.wrongKind "set" input))
  | some members =>
      (Traced.ofExcept (Leaf.boundIssues "Set" "element(s)" members.length least most
        input)).andThen fun sizes =>
          (fanOut validate (members.map fun member =>
            ⟨.null, true, element, member⟩)).andThen fun results =>
              joinEntries results (assembleSet sizes)

/-- The largest size of a number with a point that can stand in a path. -/
def pathLimit : Rat := (Nat.pow 2 63 : Nat)

/-- A refused key as it stands in the path of its issue: texts and integers as they are, whole
numbers of other kinds as integers, octets as the text they hold, and an enum member as its
value. Any other key cannot stand in a path. -/
def pathKey (key : Value) : Except Fault Value :=
  let plainKey (value : Value) : Except Fault Value :=
    match value with
    | .text _ | .integer _ => .ok value
    | .boolean truth => .ok (.integer (if truth then 1 else 0))
    | .float number =>
        match number.toInt? with
        | some whole =>
            if -pathLimit < (whole : Rat) && (whole : Rat) < pathLimit then .ok (.integer whole)
            else .error .unlocatableKey
        | none => .error .unlocatableKey
    | .decimal number =>
        match number.toRat? with
        | some exact =>
            if exact.den = 1 then .ok (.integer exact.num) else .error .unlocatableKey
        | none => .error .unlocatableKey
    | .bytes octets =>
        match String.fromUTF8? (ByteArray.mk octets.toArray) with
        | some text => .ok (.text text)
        | none => .error .unlocatableKey
    | _ => .error .unlocatableKey
  match key with
  | .member _ value => plainKey value
  | _ => plainKey key

def invalidKey (label : String) (key : Value) (issues : List Issue) : Except Fault Issue :=
  (pathKey key).map fun segment =>
    { Issue.plain .invalidKey s!"Invalid key in {label}" key with
      path := [segment], errors := some [issues] }

/-- Two parts for every entry: its key, then its value, both under the key. -/
def keyedJobs (key value : Schema) (entries : List (Value × Value)) : List Job :=
  entries.flatMap fun entry => [⟨entry.1, true, key, entry.1⟩, ⟨entry.1, true, value, entry.2⟩]

/-- Assembles a keyed collection from results that alternate between keys and values. -/
def assembleKeyed (label : String) : List (Entry Payload) → Payload → Except Fault Payload
  | keyEntry :: valueEntry :: rest, payload =>
      if !keyEntry.result.isClean then
        (invalidKey label keyEntry.key keyEntry.result.issues).bind fun issue =>
          assembleKeyed label rest { payload with issues := payload.issues ++ [issue] }
      else
        let issues := payload.issues ++ valueEntry.result.issues.map (Issue.within keyEntry.key)
        if valueEntry.result.value.isUndefined then
          assembleKeyed label rest { payload with issues }
        else
          match keyEntry.result.value.unhashableClass? with
          | some className => .error (.unhashable className)
          | none =>
              let output := Value.put keyEntry.result.value valueEntry.result.value
                (payload.value.entries?.getD [])
              assembleKeyed label rest ⟨.mapping output, issues⟩
  | _, payload => .ok payload

/-- Validates a mapping whose keys share a schema and whose values share one. -/
def keyed (validate : Validator) (label : String) (key value : Schema) (input : Value) :
    Traced (Progress Payload) :=
  match input.entries? with
  | none => .result (.ready (.wrongKind label input))
  | some entries =>
      (fanOut validate (keyedJobs key value entries)).andThen fun results =>
        joinEntries results fun done => assembleKeyed label done (.accept (.mapping []))

end TypedTables.Container
