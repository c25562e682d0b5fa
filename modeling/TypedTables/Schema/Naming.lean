import TypedTables.Schema.Method

/-!
# Names of forms and methods

The names under which forms without parts, and methods that take nothing or a single argument,
are known to those who write schemas down.
-/

namespace TypedTables

namespace Form

/-- The forms without parts or choices. -/
def plainNames : List (String × Form Schema) :=
  [("any", .any), ("unknown", .unknown), ("never", .never), ("undefined", .undefined),
    ("void", .void), ("null", .null), ("boolean", .boolean), ("symbol", .symbol),
    ("function", .function), ("email", .text { Schema.freeText with format := .email })]

def formatNames : List (String × Form Schema) :=
  ["uuid", "guid", "uuidv4", "uuidv6", "uuidv7"].map (fun name => (name, .uuid name)) ++
    ["int32", "uint32", "float32", "float64"].map (fun name =>
      (name, .number { Schema.anyNumber with format := some name })) ++
    ["int64", "uint64"].map (fun name => (name, .bigint (some name)))

/-- The form of a name; whole numbers of safe size are known by a short name. -/
def ofName? (name : String) : Option (Form Schema) :=
  if name = "int" then some (.number { Schema.anyNumber with format := some "safeint" })
  else (plainNames ++ formatNames).lookup name

end Form

namespace Method

def plainNames : List (String × Method) :=
  [("nonempty", .nonempty), ("positive", .positive), ("nonnegative", .nonnegative),
    ("optional", .optional), ("nullable", .nullable), ("nullish", .nullish),
    ("nonoptional", .nonoptional), ("readonly", .readonly), ("array", .array),
    ("unwrap", .unwrap), ("strict", .strict), ("loose", .loose), ("passthrough", .loose),
    ("flexible", .loose), ("strip", .strip), ("partial", .partially), ("keyof", .keyof),
    ("anytable", .anytable), ("schemafull", .schemafull), ("schemaless", .schemaless),
    ("any", .any), ("normal", .normal), ("relation", .relation), ("drop", .drop),
    ("nodrop", .nodrop), ("dto", .draft), ("entity", .entity), ("record", .record)]

def valueNames : List (String × (Value → Method)) :=
  [("min", .min), ("max", .max), ("length", .length), ("gt", .gt), ("gte", .gte), ("lt", .lt),
    ("lte", .lte), ("default", .default), ("prefault", .prefault),
    ("catch", fun value => .fallback (.value value)), ("describe", .describe),
    ("comment", .comment)]

def schemaNames : List (String × (Schema → Method)) :=
  [("pipe", .pipe), ("or", .or), ("and", .and), ("rest", .rest), ("type", .identifiedBy)]

def shapeNames : List (String × (List (String × Schema) → Method)) :=
  [("extend", .extend), ("fields", .fields)]

/-- Methods that take an endpoint of a relation; each end has two names. -/
def endpointNames : List (String × (Endpoint → Method)) :=
  [("from", .source), ("in", .source), ("to", .target), ("out", .target)]

end Method
end TypedTables
