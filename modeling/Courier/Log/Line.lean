import Courier.Log.Entry
import Courier.Json.Text

/-!
# Lines of the log

An entry is written in one of two forms: for readers, as a message followed by `name=value` pairs
in the order of their names, or as one document with the fields as its members. Both leave out
fields that are reserved or begin with a low line.

`stamped` adds the name of the service and of its surroundings, and the fields of the scope, as
every handler does before it writes.
-/

namespace Courier.Log

/-! ## Fields that are shown -/

/-- The names an entry uses for parts of its own. An entry may not carry fields of these names. -/
def ownNames : List String :=
  ["name", "msg", "args", "levelname", "levelno", "pathname", "filename", "module", "exc_info",
   "exc_text", "stack_info", "lineno", "funcName", "created", "msecs", "relativeCreated", "thread",
   "threadName", "processName", "process"]

/-- The names of fields that are never shown. -/
def hiddenNames : List String := ownNames ++ ["message", "asctime", "taskName"]

/-- The names that an entry refuses for its fields. -/
def refusedNames : List String := ownNames ++ ["message", "asctime"]

/-- The names an entry answers to besides its parts. -/
def methodNames : List String :=
  ["getMessage", "__class__", "__delattr__", "__dict__", "__dir__", "__doc__", "__eq__",
   "__format__", "__ge__", "__getattribute__", "__getstate__", "__gt__", "__hash__", "__init__",
   "__init_subclass__", "__le__", "__lt__", "__module__", "__ne__", "__new__", "__reduce__",
   "__reduce_ex__", "__repr__", "__setattr__", "__sizeof__", "__str__", "__subclasshook__",
   "__weakref__"]

/-- Whether a field of this name is shown. -/
def isShown (name : String) : Bool := !hiddenNames.contains name && !name.startsWith "_"

/-- Whether a scope may set a field of this name: what an entry has by itself is not set from
outside. -/
def isSettable (name : String) : Bool := !ownNames.contains name && !methodNames.contains name

/-- The name of the service in every entry. -/
def serviceName : String := "notify-engine"

/-- The fields of an entry as a handler sees them. -/
def stamped (service environment : String) (scope : Fields) (fields : Fields) : Fields :=
  ((fields.put "service" (.text service)).put "environment" (.text environment)).addMissing
    (scope.filter fun f => isSettable f.1)

/-- The first field whose name an entry refuses. -/
def refused? (fields : Fields) : Option String :=
  (fields.find? fun f => refusedNames.contains f.1).map Prod.fst

/-! ## The message -/

/-- Why an entry has no line. -/
inductive LineFault where
  | text (fault : TextFault)
  /-- A key of a field's value has no text. -/
  | key (kind : String)
  /-- A field of this kind answers in the place of the message. -/
  | message (kind : String)
deriving DecidableEq, Repr

/-- The name of a fault. -/
def LineFault.label : LineFault → String
  | text fault => fault.label
  | key _ | message _ => "TypeError"

/-- What a caller is told. -/
def LineFault.report : LineFault → String
  | text fault => fault.message
  | key kind => "keys must be str, int, float, bool or None, not " ++ kind
  | message kind => "'" ++ kind ++ "' object is not callable"

/-- The name under which an entry is asked for its message. -/
def messageName : String := "getMessage"

/-- The message of an entry. It is asked for by name, so that a field of that name answers instead,
which has no message to give. -/
def Entry.message? (e : Entry) : Except LineFault String :=
  match Fields.get? e.fields messageName with
  | none => .ok e.message
  | some v => .error (.message v.kind)

/-! ## The form for readers -/

/-- The value of a pair. A text with a blank, an equals sign or a comma stands between quotes. -/
def pairValue? : Value → Except TextFault String
  | .null => .ok "null"
  | .bool b => .ok (if b then "true" else "false")
  | .moment r => .ok r.isoText
  | .text s =>
    if s.toList.any fun c => c == ' ' || c == '=' || c == ',' then .ok ("\"" ++ s ++ "\"")
    else .ok s
  | v => v.text?

/-- The pairs of an entry, without the names of the service and its surroundings. -/
def pairs? (fields : Fields) : Except TextFault (List String) :=
  let shown := fields.filter fun f => isShown f.1 && f.1 != "service" && f.1 != "environment"
  (shown.mergeSort fun f g => f.1 ≤ g.1).mapM fun f => do
    let v ← pairValue? f.2
    return f.1 ++ "=" ++ v

/-- A message and what is known of a failure, on lines of their own. -/
def withFailure (base : String) : Option String → String
  | none => base
  | some failure => if base.endsWith "\n" then base ++ failure else base ++ "\n" ++ failure

/-- A line of the form for readers; `lead` is what stands before the level. -/
def pairLine? (lead : String) (e : Entry) : Except LineFault String := do
  let message ← e.message?
  let base := withFailure (lead ++ "[" ++ e.level.name ++ "] " ++ e.source ++ ": " ++ message)
    e.failure
  let pairs ← (pairs? e.fields).mapError .text
  return if pairs.isEmpty then base else base ++ " " ++ " ".intercalate pairs

/-! ## The form for programs -/

/-- The text of a member's name. -/
def memberName? : Value → Except LineFault String
  | .null => .ok "null"
  | .bool b => .ok (if b then "true" else "false")
  | .int n => (Value.intText? n).mapError .text
  | .float x => .ok (Json.floatText x)
  | .text s => .ok s
  | .bytes _ => .error (.key "bytes")
  | .date _ => .error (.key "date")
  | .moment _ => .error (.key "datetime")
  | .tuple _ => .error (.key "tuple")
  | .list _ => .error (.key "list")
  | .set _ => .error (.key "set")
  | .dict _ => .error (.key "dict")
  | .object _ name _ => .error (.key name)
  | .unshowable reason => .error (.text (.refused reason))

mutual

/-- The document of a value: what the format has no form for becomes a text, and an integer has to
have one too. -/
def inner? : Value → Except LineFault Json
  | .null => .ok .null
  | .bool b => .ok (.bool b)
  | .int n => ((Value.intText? n).mapError .text).map fun _ => .int n
  | .float x => .ok (.float x)
  | .text s => .ok (.text s)
  | .list xs => (inners? xs).map .list
  | .tuple xs => (inners? xs).map .list
  | .dict es => (innerEntries? es).map .object
  | v => match v.text? with
    | .ok s => .ok (.text s)
    | .error fault => .error (.text fault)

/-- The documents of several values. -/
def inners? : List Value → Except LineFault (List Json)
  | [] => .ok []
  | x :: xs => do
    let first ← inner? x
    let rest ← inners? xs
    return first :: rest

/-- The members for the pairs of a bag. -/
def innerEntries? : List (Value × Value) → Except LineFault (List (String × Json))
  | [] => .ok []
  | (k, v) :: es => do
    let key ← memberName? k
    let value ← inner? v
    let rest ← innerEntries? es
    return (key, value) :: rest

end

/-- The value that stands for a field in the document: a reading has its usual form, and what has no
form of its own is a text. Lists and bags stay what they are. -/
def plain? (v : Value) : Except TextFault Value :=
  match v with
  | .moment r => .ok (.text r.isoText)
  | .bytes _ | .date _ | .tuple _ | .set _ | .object .. | .unshowable _ => v.text?.map .text
  | _ => .ok v

/-- The fields with those of an entry that are shown put over them. -/
def putShown? (parts : Fields) (e : Entry) : Except TextFault Fields :=
  (e.fields.filter fun f => isShown f.1).foldlM (fun o f => do
    return o.put f.1 (← plain? f.2)) parts

/-- What an entry's document says, as a bag: the entry's own parts, the fields that are shown and
the failure. A field with the name of a part takes its place. -/
def told? (timestamp : String) (e : Entry) : Except LineFault Fields := do
  let message ← e.message?
  let members ← (putShown? [("timestamp", .text timestamp), ("level", .text e.level.name),
    ("logger", .text e.source), ("message", .text message)] e).mapError .text
  return match e.failure with
    | none => members
    | some failure => members.put "exc_info" (.text failure)

/-- The members of an entry's document. -/
def document? (timestamp : String) (e : Entry) : Except LineFault (List (String × Json)) :=
  (told? timestamp e).bind fun members => innerEntries? (members.map fun f => (.text f.1, f.2))

/-- An entry as one document on a line. -/
def documentLine? (timestamp : String) (e : Entry) : Except LineFault String :=
  (document? timestamp e).map fun members => (Json.object members).line

end Courier.Log
