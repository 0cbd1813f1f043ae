import Courier.Value.Text

/-!
# JSON

Documents of this format are what leaves the program: records shown to a caller, the body of a
request, the metadata column of a table, a line of the log. `Json.ofValue?` gives the form in which
metadata leaves and is kept; dates and readings become texts, tuples and sets become lists, every
key becomes a text, and a floating point number that is infinite or undefined becomes nothing.
`Json.toValue` reads a kept document back.
-/

namespace Courier

/-- A document. Numbers keep their kind, and an object keeps the order of its members. -/
inductive Json where
  | null
  | bool (b : Bool)
  | int (n : Int)
  | float (x : Double)
  | text (s : String)
  | list (items : List Json)
  | object (members : List (String × Json))
deriving Repr, Inhabited

namespace Json

/-- The object with a member set, in its old place if it had the name before. -/
def put : List (String × Json) → String → Json → List (String × Json)
  | [], name, j => [(name, j)]
  | (n, old) :: rest, name, j =>
    if n == name then (n, j) :: rest else (n, old) :: put rest name j

/-- An optional text. -/
def ofText? : Option String → Json
  | none => null
  | some s => text s

/-- An optional integer. -/
def ofInt? : Option Int → Json
  | none => null
  | some n => int n

/-- An instant in the form of records. -/
def ofInstant (a : Instant) : Json := text a.text

/-- An optional instant. -/
def ofInstant? : Option Instant → Json
  | none => null
  | some a => ofInstant a

/-- A reading in the form of records: universal time ends in a `Z`. -/
def readingText (r : Reading) : String :=
  if r.offset = some 0 then r.face.text else r.isoText

/-! ## From values and back -/

/-- Why a value has no document. -/
inductive Fault where
  /-- The value has no form in this format. -/
  | unknownKind
  /-- The value holds bytes that are no text. -/
  | undecodable
deriving DecidableEq, Repr

/-- The text under which a key is kept. -/
def keyText? : Value → Except Fault String
  | .null => .ok "None"
  | .bool b => .ok (if b then "true" else "false")
  | .int n => .ok (Value.intText n)
  | .float x => .ok x.text
  | .text s => .ok s
  | .date d => .ok d.text
  | .moment r => .ok (readingText r)
  | _ => .error .unknownKind

mutual

/-- The document of a value. -/
def ofValue? : Value → Except Fault Json
  | .null => .ok null
  | .bool b => .ok (bool b)
  | .int n => .ok (int n)
  | .float x => .ok (if x.isFinite then float x else null)
  | .text s => .ok (text s)
  | .bytes bs =>
    match String.fromUTF8? ⟨bs.toArray⟩ with
    | some s => .ok (text s)
    | none => .error .undecodable
  | .date d => .ok (text d.text)
  | .moment r => .ok (text (readingText r))
  | .list xs => (ofValues? xs).map list
  | .tuple xs => (ofValues? xs).map list
  | .set xs => (ofValues? xs).map list
  | .dict es => (ofEntries? es).map fun ms => object (ms.foldl (fun o m => put o m.1 m.2) [])
  | .object _ _ fs => (ofFields? fs).map fun ms => object (ms.foldl (fun o m => put o m.1 m.2) [])
  | .unshowable _ => .error .unknownKind

/-- The documents of several values. -/
def ofValues? : List Value → Except Fault (List Json)
  | [] => .ok []
  | x :: xs => do
    let first ← ofValue? x
    let rest ← ofValues? xs
    return first :: rest

/-- The members for the pairs of a bag. -/
def ofEntries? : List (Value × Value) → Except Fault (List (String × Json))
  | [] => .ok []
  | (k, v) :: es => do
    let key ← keyText? k
    let value ← ofValue? v
    let rest ← ofEntries? es
    return (key, value) :: rest

/-- The members for the fields of an object. -/
def ofFields? : List (String × Value) → Except Fault (List (String × Json))
  | [] => .ok []
  | (name, v) :: fs => do
    let value ← ofValue? v
    let rest ← ofFields? fs
    return (name, value) :: rest

end

mutual

/-- The value of a document. -/
def toValue : Json → Value
  | null => .null
  | bool b => .bool b
  | int n => .int n
  | float x => .float x
  | text s => .text s
  | list xs => .list (toValues xs)
  | object ms => .dict (toEntries ms)

/-- The values of several documents. -/
def toValues : List Json → List Value
  | [] => []
  | x :: xs => toValue x :: toValues xs

/-- The pairs for the members of an object. -/
def toEntries : List (String × Json) → List (Value × Value)
  | [] => []
  | (name, j) :: ms => (.text name, toValue j) :: toEntries ms

end

end Json

end Courier
