import Courier.Calendar.Reading
import Courier.Double.Basic

/-!
# Values

What a caller hands over is a `Value`: the variables of a message, the metadata of a record, the
fields of a form that is still to be checked, a document read from a file. Values are trees; a
`Bag` is a list of pairs in which every key stands once.

Numbers of the two kinds and the truth values are one key if they are numerically equal. Putting a
value under a key that is already there keeps the place and the form of the old key.

An object lists its fields. Where a record is written out field by field the objects in its metadata
are too: they are unfolded into bags (`Value.unfolded`). That goes down to a depth below which
values are left as they are.
-/

namespace Courier

/-- The kinds of classes whose objects list their fields. -/
inductive ClassKind where
  /-- A class that does no more than that. -/
  | plain
  /-- A class that checks its fields as well. -/
  | model
deriving DecidableEq, Repr, Inhabited

/-- A value of unknown shape. -/
inductive Value where
  | null
  | bool (b : Bool)
  | int (n : Int)
  | float (x : Double)
  | text (s : String)
  | bytes (bs : List UInt8)
  | date (d : Date)
  | moment (r : Reading)
  | list (items : List Value)
  | tuple (items : List Value)
  | set (items : List Value)
  | dict (entries : List (Value × Value))
  /-- An object of a class of this name, with its fields. -/
  | object (kind : ClassKind) (name : String) (fields : List (String × Value))
  /-- A value that cannot be shown; asking for its text fails with the reason. -/
  | unshowable (reason : String)
deriving Repr, Inhabited

/-- Pairs with a key each, in the order in which the keys were first given. -/
abbrev Bag := List (Value × Value)

namespace Value

/-- The name of a value's kind. -/
def kind : Value → String
  | null => "NoneType"
  | bool _ => "bool"
  | int _ => "int"
  | float _ => "float"
  | text _ => "str"
  | bytes _ => "bytes"
  | date _ => "datetime.date"
  | moment _ => "datetime.datetime"
  | list _ => "list"
  | tuple _ => "tuple"
  | set _ => "set"
  | dict _ => "dict"
  | object _ name _ => name
  | unshowable _ => "Broken"

/-- The number that a truth value or integer stands for. -/
def toInt? : Value → Option Int
  | bool b => some (if b then 1 else 0)
  | int n => some n
  | float x => x.toInt?
  | _ => none

mutual

/-- Whether two values are one key. -/
def sameKey : Value → Value → Bool
  | null, null => true
  | text s, text t => s == t
  | bytes s, bytes t => s == t
  | date d, date e => d == e
  | moment r, moment q =>
    if r.offset.isNone == q.offset.isNone then
      match r.toInstant?, q.toInstant? with
      | some a, some b => a == b
      | _, _ => r == q
    else false
  | tuple xs, tuple ys => sameKeys xs ys
  | float x, float y => x.same y
  | a, b => match toInt? a, toInt? b with
    | some m, some n => m == n
    | _, _ => false

/-- Whether the items of two tuples are the same keys in turn. -/
def sameKeys : List Value → List Value → Bool
  | [], [] => true
  | x :: xs, y :: ys => sameKey x y && sameKeys xs ys
  | _, _ => false

end

/-! ## Objects written out -/

/-- A value with the objects in it unfolded, down to a depth. Keys and members of sets hold no
objects, since what they are unfolded to can be neither. -/
def unfoldedTo : Nat → Value → Value
  | depth + 1, list xs => list (xs.map (unfoldedTo depth))
  | depth + 1, tuple xs => tuple (xs.map (unfoldedTo depth))
  | depth + 1, dict es => dict (es.map fun e => (e.1, unfoldedTo depth e.2))
  | depth + 1, object _ _ fields => dict (fields.map fun f => (text f.1, unfoldedTo depth f.2))
  | _, v => v

/-- How deep values are unfolded. -/
def unfoldDepth : Nat := 255

/-- A value with the objects in it unfolded. -/
def unfolded (v : Value) : Value := v.unfoldedTo unfoldDepth

mutual

/-- Whether there is an object in a value. -/
def holdsObject : Value → Bool
  | list xs | tuple xs => anyHoldsObject xs
  | dict es => entriesHoldObject es
  | object .. => true
  | _ => false

/-- Whether there is an object in one of several values. -/
def anyHoldsObject : List Value → Bool
  | [] => false
  | x :: xs => holdsObject x || anyHoldsObject xs

/-- Whether there is an object in the value of one of several pairs. -/
def entriesHoldObject : List (Value × Value) → Bool
  | [] => false
  | (_, v) :: es => holdsObject v || entriesHoldObject es

end

theorem anyHoldsObject_eq_false_iff {xs : List Value} :
    anyHoldsObject xs = false ↔ ∀ x ∈ xs, x.holdsObject = false := by
  induction xs with
  | nil => simp [anyHoldsObject]
  | cons x xs ih => simp [anyHoldsObject, ih]

theorem entriesHoldObject_eq_false_iff {es : List (Value × Value)} :
    entriesHoldObject es = false ↔ ∀ e ∈ es, e.2.holdsObject = false := by
  induction es with
  | nil => simp [entriesHoldObject]
  | cons e es ih => simp [entriesHoldObject, ih]

/-- Without an object in it a value is left as it is. -/
theorem unfoldedTo_eq_self : ∀ (depth : Nat) {v : Value}, v.holdsObject = false →
    v.unfoldedTo depth = v
  | 0, v, _ => by cases v <;> rfl
  | depth + 1, list xs, h => by
    have each := anyHoldsObject_eq_false_iff.mp h
    rw [unfoldedTo, List.map_congr_left fun x hx => unfoldedTo_eq_self depth (each x hx),
      List.map_id']
  | depth + 1, tuple xs, h => by
    have each := anyHoldsObject_eq_false_iff.mp h
    rw [unfoldedTo, List.map_congr_left fun x hx => unfoldedTo_eq_self depth (each x hx),
      List.map_id']
  | depth + 1, dict es, h => by
    have each := entriesHoldObject_eq_false_iff.mp h
    rw [unfoldedTo, List.map_congr_left fun e he => by rw [unfoldedTo_eq_self depth (each e he)],
      List.map_id']
  | _ + 1, object .., h => by cases h
  | _ + 1, null, _ | _ + 1, bool _, _ | _ + 1, int _, _ | _ + 1, float _, _ | _ + 1, text _, _
  | _ + 1, bytes _, _ | _ + 1, date _, _ | _ + 1, moment _, _ | _ + 1, set _, _
  | _ + 1, unshowable _, _ => rfl

theorem unfolded_eq_self {v : Value} (h : v.holdsObject = false) : v.unfolded = v :=
  unfoldedTo_eq_self unfoldDepth h

/-- What is unfolded is unfolded once and for all. -/
theorem unfoldedTo_unfoldedTo : ∀ (depth : Nat) (v : Value),
    (v.unfoldedTo depth).unfoldedTo depth = v.unfoldedTo depth
  | 0, v => by cases v <;> rfl
  | depth + 1, list xs => by
    simp only [unfoldedTo, List.map_map, Function.comp_def, unfoldedTo_unfoldedTo depth]
  | depth + 1, tuple xs => by
    simp only [unfoldedTo, List.map_map, Function.comp_def, unfoldedTo_unfoldedTo depth]
  | depth + 1, dict es => by
    simp only [unfoldedTo, List.map_map, Function.comp_def, unfoldedTo_unfoldedTo depth]
  | depth + 1, object _ _ fields => by
    simp only [unfoldedTo, List.map_map, Function.comp_def, unfoldedTo_unfoldedTo depth]
  | _ + 1, null | _ + 1, bool _ | _ + 1, int _ | _ + 1, float _ | _ + 1, text _ | _ + 1, bytes _
  | _ + 1, date _ | _ + 1, moment _ | _ + 1, set _ | _ + 1, unshowable _ => rfl

theorem unfolded_unfolded (v : Value) : v.unfolded.unfolded = v.unfolded :=
  unfoldedTo_unfoldedTo unfoldDepth v

example : (tuple [object .plain "Job" [("id", text "J-7")], null]).unfolded =
    tuple [dict [(text "id", text "J-7")], null] := by rfl

end Value

namespace Bag

/-- The value under a key. -/
def get? (bag : Bag) (key : Value) : Option Value :=
  (bag.find? fun e => e.1.sameKey key).map Prod.snd

/-- The value under a text key. -/
def getText? (bag : Bag) (key : String) : Option Value := get? bag (.text key)

/-- The bag with a value put under a key. -/
def put : Bag → Value → Value → Bag
  | [], key, v => [(key, v)]
  | (k, old) :: rest, key, v =>
    if k.sameKey key then (k, v) :: rest else (k, old) :: put rest key v

/-- The bag of a list of pairs, the last of several values for a key winning. -/
def ofPairs (pairs : List (Value × Value)) : Bag :=
  pairs.foldl (fun bag e => bag.put e.1 e.2) []

/-- Whether a key is in the bag. -/
def has (bag : Bag) (key : Value) : Bool := bag.any fun e => e.1.sameKey key

@[simp] theorem get?_nil (key : Value) : get? [] key = none := rfl

theorem getText?_put_self (bag : Bag) (key : String) (v : Value) :
    getText? (bag.put (.text key) v) key = some v := by
  induction bag with
  | nil => simp [put, getText?, get?, Value.sameKey]
  | cons e rest ih =>
    obtain ⟨k, old⟩ := e
    by_cases h : k.sameKey (.text key)
    · simp [put, h, getText?, get?]
    · simpa [put, h, getText?, get?] using ih

theorem sameKey_text_iff {v : Value} {key : String} :
    v.sameKey (.text key) = true ↔ v = .text key := by
  cases v <;> simp [Value.sameKey, Value.toInt?]

theorem getText?_put_of_ne {key other : String} (h : key ≠ other) (bag : Bag) (v : Value) :
    getText? (bag.put (.text other) v) key = bag.getText? key := by
  have apart : (Value.text other).sameKey (.text key) = false := by
    simpa [Value.sameKey] using Ne.symm h
  induction bag with
  | nil => simp [put, getText?, get?, apart]
  | cons e rest ih =>
    obtain ⟨k, old⟩ := e
    by_cases same : k.sameKey (.text other) = true
    · obtain rfl := sameKey_text_iff.mp same
      simp [put, getText?, get?, same, apart]
    · by_cases found : k.sameKey (.text key) = true
      · simp [put, getText?, get?, same, found]
      · simpa [put, getText?, get?, same, found] using ih

end Bag

end Courier
