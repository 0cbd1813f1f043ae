import Courier.Value.Text

/-!
# Log entries

An entry says how grave an event is, where it was noticed and what happened, and carries named
fields. Operations return the entries they give rise to; nothing is written here.

An entry made within a scope takes over the fields of the scope. What the entry says itself comes
first: `Fields.addMissing` never changes a field that is there.
-/

namespace Courier.Log

/-- How grave an event is: a name, and a rank by which thresholds let it through. -/
structure Level where
  /-- A threshold lets through what ranks at or above it. -/
  rank : Nat
  name : String
deriving DecidableEq, Repr, Inhabited

namespace Level

def debug : Level := ⟨10, "DEBUG"⟩

def info : Level := ⟨20, "INFO"⟩

def warning : Level := ⟨30, "WARNING"⟩

def error : Level := ⟨40, "ERROR"⟩

def critical : Level := ⟨50, "CRITICAL"⟩

end Level

/-- Named values, in the order in which the names were first given. -/
abbrev Fields := List (String × Value)

namespace Fields

/-- The value of a field. -/
def get? (fields : Fields) (name : String) : Option Value :=
  (fields.find? fun f => f.1 == name).map Prod.snd

/-- Whether a field is there. -/
def has (fields : Fields) (name : String) : Bool := fields.any fun f => f.1 == name

/-- The fields with one of them set. -/
def put : Fields → String → Value → Fields
  | [], name, v => [(name, v)]
  | (n, old) :: rest, name, v => if n == name then (n, v) :: rest else (n, old) :: put rest name v

/-- The fields with others set over them. -/
def merge (fields more : Fields) : Fields := more.foldl (fun fs f => put fs f.1 f.2) fields

/-- The fields with those of a scope that are not there yet. -/
def addMissing (fields scope : Fields) : Fields :=
  scope.foldl (fun fs f => if has fs f.1 then fs else fs ++ [f]) fields

@[simp] theorem get?_nil (name : String) : get? [] name = none := rfl

@[simp] theorem addMissing_nil (fields : Fields) : addMissing fields [] = fields := rfl

theorem get?_put_self (fields : Fields) (name : String) (v : Value) :
    get? (put fields name v) name = some v := by
  induction fields with
  | nil => simp [put, get?]
  | cons f rest ih =>
    obtain ⟨n, old⟩ := f
    by_cases h : n == name
    · simp [put, h, get?]
    · simpa [put, h, get?] using ih

theorem get?_put_of_ne (fields : Fields) {name other : String} (v : Value) (h : name ≠ other) :
    get? (put fields name v) other = get? fields other := by
  induction fields with
  | nil => simp [put, get?, h]
  | cons f rest ih =>
    obtain ⟨n, old⟩ := f
    by_cases hn : n = name
    · subst hn
      simp [put, get?, h]
    · by_cases ho : n = other
      · subst ho
        simp [put, hn, get?]
      · simpa [put, hn, get?, ho] using ih

end Fields

/-- One event. -/
structure Entry where
  level : Level
  /-- The dotted name of the place that noticed the event. -/
  source : String
  message : String
  fields : Fields := []
  /-- A failure shown below the message. -/
  failure : Option String := none
deriving Repr, Inhabited

/-- An entry within a scope. -/
def Entry.under (e : Entry) (scope : Fields) : Entry :=
  { e with fields := e.fields.addMissing scope }

/-- A place that notices events, and the part of the program it belongs to. -/
structure Source where
  name : String
  component : Option String := none

/-- The fields of every entry from a place. -/
def Source.fields (source : Source) : Fields :=
  match source.component with
  | none => []
  | some component => [("component", .text component)]

/-- An entry from a place; its own fields win over those of the place. -/
def Source.entry (source : Source) (level : Level) (message : String) (fields : Fields := []) :
    Entry :=
  ⟨level, source.name, message, source.fields.merge fields, none⟩

end Courier.Log
