import Courier.Yaml.Node
import Courier.Yaml.Scalar

/-!
# Documents

`Yaml.read` reads the value of a YAML text that holds one document; a text without a document is
read as nothing. Mappings become bags: the last of several values for a key wins. The entries of a
mapping under the key for merging come before the mapping's own, and lose against them.
-/

namespace Courier.Yaml

/-- Pairs of keys and values. -/
abbrev Pairs := List (Value × Value)

/-- Whether a value may be a key. -/
def isKey : Value → Bool
  | .list _ | .dict _ | .set _ => false
  | _ => true

/-- What a scalar stands for. -/
def kindOf (tag : Option String) (plain : Bool) (text : String) : Kind :=
  match tag with
  | some tag => .ofTag tag
  | none => if plain then .implied text else .text

/-- What a node stands for. -/
def Node.kind : Node → Kind
  | .scalar tag plain text => kindOf tag plain text
  | .sequence tag _ => (tag.map Kind.ofTag).getD .sequence
  | .mapping tag _ => (tag.map Kind.ofTag).getD .mapping

mutual

/-- The text of a node where a scalar should be: a mapping may have one under the key for it. -/
def Node.scalarText? : Node → Option String
  | .scalar _ _ text => some text
  | .sequence .. => none
  | .mapping _ entries => scalarTextIn? entries

/-- The text under the key for it. -/
def scalarTextIn? : List (Node × Node) → Option String
  | [] => none
  | (key, value) :: rest =>
    if key.kind = .default then value.scalarText? else scalarTextIn? rest

end

/-- The value of a node that is no collection, or is none by its tag. -/
def Node.leaf (n : Node) : Except Fault Value :=
  match n.kind, n with
  | .other tag, _ => .error (.unknownTag tag)
  | kind, .scalar _ _ text => scalarOf kind text
  | kind, n =>
    match n.scalarText? with
    | some text => if kind = .time then .error .noText else scalarOf kind text
    | none => .error (.wrongKind "")

/-- The value of a node as a key, which may not be a collection. The key for the text of a scalar is
that text. -/
def keyOf (n : Node) (v : Except Fault Value) : Except Fault Value :=
  if n.kind = .default then
    match n.scalarText? with
    | some text => .ok (.text text)
    | none => .error (.wrongKind "")
  else do
    let v ← v
    if isKey v then return v else throw .unhashableKey

mutual

/-- The value of a node. -/
def Node.toValue : Node → Except Fault Value
  | .scalar tag plain text => (Node.scalar tag plain text).leaf
  | .sequence tag items =>
    match (Node.sequence tag items).kind with
    | .sequence => (valuesOf items).map .list
    | .pairs => (tuplesOf items).map .list
    | _ => (Node.sequence tag items).leaf
  | .mapping tag entries =>
    match (Node.mapping tag entries).kind with
    | .mapping => (pairsOf entries).map fun p => .dict (Bag.ofPairs (p.1 ++ p.2))
    | .set => (pairsOf entries).map fun p => .set ((Bag.ofPairs (p.1 ++ p.2)).map Prod.fst)
    | _ => (Node.mapping tag entries).leaf

/-- The values of nodes. -/
def valuesOf : List Node → Except Fault (List Value)
  | [] => .ok []
  | n :: rest => do
    let v ← n.toValue
    return v :: (← valuesOf rest)

/-- The values of mappings of one entry each. -/
def tuplesOf : List Node → Except Fault (List Value)
  | [] => .ok []
  | n :: rest => do
    let t ← n.toTuple
    return t :: (← tuplesOf rest)

/-- The only entry of a mapping. -/
def Node.toTuple : Node → Except Fault Value
  | .mapping _ [(key, value)] => do
    let k ← key.toValue
    let v ← value.toValue
    return .tuple [k, v]
  | _ => .error (.wrongKind "")

/-- The pairs of a mapping: those that are merged, and its own. -/
def pairsOf : List (Node × Node) → Except Fault (Pairs × Pairs)
  | [] => .ok ([], [])
  | (key, value) :: rest => do
    if key.kind = .merge then
      let merged ← value.merged
      let (more, own) ← pairsOf rest
      return (merged ++ more, own)
    else
      let k ← keyOf key key.toValue
      let v ← value.toValue
      let (merged, own) ← pairsOf rest
      return (merged, (k, v) :: own)

/-- The pairs that a mapping or a list of mappings contributes to another mapping; of several
mappings the last comes first. -/
def Node.merged : Node → Except Fault Pairs
  | .mapping _ entries => (pairsOf entries).map fun p => p.1 ++ p.2
  | .sequence _ items => mergedAll items
  | .scalar .. => .error (.wrongKind "")

/-- The pairs that mappings contribute. -/
def mergedAll : List Node → Except Fault Pairs
  | [] => .ok []
  | n :: rest => do
    let first ← n.ownPairs
    return (← mergedAll rest) ++ first

/-- The pairs of a mapping in a list of mappings. -/
def Node.ownPairs : Node → Except Fault Pairs
  | .mapping _ entries => (pairsOf entries).map fun p => p.1 ++ p.2
  | _ => .error (.wrongKind "")

end

/-- The value of a text. -/
def read (text : String) : Except Fault Value := do
  match ← Node.ofTokens (← Token.scan text) with
  | some n => n.toValue
  | none => return .null

/-- What this library makes of a text. -/
def interpret : Interpreter := fun text => (read text).mapError Fault.objection

theorem interpret_of_read {text : String} {v : Value} (h : read text = .ok v) :
    interpret text = .ok v := by
  rw [interpret, h]
  rfl

/-- No text stops the program. -/
theorem isInterrupt_of_interpret {text : String} {m : Mishap}
    (h : interpret text = .error (.mishap m)) : m.isInterrupt = false := by
  have objection : ∀ fault : Fault, fault.objection = .mishap m → m.isInterrupt = false := by
    intro fault hm
    rw [Fault.objection] at hm
    split at hm
    · cases hm
    · obtain rfl := Objection.mishap.inj hm
      cases fault with
      | number fault => cases fault <;> rfl
      | _ => rfl
  unfold interpret at h
  cases hread : read text with
  | error fault =>
    rw [hread] at h
    exact objection fault (Except.error.inj h)
  | ok v =>
    rw [hread] at h
    cases h

end Courier.Yaml
