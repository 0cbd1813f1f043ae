import Courier.Yaml.Token

/-!
# Nodes of YAML

A document is a tree of nodes: scalars, sequences and mappings, each with its tag if it has one. An
anchor names a node; an alias stands for the node that was named before. `Node.ofTokens` reads the
one document of a text.
-/

namespace Courier.Yaml

/-- A node. -/
inductive Node where
  /-- A scalar; one that is not `plain` is a text unless its tag says something else. -/
  | scalar (tag : Option String) (plain : Bool) (text : String)
  | sequence (tag : Option String) (items : List Node)
  | mapping (tag : Option String) (entries : List (Node × Node))
deriving Repr, Inhabited

/-- A node of which nothing was written. -/
def Node.empty : Node := .scalar none true ""

/-- How far tokens are read. -/
structure Reader where
  tokens : List Token
  /-- What was named so far; nothing for a collection that is still being read. -/
  anchors : List (String × Option Node) := []
  /-- What the handles of tags stand for. -/
  handles : List (String × String)

/-- A node, and how far the tokens are read. -/
abbrev ReadNode := Except Fault (Node × Reader)

namespace Reader

/-- The handles that stand for something unless a directive says otherwise. -/
def defaultHandles : List (String × String) := [("!", "!"), ("!!", "tag:yaml.org,2002:")]

/-- The reader after the next token. -/
def next (r : Reader) : Reader := { r with tokens := r.tokens.tail }

/-- What a tag stands for; a lone exclamation mark stands for no tag. -/
def expand (r : Reader) (name : TagName) : Except Fault String :=
  match name.handle with
  | none => .ok name.rest
  | some handle =>
    match r.handles.lookup handle with
    | some beginning => .ok (beginning ++ name.rest)
    | none => .error .brokenTag

/-- What stands in front of a node. -/
structure Front where
  anchor : Option String := none
  tag : Option String := none

/-- Whether nothing stands in front of a node. -/
def Front.isNothing (f : Front) : Bool := f.anchor.isNone && f.tag.isNone

/-- The tag in front of a node, if it is not just an exclamation mark. -/
def Front.ownTag (f : Front) : Option String := f.tag.filter (· != "!")

/-- Whether a scalar with this in front is read like a plain one. -/
def Front.isPlain (f : Front) (plain : Bool) : Bool :=
  f.tag == some "!" || (plain && f.tag.isNone)

/-- The anchor and the tag in front of a node, in either order. -/
def front (r : Reader) : Except Fault (Front × Reader) :=
  match r.tokens with
  | .anchor anchor :: .tag name :: rest => do
    return (⟨some anchor, some (← r.expand name)⟩, { r with tokens := rest })
  | .tag name :: .anchor anchor :: rest => do
    return (⟨some anchor, some (← r.expand name)⟩, { r with tokens := rest })
  | .anchor anchor :: rest => .ok (⟨some anchor, none⟩, { r with tokens := rest })
  | .tag name :: rest => do return (⟨none, some (← r.expand name)⟩, { r with tokens := rest })
  | _ => .ok ({}, r)

/-- The reader once an anchor names what is still being read. -/
def begun (r : Reader) (anchor : Option String) : Except Fault Reader :=
  match anchor with
  | none => .ok r
  | some name =>
    if (r.anchors.lookup name).isSome then .error (.duplicateAnchor name)
    else .ok { r with anchors := (name, none) :: r.anchors }

/-- The reader once an anchor names a node. -/
def named (r : Reader) (anchor : Option String) (n : Node) : Reader :=
  match anchor with
  | none => r
  | some name =>
    { r with anchors := r.anchors.map fun a => if a.1 == name then (name, some n) else a }

/-- Whether a node is left out before this token. -/
def isLeftOut (stops : List Token) : List Token → Bool
  | [] => true
  | t :: _ => stops.contains t

/-- The reader after the comma that must stand between two items. -/
def afterComma (first : Bool) (r : Reader) : Except Fault Reader :=
  if first then .ok r
  else match r.tokens with
    | .comma :: _ => .ok r.next
    | _ => .error .misshapen

mutual

/-- The next node, with at most `fuel` nodes and collections inside of each other and in a row.
Outside of brackets, collections may be opened by indentation (`block`), and the entries of a
sequence may stand in the column of the key before it (`flat`). -/
def node (block flat : Bool) : Nat → Reader → ReadNode
  | 0, _ => .error .misshapen
  | fuel + 1, r =>
    match r.tokens with
    | .alias name :: _ =>
      match r.anchors.lookup name with
      | some (some n) => .ok (n, r.next)
      | some none => .error (.cyclicAlias name)
      | none => .error (.undefinedAlias name)
    | _ => do
      let (front, r) ← r.front
      let r ← r.begun front.anchor
      let (n, r) ← content block flat front fuel r
      return (n, r.named front.anchor n)

/-- What comes after the anchor and the tag of a node. -/
def content (block flat : Bool) (front : Front) : Nat → Reader → ReadNode
  | 0, _ => .error .misshapen
  | fuel + 1, r =>
    match r.tokens, block, flat with
    | .entry :: _, _, true => do
      let (items, r) ← flatEntries fuel r
      return (.sequence front.ownTag items, r)
    | .scalar text plain :: _, _, _ =>
      .ok (.scalar front.ownTag (front.isPlain plain) text, r.next)
    | .openSequence :: _, _, _ => do
      let (items, r) ← bracketItems true fuel r.next
      return (.sequence front.ownTag items, r)
    | .openMapping :: _, _, _ => do
      let (entries, r) ← bracketEntries true fuel r.next
      return (.mapping front.ownTag entries, r)
    | .blockSequence :: _, true, _ => do
      let (items, r) ← blockItems fuel r.next
      return (.sequence front.ownTag items, r)
    | .blockMapping :: _, true, _ => do
      let (entries, r) ← blockEntries fuel r.next
      return (.mapping front.ownTag entries, r)
    | _, _, _ =>
      if front.isNothing then .error .misshapen
      else .ok (.scalar front.ownTag (front.ownTag.isNone) "", r)

/-- A node, or an empty one before a token that ends it. -/
def nodeOr (stops : List Token) (block flat : Bool) : Nat → Reader → ReadNode
  | 0, _ => .error .misshapen
  | fuel + 1, r =>
    if isLeftOut stops r.tokens then .ok (.empty, r) else node block flat fuel r

/-- The items of a sequence that was opened by indentation. -/
def blockItems : Nat → Reader → Except Fault (List Node × Reader)
  | 0, _ => .error .misshapen
  | fuel + 1, r =>
    match r.tokens with
    | .entry :: _ => do
      let (item, r) ← nodeOr [.entry, .blockEnd] true false fuel r.next
      let (more, r) ← blockItems fuel r
      return (item :: more, r)
    | .blockEnd :: _ => .ok ([], r.next)
    | _ => .error .misshapen

/-- The items of a sequence in the column of the key before it. -/
def flatEntries : Nat → Reader → Except Fault (List Node × Reader)
  | 0, _ => .error .misshapen
  | fuel + 1, r =>
    match r.tokens with
    | .entry :: _ => do
      let (item, r) ← nodeOr [.entry, .key, .value, .blockEnd] true false fuel r.next
      let (more, r) ← flatEntries fuel r
      return (item :: more, r)
    | _ => .ok ([], r)

/-- The entries of a mapping that was opened by indentation. -/
def blockEntries : Nat → Reader → Except Fault (List (Node × Node) × Reader)
  | 0, _ => .error .misshapen
  | fuel + 1, r =>
    match r.tokens with
    | .key :: _ => do
      let (key, r) ← nodeOr [.key, .value, .blockEnd] true true fuel r.next
      let (value, r) ← valueOr [.key, .value, .blockEnd] true fuel r
      let (more, r) ← blockEntries fuel r
      return ((key, value) :: more, r)
    | .blockEnd :: _ => .ok ([], r.next)
    | _ => .error .misshapen

/-- The value after a key, or an empty one. -/
def valueOr (stops : List Token) (block : Bool) : Nat → Reader → ReadNode
  | 0, _ => .error .misshapen
  | fuel + 1, r =>
    match r.tokens with
    | .value :: _ => nodeOr stops block block fuel r.next
    | _ => .ok (.empty, r)

/-- The items of a sequence between brackets. A key among them makes a mapping of one entry. -/
def bracketItems (first : Bool) : Nat → Reader → Except Fault (List Node × Reader)
  | 0, _ => .error .misshapen
  | fuel + 1, r =>
    match r.tokens with
    | .closeSequence :: _ => .ok ([], r.next)
    | _ => do
      let r ← afterComma first r
      match r.tokens with
      | .closeSequence :: _ => return ([], r.next)
      | .key :: _ =>
        let (key, r) ← nodeOr [.value, .comma, .closeSequence] false false fuel r.next
        let (value, r) ← valueOr [.comma, .closeSequence] false fuel r
        let (more, r) ← bracketItems false fuel r
        return (.mapping none [(key, value)] :: more, r)
      | _ =>
        let (item, r) ← node false false fuel r
        let (more, r) ← bracketItems false fuel r
        return (item :: more, r)

/-- The entries of a mapping between brackets. A node that is no key is one without a value. -/
def bracketEntries (first : Bool) : Nat → Reader → Except Fault (List (Node × Node) × Reader)
  | 0, _ => .error .misshapen
  | fuel + 1, r =>
    match r.tokens with
    | .closeMapping :: _ => .ok ([], r.next)
    | _ => do
      let r ← afterComma first r
      match r.tokens with
      | .closeMapping :: _ => return ([], r.next)
      | .key :: _ =>
        let (key, r) ← nodeOr [.value, .comma, .closeMapping] false false fuel r.next
        let (value, r) ← valueOr [.comma, .closeMapping] false fuel r
        let (more, r) ← bracketEntries false fuel r
        return ((key, value) :: more, r)
      | _ =>
        let (key, r) ← node false false fuel r
        let (more, r) ← bracketEntries false fuel r
        return ((key, .empty) :: more, r)

end

/-! ## Documents -/

/-- What the directives in front of a document say about tags; `version` if one has named the
version of YAML. -/
def directives (version : Bool) (handles : List (String × String)) :
    List Token → Except Fault (List (String × String) × List Token)
  | .directive (.version major) :: rest =>
    if version || major != 1 then .error .directive else directives true handles rest
  | .directive (.handle name beginning) :: rest =>
    if (handles.lookup name).isSome then .error .directive
    else directives version ((name, beginning) :: handles) rest
  | .directive .other :: rest => directives version handles rest
  | tokens => .ok (handles, tokens)

/-- The tokens after the ends of documents. -/
def afterEnds : List Token → List Token
  | .documentEnd :: rest => afterEnds rest
  | tokens => tokens

/-- Whether a document ends before this token. -/
def endsDocument : Token → Bool
  | .directive _ | .documentStart | .documentEnd | .streamEnd => true
  | _ => false

/-- How many nodes and collections there can be at most. -/
def fuelFor (tokens : List Token) : Nat := 4 * tokens.length + 8

/-- The document that tokens begin with, and the tokens after it. -/
def document (handles : List (String × String)) (tokens : List Token) :
    Except Fault (Node × List Token) := do
  let (n, r) ← node true false (fuelFor tokens) { tokens := tokens, handles := handles }
  return (n, r.tokens)

/-- The document after its directives, and the tokens after it. -/
def explicitDocument (tokens : List Token) : Except Fault (Node × List Token) := do
  let (handles, tokens) ← directives false [] tokens
  match tokens with
  | .documentStart :: rest =>
    if rest.head?.all endsDocument then return (.empty, rest)
    else document (handles ++ defaultHandles) rest
  | _ => throw .misshapen

/-- Whether nothing is left of the tokens. -/
def isOver : List Token → Bool
  | [.streamEnd] => true
  | _ => false

/-- Whether a document begins without a mark of its own. -/
def beginsBare : List Token → Bool
  | .directive _ :: _ | .documentStart :: _ => false
  | _ => true

end Reader

open Reader in
/-- The one document that tokens make, if there is one. -/
def Node.ofTokens (tokens : List Token) : Except Fault (Option Node) :=
  if isOver tokens then .ok none
  else do
    let (n, rest) ← if beginsBare tokens then document defaultHandles tokens
      else explicitDocument tokens
    if isOver (afterEnds rest) then return some n else throw .severalDocuments

end Courier.Yaml
