import Courier.Mishap
import Courier.Value.Whole

/-!
# What is wrong with a YAML text

Most faults are faults of form. The others concern scalars that have the form of a number, a date
or a truth value and are none; `Fault.isForm` tells the two apart, because a caller does.

To a caller, whatever makes a value of a text is an `Interpreter`, which may object to the text: that
it is malformed, in words of its own, or that something else befell it.
-/

namespace Courier.Yaml

/-- What is wrong with a YAML text. -/
inductive Fault where
  /-- A character that has no place in YAML. -/
  | character (c : Char)
  /-- What comes next begins nothing. -/
  | unexpected (line column : Nat)
  /-- The text ends within a quoted scalar. -/
  | unfinished
  /-- A document ends within a quoted scalar. -/
  | documentMark
  | unknownEscape
  /-- The head of a block scalar. -/
  | blockHead
  | directive
  /-- The name of an anchor or an alias. -/
  | anchorName
  | brokenTag
  /-- A key without a colon. -/
  | missingColon (line : Nat)
  | misplacedEntry (line : Nat)
  | misplacedKey (line : Nat)
  | misplacedValue (line : Nat)
  /-- The parts of the text do not make a tree. -/
  | misshapen
  | severalDocuments
  | undefinedAlias (name : String)
  | duplicateAnchor (name : String)
  /-- An alias within what it stands for. -/
  | cyclicAlias (name : String)
  /-- A tag that nothing can be made of. -/
  | unknownTag (tag : String)
  /-- A tag that does not fit the kind of node. -/
  | wrongKind (tag : String)
  /-- A key that is a collection. -/
  | unhashableKey
  | base64
  /-- An escape for a character that does not exist. -/
  | noCharacter
  | number (fault : WholeFault)
  | digits (base : Nat) (text : String)
  | float (text : String)
  | calendar (reason : String)
  | noTruth (text : String)
  | noTime
  | emptyNumber
  /-- A place to the base sixty that is worth more than floating point numbers go. -/
  | hugeWeight
  /-- A collection where a time should be written. -/
  | noText
deriving DecidableEq, Repr

namespace Fault

/-- Whether a fault is one of form. -/
def isForm : Fault → Bool
  | noCharacter | number _ | digits .. | float _ | calendar _ | noTruth _ | noTime
  | emptyNumber | hugeWeight | noText => false
  | _ => true

/-- What kind of mishap a fault is that is not one of form. -/
def kind : Fault → Mishap.Kind
  | noTruth _ => .key
  | noTime => .missingAttribute
  | emptyNumber => .missingItem
  | number .infinite | hugeWeight => .overflow
  | number (.wrongKind _) | noText => .wrongType
  | _ => .value

/-- A line as it is counted in messages. -/
def lineText (line : Nat) : String := "line " ++ Value.natText (line + 1)

/-- What a fault says. -/
def reason : Fault → String
  | character c => "special characters are not allowed: " ++ Text.quoted (String.singleton c)
  | unexpected line column =>
    "found a character that cannot start any token, " ++ lineText line ++ ", column " ++
      Value.natText (column + 1)
  | unfinished => "found unexpected end of stream in a quoted scalar"
  | documentMark => "found unexpected document separator in a quoted scalar"
  | unknownEscape => "found unknown escape character in a quoted scalar"
  | blockHead => "expected chomping or indentation indicators of a block scalar"
  | directive => "could not read a directive"
  | anchorName => "expected alphabetic or numeric characters in the name of an anchor"
  | brokenTag => "could not read a tag"
  | missingColon line => "could not find expected ':' after a key, " ++ lineText line
  | misplacedEntry line => "sequence entries are not allowed here, " ++ lineText line
  | misplacedKey line => "mapping keys are not allowed here, " ++ lineText line
  | misplacedValue line => "mapping values are not allowed here, " ++ lineText line
  | misshapen => "expected the content or the end of a collection"
  | severalDocuments => "expected a single document in the stream"
  | undefinedAlias name => "found undefined alias " ++ Text.quoted name
  | duplicateAnchor name => "found duplicate anchor " ++ Text.quoted name
  | cyclicAlias name => "found unconstructable recursive node " ++ Text.quoted name
  | unknownTag tag => "could not determine a constructor for the tag " ++ Text.quoted tag
  | wrongKind tag => "found a node that does not fit the tag " ++ Text.quoted tag
  | unhashableKey => "found unhashable key"
  | base64 => "failed to decode base64 data"
  | noCharacter => "chr() arg not in range(0x110000)"
  | number fault => fault.message
  | digits base text =>
    "invalid literal for int() with base " ++ Value.natText base ++ ": " ++
      String.ofList ((Text.quoted text).toList.take 200)
  | float text => "could not convert string to float: " ++ Text.quoted text
  | calendar reason => reason
  | noTruth text => text
  | noTime => "'NoneType' object has no attribute 'groupdict'"
  | emptyNumber => "string index out of range"
  | hugeWeight => "int too large to convert to float"
  | noText => "expected string or bytes-like object, got 'list'"

end Fault

/-- Why an interpreter makes no value of a text. -/
inductive Objection where
  /-- The text is malformed. -/
  | form (reason : String)
  /-- Something else befell the interpreter. -/
  | mishap (m : Mishap)
deriving DecidableEq, Repr

/-- Makes a value of a text, or objects to it. -/
abbrev Interpreter := String → Except Objection Value

/-- What a fault means to a caller. -/
def Fault.objection (fault : Fault) : Objection :=
  if fault.isForm then .form fault.reason else .mishap ⟨fault.kind, some fault.reason⟩

end Courier.Yaml
