import Courier.Value.Text

/-!
# Messages with arguments

A message may hold conversions, each introduced by a percent sign, that arguments replace in turn:
`%s` by the text of a value, `%r` by its quoted text, `%d` by an integer. Two percent signs stand
for one. A message without arguments is left as it is.
-/

namespace Courier.Log

/-- Why arguments do not fit a message. -/
inductive MessageFault where
  | text (fault : TextFault)
  | tooFew
  | tooMany
  /-- An integer was asked for. -/
  | notANumber (kind : String)
  | unknownConversion (c : Char) (index : Nat)
  | unfinished
deriving DecidableEq, Repr

/-- The name of a fault. -/
def MessageFault.label : MessageFault → String
  | text fault => fault.label
  | unknownConversion .. | unfinished => "ValueError"
  | tooFew | tooMany | notANumber _ => "TypeError"

/-- What a caller is told. -/
def MessageFault.message : MessageFault → String
  | text fault => fault.message
  | tooFew => "not enough arguments for format string"
  | tooMany => "not all arguments converted during string formatting"
  | notANumber kind => "%d format: a real number is required, not " ++ kind
  | unknownConversion c index =>
    "unsupported format character '" ++ String.singleton c ++ "' (0x" ++
      Text.hex 1 c.toNat ++ ") at index " ++ Value.natText index
  | unfinished => "incomplete format"

/-- The text that a conversion makes of an argument. -/
def converted? (conversion : Char) (index : Nat) (v : Value) : Except MessageFault String :=
  if conversion == 's' then v.text?.mapError .text
  else if conversion == 'r' then v.quoted?.mapError .text
  else if conversion == 'd' || conversion == 'i' then
    match v with
    | .bool b => .ok (if b then "1" else "0")
    | .int n => (Value.intText? n).mapError .text
    | .float x => match x.truncate? with
      | some n => .ok (Value.intText n)
      | none => .error (.notANumber "float")
    | v => .error (.notANumber (v.kind))
  else .error (.unknownConversion conversion index)

/-- The rest of a message from a position on, with the arguments left. -/
def spliceFrom? : Nat → List Char → List Value → Except MessageFault (List Char)
  | _, [], [] => .ok []
  | _, [], _ :: _ => .error .tooMany
  | _, ['%'], _ => .error .unfinished
  | index, '%' :: c :: rest, args =>
    if c == '%' then (spliceFrom? (index + 2) rest args).map ('%' :: ·)
    else match args with
      | [] => .error .tooFew
      | v :: args => do
        let new ← converted? c (index + 1) v
        let more ← spliceFrom? (index + 2) rest args
        return new.toList ++ more
  | index, c :: rest, args => (spliceFrom? (index + 1) rest args).map (c :: ·)

/-- A message with its arguments put in. -/
def splice? (message : String) (args : List Value) : Except MessageFault String :=
  if args.isEmpty then .ok message
  else (spliceFrom? 0 message.toList args).map String.ofList

end Courier.Log
