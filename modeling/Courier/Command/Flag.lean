import Courier.Text.Cut
import Courier.Text.Digit
import Courier.Text.Quoted
import Courier.Value.Whole

/-!
# Flags

The grammar of a command line: words that begin with a hyphen name flags, and most flags take a
value, which is the next word or follows an equals sign. A long flag may be shortened as long as no
other flag begins alike. After a word of two hyphens no word is a flag any more.

All words are sorted first (`Flag.sort`) and then read from the left (`Flag.scan`). What is left
over, neither a flag nor the value of one, is kept for the caller to judge.
-/

namespace Courier

/-- What a flag takes. -/
inductive Flag.Takes where
  /-- No value: the flag asks for help. -/
  | nothing
  | text
  | whole
  | choice (choices : List String)
deriving DecidableEq, Repr

/-- A flag with its names. -/
structure Flag where
  names : List String
  takes : Flag.Takes := .text
deriving DecidableEq, Repr

namespace Flag

/-- The flag that asks for help. -/
def help : Flag := ⟨["-h", "--help"], .nothing⟩

/-- The flag as messages name it. -/
def text (f : Flag) : String := "/".intercalate f.names

/-- What is wrong with the words of a command line. -/
inductive Fault where
  | ambiguous (word : String) (names : List String)
  | noValue (flag : Flag)
  | ignoredValue (flag : Flag) (value : String)
  | notAChoice (name value : String) (choices : List String)
  | notAWhole (flag : Flag) (value : String)
  | required (names : List String)
  | unrecognized (words : List String)
deriving DecidableEq, Repr

/-- What a user is told. -/
def Fault.message : Fault → String
  | ambiguous word names =>
    "ambiguous option: " ++ word ++ " could match " ++ ", ".intercalate names
  | noValue flag => "argument " ++ flag.text ++ ": expected one argument"
  | ignoredValue flag value =>
    "argument " ++ flag.text ++ ": ignored explicit argument " ++ Text.quoted value
  | notAChoice name value choices =>
    "argument " ++ name ++ ": invalid choice: " ++ Text.quoted value ++ " (choose from " ++
      ", ".intercalate (choices.map Text.quoted) ++ ")"
  | notAWhole flag value => "argument " ++ flag.text ++ ": invalid int value: " ++ Text.quoted value
  | required names => "the following arguments are required: " ++ ", ".intercalate names
  | unrecognized words => "unrecognized arguments: " ++ " ".intercalate words

/-! ## Sorting words -/

/-- What a word is. -/
inductive WordKind where
  | plain
  /-- The word after which no word is a flag. -/
  | divider
  /-- A flag, by one of its names, with the value that is part of the word. -/
  | flag (f : Flag) (isLong : Bool) (value : Option String)
  /-- A word that looks like a flag and is none. -/
  | unknown
deriving DecidableEq, Repr

/-- A word with what it is. -/
abbrev Word := String × WordKind

/-- The flags by name. -/
def named (flags : List Flag) : List (String × Flag) :=
  flags.flatMap fun f => f.names.map fun name => (name, f)

/-- Whether a name is a long one. -/
def isLongName (name : String) : Bool := name.startsWith "--"

/-- Whether a word is a negative number. -/
def isNegative (word : String) : Bool :=
  match Text.withoutLineEnd word.toList with
  | '-' :: cs =>
    let rest := cs.dropWhile Text.isDigit
    match rest with
    | [] => !cs.isEmpty
    | '.' :: decimals => !decimals.isEmpty && decimals.all Text.isDigit
    | _ => false
  | _ => false

/-- The word before the first equals sign, and what follows it. -/
def cut (word : String) : String × Option String :=
  match Text.cutFirst ['='] word.toList with
  | some (before, after) => (String.ofList before, some (String.ofList after))
  | none => (word, none)

/-- The flags that a word may mean without naming one in full: a long word is the beginning of a
long name, a short one begins with a short name. -/
def candidates (flags : List Flag) (word : String) : List (String × Flag × Option String) :=
  if isLongName word then
    let (start, value) := cut word
    ((named flags).filter fun n => n.1.startsWith start).map fun n => (n.1, n.2, value)
  else
    let short := String.ofList (word.toList.take 2)
    ((named flags).filter fun n => n.1 == short).map fun n =>
      (n.1, n.2, some (String.ofList (word.toList.drop 2)))

/-- What a word is that begins with a hyphen and has more than that. -/
def sortHyphened (flags : List Flag) (word : String) : Except Fault WordKind :=
  let (start, value) := cut word
  match (named flags).lookup word, value.bind fun _ => (named flags).lookup start with
  | some f, _ => .ok (.flag f (isLongName word) none)
  | none, some f => .ok (.flag f (isLongName start) value)
  | none, none =>
    match candidates flags word with
    | [(name, f, value)] => .ok (.flag f (isLongName name) value)
    | [] => .ok (if isNegative word || word.toList.contains ' ' then .plain else .unknown)
    | several => .error (.ambiguous word (several.map Prod.fst))

/-- What a word is. -/
def sortWord (flags : List Flag) (word : String) : Except Fault WordKind :=
  if word.startsWith "-" && word != "-" then sortHyphened flags word else .ok .plain

/-- What every word is. -/
def sort (flags : List Flag) : List String → Except Fault (List Word)
  | [] => .ok []
  | "--" :: rest => .ok (("--", .divider) :: rest.map fun word => (word, .plain))
  | word :: rest =>
    match sortWord flags word with
    | .error fault => .error fault
    | .ok s => (sort flags rest).map ((word, s) :: ·)

/-! ## Reading words -/

/-- What comes of reading words: the values of flags in order, the words left over, and the first
plain word with all that follows it, where such a word is looked for. -/
structure Reading where
  values : List (Flag × String) := []
  extras : List String := []
  command : Option (List String) := none
deriving DecidableEq, Repr

/-- Why reading ends early. -/
inductive Stop where
  | help
  | fault (f : Fault)
deriving DecidableEq, Repr

namespace Reading

/-- The reading with a value before the others. -/
def withValue (f : Flag) (value : String) (r : Reading) : Reading :=
  { r with values := (f, value) :: r.values }

/-- The reading with a word left over before the others. -/
def withExtra (word : String) (r : Reading) : Reading := { r with extras := word :: r.extras }

/-- The last value of a flag. -/
def last? (r : Reading) (f : Flag) : Option String :=
  ((r.values.filter fun v => v.1 == f).getLast?).map Prod.snd

/-- Every value of a flag. -/
def all (r : Reading) (f : Flag) : List String :=
  (r.values.filter fun v => v.1 == f).map Prod.snd

end Reading

/-- A value that a flag may take. -/
def accept (f : Flag) (value : String) : Except Stop Unit :=
  match f.takes with
  | .nothing | .text => .ok ()
  | .whole => if (Text.whole? value).isOk then .ok () else .error (.fault (.notAWhole f value))
  | .choice choices =>
    if choices.contains value then .ok () else .error (.fault (.notAChoice f.text value choices))

/-- What asking for help comes to with a value in the same word; there a short flag may be
repeated. -/
def askForHelp (f : Flag) (isLong : Bool) (value : String) : Stop :=
  if isLong || value.isEmpty then .fault (.ignoredValue f value)
  else
    match value.toList.dropWhile (· == 'h') with
    | [] => .help
    | rest => .fault (.ignoredValue f (String.ofList rest))

/-- The reading of sorted words; `seeks` says whether a plain word is a command. -/
def scan (seeks : Bool) : List Word → Except Stop Reading
  | [] => .ok {}
  | (word, .plain) :: rest =>
    if seeks then .ok { command := some (word :: rest.map Prod.fst) }
    else (scan seeks rest).map (·.withExtra word)
  | (word, .divider) :: rest =>
    if seeks && !rest.isEmpty then .ok { command := some (word :: rest.map Prod.fst) }
    else (scan seeks rest).map (·.withExtra word)
  | (word, .unknown) :: rest => (scan seeks rest).map (·.withExtra word)
  | (_, .flag f isLong (some value)) :: rest =>
    if f.takes = .nothing then .error (askForHelp f isLong value)
    else do
      accept f value
      return (← scan seeks rest).withValue f value
  | (_, .flag f _ none) :: (value, .plain) :: rest =>
    if f.takes = .nothing then .error .help
    else do
      accept f value
      return (← scan seeks rest).withValue f value
  | (_, .flag f _ none) :: _ =>
    if f.takes = .nothing then .error .help else .error (.fault (.noValue f))

/-- The reading of words with some flags. -/
def read (flags : List Flag) (seeks : Bool) (words : List String) : Except Stop Reading := do
  scan seeks (← (sort flags words).mapError .fault)

end Flag

end Courier
