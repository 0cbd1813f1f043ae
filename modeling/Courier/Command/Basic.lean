import Courier.Command.Flag
import Courier.Log.Entry
import Courier.Settings.Section
import Courier.Text.Path

/-!
# Commands

What the command line can ask for: to send one notification, to count, to list what a recipient was
sent, and to look for records that stay pending. `Invocation.read` understands the words of a
command line; where it does not, or where help is asked for, it says so in a `Refusal`.
-/

namespace Courier

/-- What a command line can ask for. -/
inductive Command where
  | send (recipient eventType : String) (values metadata : List String) (address : Option String)
  | stats (recipient : Option String)
  | history (recipient : String) (limit : Option Int)
  | sweep
deriving DecidableEq, Repr, Inhabited

/-- The kinds of commands. -/
inductive Command.Kind where
  | send
  | stats
  | history
  | sweep
deriving DecidableEq, Repr

namespace Command

namespace Kind

/-- The name of a kind. -/
def name : Kind → String
  | send => "send"
  | stats => "stats"
  | history => "history"
  | sweep => "sweep"

/-- Every kind, in the order in which they are listed to users. -/
def all : List Kind := [send, stats, history, sweep]

/-- The kind of a name. -/
def ofName? (s : String) : Option Kind := all.find? fun kind => kind.name == s

end Kind

/-- The kind of a command. -/
def kind : Command → Kind
  | send .. => .send
  | stats _ => .stats
  | history .. => .history
  | sweep => .sweep

/-! ## Flags -/

/-- The flag for the file with the settings. -/
def configFlag : Flag := { names := ["--config"] }

/-- The flag for the level of the log. -/
def levelFlag : Flag :=
  { names := ["--log-level"], takes := .choice (Log.Level.all.map Log.Level.name) }

/-- The flag for a recipient. -/
def recipientFlag : Flag := { names := ["--recipient"] }

/-- The flag for the kind of an event. -/
def eventFlag : Flag := { names := ["--event-type"] }

/-- The flag for the value of a placeholder. -/
def variableFlag : Flag := { names := ["--var"] }

/-- The flag for a piece of metadata. -/
def metadataFlag : Flag := { names := ["--meta"] }

/-- The flag for an address. -/
def addressFlag : Flag := { names := ["--email"] }

/-- The flag for a number of records. -/
def limitFlag : Flag := { names := ["--limit"], takes := .whole }

/-- The flags before a command. -/
def commonFlags : List Flag := [.help, configFlag, levelFlag]

/-- The flags after a command. -/
def Kind.flags : Kind → List Flag
  | send => [.help, recipientFlag, eventFlag, variableFlag, metadataFlag, addressFlag]
  | stats => [.help, recipientFlag]
  | history => [.help, recipientFlag, limitFlag]
  | sweep => [.help]

/-- The flags that a command needs. -/
def Kind.requiredFlags : Kind → List Flag
  | send => [recipientFlag, eventFlag]
  | history => [recipientFlag]
  | stats | sweep => []

/-- The command of a kind with the values of its flags. -/
def ofReading (kind : Kind) (r : Flag.Reading) : Command :=
  let text (f : Flag) : String := (r.last? f).getD ""
  match kind with
  | .send => send (text recipientFlag) (text eventFlag) (r.all variableFlag) (r.all metadataFlag)
      (r.last? addressFlag)
  | .stats => stats (r.last? recipientFlag)
  | .history => history (text recipientFlag)
      ((r.last? limitFlag).bind fun value => (Text.whole? value).toOption)
  | .sweep => sweep

/-! ## Refusals -/

/-- Why a command line is not carried out: help is asked for, or the words make no sense. `command`
is the command that the words after it belong to. -/
inductive Refusal where
  | help (command : Option Kind)
  | fault (command : Option Kind) (f : Flag.Fault)
deriving DecidableEq, Repr

/-- The refusal that reading the words of a command ends with. -/
def Refusal.ofStop (command : Option Kind) : Flag.Stop → Refusal
  | .help => help command
  | .fault f => fault command f

/-- The command of a kind, and the words that are left over after it. -/
def read (kind : Kind) (words : List String) : Except Refusal (Command × List String) :=
  match Flag.read kind.flags false words with
  | .error stop => .error (.ofStop (some kind) stop)
  | .ok r =>
    match kind.requiredFlags.filter fun f => (r.last? f).isNone with
    | [] => .ok (ofReading kind r, r.extras)
    | missing => .error (.fault (some kind) (.required (missing.map Flag.text)))

/-- The command that words name, and the words that are left over after it. -/
def ofWords : List String → Except Refusal (Command × List String)
  | [] => .error (.fault none (.required ["command"]))
  | name :: words =>
    match Kind.ofName? name with
    | some kind => read kind words
    | none => .error (.fault none (.notAChoice "command" name (Kind.all.map Kind.name)))

end Command

/-- A command with what holds for every command. -/
structure Invocation where
  /-- The file with the settings. -/
  config : Path
  /-- The level of the log, where it was chosen. -/
  level : Option String
  command : Command
deriving DecidableEq, Repr

namespace Invocation

/-- The file with the settings unless another is named. -/
def usualConfig : String := "config.yaml"

/-- The invocation that the words of a command line make. -/
def read (words : List String) : Except Command.Refusal Invocation := do
  let r ← (Flag.read Command.commonFlags true words).mapError (.ofStop none)
  let (command, more) ← Command.ofWords (r.command.getD [])
  if r.extras ++ more != [] then throw (.fault none (.unrecognized (r.extras ++ more)))
  return {
    config := Path.ofText ((r.last? Command.configFlag).getD usualConfig)
    level := r.last? Command.levelFlag
    command := command }

end Invocation

end Courier
