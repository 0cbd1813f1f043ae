import Courier.Command.Basic

/-!
# Usage

What users are shown who ask for help, or whose command line makes no sense.
-/

namespace Courier.Command

/-- The name of the program, with the name of a command. -/
def programName (command : Option Kind) : String :=
  "notify-engine" ++ (match command with
    | some kind => " " ++ kind.name
    | none => "")

/-- Names as a choice between them. -/
def choiceText (names : List String) : String := "\x7b" ++ ",".intercalate names ++ "\x7d"

/-- The commands as a choice between them. -/
def commandChoice : String := choiceText (Kind.all.map Kind.name)

/-- The levels of the log as a choice between them. -/
def levelChoice : String := choiceText (Log.Level.all.map Log.Level.name)

/-- The lines of flags in the order in which they may be given. -/
def usageLines : Option Kind → List String
  | none => ["[-h] [--config CONFIG]", "[--log-level " ++ levelChoice ++ "]",
      commandChoice ++ " ..."]
  | some .send => ["[-h] --recipient RECIPIENT --event-type EVENT_TYPE",
      "[--var KEY=VALUE] [--meta KEY=VALUE] [--email EMAIL]"]
  | some .stats => ["[-h] [--recipient RECIPIENT]"]
  | some .history => ["[-h] --recipient RECIPIENT [--limit LIMIT]"]
  | some .sweep => ["[-h]"]

/-- How the program, or one of its commands, is used. -/
def usage (command : Option Kind) : String :=
  let start := "usage: " ++ programName command ++ " "
  let margin := "\n" ++ String.ofList (List.replicate start.length ' ')
  start ++ margin.intercalate (usageLines command) ++ "\n"

/-- A line about something that may be given, with its explanation beside or below it. -/
def helpLine (width : Nat) (what : String) (explanation : List String) : String :=
  let margin := String.ofList (List.replicate 24 ' ')
  let lines := ("\n" ++ margin).intercalate explanation
  if what.length + 2 ≤ width then
    String.ofList (List.replicate (24 - width) ' ') ++ what ++
      String.ofList (List.replicate (width - what.length) ' ') ++ lines ++ "\n"
  else String.ofList (List.replicate (24 - width) ' ') ++ what ++ "\n" ++ margin ++ lines ++ "\n"

/-- A line about a flag. -/
def flagLine (what : String) (explanation : List String) : String := helpLine 22 what explanation

/-- A line about a command. -/
def commandLine (kind : Kind) : String :=
  helpLine 20 kind.name [match kind with
    | .send => "Send one notification"
    | .stats => "Print delivery statistics as JSON"
    | .history => "Print a recipient's history as JSON"
    | .sweep => "Report stale pending records on the configured interval"]

/-- The lines about flags. -/
def flagLines : Option Kind → List String
  | none => [
      flagLine "--config CONFIG" ["Path to configuration file (default: config.yaml)"],
      flagLine ("--log-level " ++ levelChoice) ["Log level (overrides config and environment)"]]
  | some .send => [
      flagLine "--recipient RECIPIENT" ["Recipient identifier"],
      flagLine "--event-type EVENT_TYPE" ["Event type, e.g. interview-scheduled"],
      flagLine "--var KEY=VALUE" ["Template variable"],
      flagLine "--meta KEY=VALUE" ["Record metadata"],
      flagLine "--email EMAIL" ["Delivery address stored for a recipient without", "preferences"]]
  | some .stats => [flagLine "--recipient RECIPIENT" ["Restrict to one recipient"]]
  | some .history => [
      flagLine "--recipient RECIPIENT" ["Recipient identifier"],
      flagLine "--limit LIMIT" ["Maximum records to print"]]
  | some .sweep => []

/-- What the program, or one of its commands, does. -/
def help (command : Option Kind) : String :=
  let about := match command with
    | none =>
      "\nNotification engine - templated notifications with recipient preferences\n" ++
        "\npositional arguments:\n  " ++ commandChoice ++ "\n" ++
        String.join (Kind.all.map commandLine)
    | some _ => ""
  usage command ++ about ++ "\noptions:\n" ++
    flagLine "-h, --help" ["show this help message and exit"] ++ String.join (flagLines command)

/-- What a user is told about a command line that makes no sense. -/
def complaint (command : Option Kind) (f : Flag.Fault) : String :=
  usage command ++ programName command ++ ": error: " ++ f.message ++ "\n"

end Courier.Command
