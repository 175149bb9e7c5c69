/-
# The command line

A command is followed by options, each a name that starts with two dashes and a value.  The
shape of the options is checked before the command, and the command before its options.
-/
import SessionTasks.Text.Digits
namespace SessionTasks

/-! ## Commands -/

/-- The name and the value of an option. -/
abbrev CommandOption := String × String

/-- What to do. -/
inductive Command where
  /-- Run a sample task. -/
  | demo (session : Option String) (steps delay : Nat)
  /-- Show counts. -/
  | stats (session : Option String)
  /-- Show the session of a request. -/
  | resolve (options : List CommandOption)
  /-- Show how commands are written. -/
  | help
  deriving DecidableEq

/-- Why a command line is refused. -/
inductive UsageError where
  /-- An argument that is no option. -/
  | unexpectedArgument (argument : String)
  /-- An option without a value. -/
  | missingValue (option : String)
  /-- An option that the command does not have. -/
  | unknownOption (option command : String)
  /-- An option whose value is no number. -/
  | notANumber (option value : String)
  /-- A command that does not exist. -/
  | unknownCommand (name : String)
  deriving DecidableEq

/-- The words for a refusal. -/
def UsageError.message : UsageError → String
  | .unexpectedArgument argument => "unexpected argument '" ++ argument ++ "'"
  | .missingValue option => "option '" ++ option ++ "' requires a value"
  | .unknownOption option command => "unknown option '" ++ option ++ "' for " ++ command
  | .notANumber option value =>
    "option '" ++ option ++ "' expects a number, got '" ++ value ++ "'"
  | .unknownCommand name => "unknown command '" ++ name ++ "'"

namespace Command

/-- How commands are written, line by line. -/
def usageLines : List String := [
  "usage: scaffold <command> [options]",
  "",
  "commands:",
  "  demo     [--session KEY] [--steps N] [--delay-ms MS]   run a sample task and print it",
  "  stats    [--session KEY]                               print session, task and sweeper stats",
  "  resolve  [--header V] [--query V] [--cookie V] [--ip ADDR] [--user ID]",
  "                                                         show which session a request maps to",
  "  help                                                   print this message",
  "",
  "configuration: SCAFFOLD_CONFIG names an optional TOML file; environment",
  "variables such as MAX_SESSIONS or BE_LOG_LEVEL override it."]

/-- How commands are written. -/
def usage : String := "\n".intercalate usageLines

/-! ## Options -/

/-- Starts with two dashes. -/
def isOptionName (argument : String) : Bool := ['-', '-'].isPrefixOf argument.toList

/-- The options that arguments stand for. -/
def options : List String → Except UsageError (List CommandOption)
  | [] => .ok []
  | [name] =>
    if isOptionName name then .error (.missingValue name) else .error (.unexpectedArgument name)
  | name :: value :: rest =>
    if isOptionName name then (options rest).map ((name, value) :: ·)
    else .error (.unexpectedArgument name)

/-- The value of an option as a number that is at most `greatest`. -/
def number (greatest : Nat) (option : CommandOption) : Except UsageError Nat :=
  match Text.unsigned? greatest option.2.toList with
  | some n => .ok n
  | none => .error (.notANumber option.1 option.2)

/-- The command `demo` with its options; the last of a kind counts. -/
def demoWith (session : Option String) (steps delay : Nat) :
    List CommandOption → Except UsageError Command
  | [] => .ok (.demo session steps delay)
  | option :: rest =>
    if option.1 = "--session" then demoWith (some option.2) steps delay rest
    else if option.1 = "--steps" then
      match number (Nat.pow 2 32 - 1) option with
      | .ok n => demoWith session n delay rest
      | .error e => .error e
    else if option.1 = "--delay-ms" then
      match number (Nat.pow 2 64 - 1) option with
      | .ok n => demoWith session steps n rest
      | .error e => .error e
    else .error (.unknownOption option.1 "demo")

/-- The command `stats` with its options; the last of a kind counts. -/
def statsWith (session : Option String) : List CommandOption → Except UsageError Command
  | [] => .ok (.stats session)
  | option :: rest =>
    if option.1 = "--session" then statsWith (some option.2) rest
    else .error (.unknownOption option.1 "stats")

/-- The options of the command `resolve`. -/
def resolveOptions : List String := ["--header", "--query", "--cookie", "--ip", "--user"]

/-- The command `resolve` with its options. -/
def resolveWith (options : List CommandOption) : Except UsageError Command :=
  match options.find? fun option => option.1 ∉ resolveOptions with
  | some option => .error (.unknownOption option.1 "resolve")
  | none => .ok (.resolve options)

/-- The command that arguments stand for. -/
def parse : List String → Except UsageError Command
  | [] => .ok .help
  | name :: rest =>
    match options rest with
    | .error e => .error e
    | .ok options =>
      if name = "demo" then demoWith none 5 500 options
      else if name = "stats" then statsWith none options
      else if name = "resolve" then resolveWith options
      else if name ∈ ["help", "--help", "-h"] then .ok .help
      else .error (.unknownCommand name)

end Command

end SessionTasks
