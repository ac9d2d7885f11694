import Readiness.CommandLine.Switch
import Readiness.Report.Json

/-!
Command lines read argument by argument. A value is judged once the next switch or the end of the
line is reached, so that of two faults the one noticed first counts.
-/

namespace Readiness.CommandLine

/-- The settings that were given, with their values; switches without a value have an empty one. -/
abbrev Given := List (Setting × String)

/-- A setting whose value is not judged yet. -/
structure Pending where
  setting : Setting
  value : Option String

/-- A level of the command line in the middle of reading. -/
structure State where
  level : Level
  given : Given := []
  pending : Option Pending := none
  /-- Whether the pending setting still waits for its value. -/
  waiting : Bool := false
  /-- Whether all further arguments stand for themselves, after `--`. -/
  trailing : Bool := false
  /-- Whether the argument without a switch was given. -/
  positionalGiven : Bool := false

namespace State

def set (s : State) (setting : Setting) (value : String) : Except Refusal State := do
  if (s.given.lookup setting).isSome then throw .conflict
  checkValue setting value
  return { s with given := s.given ++ [(setting, value)] }

def settle (s : State) : Except Refusal State :=
  match s.pending with
  | none => .ok s
  | some ⟨_, none⟩ => .error .invalidValue
  | some ⟨setting, some value⟩ =>
    State.set { s with pending := none, waiting := false } setting value

def versionText (level : Level) : String :=
  level.fullName ++ " " ++ Report.Json.toolVersion ++ "\n"

def flag (s : State) (setting : Setting) : Except Refusal State := do
  let s ← s.settle
  match setting with
  | .help => throw .help
  | .version => throw (.version (versionText s.level))
  | _ => s.set setting ""

def option (s : State) (setting : Setting) (value : Option String) : Except Refusal State := do
  let s ← s.settle
  match value with
  | some value => s.set setting value
  | none => return { s with pending := some ⟨setting, none⟩, waiting := true }

/-- An argument of two dashes and a name, with a value after an equals sign. -/
def long (s : State) (text : List Char) : Except Refusal State :=
  let name := text.takeWhile (· ≠ '=')
  let value := match text.dropWhile (· ≠ '=') with
    | [] => none
    | _ :: value => some (String.ofList value)
  match s.level.long? name with
  | none => .error .unknownArgument
  | some switch =>
    if switch.takesValue then s.option switch.setting value
    else if value.isSome then .error .surplusValue
    else s.flag switch.setting

/-- The value that follows a letter in the same argument. -/
def attached? : List Char → Option String
  | [] => none
  | '=' :: value => some (String.ofList value)
  | value => some (String.ofList value)

/-- The letters of an argument of one dash. -/
def letters (s : State) : List Char → Except Refusal State
  | [] => .ok s
  | letter :: rest =>
    match s.level.short? letter with
    | none => .error .unknownArgument
    | some switch =>
      if switch.takesValue then s.option switch.setting (attached? rest)
      else do (← s.flag switch.setting).letters rest

def positional (s : State) (text : String) : Except Refusal State :=
  match s.level.positional? with
  | some setting =>
    if s.positionalGiven then .error .unknownArgument
    else do
      let s ← s.settle
      return { s with pending := some ⟨setting, some text⟩, positionalGiven := true }
  | none =>
    if s.level = .root ∧ !(s.trailing && (Level.ofName? text).isSome) then .error .unknownCommand
    else .error .unknownArgument

/-- An argument that is no command's name. -/
def argument (s : State) (text : String) : Except Refusal State :=
  if s.trailing then s.positional text
  else match text.toList with
    | ['-', '-'] => .ok { s with trailing := true }
    | '-' :: '-' :: rest => s.long rest
    | '-' :: letter :: rest => s.letters (letter :: rest)
    | _ =>
      match s.waiting, s.pending with
      | true, some pending =>
        .ok { s with pending := some ⟨pending.setting, some text⟩, waiting := false }
      | _, _ => s.positional text

/-- What was given once all arguments are read. -/
def finish (s : State) : Except Refusal Given := do
  let s ← s.settle
  match s.level.positional? with
  | some setting => if (s.given.lookup setting).isNone then throw .missingArgument
  | none => pure ()
  return s.given

/-- Whether the next argument may be the name of a command. -/
def takesCommand (s : State) : Bool := s.level == .root && !s.trailing && !s.waiting

end State

/-- The refusal that asking for help on commands comes to: help, if they are known. Commands have
no commands of their own. -/
def helpOn : List String → Refusal
  | [] => .help
  | [command] =>
    if command == "help" || (Level.ofName? command).isSome then .help else .unknownCommand
  | _ => .unknownCommand

def readCommand (s : State) : List String → Except Refusal Given
  | [] => s.finish
  | text :: rest => do readCommand (← s.argument text) rest

def readLine (s : State) : List String → Except Refusal (Given × Option (Level × Given))
  | [] => return (← s.finish, none)
  | text :: rest =>
    if s.takesCommand && text == "help" then .error (helpOn rest)
    else match if s.takesCommand then Level.ofName? text else none with
      | some level => do
        let given ← readCommand { level := level } rest
        return (← s.finish, some (level, given))
      | none => do readLine (← s.argument text) rest

def path? (given : Given) (setting : Setting) : Option Path :=
  (given.lookup setting).map Path.mk

def isSet (given : Given) (setting : Setting) : Bool := (given.lookup setting).isSome

def command? (given : Given) : Level → Option Command
  | .root => none
  | .check => some <| .check
      { databasePath := path? given .databasePath
        port := (given.lookup .port).bind port?
        format := (given.lookup .format).bind format?
        parallel := isSet given .parallel
        agentConfig := path? given .agentConfig
        output := path? given .output }
  | .list => some (.list ⟨isSet given .json, isSet given .criticalOnly⟩)
  | .completions => ((given.lookup .shell).bind Shell.ofName?).map .completions

/-- The meaning of a command line. Of a setting given before and after the command, the later one
counts. -/
def read (arguments : List String) : Except Refusal Invocation := do
  let (outer, command) ← readLine { level := .root } arguments
  let inner := (command.map (·.2)).getD []
  let all := inner ++ outer
  return {
    config := path? all .config
    verbose := isSet all .verbose
    quiet := isSet all .quiet
    noColor := isSet all .noColor
    debug := isSet all .debug
    command := command.bind fun (level, given) => command? given level }

end Readiness.CommandLine
