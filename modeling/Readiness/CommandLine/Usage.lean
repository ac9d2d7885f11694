import Readiness.CommandLine.Switch

/-!
What is shown to one who asks for help, or whose command line is refused.
-/

namespace Readiness

namespace CommandLine

def Switch.usage (s : Switch) : String :=
  (match s.short with
    | some letter => "-" ++ String.singleton letter ++ ", "
    | none => "    ") ++
    "--" ++ s.long ++ if s.takesValue then " <VALUE>" else ""

def usage : String :=
  let commands := Level.commands.map fun level =>
    ["", "Options of " ++ level.name ++ ":"] ++ level.own.map fun s => "  " ++ s.usage
  let lines :=
    ["Usage: preinstall [OPTIONS] [COMMAND]", "",
     "Commands: " ++ ", ".intercalate (Level.commands.map Level.name), "", "Options:"] ++
    (Level.common.map fun s => "  " ++ s.usage) ++ commands.flatten
  String.join (lines.map (· ++ "\n"))

end CommandLine

namespace Refusal

def reason : Refusal → String
  | help => "help was asked for"
  | version _ => "the version was asked for"
  | unknownArgument => "unknown argument"
  | unknownCommand => "unknown command"
  | invalidValue => "a value is missing or not possible"
  | unfitValue => "a value does not fit its option"
  | conflict => "an option is given twice"
  | surplusValue => "an option takes no value"
  | missingArgument => "a required argument is missing"

def text (r : Refusal) : String :=
  match r with
  | help => CommandLine.usage
  | version text => text
  | r => "error: " ++ r.reason ++ "\n\n" ++ CommandLine.usage

end Refusal
end Readiness
