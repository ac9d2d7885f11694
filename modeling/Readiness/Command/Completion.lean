import Readiness.Command.Transcript
import Readiness.CommandLine.Switch

/-!
Scripts with which shells complete the arguments of the tool: after a command its switches and
values, and before it the commands.
-/

namespace Readiness

namespace CommandLine.Level

def words (level : Level) : List String :=
  let values := match level with
    | root => commands.map name ++ ["help"]
    | completions => Shell.all.map Shell.name
    | _ => []
  values ++ level.switches.map fun s => "--" ++ s.long

end CommandLine.Level

open CommandLine (Level)

namespace Shell

def wordLine (level : Level) : String := " ".intercalate level.words

def quotedWords (level : Level) : String :=
  " ".intercalate (level.words.map fun word => "'" ++ word ++ "'")

/-- A line for each command, and one for the tool without a command. -/
def eachLevel (ofCommand : Level → String) (otherwise : String) : List String :=
  Level.commands.map ofCommand ++ [otherwise]

def bashLines : List String :=
  ["_preinstall() \x7b", "  local words", "  case \"$\x7bCOMP_WORDS[1]\x7d\" in"] ++
  eachLevel (fun level => "    " ++ level.name ++ ") words=\"" ++ wordLine level ++ "\" ;;")
    ("    *) words=\"" ++ wordLine .root ++ "\" ;;") ++
  ["  esac", "  COMPREPLY=($(compgen -W \"$words\" -- \"$\x7bCOMP_WORDS[COMP_CWORD]\x7d\"))",
   "\x7d", "complete -F _preinstall -o default preinstall"]

def zshLines : List String :=
  ["#compdef preinstall", "_preinstall() \x7b", "  case \"$words[2]\" in"] ++
  eachLevel (fun level => "    " ++ level.name ++ ") compadd -- " ++ wordLine level ++ " ;;")
    ("    *) compadd -- " ++ wordLine .root ++ " ;;") ++
  ["  esac", "  _files", "\x7d", "compdef _preinstall preinstall"]

/-- A completion of fish under a condition. -/
def fishLine (condition : String) (level : Level) : String :=
  "complete -c preinstall -n '" ++ condition ++ "' -a \"" ++ wordLine level ++ "\""

def fishLines : List String :=
  eachLevel (fun level => fishLine ("__fish_seen_subcommand_from " ++ level.name) level)
    (fishLine "__fish_use_subcommand" .root)

def elvishLines : List String :=
  ["set edit:completion:arg-completer[preinstall] = \x7b|@words|",
   "  var command = ''", "  if (> (count $words) 2) \x7b set command = $words[1] \x7d"] ++
  eachLevel (fun level =>
      "  if (eq $command " ++ level.name ++ ") \x7b put " ++ quotedWords level ++ "; return \x7d")
    ("  put " ++ quotedWords .root) ++
  ["\x7d"]

def powershellLines : List String :=
  ["Register-ArgumentCompleter -Native -CommandName 'preinstall' -ScriptBlock \x7b",
   "  param($word, $line)", "  $words = switch -exact ($line.CommandElements[1].Value) \x7b"] ++
  eachLevel (fun level =>
      "    '" ++ level.name ++ "' \x7b '" ++ wordLine level ++ "' \x7d")
    ("    default \x7b '" ++ wordLine .root ++ "' \x7d") ++
  ["  \x7d", "  $words -split ' ' | Where-Object \x7b $_ -like \"$word*\" \x7d", "\x7d"]

def completionScript (shell : Shell) : String :=
  let lines := match shell with
    | bash => bashLines
    | zsh => zshLines
    | fish => fishLines
    | elvish => elvishLines
    | powershell => powershellLines
  String.join (lines.map (· ++ "\n"))

def run (shell : Shell) : Transcript :=
  { told := [.report shell.completionScript], ending := .ok .success }

end Shell
end Readiness
