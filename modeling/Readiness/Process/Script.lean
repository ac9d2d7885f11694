import Readiness.Process.Launch
import Readiness.Process.Script.Programs

/-!
The short scripts that a shell runs: commands one after the other, led into one another, or carried
out only if the one before succeeded. With these, programs can be run where there is no host to run
them.
-/

namespace Readiness.Script

/-- A piece of a script: a word, or an operator between commands. -/
inductive Token
  | word (text : String)
  | operator (text : String)
  deriving DecidableEq, Repr

/-- Ends the word under way. -/
def close (word : Option (List Char)) (tokens : List Token) : List Token :=
  match word with
  | some cs => .word (String.ofList cs.reverse) :: tokens
  | none => tokens

def extend (c : Char) (word : Option (List Char)) : Option (List Char) := some (c :: word.getD [])

/-- What stands in a word for the status of the command before. -/
def statusMark : Char := '\uE000'

/-- What a dollar sign and a letter stand for: an argument of the script, all of them, their
number, or the status. The script's own process keeps its sign. -/
def expansion? (params : List String) (c : Char) : Option (List Char) :=
  if c = '?' then some [statusMark]
  else if c = '@' || c = '*' then some (" ".intercalate (params.drop 1)).toList
  else if c = '#' then some (toString (params.length - 1)).toList
  else if c.isDigit then some (params[c.toNat - '0'.toNat]?.getD "").toList
  else none

/-- The quotation marks that a character stands between. -/
inductive Quotes
  | none
  | single
  | double

/-- Splits a script. `word` is the word under way, its last character first. -/
def tokenize (params : List String) : Quotes → Option (List Char) → List Char → List Token
  | _, word, [] => close word []
  | .single, word, '\'' :: rest => tokenize params .none (some (word.getD [])) rest
  | .single, word, c :: rest => tokenize params .single (extend c word) rest
  | .double, word, '"' :: rest => tokenize params .none (some (word.getD [])) rest
  | .double, word, '\\' :: d :: rest =>
    if d = '"' || d = '\\' || d = '$' then tokenize params .double (extend d word) rest
    else tokenize params .double (extend d (extend '\\' word)) rest
  | .double, word, '$' :: d :: rest =>
    match expansion? params d with
    | some cs => tokenize params .double (some (cs.reverse ++ word.getD [])) rest
    | none => tokenize params .double (extend d (extend '$' word)) rest
  | .double, word, c :: rest => tokenize params .double (extend c word) rest
  | .none, word, '\'' :: rest => tokenize params .single (some (word.getD [])) rest
  | .none, word, '"' :: rest => tokenize params .double (some (word.getD [])) rest
  | .none, word, '\\' :: d :: rest => tokenize params .none (extend d word) rest
  | .none, word, '$' :: d :: rest =>
    match expansion? params d with
    | some cs => tokenize params .none (some (cs.reverse ++ word.getD [])) rest
    | none => tokenize params .none (extend d (extend '$' word)) rest
  | .none, word, '&' :: '&' :: rest => close word (.operator "&&" :: tokenize params .none none rest)
  | .none, word, '|' :: '|' :: rest => close word (.operator "||" :: tokenize params .none none rest)
  | .none, word, '>' :: '&' :: d :: rest =>
    let source := if word = some ['2'] then "2" else "1"
    let before := if word = some ['1'] ∨ word = some ['2'] then none else word
    close before (.operator (source ++ ">" ++ d.toString) :: tokenize params .none none rest)
  | .none, word, c :: rest =>
    if c = ';' || c = '\n' then close word (.operator ";" :: tokenize params .none none rest)
    else if c = '|' then close word (.operator "|" :: tokenize params .none none rest)
    else if c = '&' then close word (.operator "&" :: tokenize params .none none rest)
    else if c = ' ' || c = '\t' then close word (tokenize params .none none rest)
    else tokenize params .none (extend c word) rest

/-- The process that a signal is sent to, when it is the script's own. -/
def ownProcess : String := "$$"

/-- What the shell itself prints, where a backslash begins an escape. -/
def shellEcho (args : List String) : Effect :=
  let (args, last) := match args with
    | "-n" :: args => (args, "")
    | args => (args, "\n")
  printing (unescaped false (" ".intercalate args).toList ++ bytes last)

def command (input : List UInt8) (status : Int) : List String → Effect
  | [] => { status := status }
  | ":" :: _ => {}
  | "wait" :: _ => {}
  | "echo" :: args => shellEcho args
  | "printf" :: args => printf false args
  | "exit" :: args =>
    let code := ((args.head?.bind number?).map Int.ofNat).getD status
    { status := code % 256, ends := true }
  | "kill" :: args =>
    if args.getLast? = some ownProcess then { ends := true, killed := true }
    else failing 1 "kill: No such process"
  | "exec" :: name :: args => { (run name args) with ends := true }
  | name :: args => run name args
where
  run (name : String) (args : List String) : Effect :=
    (program? input name args).getD (failing 127 ("sh: 1: " ++ name ++ ": not found"))

/-- The effect with its streams led elsewhere. -/
def redirected (operator : String) (e : Effect) : Effect :=
  match operator with
  | "1>2" => { e with stdout := [], stderr := e.stderr ++ e.stdout }
  | "2>1" => { e with stdout := e.stdout ++ e.stderr, stderr := [] }
  | _ => e

def Effect.andThen (a b : Effect) : Effect :=
  { b with
    lasts := a.lasts + b.lasts
    stdout := a.stdout ++ b.stdout
    stderr := a.stderr ++ b.stderr }

def goesOn (operator : String) (status : Int) : Bool :=
  match operator with
  | "&&" => status == 0
  | "||" => status != 0
  | _ => true

/-- The words and redirections of a command under way, and what is led into it. -/
structure Line where
  words : List String := []
  redirections : List String := []
  input : List UInt8 := []

/-- A word with the status in its place. -/
def withStatus (status : Int) (word : String) : String :=
  String.ofList (word.toList.flatMap fun c => if c = statusMark then (toString status).toList else [c])

def Line.effect (status : Int) (line : Line) : Effect :=
  line.redirections.foldl (fun e operator => redirected operator e)
    (command line.input status (line.words.map (withStatus status)))

/-- Carries out the commands of a script after what has been done. `wanted` says whether the command
under way is to be carried out. -/
def execute (done : Effect) (wanted : Bool) (line : Line) : List Token → Effect
  | [] => done.andThen effect
  | .word text :: rest => execute done wanted { line with words := line.words ++ [text] } rest
  | .operator text :: rest =>
    if text == "1>2" || text == "2>1" then
      execute done wanted { line with redirections := line.redirections ++ [text] } rest
    else if text == "|" then
      let before := done.andThen
        { effect with status := done.status, stdout := [], ends := false, killed := false }
      execute before wanted { input := effect.stdout } rest
    else
      let done := done.andThen effect
      if done.ends then done else execute done (goesOn text done.status) {} rest
where
  effect : Effect :=
    if !wanted || (line.words.isEmpty && line.redirections.isEmpty) then { status := done.status }
    else line.effect done.status

def shell (script : String) (params : List String) : Effect :=
  execute {} true {} (tokenize params .none none script.toList)

def Effect.execution (e : Effect) : Execution where
  lasts := ⟨e.lasts / 1000000000, e.lasts % 1000000000⟩
  exitCode := if e.killed then none else some e.status
  stdout := e.stdout
  stderr := e.stderr

/-- The name of a program without the directories that programs are kept in. -/
def baseName (program : String) : String :=
  let cs := program.toList
  if "/bin/".toList.isPrefixOf cs then String.ofList (cs.drop 5)
  else if "/usr/bin/".toList.isPrefixOf cs then String.ofList (cs.drop 9)
  else program

/-- The launcher of a host that has these programs and no others. Nothing is led into them. -/
def launcher : Launcher := fun program args =>
  match baseName program, args with
  | "sh", "-c" :: script :: params =>
    some (shell script (if params.isEmpty then ["sh"] else params)).execution
  | "sh", [] => some { exitCode := some 0 }
  | name, args => (program? [] name args).map Effect.execution

end Readiness.Script
