import Readiness.Text.Digit
import Readiness.Text.Utf8

/-!
A few programs of a Unix host as functions of their arguments and their input.
-/

namespace Readiness.Script

/-- What a command of a script comes to: its output, and whether the script goes on. -/
structure Effect where
  /-- The time it takes, in nanoseconds. -/
  lasts : Nat := 0
  status : Int := 0
  stdout : List UInt8 := []
  stderr : List UInt8 := []
  ends : Bool := false
  killed : Bool := false

def bytes (s : String) : List UInt8 := Text.Utf8.encode s

def printing (text : List UInt8) : Effect := { stdout := text }

/-- A command that cannot do what it is asked. -/
def failing (status : Int) (complaint : String) : Effect :=
  { status := status, stderr := bytes (complaint ++ "\n") }

def octal? (c : Char) : Option Nat := if '0' ≤ c ∧ c ≤ '7' then some (c.toNat - '0'.toNat) else none

/-- The byte of at most `count` octal digits, and the text after them. -/
def readOctal (value : Nat) : Nat → List Char → Nat × List Char
  | 0, cs => (value, cs)
  | _ + 1, [] => (value, [])
  | count + 1, c :: rest =>
    match octal? c with
    | some digit => readOctal (value * 8 + digit) count rest
    | none => (value, c :: rest)

def simpleEscape? : Char → Option Char
  | 'n' => some '\n'
  | 't' => some '\t'
  | 'r' => some '\r'
  | 'a' => some '\x07'
  | 'b' => some '\x08'
  | 'f' => some '\x0c'
  | 'v' => some '\x0b'
  | '\\' => some '\\'
  | _ => none

/-- The bytes of a format, whose `%s` and `%d` take the arguments in their turn, and the arguments
that are left. `hex` says whether escapes of two hexadecimal digits count. The first argument bounds
the characters. -/
def format (hex : Bool) : Nat → List Char → List String → List UInt8 × List String
  | 0, _, args => ([], args)
  | _ + 1, [], args => ([], args)
  | fuel + 1, '\\' :: 'x' :: a :: b :: rest, args =>
    match if hex then Text.readNat? 16 [a, b] else none with
    | some n => after [n.toUInt8] (format hex fuel rest args)
    | none => after (bytes "\\x") (format hex fuel (a :: b :: rest) args)
  | fuel + 1, '\\' :: c :: rest, args =>
    match octal? c, simpleEscape? c with
    | some _, _ =>
      let (value, rest) := readOctal 0 3 (c :: rest)
      after [value.toUInt8] (format hex fuel rest args)
    | none, some e => after (Text.Utf8.encodeChar e) (format hex fuel rest args)
    | none, none => after (bytes (String.ofList ['\\', c])) (format hex fuel rest args)
  | fuel + 1, '%' :: '%' :: rest, args => after (bytes "%") (format hex fuel rest args)
  | fuel + 1, '%' :: 's' :: rest, args =>
    after (bytes (args.headD "")) (format hex fuel rest (args.drop 1))
  | fuel + 1, '%' :: 'd' :: rest, args =>
    after (bytes (args.headD "0")) (format hex fuel rest (args.drop 1))
  | fuel + 1, c :: rest, args => after (Text.Utf8.encodeChar c) (format hex fuel rest args)
where
  after (front : List UInt8) (back : List UInt8 × List String) : List UInt8 × List String :=
    (front ++ back.1, back.2)

def unescaped (hex : Bool) (text : List Char) : List UInt8 :=
  let text := text.flatMap fun c => if c = '%' then ['%', '%'] else [c]
  (format hex (text.length + 1) text []).1

/-- Writes the arguments by a format, which is used again as long as it takes arguments and some are
left. -/
def printf (hex : Bool) : List String → Effect
  | [] => failing 2 "printf: missing operand"
  | text :: args => printing (again (args.length + 1) text args)
where
  again : Nat → String → List String → List UInt8
    | 0, _, _ => []
    | rounds + 1, text, args =>
      let (written, left) := format hex (text.length + 1) text.toList args
      if left.isEmpty || left.length == args.length then written
      else written ++ again rounds text left

def echo : List String → Effect
  | "-n" :: args => printing (bytes (" ".intercalate args))
  | args => printing (bytes (" ".intercalate args ++ "\n"))

/-- A number of seconds with decimals, in nanoseconds. -/
def nanos? (text : String) : Option Nat :=
  let cs := text.toList
  let cs := if cs.getLast? = some 's' then cs.dropLast else cs
  let whole := cs.takeWhile Char.isDigit
  match cs.dropWhile Char.isDigit with
  | [] => (Text.readNat? 10 whole).map (· * 1000000000)
  | '.' :: digits =>
    let padded := (digits ++ List.replicate 9 '0').take 9
    (Text.readNat? 10 (whole ++ padded)).filter fun _ => digits.all Char.isDigit
  | _ => none

def sleep (args : List String) : Effect :=
  match args.mapM nanos? with
  | some (first :: rest) => { lasts := rest.foldl (· + ·) first }
  | some [] => failing 1 "sleep: missing operand"
  | none => failing 1 "sleep: invalid time interval"

def number? (text : String) : Option Nat := Text.readNat? 10 text.toList

def sequence (first last : Nat) : Effect :=
  printing ((List.range (last + 1 - first)).flatMap fun n => bytes (toString (first + n) ++ "\n"))

def firstLines : Nat → List UInt8 → List UInt8
  | 0, _ => []
  | _, [] => []
  | count + 1, b :: rest => b :: firstLines (if b = 10 then count else count + 1) rest

/-- The start of the input, by bytes or by lines. A device of zeros may take the place of the
input. -/
def head (input : List UInt8) : List String → Effect
  | "-c" :: count :: files =>
    let count := (number? count).getD 0
    if files == ["/dev/zero"] then printing (List.replicate count 0) else printing (input.take count)
  | ["-n", count] => printing (firstLines ((number? count).getD 0) input)
  | [] => printing (firstLines 10 input)
  | _ => failing 1 "head: cannot open the file"

def byte? (text : String) : Option UInt8 :=
  match unescaped false text.toList with
  | [b] => some b
  | _ => none

def replaceByte (input : List UInt8) : List String → Effect
  | [old, new] =>
    match byte? old, byte? new with
    | some old, some new => printing (input.map fun b => if b = old then new else b)
    | _, _ => failing 1 "tr: unknown set"
  | _ => failing 1 "tr: two sets are needed"

/-- As much of the endless lines of `yes` as any program here reads. -/
def endless (line : String) : List UInt8 :=
  (List.replicate (512 * 1024 / (line.length + 1) + 1) (bytes (line ++ "\n"))).flatten

def count (input : List UInt8) : List String → Effect
  | ["-c"] => printing (bytes (toString input.length ++ "\n"))
  | ["-l"] => printing (bytes (toString (input.count 10) ++ "\n"))
  | _ => failing 1 "wc: unknown option"

def program? (input : List UInt8) (name : String) (args : List String) : Option Effect :=
  match name, args with
  | "true", _ => some {}
  | "false", _ => some { status := 1 }
  | "echo", args => some (echo args)
  | "printf", args => some (printf true args)
  | "sleep", args => some (sleep args)
  | "cat", [] => some (printing input)
  | "cat", ["-"] => some (printing input)
  | "cat", file :: _ =>
    some (if file == "/dev/null" then {}
      else failing 1 ("cat: " ++ file ++ ": No such file or directory"))
  | "head", args => some (head input args)
  | "tr", args => some (replaceByte input args)
  | "wc", args => some (count input args)
  | "yes", args => some (printing (endless (if args.isEmpty then "y" else " ".intercalate args)))
  | "seq", [last] => some (sequence 1 ((number? last).getD 0))
  | "seq", [first, last] => some (sequence ((number? first).getD 1) ((number? last).getD 0))
  | _, _ => none

end Readiness.Script
