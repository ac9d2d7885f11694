import Readiness.Command.Run
import Readiness.CommandLine.Reader
import Readiness.CommandLine.Usage
import Readiness.Host.Machine
import Std.Time.DateTime.Timestamp

/-!
The command line of the tool. The files that a run can ask for are looked up before it starts; the
run itself is a computation over what was found. Free space and other programs are out of reach
here: questions about them are answered by an error.
-/

namespace Readiness.Console.Session

def causeOf : IO.Error → File.Error
  | .noFileOrDirectory .. => .notFound
  | .permissionDenied .. => .permissionDenied
  | .inappropriateType _ 20 _ => .notADirectory
  | .inappropriateType _ 21 _ => .isADirectory
  | .invalidArgument _ 36 _ => .nameTooLong
  | e => .other (toString e)

def attempt {α : Type} (operation : IO α) : IO (Except File.Error α) := do
  try
    return .ok (← operation)
  catch e =>
    return .error (causeOf e)

structure Found where
  path : Path
  kind : Except File.Error File.Kind
  text : Except File.Error String
  names : Except File.Error (List String)

def look (p : Path) : IO Found := do
  if p.text.toList.contains '\x00' then
    return ⟨p, .error .nulInPath, .error .nulInPath, .error .nulInPath⟩
  if p.isEmpty then
    return ⟨p, .error .notFound, .error .notFound, .error .notFound⟩
  let file := (← IO.currentDir) / p.text
  match ← attempt file.metadata with
  | .error cause => return ⟨p, .error cause, .error cause, .error cause⟩
  | .ok found =>
    if found.type matches .dir then
      let entries ← attempt file.readDir
      let names := entries.map fun es =>
        (es.toList.map fun entry => entry.fileName).mergeSort fun a b => decide (a ≤ b)
      return ⟨p, .ok .directory, .error .isADirectory, names⟩
    else
      let bytes ← attempt (IO.FS.readBinFile file)
      let text := bytes.bind fun bytes =>
        match Text.Utf8.decode? bytes.toList with
        | some text => .ok text
        | none => .error .notUtf8
      return ⟨p, .ok .file, text, .error .notADirectory⟩

/-- The file system of what was found; `written` is the answer to writing. -/
def system (found : List Found) (written : Except File.Error Unit) : File.System :=
  let answer {α : Type} (part : Found → Except File.Error α) (p : Path) : Except File.Error α :=
    match found.find? fun f => f.path == p with
    | some f => part f
    | none => .error .notFound
  { kind := answer Found.kind
    read := answer Found.text
    names := answer Found.names
    write := fun _ => written }

def checkOptions? (i : Invocation) : Option CheckOptions :=
  match i.command with
  | none => some {}
  | some (.check options) => some options
  | some _ => none

def configFiles (home : Option Path) (root : Path) (i : Invocation) : List Path :=
  let project := match i.config with
    | some file => [file]
    | none => ["config.yml", "config.local.yml"].map (Config.Sources.fileIn root)
  (home.toList.map fun dir => Config.Sources.fileIn dir "config.yml") ++ project ++
    ((checkOptions? i).bind CheckOptions.agentConfig).toList

/-- The paths that the checks ask for. -/
def checkedPaths (s : CheckSettings) : List Path :=
  s.databasePath.toList ++ (s.installDir.getD Check.defaultInstallDir).ancestors ++
    Machine.socketTables

/-- Everything that a run can ask the files for. -/
def survey (home : Option Path) (root : Path) (i : Invocation) : IO (List Found) := do
  let config ← (configFiles home root i).mapM look
  match checkOptions? i with
  | none => return config
  | some options =>
    let files := system config (.ok ())
    let env : Environment := ⟨⟨files, home⟩, root, fun _ => .panic none, false, ⟨0, 0⟩⟩
    match options.resolve env i.config with
    | .error _ => return config
    | .ok c =>
      let asked ← (checkedPaths c.checks).mapM look
      let entries := asked.flatMap fun f => (f.names.toOption.getD []).map f.path.join
      return config ++ asked ++ (← entries.mapM look)

def kernelText? (p : Path) : IO (Option String) :=
  return (← look p).text.toOption.map Text.trim

/-- Whether the process has the rights of the administrator, by its effective user. -/
def elevated : IO Bool := do
  let status := (← look ⟨"/proc/self/status"⟩).text.toOption.getD ""
  return (Text.lines status.toList).any fun line =>
    match (Text.words line).map String.ofList with
    | "Uid:" :: _ :: effective :: _ => effective == "0"
    | _ => false

def machine (files : File.System) : IO Machine :=
  return {
    files := files
    longName := ← kernelText? ⟨"/proc/sys/kernel/ostype"⟩
    version := none
    kernel := ← kernelText? ⟨"/proc/sys/kernel/osrelease"⟩
    elevated := ← elevated
    freeSpace := fun _ => .error (.other "not supported")
    launcher := fun _ _ => none }

def now : IO Time.Stamp := do
  let nanos := (← Std.Time.Timestamp.now).toNanosecondsSinceUnixEpoch.val
  return ⟨nanos.fdiv 1000000000, (nanos.fmod 1000000000).toNat⟩

/-- Runs a command line that was understood, and answers with its exit code. -/
def run (i : Invocation) : IO UInt32 := do
  let home := (← IO.getEnv "HOME").map Path.mk
  let root : Path := ⟨toString (← IO.currentDir)⟩
  let found ← survey home root i
  let isSet (name : String) : IO Bool := return (← IO.getEnv name).isSome
  let ci := inCi (← ciVariables.filterM isSet).contains
  let noColor := i.noColor || (← isSet "NO_COLOR")
  let colors := !noColor && (← (← IO.getStdout).isTty)
  let terminal ← (← IO.getStderr).isTty
  let moment ← now
  let transcript (written : Except File.Error Unit) : IO Transcript := do
    let files := system found written
    let host := (← machine files).host
    return i.run ⟨⟨files, home⟩, root, host, colors, moment⟩ i.verbosity
  let tried ← transcript (.ok ())
  let written ← attempt (tried.written.forM fun (file, text) => IO.FS.writeFile file.text text)
  let (told, exit) := (← transcript written).finish
  let console := choose (!ci) terminal ci (.ofColor (!noColor)) i.verbosity
  let out := console.output told
  IO.eprint out.stderr
  IO.print out.stdout
  return exit.code.toUInt32

end Readiness.Console.Session

open Readiness

def main (arguments : List String) : IO UInt32 := do
  match CommandLine.read arguments with
  | .ok i => Console.Session.run i
  | .error refusal =>
    if refusal.isError then IO.eprint refusal.text else IO.print refusal.text
    return refusal.exitCode.toUInt32
