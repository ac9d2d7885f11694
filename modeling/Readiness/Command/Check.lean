import Readiness.Checklist.Parallel
import Readiness.Command.Transcript
import Readiness.CommandLine.Invocation
import Readiness.Config.Validate
import Readiness.Report.Render

/-!
The command that runs the checks. Of the files, the agent's configuration and the options, the
later one has the word; the report goes to standard output or to a file, and its verdict decides
how the command ends.
-/

namespace Readiness

open Config (Agent)

namespace CheckOptions

/-- The configuration of the files, with the agent's and the options laid over it. -/
def effective (o : CheckOptions) (agent : Option Agent) (c : Config) : Config :=
  let checks := match agent with
    | some agent => agent.apply c.checks
    | none => c.checks
  { settings :=
      { c.settings with
        format := o.format.getD c.settings.format
        parallel := o.parallel || c.settings.parallel }
    checks :=
      { checks with
        port := o.port.getD checks.port
        databasePath := o.databasePath.or checks.databasePath } }

def agent (o : CheckOptions) (files : File.System) : Except Failure (Option Agent) :=
  match o.agentConfig with
  | some file => (Agent.load files file).map some
  | none => .ok none

/-- The configuration of a run, which keeps all rules. -/
def resolve (o : CheckOptions) (env : Environment) (config : Option Path) :
    Except Failure Config := do
  let loaded ← Config.loadFor env.surroundings env.root config
  let c := o.effective (← o.agent env.surroundings.files) loaded
  c.validate
  return c

/-- Whether the report may be coloured: it is for people and goes to their terminal. -/
def useColor (o : CheckOptions) (env : Environment) (c : Config) : Bool :=
  c.settings.format == .human && o.output.isNone && env.colors

/-- Where the report goes, and how the command then ends. -/
def deliver (o : CheckOptions) (files : File.System) (report : String) (exit : Exit)
    (told : List Action) : Transcript :=
  match o.output with
  | none => { told := told ++ [.report report], ending := .ok exit }
  | some file =>
    match files.write file with
    | .ok () =>
      { told := told ++ [.success ("Report written to " ++ file.text)]
        written := [(file, report)]
        ending := .ok exit }
    | .error cause => { told := told, ending := .error (.file cause) }

end CheckOptions

/-- A failure of the configuration, which is told as it is. -/
def Failure.isOfConfig : Failure → Bool
  | configNotFound _ => true
  | configMisread .. => true
  | configInvalid _ => true
  | _ => false

namespace Config

/-- The parameters of a run, line by line. -/
def parameterLines (c : Config) : List String :=
  ["  Port: " ++ toString c.checks.port,
   "  Database path: " ++ (c.checks.databasePath.map Path.text).getD "(not specified)",
   "  Mode: " ++ if c.settings.parallel then "parallel" else "sequential"]

/-- The verbosity of a run that was started with another one. What the command line says counts
before the configuration, but the normal verbosity says nothing. -/
def verbosityFrom (c : Config) (given : Verbosity) : Verbosity :=
  if given = .normal then c.settings.defaultOutput else given

/-- What is told before the checks begin. -/
def opening (c : Config) (given : Verbosity) : List Action :=
  (if given = .normal then [.verbosity c.settings.defaultOutput] else []) ++
    (if c.verbosityFrom given = .verbose then
      .header "Check parameters" :: c.parameterLines.map .message
    else [])

end Config

/-- What the spinner shows of an event: the check that begins. -/
def Progress.spinnerText? : Progress → Option String
  | starting id index total =>
    some ("[" ++ toString (index + 1) ++ "/" ++ toString total ++ "] " ++ id.name)
  | finished _ => none

def spinnerActions (progress : List Progress) : List Action :=
  .spinner "Running system requirement checks..." ::
    ((progress.filterMap Progress.spinnerText?).map .spinnerMessage ++ [.spinnerClear])

/-- How a run ends whose report has a verdict. -/
def Verdict.exit (v : Verdict) : Exit := if v.canInstall then .success else .notInstallable

/-- Runs the checks and delivers the report. `config` is a file in place of the project's. -/
def CheckOptions.run (o : CheckOptions) (env : Environment) (given : Verbosity)
    (config : Option Path) : Transcript :=
  match o.resolve env config with
  | .error failure =>
    if failure.isOfConfig then { told := [.error failure.message], ending := .ok .configError }
    else { ending := .error failure }
  | .ok c =>
    let checked := Checklist.run c.settings.parallel c.checks env.host
    let v := Verdict.ofResults checked.results
    let report := Report.render c.settings.format (o.useColor env c) env.now checked.results v
    o.deliver env.surroundings.files report v.exit
      (c.opening given ++ spinnerActions checked.progress)

end Readiness
