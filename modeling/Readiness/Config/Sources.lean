import Readiness.Config.Agent
import Readiness.Config.Decode
import Readiness.Config.Merge
import Readiness.File.System
import Readiness.Yaml.Document

/-!
Where configuration comes from: a file of the user, a file of the project and one of local
changes, each laid over those before it. None of them has to be there.
-/

namespace Readiness.Config

/-- The directory that holds the configuration files of a user or of a project. -/
def directory : String := ".preinstall"

/-- The files to be read, the lowest layer first. -/
structure Sources where
  userGlobal : Option Path := none
  project : Option Path := none
  projectLocal : Option Path := none
  deriving DecidableEq, Repr

/-- What the search for files depends on: the file system and the user's home directory. -/
structure Surroundings where
  files : File.System
  home : Option Path

/-- A path that names something. -/
def present? (files : File.System) (p : Path) : Option Path :=
  if files.present p then some p else none

namespace Sources

def fileIn (dir : Path) (name : String) : Path := (dir.join directory).join name

def userFile (s : Surroundings) : Option Path :=
  s.home.bind fun home => present? s.files (fileIn home "config.yml")

def discover (s : Surroundings) (root : Path) : Sources :=
  ⟨userFile s, present? s.files (fileIn root "config.yml"),
   present? s.files (fileIn root "config.local.yml")⟩

/-- The user's file, and one file in place of the project's. -/
def explicit (s : Surroundings) (file : Path) : Sources :=
  ⟨userFile s, some file, none⟩

def all (sources : Sources) : List Path :=
  [sources.userGlobal, sources.project, sources.projectLocal].filterMap id

/-- The file that an error about all layers together names. -/
def blamed (sources : Sources) : Path :=
  sources.all.getLast?.getD (fileIn ⟨""⟩ "config.yml")

end Sources

def readFile (files : File.System) (p : Path) : Except Failure String :=
  match files.read p with
  | .ok text => .ok text
  | .error .notFound => .error (.configNotFound p)
  | .error cause => .error (.file cause)

/-- The value that a text holds; `source` is the file that an error names. -/
def parseValue (text : String) (source : Path) : Except Failure Yaml.Value :=
  match Yaml.Value.parse? text with
  | some v => .ok v
  | none => .error (.configMisread source Failure.malformedText)

/-- The configuration that a value describes; `source` is the file that an error names. -/
def ofValue (v : Yaml.Value) (source : Path) : Except Failure Config :=
  (decode v).mapError fun mismatch => .configMisread source mismatch.message

def parse (text : String) (source : Path) : Except Failure Config := do
  ofValue (mergeLayers [← parseValue text source]) source

def loadValue (files : File.System) (p : Path) : Except Failure Yaml.Value := do
  parseValue (← readFile files p) p

def load (files : File.System) (sources : Sources) : Except Failure Config := do
  ofValue (mergeLayers (← sources.all.mapM (loadValue files))) sources.blamed

/-- The configuration of a project, or with the given file in place of the project's. -/
def loadFor (s : Surroundings) (root : Path) (file : Option Path) : Except Failure Config :=
  match file with
  | some file => load s.files (Sources.explicit s file)
  | none => load s.files (Sources.discover s root)

def Agent.load (files : File.System) (p : Path) : Except Failure Agent := do
  (Agent.parse (← readFile files p)).mapError fun error => .configMisread p error.message

/-- The nearest directory, from `start` upwards, that holds a configuration directory or anything
named `.git`. -/
def findRoot (files : File.System) (start : Path) : Option Path :=
  start.ancestors.find? fun dir => files.isDir (dir.join directory) || files.present (dir.join ".git")

end Readiness.Config
