import Readiness.Proofs.Delivery
import Readiness.Proofs.Steps

/-!
Why a run has no configuration, and how it then ends. A file that is there but cannot be read is a
failure of the file, and the run ends as if its report could not be written; all other failures
are failures of the configuration and have their own exit code.
-/

namespace Readiness.Config

section Files

variable {files : File.System} {cause : File.Error} {p : Path} {failure : Failure}

/-- A file that cannot be read, though it may be there. -/
def Unreadable (files : File.System) (cause : File.Error) (p : Path) : Prop :=
  files.read p = .error cause ∧ cause ≠ .notFound

/-- The first of the files without a value is one that cannot be read. -/
def StopsUnreadable (files : File.System) (cause : File.Error) (paths : List Path) : Prop :=
  ∃ before p after, paths = before ++ p :: after ∧
    (∀ q ∈ before, ∃ v, loadValue files q = .ok v) ∧ Unreadable files cause p

/-- A failure of the configuration or of a file. -/
def Foreseen (failure : Failure) : Prop :=
  failure.isOfConfig = true ∨ ∃ cause, failure = .file cause

theorem readFile_eq_ok_iff {text : String} :
    readFile files p = .ok text ↔ files.read p = .ok text := by
  rw [readFile]
  cases files.read p with
  | ok text => simp
  | error cause => cases cause <;> exact iff_of_false nofun nofun

theorem readFile_eq_file_iff :
    readFile files p = .error (.file cause) ↔ Unreadable files cause p := by
  simp only [readFile, Unreadable]
  cases files.read p with
  | ok text => simp
  | error found =>
      cases found with
      | notFound =>
          constructor
          · intro h
            cases h
          · rintro ⟨h, hpresent⟩
            cases h
            exact absurd rfl hpresent
      | _ =>
          constructor
          · intro h
            cases h
            exact ⟨rfl, nofun⟩
          · rintro ⟨h, -⟩
            cases h
            rfl

theorem readFile_foreseen (h : readFile files p = .error failure) : Foreseen failure := by
  rw [readFile] at h
  split at h
  · cases h
  · cases h
    exact Or.inl rfl
  · cases h
    exact Or.inr ⟨_, rfl⟩

theorem parseValue_failure {text : String} (h : parseValue text p = .error failure) :
    failure.isOfConfig = true := by
  rw [parseValue] at h
  split at h <;> cases h
  rfl

theorem ofValue_failure {v : Yaml.Value} (h : ofValue v p = .error failure) :
    failure.isOfConfig = true := by
  obtain ⟨mismatch, -, rfl⟩ := mapError_eq_error_iff.mp h
  rfl

theorem validate_failure {c : Config} (h : c.validate = .error failure) :
    failure.isOfConfig = true := by
  rw [validate] at h
  split at h <;> cases h
  rfl

theorem not_isOfConfig_file : ¬ (Failure.file cause).isOfConfig = true := Bool.false_ne_true

theorem loadValue_eq_file_iff :
    loadValue files p = .error (.file cause) ↔ Unreadable files cause p := by
  rw [loadValue, bind_eq_error_iff, readFile_eq_file_iff, or_iff_left]
  rintro ⟨text, -, h⟩
  exact not_isOfConfig_file (parseValue_failure h)

theorem loadValue_foreseen (h : loadValue files p = .error failure) : Foreseen failure := by
  obtain h | ⟨text, -, h⟩ := bind_eq_error_iff.mp h
  · exact readFile_foreseen h
  · exact Or.inl (parseValue_failure h)

theorem load_eq_file_iff {sources : Sources} :
    load files sources = .error (.file cause) ↔ StopsUnreadable files cause sources.all := by
  rw [load, bind_eq_error_iff, mapM_eq_error_iff, or_iff_left]
  · simp only [loadValue_eq_file_iff, StopsUnreadable]
  · rintro ⟨layers, -, h⟩
    exact not_isOfConfig_file (ofValue_failure h)

theorem load_foreseen {sources : Sources} (h : load files sources = .error failure) :
    Foreseen failure := by
  obtain h | ⟨layers, -, h⟩ := bind_eq_error_iff.mp h
  · obtain ⟨_, p, _, -, -, h⟩ := mapM_eq_error_iff.mp h
    exact loadValue_foreseen h
  · exact Or.inl (ofValue_failure h)

theorem agentLoad_eq_file_iff :
    Agent.load files p = .error (.file cause) ↔ Unreadable files cause p := by
  rw [Agent.load, bind_eq_error_iff, readFile_eq_file_iff, or_iff_left]
  rintro ⟨text, -, h⟩
  obtain ⟨error, -, h⟩ := mapError_eq_error_iff.mp h
  cases h

theorem agentLoad_foreseen (h : Agent.load files p = .error failure) : Foreseen failure := by
  obtain h | ⟨text, -, h⟩ := bind_eq_error_iff.mp h
  · exact readFile_foreseen h
  · obtain ⟨error, -, rfl⟩ := mapError_eq_error_iff.mp h
    exact Or.inl rfl

/-- The files that are read for a project, or for the file in place of the project's. -/
def sourcesFor (s : Surroundings) (root : Path) : Option Path → Sources
  | some file => .explicit s file
  | none => .discover s root

theorem loadFor_eq (s : Surroundings) (root : Path) (file : Option Path) :
    loadFor s root file = load s.files (sourcesFor s root file) := by
  cases file <;> rfl

end Files

end Readiness.Config

namespace Readiness

open Config (Foreseen StopsUnreadable Unreadable bind_eq_error_iff sourcesFor)

variable {o : CheckOptions} {env : Environment} {config : Option Path} {cause : File.Error}
  {failure : Failure}

theorem agent_eq_error_iff {files : File.System} :
    o.agent files = .error failure ↔
      ∃ p, o.agentConfig = some p ∧ Config.Agent.load files p = .error failure := by
  rw [CheckOptions.agent]
  cases o.agentConfig with
  | none => simp
  | some p => cases h : Config.Agent.load files p <;> simp [Except.map, h]

theorem resolve_eq_error_iff :
    o.resolve env config = .error failure ↔
      Config.loadFor env.surroundings env.root config = .error failure ∨
      ∃ loaded, Config.loadFor env.surroundings env.root config = .ok loaded ∧
        (o.agent env.surroundings.files = .error failure ∨
          ∃ agent, o.agent env.surroundings.files = .ok agent ∧
            (o.effective agent loaded).validate = .error failure) := by
  have hpure (c : Config) : ¬ (pure c : Except Failure Config) = .error failure := nofun
  simp only [CheckOptions.resolve, bind_eq_error_iff, hpure, and_false, exists_false, or_false]

/-- A run has no configuration for a failure of a file exactly if a file that it reads is there
but cannot be read, with nothing wrong before it. -/
theorem resolve_eq_file_iff :
    o.resolve env config = .error (.file cause) ↔
      StopsUnreadable env.surroundings.files cause
        (sourcesFor env.surroundings env.root config).all ∨
      ∃ loaded p, Config.loadFor env.surroundings env.root config = .ok loaded ∧
        o.agentConfig = some p ∧ Unreadable env.surroundings.files cause p := by
  have hvalid (c : Config) : ¬ c.validate = .error (.file cause) :=
    fun h => Config.not_isOfConfig_file (Config.validate_failure h)
  simp only [resolve_eq_error_iff, hvalid, and_false, exists_false, or_false, agent_eq_error_iff,
    Config.agentLoad_eq_file_iff, exists_and_left]
  rw [Config.loadFor_eq, Config.load_eq_file_iff]

theorem resolve_foreseen (h : o.resolve env config = .error failure) : Foreseen failure := by
  obtain h | ⟨loaded, -, h | ⟨agent, -, h⟩⟩ := resolve_eq_error_iff.mp h
  · rw [Config.loadFor_eq] at h
    exact Config.load_foreseen h
  · obtain ⟨p, -, h⟩ := agent_eq_error_iff.mp h
    exact Config.agentLoad_foreseen h
  · exact Or.inl (Config.validate_failure h)

theorem exit_ne_of_verdict (v : Verdict) : v.exit ≠ .configError ∧ v.exit ≠ .runtimeError := by
  rw [Verdict.exit]
  split <;> decide

theorem exit_eq_configError_iff (given : Verbosity) :
    (o.run env given config).finish.2 = .configError ↔
      ∃ failure, o.resolve env config = .error failure ∧ ∀ cause, failure ≠ .file cause := by
  cases hresolve : o.resolve env config with
  | error failure =>
      obtain ⟨-, hexit⟩ := run_of_failure hresolve given
      rw [hexit]
      obtain hfailure | ⟨cause, rfl⟩ := resolve_foreseen hresolve
      · have hne (cause : File.Error) : failure ≠ .file cause := by
          rintro rfl
          exact Config.not_isOfConfig_file hfailure
        exact iff_of_true (if_pos hfailure) ⟨failure, rfl, hne⟩
      · refine iff_of_false nofun ?_
        rintro ⟨failure, h, hne⟩
        cases h
        exact hne cause rfl
  | ok c =>
      have hnone : ¬ ∃ failure, (.ok c : Except Failure Config) = .error failure ∧
          ∀ cause, failure ≠ .file cause := by
        rintro ⟨failure, h, -⟩
        cases h
      obtain ⟨_, _, -, -, -, hexit⟩ | ⟨-, -, hexit⟩ := run_of_config hresolve given
      · exact iff_of_false (by rw [hexit]; nofun) hnone
      · exact iff_of_false (by rw [hexit]; exact (exit_ne_of_verdict _).1) hnone

theorem exit_eq_runtimeError_iff (given : Verbosity) :
    (o.run env given config).finish.2 = .runtimeError ↔
      (∃ cause, o.resolve env config = .error (.file cause)) ∨
      ∃ c file cause, o.resolve env config = .ok c ∧ o.output = some file ∧
        env.surroundings.files.write file = .error cause := by
  cases hresolve : o.resolve env config with
  | error failure =>
      obtain ⟨-, hexit⟩ := run_of_failure hresolve given
      rw [hexit]
      obtain hfailure | ⟨cause, rfl⟩ := resolve_foreseen hresolve
      · rw [if_pos hfailure]
        refine iff_of_false nofun ?_
        rintro (⟨cause, h⟩ | ⟨c, _, _, h, -⟩)
        · cases h
          exact Config.not_isOfConfig_file hfailure
        · cases h
      · exact iff_of_true rfl (Or.inl ⟨cause, rfl⟩)
  | ok c =>
      obtain ⟨file, cause, houtput, hwrite, -, hexit⟩ | ⟨hwritable, -, hexit⟩ :=
        run_of_config hresolve given
      · exact iff_of_true hexit (Or.inr ⟨c, file, cause, rfl, houtput, hwrite⟩)
      · refine iff_of_false (by rw [hexit]; exact (exit_ne_of_verdict _).2) ?_
        rintro (⟨cause, h⟩ | ⟨_, file, cause, -, houtput, hwrite⟩)
        · cases h
        · rw [hwritable file houtput] at hwrite
          cases hwrite

/-- How a run of the checks ends that has no verdict: with the code for configurations if the
configuration fails in any way except that a file which is there cannot be read, and with the code
for other failures in that case, and if the report cannot be written. -/
theorem exit_without_verdict (i : Invocation) (options : Option CheckOptions) (env : Environment)
    (given : Verbosity) :
    let o := options.getD {}
    let exit := (Invocation.run { i with command := options.map .check } env given).finish.2
    (exit = .configError ↔
      ∃ failure, o.resolve env i.config = .error failure ∧ ∀ cause, failure ≠ .file cause) ∧
    (exit = .runtimeError ↔
      (∃ cause, o.resolve env i.config = .error (.file cause)) ∨
      ∃ c file cause, o.resolve env i.config = .ok c ∧ o.output = some file ∧
        env.surroundings.files.write file = .error cause) ∧
    ∀ cause, o.resolve env i.config = .error (.file cause) ↔
      StopsUnreadable env.surroundings.files cause
        (sourcesFor env.surroundings env.root i.config).all ∨
      ∃ loaded p, Config.loadFor env.surroundings env.root i.config = .ok loaded ∧
        o.agentConfig = some p ∧ Unreadable env.surroundings.files cause p := by
  intro o exit
  have hrun : exit = (o.run env given i.config).finish.2 := by
    cases options <;> rfl
  rw [hrun]
  exact ⟨exit_eq_configError_iff given, exit_eq_runtimeError_iff given,
    fun _ => resolve_eq_file_iff⟩

/-- A project with a directory in the place of its configuration file, and nothing else. -/
def misplacedDirectory : Environment where
  surroundings :=
    { home := none
      files :=
        { kind := fun p => if p = Config.Sources.fileIn ⟨"/proj"⟩ "config.yml" then .ok .directory
            else .error .notFound
          read := fun p => if p = Config.Sources.fileIn ⟨"/proj"⟩ "config.yml" then
            .error .isADirectory else .error .notFound
          names := fun _ => .ok []
          write := fun _ => .ok () } }
  root := ⟨"/proj"⟩
  host := fun _ => .panic none
  colors := false
  now := ⟨0, 0⟩

/-- A configuration that cannot be loaded does not always end the run with the code for that. -/
theorem exit_of_misplacedDirectory :
    ({} : CheckOptions).resolve misplacedDirectory none = .error (.file .isADirectory) ∧
      (Invocation.run {} misplacedDirectory .normal).finish.2.code = 3 ∧
      Exit.configError.code ≠ 3 :=
  ⟨rfl, rfl, by decide⟩

end Readiness
