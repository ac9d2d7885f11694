import Readiness.Proofs.AgentReading
import Readiness.Proofs.ConfigFailure

/-!
The configuration that a run goes by. The files, the agent's configuration and the options decide
on it field by field; the rules are put to what comes out of all of them, and no run comes to the
checks with a configuration that breaks one.
-/

namespace Readiness.Config

section Rules

variable {c : Config}

/-- The rules in their order: whether each of them is broken, and what is told of it then. -/
def rules (c : Config) : List (Bool × String) :=
  let tool := c.checks.companionTool
  [(c.checks.port = 0, "checks.port must be between 1 and 65535"),
   (c.checks.minFreeSpaceMb = 0, "checks.min_free_space_mb must be greater than 0"),
   (Text.trim tool.program = "", "checks.companion_tool.program must not be empty"),
   (tool.timeoutSecs = 0,
    "checks.companion_tool.timeout_secs must be greater than 0 for '" ++ tool.program ++ "'")]

/-- No rule is broken. -/
structure KeepsRules (c : Config) : Prop where
  port : c.checks.port ≠ 0
  freeSpace : c.checks.minFreeSpaceMb ≠ 0
  program : Text.trim c.checks.companionTool.program ≠ ""
  timeout : c.checks.companionTool.timeoutSecs ≠ 0

/-- What is told of the rules that are broken. -/
def objection (c : Config) : String :=
  "; ".intercalate ((c.rules.filter Prod.fst).map Prod.snd)

theorem map_message_broken (condition : Bool) (problem : Problem) :
    (broken condition problem).map Problem.message =
      ([(condition, problem.message)].filter Prod.fst).map Prod.snd := by
  cases condition <;> rfl

/-- The problems are told by the broken rules. -/
theorem map_message_problems (c : Config) :
    c.problems.map Problem.message = (c.rules.filter Prod.fst).map Prod.snd := by
  have hblank : (Text.trim c.checks.companionTool.program).isEmpty =
      decide (Text.trim c.checks.companionTool.program = "") := by
    rw [Bool.eq_iff_iff, String.isEmpty_iff, decide_eq_true_iff]
  rw [problems, hblank]
  simp only [List.map_append, map_message_broken]
  simp only [← List.map_append, ← List.filter_append]
  rfl

theorem keepsRules_iff : c.KeepsRules ↔ (c.rules.filter Prod.fst).map Prod.snd = [] := by
  simp only [List.map_eq_nil_iff, List.filter_eq_nil_iff, rules, List.forall_mem_cons,
    decide_eq_true_iff]
  constructor
  · intro h
    exact ⟨h.port, h.freeSpace, h.program, h.timeout, List.forall_mem_nil _⟩
  · rintro ⟨hport, hfreeSpace, hprogram, htimeout, -⟩
    exact ⟨hport, hfreeSpace, hprogram, htimeout⟩

theorem validate_eq_ok_iff : c.validate = .ok () ↔ c.KeepsRules := by
  rw [keepsRules_iff, ← map_message_problems, validate]
  cases c.problems with
  | nil => exact iff_of_true rfl rfl
  | cons problem more => exact iff_of_false (fun h => by cases h) (List.cons_ne_nil _ _)

theorem validate_of_broken (h : ¬ c.KeepsRules) :
    c.validate = .error (.configInvalid c.objection) := by
  rw [keepsRules_iff, ← map_message_problems] at h
  rw [validate, objection, ← map_message_problems]
  cases hproblems : c.problems with
  | nil => exact absurd (congrArg _ hproblems) h
  | cons problem more => rfl

end Rules

section Layers

variable {o : CheckOptions} {files : File.System} {agent : Option Agent}

/-- The database path of the agent, if it has one. -/
def Agent.path? (a : Agent) : Option Path :=
  if a.databasePath = "" then none else some ⟨a.databasePath⟩

/-- The options and the agent, laid over a configuration. For the port and the database path the
first that has a value counts; an agent always has a port. -/
structure LaidOver (o : CheckOptions) (agent : Option Agent) (c e : Config) : Prop where
  port : e.checks.port = (o.port.or (agent.map Agent.port)).getD c.checks.port
  databasePath :
    e.checks.databasePath = (o.databasePath.or (agent.bind Agent.path?)).or c.checks.databasePath
  format : e.settings.format = o.format.getD c.settings.format
  parallel : e.settings.parallel = true ↔ o.parallel = true ∨ c.settings.parallel = true
  rest : { e with
    settings := { e.settings with
      format := c.settings.format
      parallel := c.settings.parallel }
    checks := { e.checks with
      port := c.checks.port
      databasePath := c.checks.databasePath } } = c

/-- There is one way to lay options and an agent over a configuration. -/
theorem LaidOver.unique {c e e' : Config} (h : LaidOver o agent c e) (h' : LaidOver o agent c e') :
    e = e' := by
  have hport := h.port.trans h'.port.symm
  have hpath := h.databasePath.trans h'.databasePath.symm
  have hformat := h.format.trans h'.format.symm
  have hparallel : e.settings.parallel = e'.settings.parallel :=
    Bool.eq_iff_iff.mpr (h.parallel.trans h'.parallel.symm)
  have hrest := h.rest.trans h'.rest.symm
  obtain ⟨⟨_, _, _⟩, _, _, _, _, _, _, _, _⟩ := e
  obtain ⟨⟨_, _, _⟩, _, _, _, _, _, _, _, _⟩ := e'
  simp only [Config.mk.injEq, Settings.mk.injEq, CheckSettings.mk.injEq, true_and, and_true]
    at hrest ⊢
  exact ⟨⟨hrest.1, hformat, hparallel⟩, hport, hpath, hrest.2⟩

/-- The agent is what its file says, if the options name one. -/
inductive AgentOf (o : CheckOptions) (files : File.System) : Option Agent → Prop
  | none (h : o.agentConfig = none) : AgentOf o files none
  | file {p : Path} {text : String} {v : Json.Value} {a : Agent} (h : o.agentConfig = some p)
    (hread : files.read p = .ok text) (hdocument : Json.IsDocument text v)
    (hdescribes : Agent.Describes v a) : AgentOf o files (some a)

theorem effective_laidOver (o : CheckOptions) (agent : Option Agent) (c : Config) :
    LaidOver o agent c (o.effective agent c) where
  port := by
    cases agent with
    | none => simp only [CheckOptions.effective, Option.map_none, Option.or_none]
    | some a =>
        simp only [CheckOptions.effective, Option.map_some, Agent.apply]
        cases o.port <;> rfl
  databasePath := by
    cases agent with
    | none => simp only [CheckOptions.effective, Option.bind_none, Option.or_none]
    | some a =>
        simp only [CheckOptions.effective, Option.bind_some, Option.or_assoc, Agent.apply,
          Agent.path?, String.isEmpty_iff]
        split <;> rfl
  format := rfl
  parallel := Bool.or_eq_true_iff
  rest := by
    cases agent <;> rfl

theorem agent_agentOf (h : o.agent files = .ok agent) : AgentOf o files agent := by
  rw [CheckOptions.agent] at h
  split at h
  · rename_i p hp
    cases hload : Agent.load files p with
    | error failure =>
        rw [hload] at h
        cases h
    | ok a =>
        rw [hload] at h
        cases h
        obtain ⟨text, hread, hparse⟩ := bind_eq_ok_iff.mp hload
        obtain ⟨v, hdocument, hdescribes⟩ := Agent.parse_describes (mapError_eq_ok_iff.mp hparse)
        exact .file hp (readFile_eq_ok_iff.mp hread) hdocument hdescribes
  · rename_i hnone
    cases h
    exact .none hnone

end Layers

end Readiness.Config

namespace Readiness

open Config (AgentOf KeepsRules LaidOver)

/-- The run with a configuration that was found. -/
def CheckOptions.carryOut (o : CheckOptions) (c : Config) (env : Environment) (given : Verbosity) :
    Transcript :=
  let checked := Checklist.run c.settings.parallel c.checks env.host
  let v := Verdict.ofResults checked.results
  let report := Report.render c.settings.format (o.useColor env c) env.now checked.results v
  o.deliver env.surroundings.files report v.exit
    (c.opening given ++ spinnerActions checked.progress)

variable {o : CheckOptions} {env : Environment} {config : Option Path} {c : Config}

section Runs

variable {agent : Option Config.Agent}

/-- The rules are put to the configuration that comes out of all sources. -/
theorem resolve_of_loaded (hc : Config.loadFor env.surroundings env.root config = .ok c)
    (hagent : o.agent env.surroundings.files = .ok agent) :
    o.resolve env config =
      ((o.effective agent c).validate >>= fun _ => .ok (o.effective agent c)) := by
  simp only [CheckOptions.resolve, hc, hagent]
  rfl

theorem resolve_eq_ok_iff (hc : Config.loadFor env.surroundings env.root config = .ok c)
    (hagent : o.agent env.surroundings.files = .ok agent) :
    o.resolve env config = .ok (o.effective agent c) ↔ (o.effective agent c).KeepsRules := by
  rw [resolve_of_loaded hc hagent, ← Config.validate_eq_ok_iff, Config.bind_eq_ok_iff]
  constructor
  · rintro ⟨_, h, -⟩
    exact h
  · intro h
    exact ⟨(), h, rfl⟩

theorem resolve_of_broken (hc : Config.loadFor env.surroundings env.root config = .ok c)
    (hagent : o.agent env.surroundings.files = .ok agent)
    (h : ¬ (o.effective agent c).KeepsRules) :
    o.resolve env config = .error (.configInvalid (o.effective agent c).objection) := by
  rw [resolve_of_loaded hc hagent, Config.validate_of_broken h]
  rfl

theorem keepsRules_of_resolve (h : o.resolve env config = .ok c) : c.KeepsRules := by
  obtain ⟨loaded, hloaded, h⟩ := Config.bind_eq_ok_iff.mp h
  obtain ⟨agent, hagent, h⟩ := Config.bind_eq_ok_iff.mp h
  obtain ⟨_, hvalid, h⟩ := Config.bind_eq_ok_iff.mp h
  cases h
  exact Config.validate_eq_ok_iff.mp hvalid

theorem run_of_resolve (h : o.resolve env config = .ok c) (given : Verbosity) :
    o.run env given config = o.carryOut c env given := by
  rw [CheckOptions.run, h]
  rfl

/-- A run without a configuration asks nothing of the host. -/
theorem run_any_host {failure : Failure} (h : o.resolve env config = .error failure)
    (given : Verbosity) (host : Host) :
    o.run { env with host := host } given config = o.run env given config := by
  have hresolve : o.resolve { env with host := host } config = .error failure := h
  rw [CheckOptions.run, CheckOptions.run, h, hresolve]

/-- The configuration that the files, the agent's configuration and the options make together is
the configuration of the run exactly if it keeps the rules; else the error tells all broken rules
in their order. So a run either goes on with a configuration that keeps the rules, or is the same
on every host. -/
theorem resolved_keeps_rules (i : Invocation) (options : Option CheckOptions) (env : Environment)
    (given : Verbosity) :
    let o := options.getD {}
    let run (env : Environment) := Invocation.run { i with command := options.map .check } env given
    (∀ c agent, Config.loadFor env.surroundings env.root i.config = .ok c →
      o.agent env.surroundings.files = .ok agent →
      AgentOf o env.surroundings.files agent ∧ ∃ e, LaidOver o agent c e ∧
        (o.resolve env i.config = .ok e ↔ e.KeepsRules) ∧
        (¬ e.KeepsRules → o.resolve env i.config = .error (.configInvalid e.objection))) ∧
    ((∃ e, o.resolve env i.config = .ok e ∧ e.KeepsRules ∧ run env = o.carryOut e env given) ∨
      (∃ failure, o.resolve env i.config = .error failure) ∧
        ∀ host, run { env with host := host } = run env) := by
  intro o run
  have hrun (env : Environment) : run env = o.run env given i.config := by
    cases options <;> rfl
  refine ⟨?_, ?_⟩
  · intro c agent hc hagent
    exact ⟨Config.agent_agentOf hagent, o.effective agent c, Config.effective_laidOver o agent c,
      resolve_eq_ok_iff hc hagent, resolve_of_broken hc hagent⟩
  · simp only [hrun]
    cases h : o.resolve env i.config with
    | ok e => exact Or.inl ⟨e, rfl, keepsRules_of_resolve h, run_of_resolve h given⟩
    | error failure => exact Or.inr ⟨⟨failure, rfl⟩, run_any_host h given⟩

/-- A project that asks for no free space, beside an agent whose port is 0. -/
def besideZeroPort : Environment where
  surroundings :=
    { home := none
      files :=
        { kind := fun p => if p = Config.Sources.fileIn ⟨"/proj"⟩ "config.yml" then .ok .file
            else .error .notFound
          read := fun p => if p = ⟨"/agent.json"⟩ then .ok "\x7b\"port\":0\x7d"
            else if p = Config.Sources.fileIn ⟨"/proj"⟩ "config.yml" then
              .ok "checks:\n  min_free_space_mb: 0\n"
            else .error .notFound
          names := fun _ => .ok []
          write := fun _ => .ok () } }
  root := ⟨"/proj"⟩
  host := fun _ => .panic none
  colors := false
  now := ⟨0, 0⟩

theorem zero_port_is_refused :
    let o : CheckOptions := { agentConfig := some ⟨"/agent.json"⟩ }
    let c : Config := { checks := { minFreeSpaceMb := 0 } }
    Config.loadFor besideZeroPort.surroundings besideZeroPort.root none = .ok c ∧
      ∃ e, LaidOver o (some ⟨"", 0⟩) c e ∧ e.checks.port = 0 ∧
        o.resolve besideZeroPort none = .error (.configInvalid
          ("checks.port must be between 1 and 65535; " ++
            "checks.min_free_space_mb must be greater than 0")) := by
  intro o c
  have hload : Config.loadFor besideZeroPort.surroundings besideZeroPort.root none = .ok c := by
    decide +kernel
  obtain ⟨-, e, hlaid, -, hrefused⟩ :=
    (resolved_keeps_rules {} (some o) besideZeroPort .normal).1 c (some ⟨"", 0⟩) hload rfl
  have htold : e.objection = "checks.port must be between 1 and 65535; " ++
      "checks.min_free_space_mb must be greater than 0" := by
    rw [hlaid.unique (Config.effective_laidOver o (some ⟨"", 0⟩) c)]
    decide +kernel
  refine ⟨hload, e, hlaid, hlaid.port, ?_⟩
  rw [← htold]
  exact hrefused fun h => h.port hlaid.port

end Runs

end Readiness
