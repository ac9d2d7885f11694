import Readiness.Command.Run
import Readiness.Proofs.Decision
import Readiness.Proofs.Isolation
import Readiness.Terminal.Recording

/-!
What a run of the checks leaves behind. Either its report is delivered once, to standard output or
to the file that the options name, and the run ends by the verdict; or nothing is delivered, one
error is told, and the run ends with a code of its own.
-/

namespace Readiness

section Records

def Action.report? : Action → Option String
  | report text => some text
  | _ => none

def Action.error? : Action → Option String
  | error text => some text
  | _ => none

variable {actions more : List Action}

/-- A part of the record grows by what each action adds to it. -/
theorem Recording.foldl_add {part : Recording → List String} {pick : Action → Option String}
    (h : ∀ r a, part (add r a) = part r ++ (pick a).toList) (r : Recording) :
    part (actions.foldl add r) = part r ++ actions.filterMap pick := by
  induction actions generalizing r with
  | nil => exact (List.append_nil _).symm
  | cons a actions ih =>
      rw [List.foldl_cons, ih, h, List.append_assoc, List.filterMap_cons]
      cases pick a <;> rfl

theorem Recording.reports_add (r : Recording) (a : Action) :
    (r.add a).reports = r.reports ++ a.report?.toList := by
  cases a with
  | report text => rfl
  | spinnerMessage _ | spinnerClear =>
      simp only [add, spinnerEvent, Action.report?, Option.toList_none, List.append_nil]
      split <;> rfl
  | _ => exact (List.append_nil _).symm

theorem Recording.errors_add (r : Recording) (a : Action) :
    (r.add a).errors = r.errors ++ a.error?.toList := by
  cases a with
  | error text => rfl
  | spinnerMessage _ | spinnerClear =>
      simp only [add, spinnerEvent, Action.error?, Option.toList_none, List.append_nil]
      split <;> rfl
  | _ => exact (List.append_nil _).symm

theorem Recording.reports_ofActions (given : Verbosity) :
    (ofActions given actions).reports = actions.filterMap Action.report? :=
  foldl_add reports_add { verbosity := given }

theorem Recording.errors_ofActions (given : Verbosity) :
    (ofActions given actions).errors = actions.filterMap Action.error? :=
  foldl_add errors_add { verbosity := given }

/-- Actions of which none is a report or an error. -/
def Silent (actions : List Action) : Prop :=
  ∀ a ∈ actions, a.report? = none ∧ a.error? = none

theorem Silent.append (h : Silent actions) (h' : Silent more) : Silent (actions ++ more) := by
  intro a ha
  obtain ha | ha := List.mem_append.mp ha
  · exact h a ha
  · exact h' a ha

theorem Silent.reports (h : Silent actions) : actions.filterMap Action.report? = [] :=
  List.filterMap_eq_nil_iff.mpr fun a ha => (h a ha).1

theorem Silent.errors (h : Silent actions) : actions.filterMap Action.error? = [] :=
  List.filterMap_eq_nil_iff.mpr fun a ha => (h a ha).2

theorem silent_opening (c : Config) (given : Verbosity) : Silent (c.opening given) := by
  refine Silent.append ?_ ?_
  · intro a ha
    split at ha
    · obtain rfl := List.mem_singleton.mp ha
      exact ⟨rfl, rfl⟩
    · cases ha
  · intro a ha
    split at ha
    · obtain rfl | ha := List.mem_cons.mp ha
      · exact ⟨rfl, rfl⟩
      · obtain ⟨line, -, rfl⟩ := List.mem_map.mp ha
        exact ⟨rfl, rfl⟩
    · cases ha

theorem silent_spinnerActions (progress : List Progress) : Silent (spinnerActions progress) := by
  intro a ha
  obtain rfl | ha := List.mem_cons.mp ha
  · exact ⟨rfl, rfl⟩
  · obtain ha | ha := List.mem_append.mp ha
    · obtain ⟨text, -, rfl⟩ := List.mem_map.mp ha
      exact ⟨rfl, rfl⟩
    · obtain rfl := List.mem_singleton.mp ha
      exact ⟨rfl, rfl⟩

end Records

section Runs

/-- What is recorded of a transcript, the failure it ends with included. -/
def Transcript.recording (t : Transcript) (given : Verbosity) : Recording :=
  .ofActions given t.finish.1

/-- The report was told once or written once, as the options have it, and no error was told. -/
structure Delivers (o : CheckOptions) (report : String) (given : Verbosity) (t : Transcript) :
    Prop where
  no_error : (t.recording given).errors = []
  told_once : (t.recording given).reports = if o.output.isSome then [] else [report]
  written_once : t.written = o.output.toList.map fun file => (file, report)

/-- No report was told or written, and one error was told. -/
structure Refuses (given : Verbosity) (t : Transcript) : Prop where
  one_error : ∃ text, (t.recording given).errors = [text]
  not_told : (t.recording given).reports = []
  not_written : t.written = []

namespace CheckOptions

/-- The results of the checks under a configuration. -/
def results (c : Config) (env : Environment) : List CheckResult :=
  CheckId.all.map (Checklist.runOne c.checks env.host)

/-- The report over these results. -/
def report (o : CheckOptions) (c : Config) (env : Environment) : String :=
  Report.render c.settings.format (o.useColor env c) env.now (results c env)
    (Verdict.ofResults (results c env))

end CheckOptions

open CheckOptions (results)

theorem results_run (parallel : Bool) (s : CheckSettings) (host : Host) :
    (Checklist.run parallel s host).results = CheckId.all.map (Checklist.runOne s host) := by
  cases parallel with
  | true => exact Checklist.results_runParallel s host []
  | false => exact Checklist.results_runSequential s host

variable {o : CheckOptions} {env : Environment} {config : Option Path} {told : List Action}

theorem recording_of_silent {t : Transcript} (h : Silent told) {a : Action}
    (hfinish : t.finish.1 = told ++ [a]) (given : Verbosity) :
    (t.recording given).errors = a.error?.toList ∧
      (t.recording given).reports = a.report?.toList := by
  rw [Transcript.recording, Recording.errors_ofActions, Recording.reports_ofActions, hfinish,
    List.filterMap_append, List.filterMap_append, h.errors, h.reports]
  cases a <;> exact ⟨rfl, rfl⟩

theorem refuses_of_silent {t : Transcript} (h : Silent told) {text : String}
    (hfinish : t.finish.1 = told ++ [.error text]) (hwritten : t.written = [])
    (given : Verbosity) : Refuses given t := by
  obtain ⟨herrors, hreports⟩ := recording_of_silent h hfinish given
  exact ⟨⟨text, herrors⟩, hreports, hwritten⟩

/-- A run without a configuration tells why. -/
theorem run_of_failure {failure : Failure} (h : o.resolve env config = .error failure)
    (given : Verbosity) :
    Refuses given (o.run env given config) ∧
      (o.run env given config).finish.2 =
        if failure.isOfConfig then .configError else .runtimeError := by
  have hsilent : Silent [] := fun a ha => by cases ha
  simp only [CheckOptions.run, h]
  cases failure.isOfConfig with
  | true => exact ⟨refuses_of_silent hsilent rfl rfl given, rfl⟩
  | false => exact ⟨refuses_of_silent hsilent rfl rfl given, rfl⟩

theorem delivers_of_told {t : Transcript} {report : String} (h : Silent told)
    (houtput : o.output = none) (hfinish : t.finish.1 = told ++ [.report report])
    (hwritten : t.written = []) (given : Verbosity) : Delivers o report given t := by
  obtain ⟨herrors, hreports⟩ := recording_of_silent h hfinish given
  refine ⟨herrors, ?_, ?_⟩
  · rw [hreports, houtput]
    rfl
  · rw [hwritten, houtput]
    rfl

theorem delivers_of_written {t : Transcript} {report text : String} {file : Path} (h : Silent told)
    (houtput : o.output = some file) (hfinish : t.finish.1 = told ++ [.success text])
    (hwritten : t.written = [(file, report)]) (given : Verbosity) : Delivers o report given t := by
  obtain ⟨herrors, hreports⟩ := recording_of_silent h hfinish given
  refine ⟨herrors, ?_, ?_⟩
  · rw [hreports, houtput]
    rfl
  · rw [hwritten, houtput]
    rfl

/-- A run with a configuration delivers its report, unless that goes to a file that cannot be
written. -/
theorem run_of_config {c : Config} (h : o.resolve env config = .ok c) (given : Verbosity) :
    (∃ file cause, o.output = some file ∧ env.surroundings.files.write file = .error cause ∧
      Refuses given (o.run env given config) ∧
      (o.run env given config).finish.2 = .runtimeError) ∨
    ((∀ file, o.output = some file → env.surroundings.files.write file = .ok ()) ∧
      Delivers o (o.report c env) given (o.run env given config) ∧
      (o.run env given config).finish.2 = (Verdict.ofResults (results c env)).exit) := by
  -- What is told before the report is delivered is neither a report nor an error.
  have hsilent := (silent_opening c given).append (silent_spinnerActions
    (Checklist.run c.settings.parallel c.checks env.host).progress)
  simp only [CheckOptions.run, h, CheckOptions.deliver, results_run]
  cases houtput : o.output with
  | none =>
      right
      refine ⟨?_, delivers_of_told hsilent houtput rfl rfl given, rfl⟩
      intro file hfile
      cases hfile
  | some file =>
      cases hwrite : env.surroundings.files.write file with
      | ok _ =>
          right
          simp only [hwrite]
          refine ⟨?_, delivers_of_written hsilent houtput rfl rfl given, rfl⟩
          intro file' hfile
          obtain rfl := Option.some.inj hfile
          exact hwrite
      | error cause =>
          left
          simp only [hwrite]
          exact ⟨file, cause, rfl, hwrite, refuses_of_silent hsilent rfl rfl given, rfl⟩

theorem not_refuses_of_delivers {report : String} {given : Verbosity} {t : Transcript}
    (h : Delivers o report given t) : ¬ Refuses given t := by
  intro hrefuses
  obtain ⟨text, herror⟩ := hrefuses.one_error
  cases h.no_error.symm.trans herror

/-- A run with a verdict ends with success or as not installable, by the results. -/
theorem exit_ofResults (results : List CheckResult) :
    ((∀ r ∈ results, r.isBlocking = false) ∧ (Verdict.ofResults results).exit = .success) ∨
      ((∃ r ∈ results, r.isBlocking = true) ∧
        (Verdict.ofResults results).exit = .notInstallable) := by
  by_cases h : (Verdict.ofResults results).canInstall = true
  · left
    exact ⟨(Verdict.canInstall_iff results).mp h, by rw [Verdict.exit, if_pos h]⟩
  · right
    refine ⟨?_, by rw [Verdict.exit, if_neg h]⟩
    simpa only [Verdict.canInstall_iff, Classical.not_forall, Bool.not_eq_false, exists_prop]
      using h

theorem refuses_or_delivers (o : CheckOptions) (env : Environment) (given : Verbosity)
    (config : Option Path) :
    (Refuses given (o.run env given config) ∧
      ((o.run env given config).finish.2 = .configError ∨
        (o.run env given config).finish.2 = .runtimeError)) ∨
    ∃ c, o.resolve env config = .ok c ∧
      Delivers o (o.report c env) given (o.run env given config) ∧
      (o.run env given config).finish.2 = (Verdict.ofResults (results c env)).exit := by
  cases h : o.resolve env config with
  | error failure =>
      left
      obtain ⟨hrefuses, hexit⟩ := run_of_failure h given
      refine ⟨hrefuses, ?_⟩
      rw [hexit]
      cases failure.isOfConfig with
      | true => exact Or.inl rfl
      | false => exact Or.inr rfl
  | ok c =>
      obtain ⟨file, cause, -, -, hrefuses, hexit⟩ | ⟨-, hdelivers, hexit⟩ := run_of_config h given
      · exact Or.inl ⟨hrefuses, Or.inr hexit⟩
      · exact Or.inr ⟨c, rfl, hdelivers, hexit⟩

end Runs

open CheckOptions (results)

/-- The code with which a run of the checks ends tells whether and where its report is: with code
0 or 1 the report was delivered once, and with code 0 nothing in it blocks; with code 2 or 3 there
is no report, but one error. -/
theorem exit_code_tells_delivery (i : Invocation) (options : Option CheckOptions)
    (env : Environment) (given : Verbosity) :
    let o := options.getD {}
    let t := Invocation.run { i with command := options.map .check } env given
    let code := t.finish.2.code
    (code = 0 ∨ code = 1 ∨ code = 2 ∨ code = 3) ∧
      (code = 0 ↔ ∃ c, o.resolve env i.config = .ok c ∧ Delivers o (o.report c env) given t ∧
        ∀ r ∈ results c env, r.isBlocking = false) ∧
      (code = 1 ↔ ∃ c, o.resolve env i.config = .ok c ∧ Delivers o (o.report c env) given t ∧
        ∃ r ∈ results c env, r.isBlocking = true) ∧
      (code = 2 ∨ code = 3 ↔ Refuses given t) := by
  intro o t code
  have hrun : t = o.run env given i.config := by
    cases options <;> rfl
  have hends := refuses_or_delivers o env given i.config
  rw [← hrun] at hends
  obtain ⟨hrefuses, hexit⟩ | ⟨c, hc, hdelivers, hexit⟩ := hends
  · have hcode : code = 2 ∨ code = 3 := by
      obtain hexit | hexit := hexit
      · exact Or.inl (congrArg Exit.code hexit)
      · exact Or.inr (congrArg Exit.code hexit)
    refine ⟨by omega, ⟨by omega, ?_⟩, ⟨by omega, ?_⟩, fun _ => hrefuses, fun _ => hcode⟩
    · rintro ⟨c, -, hdelivers, -⟩
      exact absurd hrefuses (not_refuses_of_delivers hdelivers)
    · rintro ⟨c, -, hdelivers, -⟩
      exact absurd hrefuses (not_refuses_of_delivers hdelivers)
  · have hnot : ¬ Refuses given t := not_refuses_of_delivers hdelivers
    obtain ⟨hall, hsuccess⟩ | ⟨⟨r, hr, hblocking⟩, hfailed⟩ := exit_ofResults (results c env)
    · have hcode : code = 0 := congrArg Exit.code (hexit.trans hsuccess)
      refine ⟨by omega, ⟨fun _ => ⟨c, hc, hdelivers, hall⟩, fun _ => hcode⟩, ⟨by omega, ?_⟩,
        by omega, fun h => absurd h hnot⟩
      rintro ⟨c', hc', -, r, hr, hblocking⟩
      obtain rfl : c = c' := Except.ok.inj (hc.symm.trans hc')
      rw [hall r hr] at hblocking
      cases hblocking
    · have hcode : code = 1 := congrArg Exit.code (hexit.trans hfailed)
      refine ⟨by omega, ⟨by omega, ?_⟩, ⟨fun _ => ⟨c, hc, hdelivers, r, hr, hblocking⟩,
        fun _ => hcode⟩, by omega, fun h => absurd h hnot⟩
      rintro ⟨c', hc', -, hall⟩
      obtain rfl : c = c' := Except.ok.inj (hc.symm.trans hc')
      rw [hall r hr] at hblocking
      cases hblocking

end Readiness
