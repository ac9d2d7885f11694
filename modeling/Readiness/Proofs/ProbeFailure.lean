import Readiness.Proofs.Isolation
import Readiness.Proofs.Search

/-!
What becomes of questions that fail. On a host without panics every check has one result, which
opens with its sign; and it is the check's own result for a failure exactly if the question that
the check rests on fails: its only question, all look-ups of a search, or one of the two questions
about the directory of the database. The companion tool never fails so.
-/

namespace Readiness

namespace CheckResult

theorem make_inj {id : CheckId} {status status' : Status}
    {message message' details details' : String} :
    make id status message details = make id status' message' details' ↔
      status = status' ∧ message = message' ∧ details = details' := by
  constructor
  · intro h
    obtain ⟨-, rfl, -, hmessage, hdetails⟩ := CheckResult.mk.inj h
    exact ⟨rfl, (String.append_right_inj _).mp hmessage, hdetails⟩
  · rintro ⟨rfl, rfl, rfl⟩
    rfl

/-- A message opens with a sign: a check mark for what passed, a cross for what blocks, and the
sign of a caveat for all else. -/
structure OpensWith (r : CheckResult) (glyph : String) : Prop where
  opens : ∃ text, r.message = glyph ++ " " ++ text
  pass : glyph = "✓" ↔ r.status = .pass
  blocking : glyph = "✗" ↔ r.isBlocking = true
  caveat : glyph = "⚠" ↔ r.status ≠ .pass ∧ r.isBlocking = false

theorem MadeFor.opensWith {id : CheckId} {r : CheckResult} (h : r.MadeFor id) :
    ∃ glyph, r.OpensWith glyph := by
  obtain ⟨status, message, details, rfl⟩ := h
  refine ⟨status.glyph id.isCritical, ⟨message, rfl⟩, ?_, ?_, ?_⟩
  all_goals
    simp only [make, isBlocking_eq, passed, Status.glyph]
    cases status <;> cases id.isCritical <;> decide

theorem MadeFor.not_blocking {id : CheckId} {r : CheckResult} (h : r.MadeFor id)
    (hcritical : id.isCritical = false) : r.isBlocking = false := by
  rw [isBlocking_eq, h.critical_eq, hcritical, Bool.and_false]

end CheckResult

namespace Check

open CheckResult (probeFailed make_inj)

variable (s : CheckSettings) (host : Host)

/-- What a check rests on fails with this error. -/
def Fails : CheckId → ProbeError → Prop
  | .osVersion, e => host .osVersion = .error e
  | .elevation, e => host .isElevated = .error e
  | .databaseDriver, e => Search.AllFail host StoreKeys.driver e
  | .nativeRuntime, e => Search.AllFail host StoreKeys.nativeRuntime e
  | .managedRuntime, e => host (.storeKey StoreKeys.managedRuntime) = .error e
  | .diskSpace, e => host (.availableSpace (s.installDir.getD defaultInstallDir)) = .error e
  | .databasePath, e => ∃ dir, s.databasePath = some dir ∧ dir.text ≠ "" ∧
      (host (.isDir dir) = .error e ∨
        host (.isDir dir) = .answer true ∧ host (.listDir dir) = .error e)
  | .port, e => host .listeningPorts = .error e
  | .firewall, e => host (.storeKey StoreKeys.firewall) = .error e
  | .companionTool, _ => False

variable {s host}

/-- A check that passes does not tell a failure. -/
theorem pass_ne_probeFailed {id : CheckId} {message details reason : String} :
    CheckResult.pass id message details ≠ probeFailed id s reason := by
  intro h
  have hstatus : Status.pass = id.failureStatus s := (make_inj.mp h).1
  cases id with
  | firewall =>
      rw [CheckId.failureStatus] at hstatus
      split at hstatus <;> cases hstatus
  | _ => cases hstatus

theorem databaseWarning_ne_probeFailed {message details reason : String} :
    CheckResult.warn .databasePath message details ≠ probeFailed .databasePath s reason := by
  intro h
  cases (make_inj.mp h).1

/-- How a text begins in which a failure is told. -/
def BeginsAsFailure (message : String) : Prop :=
  message.toList.take 2 = ['F', 'a'] ∨ message.toList.take 2 = ['C', 'a']

instance (message : String) : Decidable (BeginsAsFailure message) :=
  inferInstanceAs (Decidable (_ ∨ _))

theorem take_two_ofList (c d : Char) (cs : List Char) :
    (String.ofList (c :: d :: cs)).toList.take 2 = [c, d] := by
  rw [String.toList_ofList]
  rfl

theorem take_two_append {text : String} {c d : Char} (h : text.toList.take 2 = [c, d])
    (rest : String) : (text ++ rest).toList.take 2 = [c, d] := by
  have hlength : 2 ≤ text.toList.length := by
    have := congrArg List.length h
    simp only [List.length_take, List.length_cons, List.length_nil] at this
    omega
  rw [String.toList_append, List.take_append_of_le_length hlength, h]

theorem failureMessage_begins (s : CheckSettings) (id : CheckId) :
    BeginsAsFailure (id.failureMessage s) := by
  cases id with
  | port => exact Or.inl (take_two_append (take_two_ofList _ _ _) _)
  | companionTool =>
      exact Or.inl (take_two_append (take_two_append (take_two_ofList _ _ _) _) _)
  | databasePath => exact Or.inr (take_two_ofList _ _ _)
  | _ => exact Or.inl (take_two_ofList _ _ _)

theorem make_ne_probeFailed_of_message {id : CheckId} {status : Status}
    {message details reason : String} (h : ¬ BeginsAsFailure message) :
    CheckResult.make id status message details ≠ probeFailed id s reason := by
  intro heq
  rw [(make_inj.mp heq).2.1] at h
  exact h (failureMessage_begins s id)

theorem probeFailed_inj {id : CheckId} {reason reason' : String} :
    probeFailed id s reason = probeFailed id s reason' ↔ reason = reason' := by
  simp only [probeFailed, make_inj, true_and]

/-- A check of one question fails with its question, where no answer is judged as a failure to
ask. -/
theorem asking_eq_probeFailed_iff {id : CheckId} {q : Question} {judge : q.Answer → CheckResult}
    {reason : String} (hjudge : ∀ a, judge a ≠ probeFailed id s reason) :
    (asking s id q judge).run host = .finished (probeFailed id s reason) ↔
      ∃ e, host q = .error e ∧ reason = e.message := by
  simp only [asking, Probe.run_query_bind]
  cases host q with
  | answer a => simp [hjudge a]
  | error e => simp [probeFailed_inj, eq_comm]
  | panic text => simp

/-- A check that searches fails with its search, where neither a find nor its absence is judged as
a failure to ask. -/
theorem search_eq_probeFailed_iff {α : Type} {id : CheckId} {keys : List String}
    {accept : String → StoreKey → Probe (Option α)} {judge : Search α → Probe CheckResult}
    {found : α → CheckResult} {missing : CheckResult} {reason : String}
    (hfound : ∀ a, judge (.found a) = pure (found a))
    (hmissing : judge .notFound = pure missing)
    (hfailed : ∀ e, judge (.failed e) = pure (probeFailed id s e.message))
    (hfound_ne : ∀ a, found a ≠ probeFailed id s reason)
    (hmissing_ne : missing ≠ probeFailed id s reason) :
    (Search.scan keys accept >>= judge).run host = .finished (probeFailed id s reason) ↔
      ∃ e, Search.AllFail host keys e ∧ reason = e.message := by
  simp only [← Search.scan_fails_iff accept, Probe.run_bind]
  cases (Search.scan keys accept).run host with
  | finished outcome =>
      cases outcome with
      | found a => simp [hfound, hfound_ne]
      | notFound => simp [hmissing, hmissing_ne]
      | failed e => simp [hfailed, probeFailed_inj, eq_comm]
  | panicked text => simp

theorem run_databaseListing (dir : Path) :
    (databaseListing s dir).run host =
      match host (.listDir dir) with
      | .answer entries =>
          match (countDataFiles entries).run host with
          | .finished count => .finished (dataFilesResult dir count)
          | .panicked text => .panicked text
      | .error e => .finished (probeFailed .databasePath s e.message)
      | .panic text => .panicked text := by
  refine (Probe.run_query_bind host (.listDir dir) _).trans ?_
  cases host (.listDir dir) with
  | answer entries =>
      dsimp only
      rw [Probe.run_bind]
      cases (countDataFiles entries).run host <;> rfl
  | error e => rfl
  | panic text => rfl

/-- The directory that is asked about is the one that the settings name, if that is not empty. -/
theorem filter_databasePath_eq_some_iff {dir : Path} :
    (s.databasePath.filter fun p => !p.isEmpty) = some dir ↔
      s.databasePath = some dir ∧ dir.text ≠ "" := by
  rw [Option.filter_eq_some_iff, Bool.not_eq_true', Path.isEmpty, ← Bool.not_eq_true,
    String.isEmpty_iff]

theorem run_databasePath {dir : Path} (h : s.databasePath = some dir ∧ dir.text ≠ "") :
    (databasePath s).run host =
      match host (.isDir dir) with
      | .answer true => (databaseListing s dir).run host
      | .answer false =>
          .finished (.fail .databasePath "Database path does not exist"
            ("Path: " ++ dir.text ++ " - Directory will be created if needed"))
      | .error e => .finished (probeFailed .databasePath s e.message)
      | .panic text => .panicked text := by
  rw [databasePath, filter_databasePath_eq_some_iff.mpr h]
  refine (Probe.run_query_bind host (.isDir dir) _).trans ?_
  cases host (.isDir dir) with
  | answer found => cases found <;> rfl
  | error e => rfl
  | panic text => rfl

theorem databasePath_of_unset (h : ¬ ∃ dir, s.databasePath = some dir ∧ dir.text ≠ "") :
    databasePath s =
      pure (.warn .databasePath "Database path not specified"
        "Will be configured during installation") := by
  have hnone : (s.databasePath.filter fun p => !p.isEmpty) = none := by
    refine Option.eq_none_iff_forall_not_mem.mpr fun dir hdir => ?_
    exact h ⟨dir, filter_databasePath_eq_some_iff.mp hdir⟩
  rw [databasePath, hnone]

theorem run_databasePath_of_unset (h : ¬ ∃ dir, s.databasePath = some dir ∧ dir.text ≠ "") :
    (databasePath s).run host =
      .finished (.warn .databasePath "Database path not specified"
        "Will be configured during installation") := by
  rw [databasePath_of_unset h, Probe.run_pure]

/-- The question that the companion tool is run with. -/
abbrev versionQuery (s : CheckSettings) : Question :=
  .runTool s.companionTool.program s.companionTool.args
    (.ofSecs s.companionTool.timeoutSecs.toNat)

theorem run_companionTool :
    (companionTool s).run host =
      match host (versionQuery s) with
      | .answer output => .finished (companionResult s (.ok output))
      | .error e => .finished (companionResult s (.error e))
      | .panic text => .panicked text := by
  refine (Probe.run_query_bind host (versionQuery s) _).trans ?_
  cases host (versionQuery s) <;> rfl

theorem databaseListing_eq_probeFailed_iff {dir : Path} {reason : String} :
    (databaseListing s dir).run host = .finished (probeFailed .databasePath s reason) ↔
      ∃ e, host (.listDir dir) = .error e ∧ reason = e.message := by
  have hcounted (count : Nat) :
      dataFilesResult dir count ≠ probeFailed .databasePath s reason := by
    simp only [dataFilesResult]
    split
    · exact pass_ne_probeFailed
    · exact databaseWarning_ne_probeFailed
  rw [run_databaseListing]
  cases host (.listDir dir) with
  | answer entries =>
      dsimp only
      cases (countDataFiles entries).run host <;> simp [hcounted]
  | error e => simp [probeFailed_inj, eq_comm]
  | panic text => simp

theorem databasePath_eq_probeFailed_iff {reason : String} :
    (databasePath s).run host = .finished (probeFailed .databasePath s reason) ↔
      ∃ e, Fails s host .databasePath e ∧ reason = e.message := by
  by_cases hset : ∃ dir, s.databasePath = some dir ∧ dir.text ≠ ""
  · obtain ⟨dir, hdir⟩ := hset
    have hfails (e : ProbeError) : Fails s host .databasePath e ↔
        host (.isDir dir) = .error e ∨
          host (.isDir dir) = .answer true ∧ host (.listDir dir) = .error e := by
      refine ⟨?_, fun h => ⟨dir, hdir.1, hdir.2, h⟩⟩
      rintro ⟨dir', hdir', -, h⟩
      obtain rfl : dir = dir' := Option.some.inj (hdir.1.symm.trans hdir')
      exact h
    have habsent (details : String) : CheckResult.fail .databasePath
        "Database path does not exist" details ≠ probeFailed .databasePath s reason :=
      make_ne_probeFailed_of_message (by decide)
    simp only [hfails, run_databasePath hdir]
    cases host (.isDir dir) with
    | answer found =>
        cases found with
        | true => simpa using databaseListing_eq_probeFailed_iff
        | false => simp [habsent]
    | error e => simp [probeFailed_inj, eq_comm]
    | panic text => simp
  · have hunset (details : String) : CheckResult.warn .databasePath
        "Database path not specified" details ≠ probeFailed .databasePath s reason :=
      databaseWarning_ne_probeFailed
    rw [run_databasePath_of_unset hset]
    refine iff_of_false (by simp [hunset]) ?_
    rintro ⟨e, ⟨dir, hdir, hne, -⟩, -⟩
    exact hset ⟨dir, hdir, hne⟩

/-- The companion tool has results of its own for all that goes wrong with it. -/
theorem companionResult_ne_probeFailed (reply : Except ProbeError ToolOutput) (reason : String) :
    companionResult s reply ≠ probeFailed .companionTool s reason := by
  have hmissing : companionResult.missing s ≠ probeFailed .companionTool s reason := by
    -- The two messages hold the same name, but their other words differ in length.
    intro heq
    have hmessage : s.companionTool.program ++ " not found (optional)" =
        "Failed to check " ++ s.companionTool.program ++ " (optional)" := (make_inj.mp heq).2.1
    have hlength := congrArg String.length hmessage
    rw [String.length_append, String.length_append, String.length_append] at hlength
    have hmissing : " not found (optional)".length = 21 := rfl
    have hfailed : "Failed to check ".length = 16 := rfl
    have hoptional : " (optional)".length = 11 := rfl
    omega
  cases reply with
  | ok output =>
      simp only [companionResult]
      split
      · exact pass_ne_probeFailed
      · exact hmissing
  | error e => exact hmissing

/-- A check has its own result for a failure exactly if what it rests on fails. -/
theorem run_eq_probeFailed_iff (id : CheckId) (reason : String) :
    (run s id).run host = .finished (probeFailed id s reason) ↔
      ∃ e, Fails s host id e ∧ reason = e.message := by
  cases id with
  | osVersion | elevation | diskSpace =>
      refine asking_eq_probeFailed_iff fun a => ?_
      split
      · exact pass_ne_probeFailed
      · exact make_ne_probeFailed_of_message (by decide)
  | managedRuntime =>
      refine asking_eq_probeFailed_iff fun a => ?_
      split
      · exact make_ne_probeFailed_of_message (by decide)
      · dsimp only
        split
        · exact pass_ne_probeFailed
        · exact make_ne_probeFailed_of_message (by decide)
  | port =>
      have hbegins : ("Port " ++ toString s.port ++ " is already in use").toList.take 2 =
          ['P', 'o'] := take_two_append (take_two_append (take_two_ofList _ _ _) _) _
      refine asking_eq_probeFailed_iff fun a => ?_
      split
      · refine make_ne_probeFailed_of_message ?_
        rw [BeginsAsFailure, hbegins]
        decide
      · exact pass_ne_probeFailed
  | firewall =>
      refine asking_eq_probeFailed_iff fun a => ?_
      split
      · exact make_ne_probeFailed_of_message (by decide)
      · split <;> exact make_ne_probeFailed_of_message (by decide)
  | databaseDriver | nativeRuntime =>
      exact search_eq_probeFailed_iff (fun _ => rfl) rfl (fun _ => rfl)
        (fun _ => pass_ne_probeFailed)
        (make_ne_probeFailed_of_message (by decide))
  | databasePath => exact databasePath_eq_probeFailed_iff
  | companionTool =>
      refine iff_of_false ?_ (by rintro ⟨e, h, -⟩; exact h)
      change ¬ (companionTool s).run host = _
      rw [run_companionTool]
      split <;> simp [companionResult_ne_probeFailed]

/-- The firewall and the companion tool pass whatever they find, where no firewall is required. -/
theorem run_passes {id : CheckId} (hid : id ∈ [.firewall, .companionTool])
    (hpolicy : s.firewallPolicy = .advisory) : (run s id).Ends fun r => r.passed = true := by
  obtain rfl | hid := List.mem_cons.mp hid
  · refine asking_ends s (fun a => ?_) (fun reason => ?_)
    · rw [hpolicy]
      split
      · rfl
      · split <;> rfl
    · simp [probeFailed, CheckResult.make, CheckResult.passed, CheckId.failureStatus, hpolicy]
  · obtain rfl := List.mem_singleton.mp hid
    refine Probe.ends_bind (fun reply => ?_) _
    cases reply with
    | ok output =>
        change (companionResult s (.ok output)).passed = true
        simp only [companionResult]
        split <;> rfl
    | error e => rfl

/-- The companion tool is told to be missing unless it ended well. -/
theorem companionResult_eq_missing_iff (reply : Except ProbeError ToolOutput) :
    companionResult s reply = companionResult.missing s ↔
      ¬ ∃ output, reply = .ok output ∧ output.exitCode = some 0 := by
  cases reply with
  | error e => simp [companionResult]
  | ok output =>
      have hinstalled (details : String) :
          CheckResult.pass .companionTool (s.companionTool.program ++ " installed") details ≠
            companionResult.missing s := by
        intro h
        cases (make_inj.mp h).1
      by_cases h : output.exitCode = some 0 <;>
        simp [companionResult, ToolOutput.succeeded, h, hinstalled]

end Check

namespace Checklist

variable (s : CheckSettings)

/-- Every check has exactly one of the results of a checklist. -/
theorem filter_id_results (host : Host) (id : CheckId) :
    (CheckId.all.map (runOne s host)).filter (fun r => r.id == id) = [runOne s host id] := by
  have hid (other : CheckId) : (runOne s host other).id = other :=
    (runOne_madeFor s host other).id_eq
  have hall : CheckId.all.filter (· == id) = [id] := by cases id <;> rfl
  simp only [List.filter_map, Function.comp_def, hid, hall, List.map_cons, List.map_nil]

theorem runOne_companionTool (answers : Answers) :
    runOne s (.ofAnswers answers) .companionTool =
      Check.companionResult s (answers (Check.versionQuery s)) := by
  have hrun : (Check.run s .companionTool).run (.ofAnswers answers) = _ := Check.run_companionTool
  simp only [runOne, hrun, Host.ofAnswers]
  cases answers (Check.versionQuery s) <;> rfl

/-- How failures of questions are told on a host without panics. Every check has one result,
which is as critical as the check and opens with its sign, and which is the check's own result for
a failure exactly if what the check rests on fails. -/
theorem failures_are_told (answers : Answers) (id : CheckId) :
    let host := Host.ofAnswers answers
    let r := runOne s host id
    (Check.run s id).run host = .finished r ∧
      (runSequential s host).results.filter (fun r => r.id == id) = [r] ∧
      (∀ schedule, (runParallel schedule s host).results.filter (fun r => r.id == id) = [r]) ∧
      r.critical = id.isCritical ∧ (∃ glyph, r.OpensWith glyph) ∧
      (∀ reason, r = .probeFailed id s reason ↔ ∃ e, Check.Fails s host id e ∧ reason = e.message) ∧
      (id ∈ [.managedRuntime, .databasePath, .firewall, .companionTool] → r.isBlocking = false) ∧
      (id ∈ [.firewall, .companionTool] → s.firewallPolicy = .advisory → r.passed = true) ∧
      (id = .companionTool →
        (r = .warn .companionTool (s.companionTool.program ++ " not found (optional)")
            s.companionTool.installHint ↔
          ¬ ∃ output, answers (Check.versionQuery s) = .ok output ∧ output.exitCode = some 0)) := by
  intro host r
  obtain ⟨r', hr'⟩ := Probe.run_ofAnswers answers (Check.run s id)
  have hr : (Check.run s id).run host = .finished r := by
    have heq : r = r' := by simp only [r, runOne, host, hr', resultOf_finished]
    rw [heq]
    exact hr'
  have hmade : r.MadeFor id := runOne_madeFor s host id
  refine ⟨hr, ?_, fun schedule => ?_, hmade.critical_eq, hmade.opensWith,
    fun reason => ?_, fun hid => hmade.not_blocking ?_, fun hid hpolicy => ?_, ?_⟩
  · rw [results_runSequential]
    exact filter_id_results s host id
  · rw [results_runParallel]
    exact filter_id_results s host id
  · rw [← Check.run_eq_probeFailed_iff, hr, Outcome.finished.injEq]
  · revert hid
    cases id <;> decide
  · exact (Check.run_passes hid hpolicy).of_run hr
  · rintro rfl
    have hcompanion : r = Check.companionResult s (answers (Check.versionQuery s)) :=
      runOne_companionTool s answers
    rw [hcompanion]
    exact Check.companionResult_eq_missing_iff _

end Checklist
end Readiness
