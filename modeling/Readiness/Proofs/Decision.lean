import Mathlib.Algebra.Group.Nat.Defs
import Readiness.Proofs.CheckResult
import Readiness.Proofs.Search
import Readiness.Proofs.Turns
import Readiness.Verdict

/-!
When a host is fit for the installation. The checklist and the verdict over its results come down
to six conditions on what the host replies; the replies to all other questions are free.
-/

namespace Readiness

namespace Host

variable (host : Host)

/-- The values of a key name a driver. -/
def NamesDriver (key driver : String) : Prop :=
  ∃ values, host (.storeKey key) = .answer (some values) ∧
    values.get? "Driver" = some (.text driver) ∧ driver ≠ ""

/-- A key of the driver that is accepted: the driver it names is there. -/
def HasDriver (key : String) : Prop :=
  ∃ driver, host.NamesDriver key driver ∧ host (.pathExists ⟨driver⟩) = .answer true

/-- A key of the driver whose questions panic: its look-up, or that for the driver it names. -/
def DriverPanics (key : String) : Prop :=
  (∃ text, host (.storeKey key) = .panic text) ∨
    ∃ driver text, host.NamesDriver key driver ∧ host (.pathExists ⟨driver⟩) = .panic text

/-- A key of the native runtime that says it is installed. -/
def HasRuntime (key : String) : Prop :=
  ∃ values, host (.storeKey key) = .answer (some values) ∧
    values.get? "Installed" = some (.number 1)

/-- What a host must reply for the installation to proceed. -/
structure Fit (s : CheckSettings) : Prop where
  os : ∃ version, host .osVersion = .answer version ∧ s.minOsMajor ≤ version.major
  elevated : host .isElevated = .answer true
  driver : Search.Reaches host.HasDriver host.DriverPanics StoreKeys.driver
  runtime : Search.Reaches host.HasRuntime
    (fun key => ∃ text, host (.storeKey key) = .panic text) StoreKeys.nativeRuntime
  space : ∃ bytes : UInt64,
    host (.availableSpace (s.installDir.getD Check.defaultInstallDir)) = .answer bytes ∧
      min (s.minFreeSpaceMb.toNat * 2 ^ 20) (2 ^ 64 - 1) ≤ bytes.toNat
  port : ∃ ports : List UInt16, host .listeningPorts = .answer ports ∧ s.port ∉ ports

/-- The questions that a decision rests on. Whether a path exists is one of them only where the
path is that of a driver which the store names. -/
def Decisive (s : CheckSettings) : Question → Prop
  | .osVersion | .isElevated | .listeningPorts => True
  | .storeKey key => key ∈ StoreKeys.driver ∨ key ∈ StoreKeys.nativeRuntime
  | .pathExists p => ∃ key ∈ StoreKeys.driver, host.NamesDriver key p.text
  | .availableSpace p => p = s.installDir.getD Check.defaultInstallDir
  | .isDir _ | .listDir _ | .runTool .. => False

end Host

namespace StoreKey

theorem text?_eq_some_iff (k : StoreKey) (name text : String) :
    k.text? name = some text ↔ k.get? name = some (.text text) := by
  simp only [text?]
  cases k.get? name with
  | none => simp
  | some value => cases value <;> simp [StoreValue.text?]

theorem number?_eq_some_iff (k : StoreKey) (name : String) (n : UInt64) :
    k.number? name = some n ↔ k.get? name = some (.number n) := by
  simp only [number?]
  cases k.get? name with
  | none => simp
  | some value => cases value <;> simp [StoreValue.number?]

end StoreKey

namespace Check

variable (host : Host)

theorem run_acceptDriver_of_text {k : StoreKey} {driver : String}
    (h : k.get? "Driver" = some (.text driver)) (hne : driver ≠ "") :
    (acceptDriver k).run host =
      match host (.pathExists ⟨driver⟩) with
      | .answer true => .finished (some driver)
      | .answer false => .finished none
      | .error _ => .finished none
      | .panic text => .panicked text := by
  have htext : k.text? "Driver" = some driver := (StoreKey.text?_eq_some_iff k _ _).mpr h
  have hempty : driver.isEmpty = false := by simpa using hne
  simp only [acceptDriver, htext, hempty]
  refine (Probe.run_query_bind host (.pathExists ⟨driver⟩) _).trans ?_
  cases host (.pathExists ⟨driver⟩) with
  | answer found => cases found <;> rfl
  | error e => rfl
  | panic text => rfl

theorem run_acceptDriver_of_not {k : StoreKey}
    (h : ∀ driver, k.get? "Driver" = some (.text driver) → driver = "") :
    (acceptDriver k).run host = .finished none := by
  simp only [acceptDriver]
  cases htext : k.text? "Driver" with
  | none => rfl
  | some driver =>
      have hempty : driver = "" := h driver ((StoreKey.text?_eq_some_iff k _ _).mp htext)
      subst hempty
      rfl

theorem run_acceptRuntime (k : StoreKey) :
    (acceptRuntime k).run host =
      .finished (if k.get? "Installed" = some (.number 1) then
        some ((k.text? "Version").getD "Unknown") else none) := by
  simp only [acceptRuntime, StoreKey.number?_eq_some_iff, Probe.run_pure]

/-- A candidate that names a driver comes to whether that driver is there. -/
theorem run_candidate_of_names {key driver : String} (h : host.NamesDriver key driver) :
    (Search.candidate (fun _ => acceptDriver) key).run host =
      match host (.pathExists ⟨driver⟩) with
      | .answer true => .finished (.ok (some driver))
      | .answer false => .finished (.ok none)
      | .error _ => .finished (.ok none)
      | .panic text => .panicked text := by
  obtain ⟨k, hk, hd, hne⟩ := h
  rw [Search.run_candidate, hk]
  dsimp only
  rw [run_acceptDriver_of_text host hd hne]
  cases host (.pathExists ⟨driver⟩) with
  | answer found => cases found <;> rfl
  | error e => rfl
  | panic text => rfl

theorem run_candidate_of_not_names {key : String} (h : ∀ driver, ¬ host.NamesDriver key driver) :
    (Search.candidate (fun _ => acceptDriver) key).run host =
      match host (.storeKey key) with
      | .answer _ => .finished (.ok none)
      | .error e => .finished (.error e)
      | .panic text => .panicked text := by
  rw [Search.run_candidate]
  cases hk : host (.storeKey key) with
  | answer found =>
      cases found with
      | none => rfl
      | some k =>
          have hnot : ∀ driver, k.get? "Driver" = some (.text driver) → driver = "" := by
            intro driver hd
            exact Decidable.of_not_not fun hne => h driver ⟨k, hk, hd, hne⟩
          dsimp only
          rw [run_acceptDriver_of_not host hnot]
  | error e => rfl
  | panic text => rfl

theorem driver_accepted_iff (key : String) :
    (∃ driver,
      (Search.candidate (fun _ => acceptDriver) key).run host = .finished (.ok (some driver))) ↔
      host.HasDriver key := by
  constructor
  · rintro ⟨found, h⟩
    by_cases hn : ∃ driver, host.NamesDriver key driver
    · obtain ⟨driver, hd⟩ := hn
      rw [run_candidate_of_names host hd] at h
      refine ⟨driver, hd, ?_⟩
      split at h <;> simp_all
    · rw [run_candidate_of_not_names host (not_exists.mp hn)] at h
      split at h <;> simp at h
  · rintro ⟨driver, hd, hp⟩
    exact ⟨driver, by rw [run_candidate_of_names host hd, hp]⟩

theorem driver_panics_iff (key : String) :
    (∃ text, (Search.candidate (fun _ => acceptDriver) key).run host = .panicked text) ↔
      host.DriverPanics key := by
  constructor
  · rintro ⟨text, h⟩
    by_cases hn : ∃ driver, host.NamesDriver key driver
    · obtain ⟨driver, hd⟩ := hn
      rw [run_candidate_of_names host hd] at h
      refine Or.inr ⟨driver, text, hd, ?_⟩
      split at h <;> simp_all
    · rw [run_candidate_of_not_names host (not_exists.mp hn)] at h
      refine Or.inl ⟨text, ?_⟩
      split at h <;> simp_all
  · rintro (⟨text, h⟩ | ⟨driver, text, hd, hp⟩)
    · exact ⟨text, by rw [Search.run_candidate, h]⟩
    · exact ⟨text, by rw [run_candidate_of_names host hd, hp]⟩

theorem runtime_accepted_iff (key : String) :
    (∃ version,
      (Search.candidate (fun _ => acceptRuntime) key).run host = .finished (.ok (some version))) ↔
      host.HasRuntime key := by
  simp only [Host.HasRuntime, Search.run_candidate]
  cases host (.storeKey key) with
  | answer found =>
      cases found with
      | none => simp
      | some k => simp [run_acceptRuntime]
  | error e => simp
  | panic text => simp

theorem runtime_panics_iff (key : String) :
    (∃ text, (Search.candidate (fun _ => acceptRuntime) key).run host = .panicked text) ↔
      ∃ text, host (.storeKey key) = .panic text := by
  simp only [Search.run_candidate]
  cases host (.storeKey key) with
  | answer found =>
      cases found with
      | none => simp
      | some k => simp [run_acceptRuntime]
  | error e => simp
  | panic text => simp

end Check

namespace Checklist

variable {s : CheckSettings} (host : Host)

/-- Where a failed question counts as a failure, a check of one question passes on its answer. -/
theorem asking_passed_iff {id : CheckId} (hf : id.failureStatus s = .fail) {q : Question}
    {judge : q.Answer → CheckResult} :
    (resultOf s id ((Check.asking s id q judge).run host)).passed = true ↔
      ∃ a, host q = .answer a ∧ (judge a).passed = true := by
  rw [resultOf_asking]
  cases host q <;> simp [CheckResult.passed, CheckResult.probeFailed, CheckResult.make, hf]

/-- Where a failed question counts as a failure, a search passes on what it finds. -/
theorem search_passed_iff {id : CheckId} (hf : id.failureStatus s = .fail) {α : Type}
    (p : Probe (Search α)) {f : Search α → Probe CheckResult}
    (hfound : ∀ a, (resultOf s id ((f (.found a)).run host)).passed = true)
    (hnotFound : (resultOf s id ((f .notFound).run host)).passed = false)
    (hfailed : ∀ e, (resultOf s id ((f (.failed e)).run host)).passed = false) :
    (resultOf s id ((p >>= f).run host)).passed = true ↔
      ∃ a, p.run host = .finished (.found a) := by
  rw [Probe.run_bind]
  cases p.run host with
  | finished outcome =>
      cases outcome with
      | found a => simp [hfound]
      | notFound => simp [hnotFound]
      | failed e => simp [hfailed]
  | panicked text =>
      simp [resultOf, CheckResult.passed, CheckResult.probeFailed, CheckResult.make, hf]

theorem passed_osVersion_iff :
    (runOne s host .osVersion).passed = true ↔
      ∃ version, host .osVersion = .answer version ∧ s.minOsMajor ≤ version.major := by
  refine (asking_passed_iff host rfl).trans (exists_congr fun version => ?_)
  refine and_congr_right fun _ => ?_
  split <;> simp_all [CheckResult.passed_pass, CheckResult.passed_fail]

theorem passed_elevation_iff :
    (runOne s host .elevation).passed = true ↔ host .isElevated = .answer true := by
  refine (asking_passed_iff host rfl).trans ?_
  constructor
  · rintro ⟨elevated, h, hp⟩
    cases elevated with
    | true => exact h
    | false => simp [CheckResult.passed_fail] at hp
  · intro h
    exact ⟨true, h, rfl⟩

theorem passed_databaseDriver_iff :
    (runOne s host .databaseDriver).passed = true ↔
      Search.Reaches host.HasDriver host.DriverPanics StoreKeys.driver := by
  refine (search_passed_iff host rfl _ (fun _ => rfl) rfl (fun _ => rfl)).trans ?_
  refine (Search.scanFrom_finds_iff (fun _ => Check.acceptDriver) host {} StoreKeys.driver).trans ?_
  exact Search.reaches_congr (fun key _ => Check.driver_accepted_iff host key)
    (fun key _ => Check.driver_panics_iff host key)

theorem passed_nativeRuntime_iff :
    (runOne s host .nativeRuntime).passed = true ↔
      Search.Reaches host.HasRuntime (fun key => ∃ text, host (.storeKey key) = .panic text)
        StoreKeys.nativeRuntime := by
  refine (search_passed_iff host rfl _ (fun _ => rfl) rfl (fun _ => rfl)).trans ?_
  refine (Search.scanFrom_finds_iff (fun _ => Check.acceptRuntime) host {}
    StoreKeys.nativeRuntime).trans ?_
  exact Search.reaches_congr (fun key _ => Check.runtime_accepted_iff host key)
    (fun key _ => Check.runtime_panics_iff host key)

theorem passed_diskSpace_iff :
    (runOne s host .diskSpace).passed = true ↔
      ∃ bytes : UInt64,
        host (.availableSpace (s.installDir.getD Check.defaultInstallDir)) = .answer bytes ∧
          min (s.minFreeSpaceMb.toNat * 2 ^ 20) (2 ^ 64 - 1) ≤ bytes.toNat := by
  refine (asking_passed_iff host rfl).trans (exists_congr fun bytes => ?_)
  refine and_congr_right fun _ => ?_
  change (ite (Check.requiredBytes s ≤ bytes.toNat) _ _ : CheckResult).passed = true ↔ _
  split <;> simp_all [CheckResult.passed_pass, CheckResult.passed_fail, Check.requiredBytes,
    Check.mebibyte, Check.maxBytes]

theorem passed_port_iff :
    (runOne s host .port).passed = true ↔
      ∃ ports : List UInt16, host .listeningPorts = .answer ports ∧ s.port ∉ ports := by
  refine (asking_passed_iff host rfl).trans (exists_congr fun ports => ?_)
  refine and_congr_right fun _ => ?_
  split <;> simp_all [CheckResult.passed_pass, CheckResult.passed_fail]

end Checklist

theorem Verdict.canInstall_iff (results : List CheckResult) :
    (Verdict.ofResults results).canInstall = true ↔ ∀ r ∈ results, r.isBlocking = false := by
  simp only [ofResults, count, beq_iff_eq, List.countP_eq_zero, CheckResult.isBlocking,
    beq_eq_false_iff_ne, ne_eq]

namespace Checklist

variable (s : CheckSettings) (host : Host)

/-- A verdict rests on the critical checks. -/
theorem canInstall_iff_critical :
    (Verdict.ofResults (runSequential s host).results).canInstall = true ↔
      ∀ id : CheckId, id.isCritical = true → (runOne s host id).passed = true := by
  rw [Verdict.canInstall_iff]
  simp only [results_runSequential, List.forall_mem_map, CheckResult.isBlocking_eq,
    (runOne_madeFor s host _).critical_eq]
  constructor
  · intro h id hc
    simpa [hc] using h id (CheckId.mem_all id)
  · intro h id _
    cases hc : id.isCritical with
    | true => simp [h id hc]
    | false => simp

theorem critical_passed_iff_fit :
    (∀ id : CheckId, id.isCritical = true → (runOne s host id).passed = true) ↔ host.Fit s := by
  constructor
  · intro h
    exact {
      os := (passed_osVersion_iff host).mp (h .osVersion rfl)
      elevated := (passed_elevation_iff host).mp (h .elevation rfl)
      driver := (passed_databaseDriver_iff host).mp (h .databaseDriver rfl)
      runtime := (passed_nativeRuntime_iff host).mp (h .nativeRuntime rfl)
      space := (passed_diskSpace_iff host).mp (h .diskSpace rfl)
      port := (passed_port_iff host).mp (h .port rfl) }
  · intro fit id hc
    cases id with
    | osVersion => exact (passed_osVersion_iff host).mpr fit.os
    | elevation => exact (passed_elevation_iff host).mpr fit.elevated
    | databaseDriver => exact (passed_databaseDriver_iff host).mpr fit.driver
    | nativeRuntime => exact (passed_nativeRuntime_iff host).mpr fit.runtime
    | diskSpace => exact (passed_diskSpace_iff host).mpr fit.space
    | port => exact (passed_port_iff host).mpr fit.port
    | managedRuntime | databasePath | firewall | companionTool => cases hc

end Checklist

namespace Host

variable {s : CheckSettings} {host host' : Host}

theorem namesDriver_congr {key : String} (h : host' (.storeKey key) = host (.storeKey key))
    (driver : String) : host'.NamesDriver key driver ↔ host.NamesDriver key driver := by
  simp only [NamesDriver, h]

/-- Hosts that agree on the questions a decision rests on are fit or unfit together. -/
theorem fit_congr (h : ∀ q, host.Decisive s q → host' q = host q) : host'.Fit s ↔ host.Fit s := by
  have hos : host' .osVersion = host .osVersion := h .osVersion trivial
  have helevated : host' .isElevated = host .isElevated := h .isElevated trivial
  have hports : host' .listeningPorts = host .listeningPorts := h .listeningPorts trivial
  have hspace := h (.availableSpace (s.installDir.getD Check.defaultInstallDir)) rfl
  have hnames : ∀ key ∈ StoreKeys.driver, ∀ driver,
      host'.NamesDriver key driver ↔ host.NamesDriver key driver := by
    intro key hkey
    exact namesDriver_congr (h (.storeKey key) (Or.inl hkey))
  have hpath : ∀ key ∈ StoreKeys.driver, ∀ driver, host.NamesDriver key driver →
      host' (.pathExists ⟨driver⟩) = host (.pathExists ⟨driver⟩) := by
    intro key hkey driver hd
    exact h (.pathExists ⟨driver⟩) ⟨key, hkey, hd⟩
  have hdriver : Search.Reaches host'.HasDriver host'.DriverPanics StoreKeys.driver ↔
      Search.Reaches host.HasDriver host.DriverPanics StoreKeys.driver := by
    refine Search.reaches_congr (fun key hkey => ?_) (fun key hkey => ?_)
    · refine exists_congr fun driver => ?_
      rw [hnames key hkey]
      exact and_congr_right fun hd => by rw [hpath key hkey driver hd]
    · refine or_congr (by rw [h (.storeKey key) (Or.inl hkey)]) ?_
      refine exists_congr fun driver => exists_congr fun text => ?_
      rw [hnames key hkey]
      exact and_congr_right fun hd => by rw [hpath key hkey driver hd]
  have hruntime : Search.Reaches host'.HasRuntime
        (fun key => ∃ text, host' (.storeKey key) = .panic text) StoreKeys.nativeRuntime ↔
      Search.Reaches host.HasRuntime
        (fun key => ∃ text, host (.storeKey key) = .panic text) StoreKeys.nativeRuntime := by
    refine Search.reaches_congr (fun key hkey => ?_) (fun key hkey => ?_)
    · simp only [HasRuntime, h (.storeKey key) (Or.inr hkey)]
    · rw [h (.storeKey key) (Or.inr hkey)]
  constructor
  · intro fit
    exact ⟨hos ▸ fit.os, helevated ▸ fit.elevated, hdriver.mp fit.driver, hruntime.mp fit.runtime,
      hspace ▸ fit.space, hports ▸ fit.port⟩
  · intro fit
    exact ⟨hos ▸ fit.os, helevated ▸ fit.elevated, hdriver.mpr fit.driver,
      hruntime.mpr fit.runtime, hspace ▸ fit.space, hports ▸ fit.port⟩

end Host

/-- The installation may proceed exactly on a fit host, and no reply but those to the decisive
questions has a part in it. -/
theorem canInstall_iff_fit (s : CheckSettings) (host : Host) :
    ((Verdict.ofResults (Checklist.runSequential s host).results).canInstall = true ↔
        host.Fit s) ∧
      ∀ host' : Host, (∀ q, host.Decisive s q → host' q = host q) →
        (Verdict.ofResults (Checklist.runSequential s host').results).canInstall =
          (Verdict.ofResults (Checklist.runSequential s host).results).canInstall := by
  have hfit : ∀ host : Host,
      (Verdict.ofResults (Checklist.runSequential s host).results).canInstall = true ↔
        host.Fit s := by
    intro host
    exact (Checklist.canInstall_iff_critical s host).trans
      (Checklist.critical_passed_iff_fit s host)
  refine ⟨hfit host, ?_⟩
  intro host' h
  rw [Bool.eq_iff_iff, hfit host', hfit host]
  exact Host.fit_congr h

end Readiness
