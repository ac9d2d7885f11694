import Mathlib.Data.List.Count
import Mathlib.Data.List.Nodup
import Mathlib.Data.List.Perm.Basic
import Readiness.Proofs.DatabaseDirectory
import Readiness.Proofs.Decision
import Readiness.Proofs.Interleaving

/-!
The questions of a run. Each check asks its own, whatever becomes of the others: a search asks for
its keys up to the one that it ends with and for the drivers that these name, and the directory of
the database is asked about, listed, and its tables asked about up to a panic. All other questions
are asked once, and the host hears the same questions as often whether the checks run one after the
other or at the same time.
-/

namespace Readiness

namespace Host

variable (host : Host)

/-- The search for the driver ends with a key that is accepted or panics. -/
def EndsDriverSearch (key : String) : Prop := host.HasDriver key ∨ host.DriverPanics key

/-- The search for the native runtime ends with a key that is accepted or panics. -/
def EndsRuntimeSearch (key : String) : Prop :=
  host.HasRuntime key ∨ ∃ text, host (.storeKey key) = .panic text

def driverOf? (key : String) : Option String :=
  match host (.storeKey key) with
  | .answer (some values) => (values.text? "Driver").filter fun driver => !driver.isEmpty
  | _ => none

theorem endsWith_driver_iff (key : String) :
    Search.endsWith ((Search.candidate (fun _ => Check.acceptDriver) key).run host) = true ↔
      host.EndsDriverSearch key := by
  rw [Search.endsWith_iff, Check.driver_accepted_iff, Check.driver_panics_iff, EndsDriverSearch]

theorem endsWith_runtime_iff (key : String) :
    Search.endsWith ((Search.candidate (fun _ => Check.acceptRuntime) key).run host) = true ↔
      host.EndsRuntimeSearch key := by
  rw [Search.endsWith_iff, Check.runtime_accepted_iff, Check.runtime_panics_iff, EndsRuntimeSearch]

instance : DecidablePred host.EndsDriverSearch := fun key =>
  decidable_of_iff _ (host.endsWith_driver_iff key)

instance : DecidablePred host.EndsRuntimeSearch := fun key =>
  decidable_of_iff _ (host.endsWith_runtime_iff key)

/-- The keys of the driver that are looked up: the second only where the first neither is accepted
nor panics. -/
def driverKeys : List String := Search.upTo (host.EndsDriverSearch ·) StoreKeys.driver

def runtimeKeys : List String := Search.upTo (host.EndsRuntimeSearch ·) StoreKeys.nativeRuntime

def keys : List String :=
  host.driverKeys ++ host.runtimeKeys ++ [StoreKeys.managedRuntime, StoreKeys.firewall]

/-- The drivers that the keys looked up name. -/
def drivers : List String := host.driverKeys.filterMap host.driverOf?

end Host

/-- The directory of the database, if one is named. -/
def CheckSettings.databaseDir? (s : CheckSettings) : Option Path :=
  s.databasePath.filter fun dir => !dir.isEmpty

namespace Host

variable (host : Host) (s : CheckSettings)

/-- The directory of the database, if it is there. -/
def foundDir? : Option Path :=
  s.databaseDir?.filter fun dir =>
    match host (.isDir dir) with
    | .answer found => found
    | _ => false

def panics (q : Question) : Bool :=
  match host q with
  | .panic _ => true
  | _ => false

/-- The tables that are asked about, of a directory with this listing. -/
def tablesOf (entries : List Path) : List Path :=
  Search.upTo (fun entry => host.panics (.isDir entry)) (entries.filter (Path.NamesTable ·))

/-- The entries of the directory of the database that are asked about. -/
def tables : List Path :=
  match host.foundDir? s with
  | some dir =>
    match host (.listDir dir) with
    | .answer entries => host.tablesOf entries
    | _ => []
  | none => []

end Host

/-- What a check asks, in its order. -/
def CheckId.questions (s : CheckSettings) (host : Host) : CheckId → List Question
  | osVersion => [.osVersion]
  | elevation => [.isElevated]
  | databaseDriver => host.driverKeys.flatMap fun key =>
      .storeKey key :: (host.driverOf? key).toList.map fun driver => .pathExists ⟨driver⟩
  | nativeRuntime => host.runtimeKeys.map .storeKey
  | managedRuntime => [.storeKey StoreKeys.managedRuntime]
  | diskSpace => [.availableSpace (s.installDir.getD Check.defaultInstallDir)]
  | databasePath => s.databaseDir?.toList.map .isDir ++ (host.foundDir? s).toList.map .listDir ++
      (host.tables s).map .isDir
  | port => [.listeningPorts]
  | firewall => [.storeKey StoreKeys.firewall]
  | companionTool => [Check.versionQuery s]

/-- How often a run asks a question. -/
def Question.times (s : CheckSettings) (host : Host) : Question → Nat
  | osVersion | isElevated | listeningPorts => 1
  | availableSpace p => if s.installDir.getD Check.defaultInstallDir = p then 1 else 0
  | runTool program args limit => if Check.versionQuery s = runTool program args limit then 1 else 0
  | storeKey key => if key ∈ host.keys then 1 else 0
  | pathExists p => host.drivers.count p.text
  | isDir p => (s.databaseDir?.toList ++ host.tables s).count p
  | listDir p => (host.foundDir? s).toList.count p

namespace Check

variable (s : CheckSettings) (host : Host)

theorem asked_asking (id : CheckId) (q : Question) (judge : q.Answer → CheckResult) :
    (asking s id q judge).asked host = [q] := by
  refine (Probe.asked_query_bind host q _).trans ?_
  cases host q <;> rfl

theorem asked_acceptDriver (values : StoreKey) :
    (acceptDriver values).asked host =
      ((values.text? "Driver").filter fun driver => !driver.isEmpty).toList.map
        fun driver => .pathExists ⟨driver⟩ := by
  rw [acceptDriver]
  cases values.text? "Driver" with
  | none => rfl
  | some driver =>
      dsimp only
      rw [Option.filter_some]
      cases driver.isEmpty with
      | true => rfl
      | false =>
          refine (Probe.asked_query_bind host (.pathExists ⟨driver⟩) _).trans ?_
          cases host (.pathExists ⟨driver⟩) with
          | answer found => cases found <;> rfl
          | error e => rfl
          | panic text => rfl

theorem asked_driver_candidate (key : String) :
    (Search.candidate (fun _ => acceptDriver) key).asked host =
      .storeKey key :: (host.driverOf? key).toList.map fun driver => .pathExists ⟨driver⟩ := by
  rw [Search.asked_candidate, Host.driverOf?]
  cases host (.storeKey key) with
  | answer found =>
      cases found with
      | none => rfl
      | some values => exact congrArg (.storeKey key :: ·) (asked_acceptDriver host values)
  | error e => rfl
  | panic text => rfl

theorem asked_runtime_candidate (key : String) :
    (Search.candidate (fun _ => acceptRuntime) key).asked host = [.storeKey key] := by
  rw [Search.asked_candidate]
  cases host (.storeKey key) with
  | answer found => cases found <;> rfl
  | error e => rfl
  | panic text => rfl

theorem asked_databaseDriver :
    (databaseDriver s).asked host = CheckId.databaseDriver.questions s host := by
  have hscan : (databaseDriver s).asked host =
      (Search.scan StoreKeys.driver fun _ => acceptDriver).asked host := by
    refine Probe.asked_bind_of_silent host _ fun found => ?_
    cases found <;> rfl
  rw [hscan, Search.asked_scan (fun _ => acceptDriver) host host.endsWith_driver_iff]
  exact List.flatMap_congr fun key _ => asked_driver_candidate host key

theorem asked_nativeRuntime :
    (nativeRuntime s).asked host = CheckId.nativeRuntime.questions s host := by
  have hscan : (nativeRuntime s).asked host =
      (Search.scan StoreKeys.nativeRuntime fun _ => acceptRuntime).asked host := by
    refine Probe.asked_bind_of_silent host _ fun found => ?_
    cases found <;> rfl
  rw [hscan, Search.asked_scan (fun _ => acceptRuntime) host host.endsWith_runtime_iff]
  refine (List.flatMap_congr fun key _ => asked_runtime_candidate host key).trans ?_
  exact List.map_eq_flatMap.symm

theorem asked_countDataFiles (entries : List Path) :
    (countDataFiles entries).asked host = (host.tablesOf entries).map .isDir := by
  induction entries with
  | nil => rfl
  | cons entry rest ih =>
      by_cases htable : entry.NamesTable
      · -- Whether the entry counts makes no difference to what is asked about the others.
        have hcounted : (countDataFiles rest >>= fun n => pure (n + 1)).asked host =
            (host.tablesOf rest).map .isDir :=
          (Probe.asked_bind_of_silent host _ fun n => Probe.asked_pure host (n + 1)).trans ih
        rw [countDataFiles, if_pos ((Path.isDataFile_iff entry).mpr htable), Host.tablesOf,
          List.filter_cons_of_pos (by simpa using htable), Search.upTo, List.map_cons]
        refine (Probe.asked_query_bind host (.isDir entry) _).trans ?_
        refine congrArg (Question.isDir entry :: ·) ?_
        rw [Host.panics]
        cases host (.isDir entry) with
        | answer found =>
            cases found with
            | true => exact ih
            | false => exact hcounted
        | error e => exact hcounted
        | panic text => rfl
      · rw [countDataFiles, if_neg (mt (Path.isDataFile_iff entry).mp htable), ih, Host.tablesOf,
          Host.tablesOf, List.filter_cons_of_neg (by simpa using htable)]

theorem asked_databaseListing (dir : Path) :
    (databaseListing s dir).asked host = .listDir dir ::
      match host (.listDir dir) with
      | .answer entries => (host.tablesOf entries).map .isDir
      | _ => [] := by
  refine (Probe.asked_query_bind host (.listDir dir) _).trans ?_
  refine congrArg (Question.listDir dir :: ·) ?_
  cases host (.listDir dir) with
  | answer entries =>
      refine (Probe.asked_bind_of_silent host _ fun n => ?_).trans (asked_countDataFiles host entries)
      exact Probe.asked_pure host (dataFilesResult dir n)
  | error e => rfl
  | panic text => rfl

theorem asked_databasePath :
    (databasePath s).asked host = CheckId.databasePath.questions s host := by
  by_cases hset : ∃ dir, s.databasePath = some dir ∧ dir.text ≠ ""
  · obtain ⟨dir, hdir⟩ := hset
    have hdir? : s.databaseDir? = some dir := filter_databasePath_eq_some_iff.mpr hdir
    rw [databasePath, filter_databasePath_eq_some_iff.mpr hdir]
    refine (Probe.asked_query_bind host (.isDir dir) _).trans ?_
    simp only [CheckId.questions, Host.tables, Host.foundDir?, hdir?, Option.filter_some]
    cases host (.isDir dir) with
    | answer found =>
        cases found with
        | false => rfl
        | true =>
            refine congrArg (Question.isDir dir :: ·) ((asked_databaseListing s host dir).trans ?_)
            refine congrArg (Question.listDir dir :: ·) ?_
            rw [if_pos rfl]
            dsimp only
            cases host (.listDir dir) <;> rfl
    | error e => rfl
    | panic text => rfl
  · have hdir? : s.databaseDir? = none :=
      Option.eq_none_iff_forall_not_mem.mpr fun dir h =>
        hset ⟨dir, filter_databasePath_eq_some_iff.mp h⟩
    rw [databasePath_of_unset hset, Probe.asked_pure]
    simp only [CheckId.questions, Host.tables, Host.foundDir?, hdir?]
    rfl

theorem asked_run (id : CheckId) : (run s id).asked host = id.questions s host := by
  cases id with
  | osVersion => exact asked_asking s host .osVersion .osVersion _
  | elevation => exact asked_asking s host .elevation .isElevated _
  | databaseDriver => exact asked_databaseDriver s host
  | nativeRuntime => exact asked_nativeRuntime s host
  | managedRuntime => exact asked_asking s host .managedRuntime _ _
  | diskSpace => exact asked_asking s host .diskSpace _ _
  | databasePath => exact asked_databasePath s host
  | port => exact asked_asking s host .port .listeningPorts _
  | firewall => exact asked_asking s host .firewall _ _
  | companionTool =>
      refine (Probe.asked_query_bind host (versionQuery s) _).trans ?_
      cases host (versionQuery s) <;> rfl

end Check

section Counts

variable (s : CheckSettings) (host : Host)

theorem nodup_keys : host.keys.Nodup := by
  have hall : (StoreKeys.driver ++ StoreKeys.nativeRuntime ++
      [StoreKeys.managedRuntime, StoreKeys.firewall]).Nodup := by decide
  refine hall.sublist (List.Sublist.append ?_ (.refl _))
  exact (Search.upTo_sublist StoreKeys.driver).append (Search.upTo_sublist StoreKeys.nativeRuntime)

/-- The keys and the drivers that they name, in another order. -/
theorem databaseDriver_questions_perm :
    (CheckId.databaseDriver.questions s host).Perm
      (host.driverKeys.map .storeKey ++ host.drivers.map fun driver => .pathExists ⟨driver⟩) := by
  have hdrivers : host.drivers.map (fun driver => Question.pathExists ⟨driver⟩) =
      host.driverKeys.flatMap fun key =>
        (host.driverOf? key).toList.map fun driver => .pathExists ⟨driver⟩ := by
    rw [Host.drivers, List.filterMap_eq_flatMap_toList, List.map_flatMap]
  rw [hdrivers]
  exact (List.map_append_flatMap_perm host.driverKeys Question.storeKey _).symm

theorem count_map_of_forall_ne {α : Type} {f : α → Question} {q : Question} (h : ∀ a, f a ≠ q)
    (l : List α) : (l.map f).count q = 0 :=
  List.count_eq_zero.mpr fun hmem => by
    obtain ⟨a, -, ha⟩ := List.mem_map.mp hmem
    exact h a ha

theorem count_questions (q : Question) :
    (CheckId.all.flatMap (CheckId.questions s host)).count q = q.times s host := by
  simp only [CheckId.all, List.flatMap_cons, List.flatMap_nil, List.count_append,
    (databaseDriver_questions_perm s host).count_eq]
  cases q with
  | osVersion => simp [CheckId.questions, Question.times, count_map_of_forall_ne]
  | isElevated => simp [CheckId.questions, Question.times, count_map_of_forall_ne]
  | listeningPorts => simp [CheckId.questions, Question.times, count_map_of_forall_ne]
  | availableSpace p =>
      simp [CheckId.questions, Question.times, count_map_of_forall_ne, List.count_singleton]
  | runTool program args limit =>
      simp [CheckId.questions, Question.times, count_map_of_forall_ne, List.count_singleton]
  | storeKey key =>
      -- Four checks look keys up, and no key is among those of two of them.
      have hkeys (keys : List String) : (keys.map Question.storeKey).count (.storeKey key) =
          keys.count key :=
        List.count_map_of_injective keys _ (fun _ _ h => Question.storeKey.inj h) key
      have hkey (other : String) : [Question.storeKey other].count (.storeKey key) =
          [other].count key := hkeys [other]
      have hlone : [StoreKeys.managedRuntime, StoreKeys.firewall].count key =
          [StoreKeys.managedRuntime].count key + [StoreKeys.firewall].count key :=
        (List.count_append : ([StoreKeys.managedRuntime] ++ [StoreKeys.firewall]).count key = _)
      rw [Question.times, ← (nodup_keys host).count, Host.keys]
      simp [CheckId.questions, count_map_of_forall_ne, hkeys, hkey, hlone]
  | pathExists p =>
      have hdriver : Function.Injective fun driver => Question.pathExists ⟨driver⟩ :=
        fun _ _ h => Path.mk.inj (Question.pathExists.inj h)
      simpa [CheckId.questions, Question.times, count_map_of_forall_ne] using
        List.count_map_of_injective host.drivers _ hdriver p.text
  | isDir p =>
      have hdirs (dirs : List Path) : (dirs.map Question.isDir).count (.isDir p) = dirs.count p :=
        List.count_map_of_injective dirs _ (fun _ _ h => Question.isDir.inj h) p
      simp [CheckId.questions, Question.times, count_map_of_forall_ne, hdirs]
  | listDir p =>
      have hlist : Function.Injective Question.listDir := fun _ _ h => Question.listDir.inj h
      simpa [CheckId.questions, Question.times, count_map_of_forall_ne] using
        List.count_map_of_injective (host.foundDir? s).toList _ hlist p

end Counts

namespace Checklist

/-- What a run asks: each check its own questions, in the order of the checklist and whatever
becomes of the other checks. Checks that run at the same time ask the same questions as often. -/
theorem run_asks (s : CheckSettings) (host : Host) :
    (runSequential s host).asked = CheckId.all.flatMap (CheckId.questions s host) ∧
    (∀ q, (runSequential s host).asked.count q = q.times s host) ∧
    ∀ schedule, (runParallel schedule s host).asked.Perm (runSequential s host).asked := by
  have hasked : (runSequential s host).asked = CheckId.all.flatMap (CheckId.questions s host) := by
    rw [asked_runSequential]
    exact List.flatMap_congr fun id _ => Check.asked_run s host id
  refine ⟨hasked, fun q => ?_, asked_runParallel_perm host s⟩
  rw [hasked, count_questions]

end Checklist

end Readiness
