import Readiness.Host.Fixed

/-!
Hosts set up by calls, one after the other. Each call is about one fact, and what it leaves is said
here of the answers: a call on a table answers for its key, or for every spelling of its path, and
leaves the other entries as they were.
-/

namespace Readiness

theorem Path.same_iff {p q : Path} : p.same q = true ↔ p.components = q.components := by
  rw [same, beq_iff_eq]

namespace FixedHost

/-- A call that sets a host up. -/
inductive Call
  | osVersion (description : String)
  | osError (e : ProbeError)
  | elevated (elevated : Bool)
  | elevationError (e : ProbeError)
  | storeValue (key name : String) (value : StoreValue)
  | storeKey (key : String)
  | noStoreKey (key : String)
  | storeError (key : String) (e : ProbeError)
  | file (p : Path)
  | dir (p : Path) (entries : List String)
  | unreadableDir (p : Path) (e : ProbeError)
  | space (bytes : UInt64)
  | spaceError (e : ProbeError)
  | listener (port : UInt16)
  | portsError (e : ProbeError)
  | tool (program : String) (output : ToolOutput)
  | toolError (program : String) (e : ProbeError)
  | noTool (program : String)
  deriving DecidableEq, Repr

def Call.apply : Call → FixedHost → FixedHost
  | .osVersion description => withOsVersion description
  | .osError e => withOsError e
  | .elevated b => withElevated b
  | .elevationError e => withElevationError e
  | .storeValue key name value => withStoreValue key name value
  | .storeKey key => withStoreKey key
  | .noStoreKey key => withoutStoreKey key
  | .storeError key e => withStoreError key e
  | .file p => withFile p
  | .dir p entries => withDir p entries
  | .unreadableDir p e => withUnreadableDir p e
  | .space bytes => withSpace bytes
  | .spaceError e => withSpaceError e
  | .listener port => withListener port
  | .portsError e => withPortsError e
  | .tool program output => withTool program output
  | .toolError program e => withToolError program e
  | .noTool program => withoutTool program

/-- The host that calls make of a bare one. -/
def ofCalls (calls : List Call) : FixedHost := calls.foldl (fun h c => c.apply h) bare

theorem ofCalls_concat (calls : List Call) (c : Call) :
    ofCalls (calls ++ [c]) = c.apply (ofCalls calls) := by
  rw [ofCalls, List.foldl_append]
  rfl

/-- A healthy host is made of a bare one by calls, too. -/
theorem healthy_eq_ofCalls : ∃ calls, healthy = ofCalls calls :=
  ⟨[.osVersion "Microsoft Windows [Version 10.0.19045.3803]", .elevated true,
    .storeValue (StoreKeys.driver.headD "") "Driver" (.text healthyDriver), .file ⟨healthyDriver⟩,
    .storeValue (StoreKeys.nativeRuntime.headD "") "Installed" (.number 1),
    .storeValue (StoreKeys.nativeRuntime.headD "") "Version" (.text "v14.38.33135.00"),
    .storeValue StoreKeys.managedRuntime "Release" (.number 528040),
    .storeValue StoreKeys.firewall "EnableFirewall" (.number 1), .space healthySpace,
    .tool "cloudflared" (.ok "cloudflared version 2024.6.1\n")], rfl⟩

section Tables

variable {κ ν : Type} {same : κ → κ → Bool} (table : List (κ × ν)) (key other : κ) (value : ν)

theorem find?_cons (rest : List (κ × ν)) :
    find? same other ((key, value) :: rest) =
      if same key other then some value else find? same other rest := by
  rw [find?, List.find?_cons]
  dsimp only
  cases same key other <;> rfl

variable (hsame : Equivalence fun a b => same a b = true)
include hsame

theorem same_comm {a b : κ} : same a b = same b a := by
  rw [Bool.eq_iff_iff]
  exact ⟨hsame.symm, hsame.symm⟩

theorem same_congr {a b : κ} (h : same a b = true) : same a other = same b other := by
  rw [Bool.eq_iff_iff]
  exact ⟨hsame.trans (hsame.symm h), hsame.trans h⟩

theorem find?_put :
    find? same other (put same key value table) =
      if same key other then some value else find? same other table := by
  induction table with
  | nil => exact find?_cons key other value []
  | cons entry rest ih =>
      obtain ⟨held, old⟩ := entry
      rw [put]
      by_cases hheld : same held key = true
      · rw [if_pos hheld, find?_cons, find?_cons, same_congr other hsame hheld]
        split <;> rfl
      · rw [if_neg hheld, find?_cons, find?_cons, ih]
        by_cases hother : same held other = true
        · have hkey : ¬ same key other = true := fun h => hheld (hsame.trans hother (hsame.symm h))
          rw [if_pos hother, if_neg hkey, if_pos hother]
        · rw [if_neg hother, if_neg hother]

theorem find?_remove :
    find? same other (remove same key table) =
      if same key other then none else find? same other table := by
  induction table with
  | nil => rw [remove, List.filter_nil, find?, List.find?_nil, Option.map_none, ite_self]
  | cons entry rest ih =>
      obtain ⟨held, old⟩ := entry
      rw [remove, List.filter_cons]
      by_cases hheld : same held key = true
      · simp only [hheld, Bool.not_true, Bool.false_eq_true, if_false]
        rw [← remove, ih, find?_cons, same_congr other hsame hheld]
        split <;> rfl
      · simp only [hheld, Bool.not_false, if_true]
        rw [find?_cons, find?_cons, ← remove, ih]
        by_cases hother : same held other = true
        · have hkey : ¬ same key other = true := fun h => hheld (hsame.trans hother (hsame.symm h))
          rw [if_pos hother, if_neg hkey, if_pos hother]
        · rw [if_neg hother, if_neg hother]

end Tables

section Answers

variable (h : FixedHost) (key other : String) (p q : Path)

theorem equivalence_beq : Equivalence fun a b : String => (a == b) = true := by
  simp only [beq_iff_eq]
  exact ⟨fun _ => rfl, Eq.symm, Eq.trans⟩

theorem equivalence_same : Equivalence fun p q : Path => p.same q = true := by
  simp only [Path.same_iff]
  exact ⟨fun _ => rfl, Eq.symm, Eq.trans⟩

/-- What is found of a key in the table answers for it. -/
theorem storeKey_eq {found : Except ProbeError StoreKey}
    (hfound : find? (· == ·) key h.keys = some found) : h.storeKey key = found.map some := by
  rw [storeKey, hfound]
  cases found <;> rfl

theorem storeKey_put (found : Except ProbeError StoreKey) :
    FixedHost.storeKey other { h with keys := put (· == ·) key found h.keys } =
      if key = other then found.map some else h.storeKey other := by
  have hput := find?_put h.keys key other found equivalence_beq
  split
  next heq => exact storeKey_eq _ other (hput.trans (if_pos (beq_iff_eq.mpr heq)))
  next hne =>
      rw [storeKey, hput, if_neg (mt beq_iff_eq.mp hne)]
      rfl

/-- The values of a key that can be read, and none of another. -/
def readable : StoreKey := (h.storeKey key).toOption.join.getD {}

theorem readable_of_storeKey {k : StoreKey} (hk : h.storeKey key = .ok (some k)) :
    h.readable key = k := by
  rw [readable, hk]
  rfl

theorem readable_cases :
    (∃ k, h.storeKey key = .ok (some k) ∧ h.readable key = k) ∨ h.readable key = {} := by
  cases hkey : h.storeKey key with
  | error e => exact Or.inr (by rw [readable, hkey]; rfl)
  | ok found =>
      cases found with
      | none => exact Or.inr (by rw [readable, hkey]; rfl)
      | some k => exact Or.inl ⟨k, rfl, readable_of_storeKey h key hkey⟩

theorem storeKey_withStoreValue (name : String) (value : StoreValue) :
    (h.withStoreValue key name value).storeKey other =
      if key = other then .ok (some ((h.readable key).insert name value))
      else h.storeKey other := by
  have hset : h.withStoreValue key name value = { h with
      keys := put (· == ·) key (.ok ((h.readable key).insert name value)) h.keys } := by
    rw [withStoreValue, readable, storeKey]
    cases find? (· == ·) key h.keys with
    | none => rfl
    | some found => cases found <;> rfl
  rw [hset]
  exact storeKey_put h key other _

/-- A key that is made keeps what the store says of it. -/
theorem storeKey_withStoreKey :
    (h.withStoreKey key).storeKey other =
      if key = other then (h.storeKey key).map fun _ => some (h.readable key)
      else h.storeKey other := by
  rw [withStoreKey]
  split
  next found hfound =>
      have hkey : h.storeKey key = found.map some := storeKey_eq h key hfound
      split
      next heq =>
          subst heq
          rw [readable, hkey]
          cases found <;> rfl
      next => rfl
  next hnone =>
      have habsent : h.storeKey key = .ok none := by rw [storeKey, hnone]
      rw [readable, habsent]
      exact storeKey_put h key other _

theorem storeKey_withoutStoreKey :
    (h.withoutStoreKey key).storeKey other =
      if key = other then .ok none else h.storeKey other := by
  rw [withoutStoreKey, storeKey, find?_remove h.keys key other equivalence_beq]
  by_cases heq : key = other
  · rw [if_pos heq, if_pos (beq_iff_eq.mpr heq)]
  · rw [if_neg heq, if_neg (mt beq_iff_eq.mp heq)]
    rfl

theorem runTool_put (found : Except ProbeError ToolOutput) :
    FixedHost.runTool other { h with tools := put (· == ·) key found h.tools } =
      if key = other then found else h.runTool other := by
  rw [runTool, find?_put h.tools key other found equivalence_beq]
  simp only [beq_iff_eq]
  split <;> rfl

theorem runTool_withoutTool :
    (h.withoutTool key).runTool other =
      if key = other then .error (.ofFailure (.commandFailed key none)) else h.runTool other := by
  rw [withoutTool, runTool, find?_remove h.tools key other equivalence_beq]
  simp only [beq_iff_eq]
  split
  next heq =>
      rw [heq]
      rfl
  next => rfl

theorem isDir_put (found : Except ProbeError (List Path)) :
    FixedHost.isDir q { h with dirs := put Path.same p found h.dirs } =
      (p.same q || h.isDir q) := by
  rw [isDir, find?_put h.dirs p q found equivalence_same]
  cases p.same q <;> rfl

theorem listDir_put (found : Except ProbeError (List Path)) :
    FixedHost.listDir q { h with dirs := put Path.same p found h.dirs } =
      if p.same q then found else h.listDir q := by
  rw [listDir, find?_put h.dirs p q found equivalence_same]
  cases p.same q <;> rfl

/-- A directory that is set is there in every spelling of its path. -/
theorem answer_putDir (found : Except ProbeError (List Path)) (hq : p.components = q.components) :
    let set : FixedHost := { h with dirs := put Path.same p found h.dirs }
    set.answer (.isDir q) = .ok true ∧ set.answer (.pathExists q) = .ok true ∧
      set.answer (.listDir q) = found := by
  have hsame := Path.same_iff.mpr hq
  have hdir : FixedHost.isDir q { h with dirs := put Path.same p found h.dirs } = true := by
    rw [isDir_put, hsame, Bool.true_or]
  refine ⟨congrArg Except.ok hdir, congrArg Except.ok ?_, ?_⟩
  · rw [pathExists, hdir, Bool.or_true]
  · exact (listDir_put h p q found).trans (if_pos hsame)

theorem pathExists_withFile :
    (h.withFile p).pathExists q = (p.same q || h.pathExists q) := by
  have hsym : p.same q = q.same p := same_comm equivalence_same
  rw [withFile]
  split
  next hheld =>
      obtain ⟨file, hfile, hp⟩ := List.any_eq_true.mp hheld
      cases hq : p.same q with
      | false => rfl
      | true =>
          have hheld' : h.files.any q.same = true :=
            List.any_eq_true.mpr ⟨file, hfile, equivalence_same.trans (equivalence_same.symm hq) hp⟩
          rw [pathExists, hheld']
          rfl
  next =>
      rw [pathExists, List.any_append, List.any_cons, List.any_nil, Bool.or_false, ← hsym,
        Bool.or_comm (h.files.any q.same), Bool.or_assoc]
      rfl

end Answers

section Facts

/-- What a call is about. -/
inductive Fact
  | os
  | elevation
  | storeKey (key : String)
  | file (p : Path)
  | dir (p : Path)
  | space
  | ports
  | tool (program : String)
  deriving DecidableEq, Repr

def Call.fact : Call → Fact
  | .osVersion _ | .osError _ => .os
  | .elevated _ | .elevationError _ => .elevation
  | .storeValue key _ _ | .storeKey key | .noStoreKey key | .storeError key _ =>
    .storeKey key
  | .file p => .file p
  | .dir p _ | .unreadableDir p _ => .dir p
  | .space _ | .spaceError _ => .space
  | .listener _ | .portsError _ => .ports
  | .tool program _ | .toolError program _ | .noTool program => .tool program

/-- The questions whose answers a fact is part of. Paths are one if their components are. -/
def Fact.Concerns : Fact → Question → Prop
  | .os, .osVersion | .elevation, .isElevated | .space, .availableSpace _
  | .ports, .listeningPorts => True
  | .storeKey key, .storeKey other => key = other
  | .file p, .pathExists q => p.components = q.components
  | .dir p, .pathExists q | .dir p, .isDir q | .dir p, .listDir q => p.components = q.components
  | .tool program, .runTool other _ _ => program = other
  | _, _ => False

section Questions

variable {q : Question} {p : Path} {program : String}

theorem concerns_os_iff : Fact.os.Concerns q ↔ q = .osVersion := by
  cases q <;> simp [Fact.Concerns]

theorem concerns_elevation_iff : Fact.elevation.Concerns q ↔ q = .isElevated := by
  cases q <;> simp [Fact.Concerns]

theorem concerns_key_iff {key : String} :
    (Fact.storeKey key).Concerns q ↔ q = .storeKey key := by
  cases q <;> simp [Fact.Concerns, eq_comm]

theorem concerns_file_iff :
    (Fact.file p).Concerns q ↔ ∃ r, q = .pathExists r ∧ p.components = r.components := by
  cases q <;> simp [Fact.Concerns]

theorem concerns_dir_iff :
    (Fact.dir p).Concerns q ↔ ∃ r, (q = .isDir r ∨ q = .pathExists r ∨ q = .listDir r) ∧
      p.components = r.components := by
  cases q <;> simp [Fact.Concerns]

theorem concerns_space_iff : Fact.space.Concerns q ↔ ∃ p, q = .availableSpace p := by
  cases q <;> simp [Fact.Concerns]

theorem concerns_ports_iff : Fact.ports.Concerns q ↔ q = .listeningPorts := by
  cases q <;> simp [Fact.Concerns]

theorem concerns_tool_iff :
    (Fact.tool program).Concerns q ↔ ∃ args limit, q = .runTool program args limit := by
  cases q <;> simp [Fact.Concerns, eq_comm]

end Questions

variable {c : Call} {q : Question} {key : String}

/-- The calls about a key. -/
theorem concerns_storeKey_iff :
    c.fact.Concerns (.storeKey key) ↔
      (∃ name value, c = .storeValue key name value) ∨ c = .storeKey key ∨ c = .noStoreKey key ∨
        ∃ e, c = .storeError key e := by
  cases c <;> simp [Call.fact, Fact.Concerns]

theorem isDir_put_of_ne {p q : Path} (h : FixedHost) (hne : ¬ p.components = q.components)
    (found : Except ProbeError (List Path)) :
    FixedHost.isDir q { h with dirs := put Path.same p found h.dirs } = h.isDir q := by
  rw [isDir_put, Bool.eq_false_iff.mpr (mt Path.same_iff.mp hne), Bool.false_or]

theorem answer_putDir_of_not_concerned {p : Path} (h : FixedHost)
    (found : Except ProbeError (List Path)) (hq : ¬ (Fact.dir p).Concerns q) :
    FixedHost.answer { h with dirs := put Path.same p found h.dirs } q = h.answer q := by
  cases q with
  | isDir q => exact congrArg Except.ok (isDir_put_of_ne h hq found)
  | pathExists q =>
      exact congrArg (fun found => Except.ok (h.files.any q.same || found))
        (isDir_put_of_ne h hq found)
  | listDir q => exact (listDir_put h p q found).trans (if_neg (mt Path.same_iff.mp hq))
  | _ => rfl

theorem answer_withFile_of_not_concerned {p : Path} (h : FixedHost)
    (hq : ¬ (Fact.file p).Concerns q) : (h.withFile p).answer q = h.answer q := by
  cases q with
  | pathExists q =>
      refine congrArg Except.ok ((pathExists_withFile h p q).trans ?_)
      rw [Bool.eq_false_iff.mpr (mt Path.same_iff.mp hq), Bool.false_or]
  | _ =>
      rw [withFile]
      split <;> rfl

theorem answer_withStoreKey_of_not_concerned (h : FixedHost)
    (hq : ¬ (Fact.storeKey key).Concerns q) :
    (h.withStoreKey key).answer q = h.answer q := by
  cases q with
  | storeKey other => exact (storeKey_withStoreKey h key other).trans (if_neg hq)
  | _ =>
      rw [withStoreKey]
      split <;> rfl

/-- A call leaves the answers that it does not concern. -/
theorem answer_apply_of_not_concerned (h : FixedHost) (hq : ¬ c.fact.Concerns q) :
    (c.apply h).answer q = h.answer q := by
  cases c with
  | osVersion _ | osError _ =>
      cases q with
      | osVersion => exact absurd trivial hq
      | _ => rfl
  | elevated _ | elevationError _ =>
      cases q with
      | isElevated => exact absurd trivial hq
      | _ => rfl
  | storeValue key name value =>
      cases q with
      | storeKey other => exact (storeKey_withStoreValue h key other name value).trans (if_neg hq)
      | _ => rfl
  | storeKey key => exact answer_withStoreKey_of_not_concerned h hq
  | noStoreKey key =>
      cases q with
      | storeKey other => exact (storeKey_withoutStoreKey h key other).trans (if_neg hq)
      | _ => rfl
  | storeError key e =>
      cases q with
      | storeKey other => exact (storeKey_put h key other _).trans (if_neg hq)
      | _ => rfl
  | file p => exact answer_withFile_of_not_concerned h hq
  | dir p _ | unreadableDir p _ => exact answer_putDir_of_not_concerned h _ hq
  | space _ | spaceError _ =>
      cases q with
      | availableSpace p => exact absurd trivial hq
      | _ => rfl
  | listener _ | portsError _ =>
      cases q with
      | listeningPorts => exact absurd trivial hq
      | _ => rfl
  | tool program _ | toolError program _ =>
      cases q with
      | runTool other args limit => exact (runTool_put h program other _).trans (if_neg hq)
      | _ => rfl
  | noTool program =>
      cases q with
      | runTool other args limit => exact (runTool_withoutTool h program other).trans (if_neg hq)
      | _ => rfl

end Facts

end FixedHost
end Readiness
