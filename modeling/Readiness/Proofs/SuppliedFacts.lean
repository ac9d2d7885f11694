import Readiness.Proofs.HostCalls
import Readiness.Proofs.StoreNames

/-!
What a host tells of the fact that the last call supplied. It is that fact, whatever calls came
before, but for three that are kept from taking effect: a listener where the ports could not be
listed, a key that could not be read, and a value whose name the key holds in a lesser spelling.
-/

namespace Readiness

namespace StoreKey

variable {k : StoreKey} {name : String} {value : StoreValue}

/-- Among the values that a key holds, the look-up finds that of the least spelling. -/
theorem get?_eq_some_iff (h : Ascending k.values) :
    k.get? name = some value ↔ ∃ e ∈ k.values, e.2 = value ∧
      Text.eqIgnoringCase e.1 name = true ∧
      ∀ other ∈ k.values, Text.eqIgnoringCase other.1 name = true → e.1 ≤ other.1 := by
  have hfind (e : String × StoreValue) := find?_eq_some_iff (e := e)
    (p := fun other => Text.eqIgnoringCase other name) h
  rw [get?, Option.map_eq_some_iff]
  constructor
  · rintro ⟨e, he, hvalue⟩
    obtain ⟨hmem, hleast⟩ := (hfind e).mp he
    exact ⟨e, hmem, hvalue, hleast⟩
  · rintro ⟨e, hmem, hvalue, hleast⟩
    exact ⟨e, (hfind e).mpr ⟨hmem, hleast⟩, hvalue⟩

/-- A key holds a name in a spelling that comes before the one given. -/
def HasLesser (k : StoreKey) (name : String) : Prop :=
  ∃ e ∈ k.values, Text.eqIgnoringCase e.1 name = true ∧ e.1 < name

theorem get?_insert_of_not_hasLesser (h : Ascending k.values) (hnone : ¬ k.HasLesser name) :
    (k.insert name value).get? name = some value := by
  refine (get?_eq_some_iff (h.insertValue name value)).mpr ⟨(name, value), ?_, rfl, ?_, ?_⟩
  · exact (mem_insertValue h).mpr (Or.inl rfl)
  · exact eqIgnoringCase_iff.mpr rfl
  · intro other hother hfits
    obtain rfl | ⟨hmem, -⟩ := (mem_insertValue h).mp hother
    · exact String.le_refl name
    · exact String.not_lt.mp fun hlt => hnone ⟨other, hmem, hfits, hlt⟩

theorem get?_insert_of_hasLesser (h : Ascending k.values) (hlesser : k.HasLesser name)
    (value : StoreValue) :
    ∃ old, k.get? name = some old ∧ (k.insert name value).get? name = some old := by
  obtain ⟨lesser, hmem, hfits, hlt⟩ := hlesser
  have hfound : (k.get? name).isSome = true := by
    rw [get?, Option.isSome_map, List.find?_isSome]
    exact ⟨lesser, hmem, hfits⟩
  obtain ⟨old, hold⟩ := Option.isSome_iff_exists.mp hfound
  refine ⟨old, hold, ?_⟩
  -- The spelling that is found stays the least one.
  obtain ⟨e, he, hvalue, hsame, hleast⟩ := (get?_eq_some_iff h).mp hold
  have hbefore : e.1 < name := Std.lt_of_le_of_lt (hleast lesser hmem hfits) hlt
  have hne : e.1 ≠ name := fun heq => String.lt_irrefl name (heq ▸ hbefore)
  refine (get?_eq_some_iff (h.insertValue name value)).mpr
    ⟨e, (mem_insertValue h).mpr (Or.inr ⟨he, hne⟩), hvalue, hsame, ?_⟩
  intro other hother hfits'
  obtain rfl | ⟨hmem', -⟩ := (mem_insertValue h).mp hother
  · exact String.not_lt.mp (String.lt_asymm hbefore)
  · exact hleast other hmem' hfits'

theorem get?_insert_eq_some_iff (h : Ascending k.values) :
    (k.insert name value).get? name = some value ↔
      ¬ (k.HasLesser name ∧ k.get? name ≠ some value) := by
  by_cases hlesser : k.HasLesser name
  · obtain ⟨old, hold, hget⟩ := get?_insert_of_hasLesser h hlesser value
    rw [hget, hold, and_iff_right hlesser, not_not]
  · exact iff_of_true (get?_insert_of_not_hasLesser h hlesser) fun hboth => hlesser hboth.1

end StoreKey

namespace FixedHost

section Order

variable {h : FixedHost}

/-- The names under each key ascend. -/
def Ordered (h : FixedHost) : Prop :=
  ∀ key k, h.storeKey key = .ok (some k) → StoreKey.Ascending k.values

theorem Ordered.readable (hh : Ordered h) (key : String) :
    StoreKey.Ascending (h.readable key).values := by
  obtain ⟨k, hk, hread⟩ | hread := readable_cases h key
  · exact hread ▸ hh key k hk
  · exact hread ▸ List.Pairwise.nil

theorem Ordered.apply (hh : Ordered h) (c : Call) : Ordered (c.apply h) := by
  intro key k hk
  by_cases hc : c.fact.Concerns (.storeKey key)
  · obtain ⟨name, value, rfl⟩ | rfl | rfl | ⟨e, rfl⟩ := concerns_storeKey_iff.mp hc
    · rw [Call.apply, storeKey_withStoreValue, if_pos rfl] at hk
      cases hk
      exact (hh.readable key).insertValue name value
    · rw [Call.apply, storeKey_withStoreKey, if_pos rfl] at hk
      cases hkey : h.storeKey key with
      | error e =>
          rw [hkey] at hk
          cases hk
      | ok found =>
          rw [hkey] at hk
          cases hk
          exact hh.readable key
    · rw [Call.apply, storeKey_withoutStoreKey, if_pos rfl] at hk
      cases hk
    · rw [Call.apply, withStoreError, storeKey_put, if_pos rfl] at hk
      cases hk
  · exact hh key k ((answer_apply_of_not_concerned h hc).symm.trans hk)

theorem ordered_ofCalls (calls : List Call) : Ordered (ofCalls calls) := by
  induction calls using List.reverseRecOn with
  | nil =>
      intro key k hk
      cases hk
  | append_singleton calls c ih =>
      rw [ofCalls_concat]
      exact ih.apply c

end Order

section Told

variable {h : FixedHost}

/-- The host answers as a call has it. A path is told in every spelling. -/
def Tells (h : FixedHost) : Call → Prop
  | .osVersion description => ∃ v, h.answer .osVersion = .ok v ∧
      (OsVersion.parse description = some v ∨
        OsVersion.parse description = none ∧ v = ⟨description, 0, 0, 0⟩)
  | .osError e => h.answer .osVersion = .error e
  | .elevated b => h.answer .isElevated = .ok b
  | .elevationError e => h.answer .isElevated = .error e
  | .storeValue key name value => ∃ k, h.answer (.storeKey key) = .ok (some k) ∧
      k.get? name = some value
  | .storeKey key => ∃ k, h.answer (.storeKey key) = .ok (some k)
  | .noStoreKey key => h.answer (.storeKey key) = .ok none
  | .storeError key e => h.answer (.storeKey key) = .error e
  | .file p => ∀ q, p.components = q.components → h.answer (.pathExists q) = .ok true
  | .dir p entries => ∀ q, p.components = q.components →
      h.answer (.isDir q) = .ok true ∧ h.answer (.listDir q) = .ok (entries.map p.join)
  | .unreadableDir p e => ∀ q, p.components = q.components →
      h.answer (.isDir q) = .ok true ∧ h.answer (.listDir q) = .error e
  | .space bytes => ∀ p, h.answer (.availableSpace p) = .ok bytes
  | .spaceError e => ∀ p, h.answer (.availableSpace p) = .error e
  | .listener port => ∃ ports, h.answer .listeningPorts = .ok ports ∧ port ∈ ports
  | .portsError e => h.answer .listeningPorts = .error e
  | .tool program output => ∀ args limit, h.answer (.runTool program args limit) = .ok output
  | .toolError program e => ∀ args limit, h.answer (.runTool program args limit) = .error e
  | .noTool program => ∀ args limit, h.answer (.runTool program args limit) =
      .error (.ofFailure (.commandFailed program none))

/-- What the host answers keeps a call from taking effect. -/
def Hides (h : FixedHost) : Call → Prop
  | .storeValue key name value => ∃ k, h.answer (.storeKey key) = .ok (some k) ∧
      k.HasLesser name ∧ k.get? name ≠ some value
  | .storeKey key => ∃ e, h.answer (.storeKey key) = .error e
  | .listener _ => ∃ e, h.answer .listeningPorts = .error e
  | _ => False

theorem hides_storeValue_iff (key name : String) (value : StoreValue) :
    h.Hides (.storeValue key name value) ↔
      (h.readable key).HasLesser name ∧ (h.readable key).get? name ≠ some value := by
  constructor
  · rintro ⟨k, hk, hhidden⟩
    rwa [readable_of_storeKey h key hk]
  · rintro ⟨hlesser, hold⟩
    obtain ⟨k, hk, hread⟩ | hread := readable_cases h key
    · rw [hread] at hlesser hold
      exact ⟨k, hk, hlesser, hold⟩
    · obtain ⟨e, he, -⟩ := hlesser
      rw [hread] at he
      cases he

theorem tells_storeValue_iff (hh : Ordered h) (key name : String) (value : StoreValue) :
    (h.withStoreValue key name value).Tells (.storeValue key name value) ↔
      ¬ h.Hides (.storeValue key name value) := by
  have hanswer : (h.withStoreValue key name value).answer (.storeKey key) =
      .ok (some ((h.readable key).insert name value)) :=
    (storeKey_withStoreValue h key key name value).trans (if_pos rfl)
  rw [hides_storeValue_iff, ← StoreKey.get?_insert_eq_some_iff (hh.readable key)]
  constructor
  · rintro ⟨k, hk, hget⟩
    cases hanswer.symm.trans hk
    exact hget
  · intro hget
    exact ⟨_, hanswer, hget⟩

theorem tells_storeKey_iff (key : String) :
    (h.withStoreKey key).Tells (.storeKey key) ↔ ¬ h.Hides (.storeKey key) := by
  have hanswer : (h.withStoreKey key).answer (.storeKey key) =
      (h.storeKey key).map fun _ => some (h.readable key) :=
    (storeKey_withStoreKey h key key).trans (if_pos rfl)
  cases hkey : h.storeKey key with
  | ok found =>
      rw [hkey] at hanswer
      refine iff_of_true ⟨_, hanswer⟩ ?_
      rintro ⟨e, he⟩
      cases hkey.symm.trans he
  | error e =>
      rw [hkey] at hanswer
      refine iff_of_false ?_ (not_not.mpr ⟨e, hkey⟩)
      rintro ⟨k, hk⟩
      cases hanswer.symm.trans hk

theorem tells_listener_iff (port : UInt16) :
    (h.withListener port).Tells (.listener port) ↔ ¬ h.Hides (.listener port) := by
  have hanswer : (h.withListener port).answer .listeningPorts = h.ports.map (· ++ [port]) := rfl
  cases hports : h.ports with
  | ok ports =>
      rw [hports] at hanswer
      refine iff_of_true ⟨_, hanswer, List.mem_append_right ports List.mem_cons_self⟩ ?_
      rintro ⟨e, he⟩
      cases hports.symm.trans he
  | error e =>
      rw [hports] at hanswer
      refine iff_of_false ?_ (not_not.mpr ⟨e, hports⟩)
      rintro ⟨ports, hports', -⟩
      cases hanswer.symm.trans hports'

/-- After a call the host tells what the call has it tell, if nothing hides it. -/
theorem tells_apply_iff (hh : Ordered h) (c : Call) : (c.apply h).Tells c ↔ ¬ h.Hides c := by
  cases c with
  | osVersion description =>
      refine iff_of_true ⟨_, rfl, ?_⟩ id
      cases OsVersion.parse description with
      | none => exact Or.inr ⟨rfl, rfl⟩
      | some v => exact Or.inl rfl
  | osError _ | elevated _ | elevationError _ | portsError _ => exact iff_of_true rfl id
  | space _ | spaceError _ => exact iff_of_true (fun _ => rfl) id
  | storeValue key name value => exact tells_storeValue_iff hh key name value
  | storeKey key => exact tells_storeKey_iff key
  | noStoreKey key =>
      exact iff_of_true ((storeKey_withoutStoreKey h key key).trans (if_pos rfl)) id
  | storeError key e => exact iff_of_true ((storeKey_put h key key _).trans (if_pos rfl)) id
  | file p =>
      refine iff_of_true (fun q hq => congrArg Except.ok ?_) id
      exact (pathExists_withFile h p q).trans (by rw [Path.same_iff.mpr hq, Bool.true_or])
  | dir p _ | unreadableDir p _ =>
      refine iff_of_true (fun q hq => ?_) id
      obtain ⟨hdir, -, hlist⟩ := answer_putDir h p q _ hq
      exact ⟨hdir, hlist⟩
  | listener port => exact tells_listener_iff port
  | tool program _ | toolError program _ =>
      exact iff_of_true (fun _ _ => (runTool_put h program program _).trans (if_pos rfl)) id
  | noTool program =>
      exact iff_of_true (fun _ _ => (runTool_withoutTool h program program).trans (if_pos rfl)) id

end Told

section Errors

variable {q : Question} {c : Call} {h : FixedHost} {e : ProbeError}

/-- An answer that only calls of a kind settle is an error exactly if the last of them set it. -/
theorem answer_eq_error_iff {Settles : Call → Prop} {fails : ProbeError → Call}
    (hbare : ∀ e, bare.answer q ≠ .error e)
    (hstep : ∀ c h e, (Call.apply c h).answer q = .error e ↔
      Settles c ∧ c = fails e ∨ ¬ Settles c ∧ h.answer q = .error e)
    (calls : List Call) (e : ProbeError) :
    (ofCalls calls).answer q = .error e ↔ ∃ before, IsLast Settles before (fails e) calls := by
  induction calls using List.reverseRecOn with
  | nil =>
      refine iff_of_false (hbare e) ?_
      rintro ⟨before, hlast⟩
      exact not_isLast_nil hlast
  | append_singleton calls c ih =>
      rw [ofCalls_concat, hstep, ih]
      by_cases hc : Settles c
      · rw [and_iff_right hc, or_iff_left fun hboth => hboth.1 hc]
        constructor
        · rintro rfl
          exact ⟨calls, (isLast_concat_of_pos hc).mpr ⟨rfl, rfl⟩⟩
        · rintro ⟨before, hlast⟩
          exact ((isLast_concat_of_pos hc).mp hlast).2.symm
      · simp only [isLast_concat_of_neg hc, hc, false_and, false_or, not_false_eq_true, true_and]

/-- The calls that settle whether a key can be read. -/
def Call.SettlesKey (key : String) : Call → Prop
  | .storeValue other _ _ | .noStoreKey other | .storeError other _ => key = other
  | _ => False

/-- The calls that settle whether the ports can be listed: none makes up for an error. -/
def Call.SettlesPorts : Call → Prop
  | .portsError _ => True
  | _ => False

theorem storeKey_apply_eq_error_iff (key : String) (c : Call) (h : FixedHost) (e : ProbeError) :
    (c.apply h).answer (.storeKey key) = .error e ↔
      c.SettlesKey key ∧ c = .storeError key e ∨
        ¬ c.SettlesKey key ∧ h.answer (.storeKey key) = .error e := by
  by_cases hc : c.fact.Concerns (.storeKey key)
  · obtain ⟨name, value, rfl⟩ | rfl | rfl | ⟨e', rfl⟩ := concerns_storeKey_iff.mp hc
    · have hanswer := (storeKey_withStoreValue h key key name value).trans (if_pos rfl)
      change (h.withStoreValue key name value).storeKey key = _ ↔ _
      simp [hanswer, Call.SettlesKey]
    · have hanswer := (storeKey_withStoreKey h key key).trans (if_pos rfl)
      change (h.withStoreKey key).storeKey key = _ ↔ _ ∨ _ ∧ h.storeKey key = _
      rw [hanswer]
      cases h.storeKey key <;> simp [Except.map, Call.SettlesKey]
    · have hanswer := (storeKey_withoutStoreKey h key key).trans (if_pos rfl)
      change (h.withoutStoreKey key).storeKey key = _ ↔ _
      simp [hanswer, Call.SettlesKey]
    · have hanswer := (storeKey_put h key key (.error e')).trans (if_pos rfl)
      change (h.withStoreError key e').storeKey key = _ ↔ _
      rw [withStoreError, hanswer]
      simp [Except.map, Call.SettlesKey]
  · have hsettles : ¬ c.SettlesKey key := by
      cases c <;> simp_all [Call.SettlesKey, Call.fact, Fact.Concerns, eq_comm]
    rw [answer_apply_of_not_concerned h hc]
    simp only [hsettles, false_and, false_or, not_false_eq_true, true_and]

theorem listeningPorts_apply_eq_error_iff (c : Call) (h : FixedHost) (e : ProbeError) :
    (c.apply h).answer .listeningPorts = .error e ↔
      c.SettlesPorts ∧ c = .portsError e ∨
        ¬ c.SettlesPorts ∧ h.answer .listeningPorts = .error e := by
  by_cases hc : c.fact.Concerns .listeningPorts
  · cases c with
    | listener port =>
        change h.ports.map _ = _ ↔ _ ∨ _ ∧ h.ports = _
        cases h.ports <;> simp [Except.map, Call.SettlesPorts]
    | portsError e' =>
        change (Except.error e' : Except ProbeError (List UInt16)) = _ ↔ _
        simp [Call.SettlesPorts]
    | _ => exact absurd hc id
  · have hsettles : ¬ c.SettlesPorts := by
      cases c <;> simp_all [Call.SettlesPorts, Call.fact, Fact.Concerns]
    rw [answer_apply_of_not_concerned h hc]
    simp only [hsettles, false_and, false_or, not_false_eq_true, true_and]

end Errors

/-- After any calls the last of them is told exactly if the answers before it did not keep it from
taking effect. An error of the ports is such for good, and one of a key until a value under it is
set or the key is taken away. -/
theorem last_call_is_told_iff (calls : List Call) :
    (∀ c, (ofCalls (calls ++ [c])).Tells c ↔ ¬ (ofCalls calls).Hides c) ∧
    (∀ e, (ofCalls calls).answer .listeningPorts = .error e ↔
      ∃ before, IsLast Call.SettlesPorts before (.portsError e) calls) ∧
    ∀ key e, (ofCalls calls).answer (.storeKey key) = .error e ↔
      ∃ before, IsLast (Call.SettlesKey key) before (.storeError key e) calls := by
  refine ⟨fun c => ?_, fun e => ?_, fun key e => ?_⟩
  · rw [ofCalls_concat, tells_apply_iff (ordered_ofCalls calls)]
  · exact answer_eq_error_iff (fun e h => by cases h) listeningPorts_apply_eq_error_iff calls e
  · exact answer_eq_error_iff (fun e h => by cases h) (storeKey_apply_eq_error_iff key) calls e

/-- Errors of the ports and of a key outlast a listener and the key, and one spelling of a name
outlasts another. -/
theorem earlier_calls_outlast_later :
    let denied : ProbeError := .command "denied"
    ¬ (ofCalls [.portsError denied, .listener 80]).Tells (.listener 80) ∧
      ¬ (ofCalls [.storeError "K" denied, .storeKey "K"]).Tells (.storeKey "K") ∧
      ¬ (ofCalls [.storeValue "K" "B" (.number 1), .storeValue "K" "b" (.number 2)]).Tells
        (.storeValue "K" "b" (.number 2)) := by
  refine ⟨?_, ?_, ?_⟩
  · rintro ⟨ports, hports, -⟩
    cases hports
  · rintro ⟨k, hk⟩
    cases hk
  · rintro ⟨k, hk, hget⟩
    cases hk
    cases hget

end FixedHost
end Readiness
