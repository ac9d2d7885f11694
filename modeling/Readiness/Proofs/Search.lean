import Readiness.Check.Candidates
import Readiness.Proofs.Probe

/-!
The search for the first acceptable key on a host. A candidate is looked up and, where the look-up
gives values, examined; the search finds something exactly if it reaches a candidate that is
accepted, and it is only a panic that keeps it from reaching the next one. It fails exactly if all
look-ups fail. Its questions are those of its candidates, up to the one that ends it.
-/

namespace Readiness.Search

/-- One of the keys is accepted, and none before it panics. -/
def Reaches (accepted panics : String → Prop) (keys : List String) : Prop :=
  ∃ before key after,
    keys = before ++ key :: after ∧ accepted key ∧ ∀ other ∈ before, ¬ panics other

section Reaches

variable {accepted panics : String → Prop}

theorem not_reaches_nil : ¬ Reaches accepted panics [] := by
  rintro ⟨before, key, after, h, _⟩
  simp at h

theorem reaches_cons {key : String} {keys : List String} :
    Reaches accepted panics (key :: keys) ↔
      accepted key ∨ ¬ panics key ∧ Reaches accepted panics keys := by
  constructor
  · rintro ⟨before, found, after, h, ha, hp⟩
    cases before with
    | nil =>
        obtain ⟨rfl, rfl⟩ := List.cons.inj h
        exact Or.inl ha
    | cons first before =>
        obtain ⟨rfl, rfl⟩ := List.cons.inj h
        have hfirst : ¬ panics key := hp key List.mem_cons_self
        have hrest : ∀ other ∈ before, ¬ panics other := by
          intro other hmem
          exact hp other (List.mem_cons_of_mem key hmem)
        exact Or.inr ⟨hfirst, before, found, after, rfl, ha, hrest⟩
  · rintro (ha | ⟨hfirst, before, found, after, rfl, ha, hp⟩)
    · exact ⟨[], key, keys, rfl, ha, by simp⟩
    · refine ⟨key :: before, found, after, rfl, ha, ?_⟩
      intro other hmem
      cases List.mem_cons.mp hmem with
      | inl heq => simpa only [heq] using hfirst
      | inr hrest => exact hp other hrest

theorem reaches_congr {accepted' panics' : String → Prop} {keys : List String}
    (ha : ∀ key ∈ keys, accepted' key ↔ accepted key)
    (hp : ∀ key ∈ keys, panics' key ↔ panics key) :
    Reaches accepted' panics' keys ↔ Reaches accepted panics keys := by
  induction keys with
  | nil => exact ⟨fun h => (not_reaches_nil h).elim, fun h => (not_reaches_nil h).elim⟩
  | cons key keys ih =>
      have ih' := ih (fun k hk => ha k (List.mem_cons_of_mem key hk))
        (fun k hk => hp k (List.mem_cons_of_mem key hk))
      rw [reaches_cons, reaches_cons, ha key List.mem_cons_self, hp key List.mem_cons_self, ih']

end Reaches

variable {α : Type} (accept : String → StoreKey → Probe (Option α)) (host : Host)

/-- The questions about one candidate. An error is an error of its look-up. -/
def candidate (key : String) : Probe (Except ProbeError (Option α)) := do
  match ← Probe.query (.storeKey key) with
  | .ok (some values) => return .ok (← accept key values)
  | .ok none => return .ok none
  | .error e => return .error e

theorem asked_candidate (key : String) :
    (candidate accept key).asked host =
      .storeKey key ::
        match host (.storeKey key) with
        | .answer (some values) => (accept key values).asked host
        | _ => [] := by
  rw [candidate, Probe.asked_query_bind]
  cases host (.storeKey key) with
  | answer found =>
      cases found with
      | none => rfl
      | some values =>
          dsimp only
          rw [Probe.asked_bind_of_silent host (accept key values)
            (fun _ => Probe.asked_pure host _)]
  | error e => rfl
  | panic text => rfl

theorem run_candidate (key : String) :
    (candidate accept key).run host =
      match host (.storeKey key) with
      | .answer (some values) =>
          match (accept key values).run host with
          | .finished a => .finished (.ok a)
          | .panicked text => .panicked text
      | .answer none => .finished (.ok none)
      | .error e => .finished (.error e)
      | .panic text => .panicked text := by
  refine (Probe.run_query_bind host (.storeKey key) _).trans ?_
  cases host (.storeKey key) with
  | answer found =>
      cases found with
      | none => rfl
      | some values =>
          dsimp only
          rw [Probe.run_bind]
          cases (accept key values).run host <;> rfl
  | error e => rfl
  | panic text => rfl

/-- The step of a search: its first candidate decides how it goes on. -/
theorem scanFrom_cons (s : State) (key : String) (keys : List String) :
    scanFrom accept s (key :: keys) =
      candidate accept key >>= fun
        | .ok (some a) => pure (found a)
        | .ok none => scanFrom accept { s with readable := true } keys
        | .error e => scanFrom accept { s with lastError := some e } keys := by
  rw [candidate, Probe.bind_assoc]
  refine congrArg (Probe.query (.storeKey key) >>= ·) (funext fun reply => ?_)
  cases reply with
  | error e => rfl
  | ok looked =>
      cases looked with
      | none => rfl
      | some values =>
          dsimp only
          rw [Probe.bind_assoc]
          refine congrArg (accept key values >>= ·) (funext fun a => ?_)
          cases a <;> rfl

theorem run_scanFrom_cons (s : State) (key : String) (keys : List String) :
    (scanFrom accept s (key :: keys)).run host =
      match (candidate accept key).run host with
      | .finished (.ok (some a)) => .finished (.found a)
      | .finished (.ok none) => (scanFrom accept { s with readable := true } keys).run host
      | .finished (.error e) => (scanFrom accept { s with lastError := some e } keys).run host
      | .panicked text => .panicked text := by
  rw [scanFrom_cons, Probe.run_bind]
  cases (candidate accept key).run host with
  | finished reply =>
      cases reply with
      | ok a => cases a <;> rfl
      | error e => rfl
  | panicked text => rfl

/-- A search without a candidate left finds nothing. -/
theorem conclude_ne_found (s : State) (a : α) : (s.conclude : Search α) ≠ .found a := by
  simp only [State.conclude]
  cases s.lastError with
  | none => simp
  | some e => cases s.readable <;> simp

/-- What a search has come to does not matter to what it will find. -/
theorem scanFrom_finds_iff (s : State) (keys : List String) :
    (∃ a, (scanFrom accept s keys).run host = .finished (.found a)) ↔
      Reaches (fun key => ∃ a, (candidate accept key).run host = .finished (.ok (some a)))
        (fun key => ∃ text, (candidate accept key).run host = .panicked text) keys := by
  induction keys generalizing s with
  | nil =>
      refine iff_of_false ?_ not_reaches_nil
      rintro ⟨a, h⟩
      simp only [scanFrom, Probe.run_pure, Outcome.finished.injEq] at h
      exact conclude_ne_found s a h
  | cons key keys ih =>
      rw [reaches_cons, run_scanFrom_cons]
      cases (candidate accept key).run host with
      | finished reply =>
          cases reply with
          | ok found =>
              cases found with
              | some a => simp
              | none => simpa using ih { s with readable := true }
          | error e => simpa using ih { s with lastError := some e }
      | panicked text => simp

/-- Every look-up fails, the last one with this error. -/
def AllFail (host : Host) (keys : List String) (e : ProbeError) : Prop :=
  ∃ before last, keys = before ++ [last] ∧
    (∀ key ∈ before, ∃ e', host (.storeKey key) = .error e') ∧ host (.storeKey last) = .error e

theorem not_allFail_nil (e : ProbeError) : ¬ AllFail host [] e := by
  rintro ⟨before, last, h, -⟩
  cases before <;> cases h

theorem allFail_cons {key : String} {keys : List String} {e : ProbeError} :
    AllFail host (key :: keys) e ↔
      ∃ e', host (.storeKey key) = .error e' ∧ (keys = [] ∧ e' = e ∨ AllFail host keys e) := by
  constructor
  · rintro ⟨before, last, h, hbefore, hlast⟩
    cases before with
    | nil =>
        obtain ⟨rfl, rfl⟩ := List.cons.inj h
        exact ⟨e, hlast, Or.inl ⟨rfl, rfl⟩⟩
    | cons first before =>
        obtain ⟨rfl, rfl⟩ := List.cons.inj h
        obtain ⟨⟨e', hkey⟩, hbefore⟩ := List.forall_mem_cons.mp hbefore
        exact ⟨e', hkey, Or.inr ⟨before, last, rfl, hbefore, hlast⟩⟩
  · rintro ⟨e', hkey, ⟨rfl, rfl⟩ | ⟨before, last, rfl, hbefore, hlast⟩⟩
    · exact ⟨[], key, rfl, List.forall_mem_nil _, hkey⟩
    · exact ⟨key :: before, last, rfl, List.forall_mem_cons.mpr ⟨⟨e', hkey⟩, hbefore⟩, hlast⟩

theorem conclude_eq_failed_iff (s : State) (e : ProbeError) :
    (s.conclude : Search α) = .failed e ↔ s.readable = false ∧ s.lastError = some e := by
  simp only [State.conclude]
  cases s.lastError with
  | none => simp
  | some e' => cases s.readable <;> simp

/-- A search fails if every look-up does, and has the error of the last one; a look-up that went
well before its first candidate keeps it from failing. -/
theorem scanFrom_fails_iff (s : State) (keys : List String) (e : ProbeError) :
    (scanFrom accept s keys).run host = .finished (.failed e) ↔
      s.readable = false ∧ (keys = [] ∧ s.lastError = some e ∨ AllFail host keys e) := by
  induction keys generalizing s with
  | nil =>
      simp only [scanFrom, Probe.run_pure, Outcome.finished.injEq, conclude_eq_failed_iff,
        not_allFail_nil, true_and, or_false]
  | cons key keys ih =>
      rw [run_scanFrom_cons, run_candidate, allFail_cons]
      cases host (.storeKey key) with
      | answer found =>
          cases found with
          | none => simp [ih]
          | some values =>
              dsimp only
              cases (accept key values).run host with
              | finished a => cases a <;> simp [ih]
              | panicked text => simp
      | error e' => simp [ih]
      | panic text => simp

theorem scan_fails_iff (keys : List String) (e : ProbeError) :
    (scan keys accept).run host = .finished (.failed e) ↔ AllFail host keys e := by
  rw [scan, scanFrom_fails_iff]
  simp

/-- The items up to the first that ends a search, with that one. -/
def upTo {β : Type} (ends : β → Bool) : List β → List β
  | [] => []
  | b :: rest => b :: if ends b then [] else upTo ends rest

theorem upTo_sublist {ends : α → Bool} (l : List α) : (upTo ends l).Sublist l := by
  induction l with
  | nil => exact .refl _
  | cons a l ih =>
      rw [upTo]
      split
      · exact (List.nil_sublist l).cons_cons a
      · exact ih.cons_cons a

/-- A candidate that is accepted ends the search, and so does one that panics. -/
def endsWith : Outcome (Except ProbeError (Option α)) → Bool
  | .finished (.ok (some _)) => true
  | .panicked _ => true
  | _ => false

theorem endsWith_iff (outcome : Outcome (Except ProbeError (Option α))) :
    endsWith outcome = true ↔
      (∃ a, outcome = .finished (.ok (some a))) ∨ ∃ text, outcome = .panicked text := by
  cases outcome with
  | finished reply =>
      cases reply with
      | ok found => cases found <;> simp [endsWith]
      | error e => simp [endsWith]
  | panicked text => simp [endsWith]

/-- A search asks about its candidates one by one, up to the one that ends it. -/
theorem asked_scanFrom (s : State) (keys : List String) :
    (scanFrom accept s keys).asked host =
      (upTo (fun key => endsWith ((candidate accept key).run host)) keys).flatMap
        fun key => (candidate accept key).asked host := by
  -- The state tells how the search will end, not what it asks, so it is left general.
  induction keys generalizing s with
  | nil => rfl
  | cons key keys ih =>
      rw [scanFrom_cons, Probe.asked_bind, upTo, List.flatMap_cons]
      refine congrArg ((candidate accept key).asked host ++ ·) ?_
      cases (candidate accept key).run host with
      | finished reply =>
          cases reply with
          | ok found =>
              cases found with
              | some a => rfl
              | none => exact ih { s with readable := true }
          | error e => exact ih { s with lastError := some e }
      | panicked text => rfl

theorem asked_scan {ends : String → Prop} [DecidablePred ends]
    (h : ∀ key, endsWith ((candidate accept key).run host) = true ↔ ends key) (keys : List String) :
    (scan keys accept).asked host =
      (upTo (ends ·) keys).flatMap fun key => (candidate accept key).asked host := by
  have hends : (fun key => endsWith ((candidate accept key).run host)) = (ends ·) :=
    funext fun key => Bool.eq_iff_iff.mpr ((h key).trans decide_eq_true_iff.symm)
  rw [scan, asked_scanFrom, hends]

end Readiness.Search
