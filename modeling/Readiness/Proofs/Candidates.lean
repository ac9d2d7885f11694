import Mathlib.Data.List.Basic
import Readiness.Proofs.Search

/-!
How a search ends on a host without panics. It finds what the first accepted key is accepted for and
looks up no key behind that one. Otherwise it fails if all look-ups of its keys fail, with the error
of the last of them, and ends without a find if there is no key or one whose look-up went well.
-/

namespace Readiness.Search

variable {α : Type} (answers : Answers) (accept : String → StoreKey → Probe (Option α))

/-- A key can be looked up, and is accepted with its values for this. -/
def Accepts (key : String) (a : α) : Prop :=
  ∃ values, answers (.storeKey key) = .ok (some values) ∧
    (accept key values).run (.ofAnswers answers) = .finished (some a)

def LookUpFails (key : String) : Prop := ∃ e, answers (.storeKey key) = .error e

/-- The look-up of a key, and what is asked about the values that it gives. -/
def questionsAbout (key : String) : List Question :=
  .storeKey key ::
    match answers (.storeKey key) with
    | .ok (some values) => (accept key values).asked (.ofAnswers answers)
    | _ => []

variable {answers accept}

section Candidate

variable {key : String}

theorem run_candidate_eq_some_iff {a : α} :
    (candidate accept key).run (.ofAnswers answers) = .finished (.ok (some a)) ↔
      Accepts answers accept key a := by
  have hreply : Host.ofAnswers answers (.storeKey key) = Reply.ofExcept (answers (.storeKey key)) :=
    rfl
  rw [run_candidate, Accepts, hreply]
  cases answers (.storeKey key) with
  | ok looked =>
      cases looked with
      | none => simp [Reply.ofExcept]
      | some values =>
          simp only [Reply.ofExcept, Except.ok.injEq, Option.some.injEq, exists_eq_left']
          cases (accept key values).run (.ofAnswers answers) <;> simp
  | error e => simp [Reply.ofExcept]

/-- Only a key that is accepted ends a search before its last one. -/
theorem endsWith_candidate_iff :
    endsWith ((candidate accept key).run (.ofAnswers answers)) = true ↔
      ∃ a, Accepts answers accept key a := by
  obtain ⟨reply, hreply⟩ := Probe.run_ofAnswers answers (candidate accept key)
  have hpanic : ¬ ∃ text, (candidate accept key).run (.ofAnswers answers) = .panicked text := by
    rintro ⟨text, htext⟩
    cases hreply.symm.trans htext
  simp only [endsWith_iff, hpanic, or_false, run_candidate_eq_some_iff]

theorem asked_candidate_eq :
    (candidate accept key).asked (.ofAnswers answers) = questionsAbout answers accept key := by
  have hreply : Host.ofAnswers answers (.storeKey key) = Reply.ofExcept (answers (.storeKey key)) :=
    rfl
  rw [asked_candidate, questionsAbout, hreply]
  cases answers (.storeKey key) with
  | ok looked => cases looked <;> rfl
  | error e => rfl

end Candidate

section Ending

variable {keys before after : List String} {key : String} {a : α} {e : ProbeError}

/-- Neither what a search has come to nor the keys behind matter to the first that is accepted. -/
theorem run_scanFrom_eq_found_iff (s : State) :
    (scanFrom accept s keys).run (.ofAnswers answers) = .finished (.found a) ↔
      Reaches (fun key => Accepts answers accept key a)
        (fun key => ∃ b, Accepts answers accept key b) keys := by
  -- The state is general: each key that is passed over changes it.
  induction keys generalizing s with
  | nil =>
      refine iff_of_false (fun h => ?_) not_reaches_nil
      simp only [scanFrom, Probe.run_pure, Outcome.finished.injEq] at h
      exact conclude_ne_found s a h
  | cons key keys ih =>
      rw [run_scanFrom_cons, reaches_cons]
      simp only [← run_candidate_eq_some_iff]
      obtain ⟨reply, hreply⟩ := Probe.run_ofAnswers answers (candidate accept key)
      rw [hreply]
      cases reply with
      | ok looked =>
          cases looked with
          | some b => simp
          | none => simpa [run_candidate_eq_some_iff] using ih { s with readable := true }
      | error e => simpa [run_candidate_eq_some_iff] using ih { s with lastError := some e }

theorem upTo_append_cons {β : Type} {ends : β → Bool} {front back : List β} {b : β}
    (hfront : ∀ other ∈ front, ends other = false) (hb : ends b = true) :
    upTo ends (front ++ b :: back) = front ++ [b] := by
  induction front with
  | nil => simp [upTo, hb]
  | cons first front ih =>
      obtain ⟨hfirst, hfront⟩ := List.forall_mem_cons.mp hfront
      rw [List.cons_append, upTo, hfirst, ih hfront]
      rfl

/-- The questions of a search that finds something are about the keys up to the accepted one. -/
theorem asked_scan_append_cons (hkey : Accepts answers accept key a)
    (hbefore : ∀ other ∈ before, ¬ ∃ b, Accepts answers accept other b) :
    (scan (before ++ key :: after) accept).asked (.ofAnswers answers) =
      (before ++ [key]).flatMap (questionsAbout answers accept) := by
  rw [scan, asked_scanFrom, upTo_append_cons]
  · exact List.flatMap_congr fun _ _ => asked_candidate_eq
  · intro other hother
    rw [Bool.eq_false_iff, ne_eq, endsWith_candidate_iff]
    exact hbefore other hother
  · exact endsWith_candidate_iff.mpr ⟨a, hkey⟩

/-- All look-ups fail if none goes well and there is a last one. -/
theorem allFail_iff :
    AllFail (.ofAnswers answers) keys e ↔
      (∀ key ∈ keys, LookUpFails answers key) ∧
        ∃ last, keys.getLast? = some last ∧ answers (.storeKey last) = .error e := by
  have hreply (key : String) (e : ProbeError) :
      Host.ofAnswers answers (.storeKey key) = .error e ↔ answers (.storeKey key) = .error e := by
    rw [Host.ofAnswers]
    cases answers (.storeKey key) <;> simp [Reply.ofExcept]
  simp only [AllFail, hreply, LookUpFails, List.getLast?_eq_some_iff]
  constructor
  · rintro ⟨before, last, rfl, hbefore, hlast⟩
    refine ⟨List.forall_mem_append.mpr ⟨hbefore, ?_⟩, last, ⟨before, rfl⟩, hlast⟩
    exact List.forall_mem_singleton.mpr ⟨e, hlast⟩
  · rintro ⟨hall, last, ⟨before, rfl⟩, hlast⟩
    exact ⟨before, last, rfl, (List.forall_mem_append.mp hall).1, hlast⟩

theorem exists_allFail_iff :
    (∃ e, AllFail (.ofAnswers answers) keys e) ↔
      keys ≠ [] ∧ ∀ key ∈ keys, LookUpFails answers key := by
  simp only [allFail_iff]
  constructor
  · rintro ⟨e, hall, last, hlast, -⟩
    refine ⟨?_, hall⟩
    rintro rfl
    cases hlast
  · rintro ⟨hne, hall⟩
    obtain ⟨e, he⟩ := hall _ (List.getLast_mem hne)
    exact ⟨e, hall, _, List.getLast?_eq_some_getLast hne, he⟩

/-- One of the keys is accepted if and only if there is a first one. -/
theorem exists_reaches_iff :
    (∃ a, Reaches (fun key => Accepts answers accept key a)
      (fun key => ∃ b, Accepts answers accept key b) keys) ↔
      ∃ key ∈ keys, ∃ a, Accepts answers accept key a := by
  induction keys with
  | nil => simp [not_reaches_nil]
  | cons key keys ih =>
      simp only [reaches_cons, exists_or, exists_and_left, ih, List.exists_mem_cons_iff]
      by_cases hkey : ∃ b, Accepts answers accept key b <;> simp [hkey]

/-- A search that neither finds nor fails ends without a find. -/
theorem run_scan_eq_notFound_iff :
    (scan keys accept).run (.ofAnswers answers) = .finished .notFound ↔
      (∀ key ∈ keys, ¬ ∃ a, Accepts answers accept key a) ∧
        (keys = [] ∨ ∃ key ∈ keys, ¬ LookUpFails answers key) := by
  let outcome := (scan keys accept).run (.ofAnswers answers)
  have hfound : (∃ a, outcome = .finished (.found a)) ↔
      ∃ key ∈ keys, ∃ a, Accepts answers accept key a :=
    (exists_congr fun a => run_scanFrom_eq_found_iff {}).trans exists_reaches_iff
  have hfailed : (∃ e, outcome = .finished (.failed e)) ↔
      keys ≠ [] ∧ ∀ key ∈ keys, LookUpFails answers key :=
    (exists_congr fun e => scan_fails_iff accept _ keys e).trans exists_allFail_iff
  have hneither : outcome = .finished .notFound ↔
      (¬ ∃ a, outcome = .finished (.found a)) ∧ ¬ ∃ e, outcome = .finished (.failed e) := by
    obtain ⟨ending, hending⟩ := Probe.run_ofAnswers answers (scan keys accept)
    simp only [outcome, hending]
    cases ending <;> simp
  refine hneither.trans (and_congr ?_ ?_)
  · rw [hfound]
    simp only [not_exists, not_and]
  · rw [hfailed, Classical.not_and_iff_not_or_not, Classical.not_not, Classical.not_forall]
    simp only [Classical.not_imp]

end Ending

/-- How a search ends. It finds what the first accepted key is accepted for, and then its questions
are those about the keys up to that one. It fails with the error of the last key if all look-ups
fail. It ends without a find if no key is accepted and there is none or one whose look-up did not
fail, wherever that one stands. -/
theorem scan_ends (answers : Answers) (accept : String → StoreKey → Probe (Option α))
    (keys : List String) :
    let outcome := (scan keys accept).run (.ofAnswers answers)
    (∀ a, outcome = .finished (.found a) ↔
      ∃ before key after, keys = before ++ key :: after ∧ Accepts answers accept key a ∧
        ∀ other ∈ before, ¬ ∃ b, Accepts answers accept other b) ∧
    (∀ before key after a, keys = before ++ key :: after → Accepts answers accept key a →
      (∀ other ∈ before, ¬ ∃ b, Accepts answers accept other b) →
        (scan keys accept).asked (.ofAnswers answers) =
          (before ++ [key]).flatMap (questionsAbout answers accept)) ∧
    (∀ e, outcome = .finished (.failed e) ↔
      (∀ key ∈ keys, LookUpFails answers key) ∧
        ∃ last, keys.getLast? = some last ∧ answers (.storeKey last) = .error e) ∧
    (outcome = .finished .notFound ↔
      (∀ key ∈ keys, ¬ ∃ a, Accepts answers accept key a) ∧
        (keys = [] ∨ ∃ key ∈ keys, ¬ LookUpFails answers key)) := by
  refine ⟨fun a => run_scanFrom_eq_found_iff {}, ?_,
    fun e => (scan_fails_iff accept _ keys e).trans allFail_iff, run_scan_eq_notFound_iff⟩
  rintro before key after a rfl hkey hbefore
  exact asked_scan_append_cons hkey hbefore

end Readiness.Search
