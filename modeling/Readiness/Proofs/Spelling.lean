import Readiness.Proofs.Components
import Readiness.Proofs.DatabaseDirectory
import Readiness.Proofs.HostCalls

/-!
What the spelling of a path has no part in. A host that is set up by calls answers alike for all
spellings of a path, but for the error about a directory that is not there, which shows the path as
it was asked for. The check of the database has the same result for them, but for the path in its
details.
-/

namespace Readiness

/-- The texts are the same, or would be if they showed the same path. -/
inductive SameButPath (p q : Path) : String → String → Prop
  | same (text : String) : SameButPath p q text text
  | shown (before after : String) :
      SameButPath p q (before ++ p.text ++ after) (before ++ q.text ++ after)

/-- The results are the same, but for a path that their details may show. -/
structure CheckResult.SameButPath (p q : Path) (r r' : CheckResult) : Prop where
  id : r.id = r'.id
  status : r.status = r'.status
  critical : r.critical = r'.critical
  message : r.message = r'.message
  details : Readiness.SameButPath p q r.details r'.details

def CheckSettings.withDatabase (s : CheckSettings) (p : Path) : CheckSettings :=
  { s with databasePath := some p }

namespace Path

variable {p q : Path}

theorem same_congr_left (h : p.components = q.components) : p.same = q.same := by
  funext r
  rw [same, same, h]

theorem same_congr_right (h : p.components = q.components) (r : Path) : r.same p = r.same q := by
  rw [same, same, h]

/-- Only the empty text has no components. -/
theorem text_eq_empty_iff (p : Path) : p.text = "" ↔ p.components = [] := by
  rw [← String.toList_eq_nil_iff, ← components_eq_nil_iff, ofChars_toList]

end Path

namespace FixedHost

variable (h : FixedHost) {p q : Path}

theorem find?_congr {κ ν : Type} {same : κ → κ → Bool} {key key' : κ}
    (hkey : ∀ other, same other key = same other key') (table : List (κ × ν)) :
    find? same key table = find? same key' table := by
  induction table with
  | nil => rfl
  | cons entry table ih => rw [find?_cons, find?_cons, hkey, ih]

theorem isDir_congr (hpq : p.components = q.components) : h.isDir p = h.isDir q := by
  rw [isDir, isDir, find?_congr (Path.same_congr_right hpq)]

theorem pathExists_congr (hpq : p.components = q.components) :
    h.pathExists p = h.pathExists q := by
  rw [pathExists, pathExists, Path.same_congr_left hpq, isDir_congr h hpq]

theorem listDir_congr (hpq : p.components = q.components) (hdir : h.isDir p = true) :
    h.listDir p = h.listDir q := by
  rw [isDir, Option.isSome_iff_exists] at hdir
  obtain ⟨found, hfound⟩ := hdir
  rw [listDir, listDir, ← find?_congr (Path.same_congr_right hpq), hfound]
  rfl

/-- The error about a directory that is not there shows its path as it was asked for. -/
theorem listDir_of_not_isDir (hdir : h.isDir p = false) :
    h.listDir p = .error (.io ("Cannot list " ++ p.text) "directory not found") := by
  rw [isDir, Option.isSome_eq_false_iff, Option.isNone_iff_eq_none] at hdir
  rw [listDir, hdir]
  rfl

end FixedHost

namespace Checklist

open FixedHost

theorem sameButPath_refl (p q : Path) (r : CheckResult) : r.SameButPath p q r :=
  ⟨rfl, rfl, rfl, rfl, .same r.details⟩

theorem dataFilesResult_sameButPath (p q : Path) (count : Nat) :
    (Check.dataFilesResult p count).SameButPath p q (Check.dataFilesResult q count) := by
  have hdetails : SameButPath p q ("Path: " ++ p.text) ("Path: " ++ q.text) := by
    have hshown : SameButPath p q ("Path: " ++ p.text ++ "") ("Path: " ++ q.text ++ "") :=
      .shown "Path: " ""
    rwa [String.append_empty, String.append_empty] at hshown
  simp only [Check.dataFilesResult]
  split <;> exact ⟨rfl, rfl, rfl, rfl, hdetails⟩

theorem runOne_withDatabase (s : CheckSettings) (h : FixedHost) {p q : Path}
    (hpq : p.components = q.components) :
    (runOne (s.withDatabase p) h.host .databasePath).SameButPath p q
      (runOne (s.withDatabase q) h.host .databasePath) := by
  by_cases hp : p.text = ""
  · have hq : q.text = "" := q.text_eq_empty_iff.mpr (hpq ▸ p.text_eq_empty_iff.mp hp)
    obtain rfl : p = q := by
      cases p
      cases q
      exact congrArg Path.mk (hp.trans hq.symm)
    exact sameButPath_refl p p _
  · have hq : q.text ≠ "" :=
      fun hq => hp (p.text_eq_empty_iff.mpr (hpq ▸ q.text_eq_empty_iff.mp hq))
    have hdirs : h.isDir q = h.isDir p := (isDir_congr h hpq).symm
    have hhost : h.host = .ofAnswers h.answer := rfl
    rw [hhost]
    cases hdir : h.isDir p with
    | false =>
        rw [hdir] at hdirs
        rw [runOne_databasePath_absent ⟨rfl, hp⟩ (congrArg Except.ok hdir),
          runOne_databasePath_absent ⟨rfl, hq⟩ (congrArg Except.ok hdirs)]
        exact ⟨rfl, rfl, rfl, rfl, .shown "Path: " " - Directory will be created if needed"⟩
    | true =>
        have hlists : h.listDir q = h.listDir p := (listDir_congr h hpq hdir).symm
        rw [hdir] at hdirs
        cases hlist : h.listDir p with
        | ok entries =>
            rw [hlist] at hlists
            rw [runOne_databasePath_listed ⟨rfl, hp⟩ (congrArg Except.ok hdir) hlist,
              runOne_databasePath_listed ⟨rfl, hq⟩ (congrArg Except.ok hdirs) hlists]
            exact dataFilesResult_sameButPath p q _
        | error e =>
            rw [hlist] at hlists
            rw [runOne_databasePath_unlisted ⟨rfl, hp⟩ (congrArg Except.ok hdir) hlist,
              runOne_databasePath_unlisted ⟨rfl, hq⟩ (congrArg Except.ok hdirs) hlists]
            exact sameButPath_refl p q _

end Checklist

/-- The spelling of a path does not matter. Two paths have the same components exactly if they are
spellings of each other, and a host answers alike for both, but that the error about a directory
which is not there shows the path that was asked for. The results of the check of the database are
the same, but for the path that their details may show. -/
theorem spelling_does_not_matter :
    (∀ p q : Path, p.components = q.components ↔ p.Respelled q) ∧
    ∀ (calls : List FixedHost.Call) (p q : Path), p.components = q.components →
      let h := FixedHost.ofCalls calls
      h.answer (.pathExists p) = h.answer (.pathExists q) ∧
      h.answer (.isDir p) = h.answer (.isDir q) ∧
      (h.answer (.isDir p) = .ok true → h.answer (.listDir p) = h.answer (.listDir q)) ∧
      (h.answer (.isDir p) = .ok false → ∀ r ∈ [p, q], h.answer (.listDir r) =
        .error (.io ("Cannot list " ++ r.text) "directory not found")) ∧
      ∀ s : CheckSettings,
        (Checklist.runOne (s.withDatabase p) h.host .databasePath).SameButPath p q
          (Checklist.runOne (s.withDatabase q) h.host .databasePath) := by
  refine ⟨fun p q => Path.components_eq_iff, fun calls p q hpq => ?_⟩
  intro h
  have hdirs : h.isDir p = h.isDir q := FixedHost.isDir_congr h hpq
  refine ⟨congrArg Except.ok (FixedHost.pathExists_congr h hpq), congrArg Except.ok hdirs, ?_, ?_,
    fun s => Checklist.runOne_withDatabase s h hpq⟩
  · intro hdir
    exact FixedHost.listDir_congr h hpq (Except.ok.inj hdir)
  · intro hdir r hr
    have hp : h.isDir p = false := Except.ok.inj hdir
    have hr : r = p ∨ r = q := by simpa using hr
    obtain rfl | rfl := hr
    · exact FixedHost.listDir_of_not_isDir h hp
    · exact FixedHost.listDir_of_not_isDir h (hdirs ▸ hp)

/-- A directory that was given anew under another spelling, asked for under two more. -/
theorem spelling_does_not_matter_of_dots :
    let calls : List FixedHost.Call := [.dir ⟨"/db/"⟩ [], .dir ⟨"/./db"⟩ ["a.dbf"]]
    let h := FixedHost.ofCalls calls
    h.answer (.listDir ⟨"//db/."⟩) = .ok [⟨"/./db/a.dbf"⟩] ∧
      h.answer (.listDir ⟨"//db/."⟩) = h.answer (.listDir ⟨"/db"⟩) ∧
      ∀ s : CheckSettings,
        (Checklist.runOne (s.withDatabase ⟨"//db/."⟩) h.host .databasePath).SameButPath
          ⟨"//db/."⟩ ⟨"/db"⟩
          (Checklist.runOne (s.withDatabase ⟨"/db"⟩) h.host .databasePath) := by
  intro calls h
  have hpq : Path.components ⟨"//db/."⟩ = Path.components ⟨"/db"⟩ := by decide
  have hdir : h.answer (.isDir ⟨"//db/."⟩) = .ok true := by rfl
  have hlist : h.answer (.listDir ⟨"//db/."⟩) = .ok [⟨"/./db/a.dbf"⟩] := by rfl
  obtain ⟨-, -, hlists, -, hresults⟩ := spelling_does_not_matter.2 calls ⟨"//db/."⟩ ⟨"/db"⟩ hpq
  exact ⟨hlist, hlists hdir, hresults⟩

end Readiness
