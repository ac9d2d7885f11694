import Readiness.Config.Sources
import Readiness.Proofs.Parents

/-!
The search for the root of a project. It is the first directory on the way upwards that is marked,
by a directory for configuration or by anything named `.git`.
-/

namespace Readiness.Config

variable {files : File.System} {start dir : Path}

/-- A directory is the root of a project: it holds a directory for configuration, or anything named
`.git`. -/
def MarksRoot (files : File.System) (dir : Path) : Prop :=
  files.kind (dir.join directory) = .ok .directory ∨
    ∃ kind, files.kind (dir.join ".git") = .ok kind

theorem marks_iff :
    (files.isDir (dir.join directory) || files.present (dir.join ".git")) = true ↔
      MarksRoot files dir := by
  rw [Bool.or_eq_true, MarksRoot, File.System.isDir, File.System.present]
  refine or_congr ?_ ?_
  · cases files.kind (dir.join directory) with
    | ok kind => cases kind <;> simp
    | error e => simp
  · cases files.kind (dir.join ".git") <;> simp

/-- The root is the first marked directory on the way upwards. -/
theorem findRoot_eq_some_iff :
    findRoot files start = some dir ↔
      ∃ below above, start.ancestors = below ++ dir :: above ∧ MarksRoot files dir ∧
        ∀ other ∈ below, ¬ MarksRoot files other := by
  rw [findRoot, List.find?_eq_some_iff_append]
  simp only [marks_iff, Bool.not_eq_true', ← Bool.not_eq_true]
  constructor
  · rintro ⟨hdir, below, above, heq, hbelow⟩
    exact ⟨below, above, heq, hdir, hbelow⟩
  · rintro ⟨below, above, heq, hdir, hbelow⟩
    exact ⟨hdir, below, above, heq, hbelow⟩

theorem findRoot_eq_none_iff :
    findRoot files start = none ↔ ∀ dir ∈ start.ancestors, ¬ MarksRoot files dir := by
  rw [findRoot, List.find?_eq_none]
  simp only [marks_iff]

/-- The search does not pass a marked directory. -/
theorem exists_findRoot_of_marksRoot {below above : List Path}
    (hdirs : start.ancestors = below ++ dir :: above) (h : MarksRoot files dir) :
    ∃ found ∈ below ++ [dir], findRoot files start = some found := by
  have hfound : ((below ++ [dir]).find? fun dir =>
      files.isDir (dir.join directory) || files.present (dir.join ".git")).isSome :=
    List.find?_isSome.mpr ⟨dir, List.mem_append_right _ List.mem_cons_self, marks_iff.mpr h⟩
  obtain ⟨found, hfound⟩ := Option.isSome_iff_exists.mp hfound
  refine ⟨found, List.mem_of_find?_eq_some hfound, ?_⟩
  rw [findRoot, hdirs, List.append_cons, List.find?_append, hfound]
  rfl

/-- There is one way upwards from where the search starts, no longer than the components are many,
and it ends at the root or at the empty path. The search finds the first directory on it that is
marked, and nothing exactly if none is. A file in place of the directory for configuration does
not stop it, and it goes no farther than to the first `.git`. -/
theorem findRoot_is_nearest (files : File.System) (start : Path) :
    ∃ dirs, (∀ other, start.Ascent other ↔ other = dirs) ∧
      dirs.length ≤ start.components.length + 1 ∧
      (∃ top, dirs.getLast? = some top ∧ (top.components = [] ∨ top.components = [.root])) ∧
      (∀ dir, findRoot files start = some dir ↔
        ∃ below above, dirs = below ++ dir :: above ∧ MarksRoot files dir ∧
          ∀ other ∈ below, ¬ MarksRoot files other) ∧
      (findRoot files start = none ↔ ∀ dir ∈ dirs, ¬ MarksRoot files dir) ∧
      (∀ dir, findRoot files start = some dir → files.kind (dir.join directory) = .ok .file →
        ∃ kind, files.kind (dir.join ".git") = .ok kind) ∧
      ∀ below dir above kind, dirs = below ++ dir :: above →
        files.kind (dir.join ".git") = .ok kind →
          ∃ found ∈ below ++ [dir], findRoot files start = some found := by
  have hway : start.Ascent start.ancestors := Path.ascent_iff.mpr rfl
  refine ⟨start.ancestors, fun other => Path.ascent_iff, hway.length_le, hway.ends,
    fun dir => findRoot_eq_some_iff, findRoot_eq_none_iff, ?_, ?_⟩
  · intro dir hfound hfile
    obtain ⟨-, -, -, hconfig | hgit, -⟩ := findRoot_eq_some_iff.mp hfound
    · cases hfile.symm.trans hconfig
    · exact hgit
  · intro below dir above kind hdirs hgit
    exact exists_findRoot_of_marksRoot hdirs (Or.inr ⟨kind, hgit⟩)

end Readiness.Config
