import Mathlib.Data.List.TakeWhile
import Readiness.Proofs.ProbeFailure

/-!
What the directory of a database is taken for. The check goes by the number of entries that have
the name of a table and are not known for directories, and by nothing else of the listing: neither
the order of the entries nor the names of the others show in its result.
-/

namespace Readiness

namespace Path

theorem extensionOf?_of_not_mem {name : List Char} (h : '.' ∉ name) : extensionOf? name = none := by
  have hdrop : name.reverse.dropWhile (· ≠ '.') = [] := by
    refine List.dropWhile_eq_nil_iff.mpr fun c hc => ?_
    simpa using ne_of_mem_of_not_mem (List.mem_reverse.mp hc) h
  rw [extensionOf?, hdrop]

theorem extensionOf?_append {stem ext : List Char} (h : '.' ∉ ext) :
    extensionOf? (stem ++ '.' :: ext) = if stem = [] then none else some ext := by
  have hall : ∀ c ∈ ext.reverse, decide (c ≠ '.') = true := fun c hc => by
    simpa using ne_of_mem_of_not_mem (List.mem_reverse.mp hc) h
  have hreverse : (stem ++ '.' :: ext).reverse = ext.reverse ++ '.' :: stem.reverse := by simp
  have hdrop : (stem ++ '.' :: ext).reverse.dropWhile (· ≠ '.') = '.' :: stem.reverse := by
    rw [hreverse, List.dropWhile_append_of_pos hall]
    rfl
  have htake : (stem ++ '.' :: ext).reverse.takeWhile (· ≠ '.') = ext.reverse := by
    rw [hreverse, List.takeWhile_append_of_pos hall]
    simp
  rw [extensionOf?, hdrop, htake, List.reverse_reverse]
  cases hstem : stem.reverse with
  | nil => rw [if_pos (List.reverse_eq_nil_iff.mp hstem)]
  | cons c rest =>
      have hne : stem ≠ [] := by
        rintro rfl
        cases hstem
      rw [if_neg hne]

/-- An extension is what follows the last dot of a name, where that dot does not begin it. -/
theorem extensionOf?_eq_some_iff {name ext : List Char} :
    extensionOf? name = some ext ↔ ∃ stem, stem ≠ [] ∧ name = stem ++ '.' :: ext ∧ '.' ∉ ext := by
  constructor
  · intro h
    by_cases hdot : '.' ∈ name.reverse
    · obtain ⟨behind, before, hname, hbehind⟩ := List.eq_append_cons_of_mem hdot
      obtain rfl : name = before.reverse ++ '.' :: behind.reverse := by
        simpa using congrArg List.reverse hname
      rw [extensionOf?_append (by simpa using hbehind)] at h
      split at h
      · cases h
      · rename_i hbefore
        obtain rfl := Option.some.inj h
        exact ⟨before.reverse, hbefore, rfl, by simpa using hbehind⟩
    · rw [extensionOf?_of_not_mem (by simpa using hdot)] at h
      cases h
  · rintro ⟨stem, hstem, rfl, hext⟩
    rw [extensionOf?_append hext, if_neg hstem]

/-- The last component of a path is the name of a table: it is no step up, its last dot does not
begin it, and the letters of the extension follow that dot, in either case. -/
def NamesTable (p : Path) : Prop :=
  ∃ stem ext, p.components.getLast? = some (.name (stem ++ '.' :: ext)) ∧ stem ≠ [] ∧
    '.' ∉ ext ∧ ext.map Char.toLower = ['d', 'b', 'f']

theorem fileName?_eq_some_iff {p : Path} {name : List Char} :
    p.fileName? = some name ↔ p.components.getLast? = some (.name name) := by
  simp only [fileName?]
  split
  · rename_i other h
    rw [h, Option.some.injEq, Option.some.injEq, Component.name.injEq]
  · rename_i h
    refine iff_of_false (by simp) fun hname => h name hname

theorem isDataFile_iff (p : Path) : p.isDataFile = true ↔ p.NamesTable := by
  have hletters (ext : List Char) : Text.eqIgnoringCase (String.ofList ext) "dbf" = true ↔
      ext.map Char.toLower = ['d', 'b', 'f'] := by
    rw [Text.eqIgnoringCase, beq_iff_eq, String.toList_ofList]
    rfl
  simp only [isDataFile, extension?, Option.any_eq_true, Option.bind_eq_some_iff, hletters,
    fileName?_eq_some_iff, extensionOf?_eq_some_iff, NamesTable]
  constructor
  · rintro ⟨ext, ⟨name, hlast, stem, hstem, rfl, hext⟩, hdbf⟩
    exact ⟨stem, ext, hlast, hstem, hext, hdbf⟩
  · rintro ⟨stem, ext, hlast, hstem, hext, hdbf⟩
    exact ⟨ext, ⟨_, hlast, stem, hstem, rfl, hext⟩, hdbf⟩

instance : DecidablePred NamesTable := fun p => decidable_of_iff _ p.isDataFile_iff

example :
    NamesTable ⟨"old.index.DbF/"⟩ ∧ NamesTable ⟨"..dbf/."⟩ ∧ ¬ NamesTable ⟨"/data/.dbf"⟩ ∧
      ¬ NamesTable ⟨"customers.dbf/.."⟩ := by decide

end Path

section Counting

variable (answers : Answers)

/-- An entry that counts: it has the name of a table and is not known for a directory. -/
def CountsAsTable (entry : Path) : Prop :=
  entry.NamesTable ∧ answers (.isDir entry) ≠ .ok true

instance : DecidablePred (CountsAsTable answers) := fun entry =>
  have : Decidable (answers (.isDir entry) = .ok true) :=
    match answers (.isDir entry) with
    | .ok true => isTrue rfl
    | .ok false => isFalse (by simp)
    | .error _ => isFalse (by simp)
  instDecidableAnd

/-- A table that is asked about is counted unless the host knows it for a directory. -/
theorem run_countDataFiles_cons {entry : Path} (htable : entry.NamesTable) (rest : List Path)
    (host : Host) :
    (countDataFiles (entry :: rest)).run host =
      match host (.isDir entry) with
      | .answer true => (countDataFiles rest).run host
      | .panic text => .panicked text
      | _ =>
          match (countDataFiles rest).run host with
          | .finished n => .finished (n + 1)
          | .panicked text => .panicked text := by
  have hcounted : (countDataFiles rest >>= fun n => pure (n + 1)).run host =
      match (countDataFiles rest).run host with
      | .finished n => .finished (n + 1)
      | .panicked text => .panicked text := by
    rw [Probe.run_bind]
    cases (countDataFiles rest).run host <;> rfl
  rw [countDataFiles, if_pos ((Path.isDataFile_iff entry).mpr htable)]
  refine (Probe.run_query_bind host (.isDir entry) _).trans ?_
  cases host (.isDir entry) with
  | answer found =>
      cases found with
      | true => rfl
      | false => exact hcounted
  | error e => exact hcounted
  | panic text => rfl

theorem run_countDataFiles (entries : List Path) :
    (countDataFiles entries).run (.ofAnswers answers) =
      .finished (entries.countP (CountsAsTable answers ·)) := by
  induction entries with
  | nil => rfl
  | cons entry rest ih =>
      rw [List.countP_cons]
      by_cases htable : entry.NamesTable
      · rw [run_countDataFiles_cons htable, ih]
        simp only [CountsAsTable, htable, true_and, Host.ofAnswers]
        cases answers (.isDir entry) with
        | ok found => cases found <;> simp [Reply.ofExcept]
        | error e => simp [Reply.ofExcept]
      · rw [countDataFiles, if_neg (mt (Path.isDataFile_iff entry).mp htable), ih]
        simp [CountsAsTable, htable]

/-- The order of a listing does not matter to the count, nor does anything but which entries are
directories. -/
theorem countP_countsAsTable {answers' : Answers} {entries entries' : List Path}
    (hsame : ∀ entry, answers' (.isDir entry) = answers (.isDir entry))
    (hperm : entries'.Perm entries) :
    entries'.countP (CountsAsTable answers' ·) = entries.countP (CountsAsTable answers ·) := by
  have hcounts (entry : Path) : CountsAsTable answers' entry ↔ CountsAsTable answers entry := by
    rw [CountsAsTable, CountsAsTable, hsame entry]
  simp only [hcounts]
  exact hperm.countP_eq _

end Counting

/-- What the check says of a directory with this many tables in it. -/
def toldOfTables : Nat → Status × String
  | 0 => (.warn, "⚠ Database path exists but no DBF files found")
  | n + 1 => (.pass, "✓ Database path valid: " ++ toString (n + 1) ++ " DBF files found")

namespace Check

theorem dataFilesResult_told (dir : Path) (n : Nat) :
    ((dataFilesResult dir n).status, (dataFilesResult dir n).message) = toldOfTables n := by
  cases n with
  | zero => rfl
  | succ n => rfl

end Check

namespace Checklist

theorem runOne_databasePath_listed {s : CheckSettings} {answers : Answers} {dir : Path}
    {entries : List Path} (hdir : s.databasePath = some dir ∧ dir.text ≠ "")
    (hfound : answers (.isDir dir) = .ok true) (hlisted : answers (.listDir dir) = .ok entries) :
    runOne s (.ofAnswers answers) .databasePath =
      Check.dataFilesResult dir (entries.countP (CountsAsTable answers ·)) := by
  have hfound' : Host.ofAnswers answers (.isDir dir) = .answer true :=
    congrArg Reply.ofExcept hfound
  have hlisted' : Host.ofAnswers answers (.listDir dir) = .answer entries :=
    congrArg Reply.ofExcept hlisted
  have hrun : (Check.run s .databasePath).run (.ofAnswers answers) = _ :=
    Check.run_databasePath hdir
  rw [runOne, hrun, hfound']
  dsimp only
  rw [Check.run_databaseListing, hlisted']
  dsimp only
  rw [run_countDataFiles, resultOf_finished]

theorem runOne_databasePath_absent {s : CheckSettings} {answers : Answers} {dir : Path}
    (hdir : s.databasePath = some dir ∧ dir.text ≠ "")
    (hmissing : answers (.isDir dir) = .ok false) :
    runOne s (.ofAnswers answers) .databasePath =
      .fail .databasePath "Database path does not exist"
        ("Path: " ++ dir.text ++ " - Directory will be created if needed") := by
  have hmissing' : Host.ofAnswers answers (.isDir dir) = .answer false :=
    congrArg Reply.ofExcept hmissing
  have hrun : (Check.run s .databasePath).run (.ofAnswers answers) = _ :=
    Check.run_databasePath hdir
  rw [runOne, hrun, hmissing', resultOf_finished]

theorem runOne_databasePath_unlisted {s : CheckSettings} {answers : Answers} {dir : Path}
    {e : ProbeError} (hdir : s.databasePath = some dir ∧ dir.text ≠ "")
    (hfound : answers (.isDir dir) = .ok true) (hlisted : answers (.listDir dir) = .error e) :
    runOne s (.ofAnswers answers) .databasePath = .probeFailed .databasePath s e.message := by
  have hfound' : Host.ofAnswers answers (.isDir dir) = .answer true :=
    congrArg Reply.ofExcept hfound
  have hlisted' : Host.ofAnswers answers (.listDir dir) = .error e :=
    congrArg Reply.ofExcept hlisted
  have hrun : (Check.run s .databasePath).run (.ofAnswers answers) = _ :=
    Check.run_databasePath hdir
  rw [runOne, hrun, hfound']
  dsimp only
  rw [Check.run_databaseListing, hlisted', resultOf_finished]

/-- How the directory of the database is judged on a host without panics. Where none is named the
host is not asked. A directory that is not there is an advisory failure. Of one with a listing
status and message tell the number of tables and nothing else, so that a listing in another order
has the same result. -/
theorem databasePath_tells_tables (s : CheckSettings) (answers : Answers) :
    let host := Host.ofAnswers answers
    let r := runOne s host .databasePath
    (s.databasePath = none ∨ s.databasePath = some ⟨""⟩ →
      r.status = .warn ∧ (Check.run s .databasePath).asked host = []) ∧
    ∀ dir, s.databasePath = some dir → dir.text ≠ "" →
      (answers (.isDir dir) = .ok false → r.status = .fail ∧ r.reportClass = .advisory) ∧
      ∀ entries, answers (.isDir dir) = .ok true → answers (.listDir dir) = .ok entries →
        (r.status, r.message) = toldOfTables (entries.countP (CountsAsTable answers ·)) ∧
        ∀ answers' : Answers, ∀ entries' : List Path,
          (∀ q, q ≠ .listDir dir → answers' q = answers q) →
            answers' (.listDir dir) = .ok entries' → entries'.Perm entries →
              runOne s (.ofAnswers answers') .databasePath = r := by
  intro host r
  have hunset (h : s.databasePath = none ∨ s.databasePath = some ⟨""⟩) :
      ¬ ∃ dir, s.databasePath = some dir ∧ dir.text ≠ "" := by
    rintro ⟨dir, hdir, hne⟩
    obtain h | h := h
    · cases h.symm.trans hdir
    · cases h.symm.trans hdir
      exact hne rfl
  refine ⟨fun h => ?_, fun dir hdir hne => ⟨fun hmissing => ?_, ?_⟩⟩
  · have hrun : Check.run s .databasePath = pure _ := Check.databasePath_of_unset (hunset h)
    simp only [r, runOne, hrun]
    exact ⟨rfl, rfl⟩
  · have hreply : host (.isDir dir) = .answer false := congrArg Reply.ofExcept hmissing
    have hrun : (Check.run s .databasePath).run host = _ := Check.run_databasePath ⟨hdir, hne⟩
    simp only [r, runOne, hrun, hreply]
    exact ⟨rfl, rfl⟩
  · intro entries hfound hlisted
    have hr : r = Check.dataFilesResult dir (entries.countP (CountsAsTable answers ·)) :=
      runOne_databasePath_listed ⟨hdir, hne⟩ hfound hlisted
    refine ⟨by rw [hr, Check.dataFilesResult_told], ?_⟩
    intro answers' entries' hsame hlisted' hperm
    have hfound' : answers' (.isDir dir) = .ok true := (hsame _ (by simp)).trans hfound
    rw [runOne_databasePath_listed ⟨hdir, hne⟩ hfound' hlisted', hr,
      countP_countsAsTable answers (fun entry => hsame (.isDir entry) (by simp)) hperm]

end Checklist
end Readiness
