import Mathlib.Data.List.Basic
import Readiness.Proofs.PlainReport
import Readiness.Proofs.Rows

/-!
The entries of a report read back from its lines. Behind the head a line with a place in brackets
opens an entry, and a line that is indented as far as the messages are holds its details. No line of
the one kind is of the other, whatever the texts begin with, so that every result is found in its
place and the note is left.
-/

namespace Readiness.Report.Human

/-- What a report shows of a result. -/
structure Entry where
  position : Nat
  message : String
  details : String
  deriving DecidableEq, Repr

def Entry.ofResult (r : CheckResult) : Entry := ⟨r.id.position, r.message, r.details⟩

section Reading

/-- The lines of a text whose last line is ended as the others are. -/
def rows (text : String) : List String :=
  ((Text.lines text.toList).map String.ofList).dropLast

/-- The place and the message on a line that opens an entry. -/
def opening? (line : String) : Option (Nat × String) :=
  ("  [".toList.isPrefixOf? line.toList).bind fun behind =>
    ("] ".toList.isPrefixOf? (behind.drop 2)).bind fun message =>
      (Text.readNat? 10 ((behind.take 2).dropWhile (· == ' '))).map fun position =>
        (position, String.ofList message)

/-- The details on a line that is indented for them. -/
def details? (line : String) : Option String :=
  ("       ".toList.isPrefixOf? line.toList).map String.ofList

/-- The details that stand in front, if any do, and the lines behind them. -/
def splitDetails : List String → String × List String
  | [] => ("", [])
  | line :: rest => ((details? line).getD "", if (details? line).isSome then rest else line :: rest)

theorem length_splitDetails (rest : List String) :
    (splitDetails rest).2.length ≤ rest.length := by
  cases rest with
  | nil => exact Nat.le_refl _
  | cons line rest =>
      rw [splitDetails]
      dsimp only
      split
      · exact Nat.le_succ _
      · exact Nat.le_refl _

/-- The entries in front of the first line that opens none, and the lines from there on. -/
def readEntries : List String → List Entry × List String
  | [] => ([], [])
  | line :: rest =>
    match opening? line with
    | none => ([], line :: rest)
    | some (position, message) =>
      let behind := readEntries (splitDetails rest).2
      (⟨position, message, (splitDetails rest).1⟩ :: behind.1, behind.2)
termination_by rows => rows.length
decreasing_by exact Nat.lt_succ_of_le (length_splitDetails rest)

end Reading

section Lines

theorem rows_join {lines : List String} (h : ∀ line ∈ lines, '\n' ∉ line.toList) :
    rows (String.join (lines.map (· ++ "\n"))) = lines := by
  have hpieces : Text.lines (String.join (lines.map (· ++ "\n"))).toList =
      lines.map String.toList ++ [[]] := by
    rw [String.toList_join]
    induction lines with
    | nil => rfl
    | cons line lines ih =>
        obtain ⟨hline, hlines⟩ := List.forall_mem_cons.mp h
        have hbreak : (line ++ "\n").toList = line.toList ++ ['\n'] := String.toList_append
        rw [List.map_cons, List.flatMap_cons, hbreak, List.append_assoc, List.singleton_append,
          Text.lines_append hline, ih hlines]
        rfl
  rw [rows, hpieces, List.map_append, List.map_singleton, List.dropLast_concat, List.map_map]
  exact List.map_id'' (fun line => String.ofList_toList) lines

/-- Each message and each text of details is on one line. -/
def OnOneLine (results : List CheckResult) : Prop :=
  ∀ r ∈ results, '\n' ∉ r.message.toList ∧ '\n' ∉ r.details.toList

theorem rows_text {results : List CheckResult} (h : OnOneLine results) (v : Verdict) :
    rows (text .plain results v) = lines .plain results v := by
  refine rows_join fun line hline hbreak => ?_
  obtain ⟨r, hr, hmem⟩ := (control_mem_lines_iff (by decide) results v).mp ⟨line, hline, hbreak⟩
  exact hmem.elim (h r hr).1 (h r hr).2

end Lines

section Entries

variable {rest : List String}

/-- The characters of an entry's first line: its place is two characters wide. -/
theorem entry_chars (r : CheckResult) : ∃ tens ones,
    ("  " ++ placeText r.id.position ++ " " ++ r.message).toList =
        "  [".toList ++ (tens :: ones :: ("] ".toList ++ r.message.toList)) ∧
      Text.readNat? 10 ([tens, ones].dropWhile (· == ' ')) = some r.id.position := by
  have hplace (id : CheckId) : ∃ tens ones,
      (placeText id.position).toList = ['[', tens, ones, ']'] ∧
        Text.readNat? 10 ([tens, ones].dropWhile (· == ' ')) = some id.position := by
    cases id <;> exact ⟨_, _, rfl, by decide⟩
  obtain ⟨tens, ones, hchars, hread⟩ := hplace r.id
  exact ⟨tens, ones, by simp [hchars], hread⟩

theorem opening?_entry (r : CheckResult) :
    opening? ("  " ++ placeText r.id.position ++ " " ++ r.message) =
      some (r.id.position, r.message) := by
  obtain ⟨tens, ones, hchars, hread⟩ := entry_chars r
  have hmessage : "] ".toList.isPrefixOf? ("] ".toList ++ r.message.toList) =
      some r.message.toList := List.isPrefixOf?_eq_some_iff_append_eq.mpr rfl
  rw [opening?, List.isPrefixOf?_eq_some_iff_append_eq.mpr hchars.symm, Option.bind_some,
    List.drop_succ_cons, List.drop_succ_cons, List.drop_zero, hmessage, Option.bind_some,
    List.take_succ_cons, List.take_succ_cons, List.take_zero, hread, Option.map_some,
    String.ofList_toList]

theorem details?_entry (r : CheckResult) :
    details? ("  " ++ placeText r.id.position ++ " " ++ r.message) = none := by
  obtain ⟨tens, ones, hchars, -⟩ := entry_chars r
  rw [details?, hchars]
  rfl

theorem details?_indented (details : String) : details? ("       " ++ details) = some details := by
  rw [details?, String.toList_append, List.isPrefixOf?_eq_some_iff_append_eq.mpr rfl,
    Option.map_some, String.ofList_toList]

theorem splitDetails_of_none (h : ∀ line ∈ rest.head?, details? line = none) :
    splitDetails rest = ("", rest) := by
  cases rest with
  | nil => rfl
  | cons line rest =>
      rw [splitDetails, h line rfl]
      rfl

/-- The lines of a result are read as its entry, in front of what holds no details. -/
theorem readEntries_entry (r : CheckResult) (h : ∀ line ∈ rest.head?, details? line = none) :
    readEntries (entry .plain r ++ rest) =
      (Entry.ofResult r :: (readEntries rest).1, (readEntries rest).2) := by
  have hsplit :
      splitDetails ((if r.details.isEmpty then [] else ["       " ++ r.details]) ++ rest) =
        (r.details, rest) := by
    split
    next hempty =>
        rw [List.nil_append, splitDetails_of_none h, String.isEmpty_iff.mp hempty]
    next =>
        rw [List.singleton_append, splitDetails, details?_indented]
        rfl
  rw [entry_plain, List.cons_append, readEntries, opening?_entry]
  dsimp only
  rw [hsplit]
  rfl

theorem details?_head_entries (results : List CheckResult)
    (h : ∀ line ∈ rest.head?, details? line = none) :
    ∀ line ∈ (results.flatMap (entry .plain) ++ rest).head?, details? line = none := by
  cases results with
  | nil => exact h
  | cons r results =>
      rw [List.flatMap_cons, entry_plain]
      rintro line ⟨⟩
      exact details?_entry r

/-- The entries of results are read, one for each, up to lines that open none. -/
theorem readEntries_entries (results : List CheckResult)
    (h : ∀ line ∈ rest.head?, details? line = none) (hrest : readEntries rest = ([], rest)) :
    readEntries (results.flatMap (entry .plain) ++ rest) = (results.map Entry.ofResult, rest) := by
  induction results with
  | nil => exact hrest
  | cons r results ih =>
      rw [List.flatMap_cons, List.append_assoc,
        readEntries_entry r (details?_head_entries results h), ih, List.map_cons]

theorem readEntries_note (v : Verdict) : readEntries (note .plain v) = ([], note .plain v) := by
  have hempty : opening? "" = none := by decide
  rw [note_plain]
  split
  · rw [readEntries, hempty]
  · exact readEntries.eq_1

theorem details?_head_note (v : Verdict) :
    ∀ line ∈ (note .plain v).head?, details? line = none := by
  rw [note_plain]
  split
  · rintro line ⟨⟩
    decide
  · rintro line ⟨⟩

theorem readEntries_text {results : List CheckResult} (h : OnOneLine results) (v : Verdict) :
    readEntries ((rows (text .plain results v)).drop 5) =
      (results.map Entry.ofResult, note .plain v) := by
  rw [rows_text h, lines, List.append_assoc, head_plain]
  exact readEntries_entries results (details?_head_note v) (readEntries_note v)

end Entries

/-- A report is read back: behind five lines stand, in their order, the place, the message and the
details of every result, and then the note, exactly if a failure does not block. So results with
other entries have other reports. -/
theorem entries_read_back (results : List CheckResult) (v : Verdict) (h : OnOneLine results) :
    let report := text (.ofColor false) results v
    (rows report).take 5 = head .plain v ∧
      readEntries ((rows report).drop 5) =
        (results.map Entry.ofResult,
          if 0 < v.advisories then
            ["", toString v.advisories ++
              " advisory issue(s) found; installation can still proceed."]
          else []) ∧
      ∀ results' v', OnOneLine results' → text (.ofColor false) results' v' = report →
        results'.map Entry.ofResult = results.map Entry.ofResult := by
  refine ⟨?_, ?_, fun results' v' h' heq => ?_⟩
  · rw [Theme.ofColor, if_neg Bool.false_ne_true, rows_text h, lines, List.append_assoc, head_plain]
    rfl
  · exact (readEntries_text h v).trans (congrArg _ (note_plain v))
  · have hread := congrArg (fun report => (readEntries ((rows report).drop 5)).1) heq
    change (readEntries ((rows (text .plain results' v')).drop 5)).1 =
      (readEntries ((rows (text .plain results v)).drop 5)).1 at hread
    rwa [readEntries_text h', readEntries_text h] at hread

/-- A message that looks like a line of details, and details that look like an entry. -/
theorem entries_read_back_of_lookalikes :
    let results : List CheckResult :=
      [⟨.companionTool, .pass, false, "       [ 3] x", ""⟩,
        ⟨.databasePath, .fail, false, "", "  [ 1] y"⟩]
    let v := Verdict.ofResults results
    OnOneLine results ∧
      readEntries ((rows (text (.ofColor false) results v)).drop 5) =
        ([⟨10, "       [ 3] x", ""⟩, ⟨7, "", "  [ 1] y"⟩],
          ["", "1 advisory issue(s) found; installation can still proceed."]) := by
  intro results v
  have h : OnOneLine results := by
    rw [OnOneLine]
    decide
  exact ⟨h, (entries_read_back results v h).2.1.trans (by decide)⟩

end Readiness.Report.Human
