import Mathlib.Data.List.TakeWhile
import Readiness.Text.Blank

/-!
Texts cut at blanks and at line feeds. A row is cut into the fields that it was written with,
whatever blanks stand between them, and a text into its lines, whether or not a line feed ends the
last of them.
-/

namespace Readiness.Text

section Runs

variable {p : Char → Bool} {run : List Char}

/-- A run is cut off in front of what cannot go on with it. -/
theorem takeWhile_run (hrun : ∀ c ∈ run, p c = true) (rest : List Char)
    (hrest : rest.head?.all (!p ·) = true) :
    (run ++ rest).takeWhile p = run ∧ (run ++ rest).dropWhile p = rest := by
  rw [List.takeWhile_append_of_pos hrun, List.dropWhile_append_of_pos hrun]
  cases rest with
  | nil => exact ⟨List.append_nil run, rfl⟩
  | cons c rest =>
      have hc : p c = false := by simpa using hrest
      rw [List.takeWhile_cons, List.dropWhile_cons, hc]
      exact ⟨List.append_nil run, rfl⟩

/-- What neither begins with a blank nor ends with one is not trimmed. -/
theorem trimBlanks_eq_self {cs : List Char} (hfirst : cs.head?.all (!isBlank ·) = true)
    (hlast : cs.getLast?.all (!isBlank ·) = true) : trimBlanks cs = cs := by
  have hkeep {ds : List Char} (h : ds.head?.all (!isBlank ·) = true) : ds.dropWhile isBlank = ds :=
    (takeWhile_run (List.forall_mem_nil _) ds h).2
  rw [List.getLast?_eq_head?_reverse] at hlast
  rw [trimBlanks, hkeep hfirst, hkeep hlast, List.reverse_reverse]

end Runs

section Words

variable {c : Char} {cs gap : List Char}

theorem words_eq_splitOnP (cs : List Char) :
    words cs = (cs.splitOnP isBlank).filter (!·.isEmpty) := by
  induction cs with
  | nil => rfl
  | cons c rest ih =>
      rw [words.eq_def, List.splitOnP_cons_eq_if_modifyHead]
      dsimp only
      split
      · exact ih
      · cases rest with
        | nil => rfl
        | cons d rest =>
            dsimp only
            rw [ih, List.splitOnP_cons_eq_if_modifyHead]
            split
            · rfl
            · -- The next character is of the same word.
              obtain ⟨word, pieces, hpieces⟩ :=
                List.exists_cons_of_ne_nil (List.splitOnP_ne_nil isBlank rest)
              rw [hpieces]
              rfl

theorem words_append_blank (hc : isBlank c = true) (cs ds : List Char) :
    words (cs ++ c :: ds) = words cs ++ words ds := by
  rw [words_eq_splitOnP, List.splitOnP_append_cons cs ds hc, List.filter_append,
    ← words_eq_splitOnP, ← words_eq_splitOnP]

theorem words_blanks_append (hgap : ∀ c ∈ gap, isBlank c = true) (cs : List Char) :
    words (gap ++ cs) = words cs := by
  induction gap with
  | nil => rfl
  | cons c gap ih =>
      obtain ⟨hc, hgap⟩ := List.forall_mem_cons.mp hgap
      exact (words_append_blank hc [] _).trans (ih hgap)

theorem words_eq_singleton (hne : cs ≠ []) (hcs : ∀ c ∈ cs, isBlank c = false) :
    words cs = [cs] := by
  rw [words_eq_splitOnP, List.splitOnP_eq_singleton hcs]
  cases cs with
  | nil => exact absurd rfl hne
  | cons c cs => rfl

end Words

section Fields

/-- Characters of which none is blank. -/
abbrev Solid := { cs : List Char // ∀ c ∈ cs, isBlank c = false }

/-- A field of a row: at least one character, and none that is blank. -/
structure Word where
  chars : List Char
  ne_nil : chars ≠ []
  solid : ∀ c ∈ chars, isBlank c = false

/-- Two parts of a field with a character between them. -/
def Word.joined (before : Solid) (c : Char) (hc : isBlank c = false) (after : Solid) : Word where
  chars := before.val ++ c :: after.val
  ne_nil := by simp
  solid := List.forall_mem_append.mpr ⟨before.2, List.forall_mem_cons.mpr ⟨hc, after.2⟩⟩

/-- A blank that ends no line. -/
abbrev Blank := { c : Char // isBlank c = true ∧ c ≠ '\n' }

/-- The blanks of a row: any number in front of it and behind it, and at least one between two
fields. -/
structure Spacing where
  indent : List Blank
  between : Nat → Blank × List Blank
  ending : List Blank

/-- A text that is on one line. -/
abbrev Line := { cs : List Char // '\n' ∉ cs }

def blanks (bs : List Blank) : List Char := bs.map Subtype.val

/-- The fields that follow in a row, each behind its blanks. -/
def spread (between : Nat → Blank × List Blank) : List Word → List Char
  | [] => []
  | field :: fields =>
    (between 0).1.val :: (blanks (between 0).2 ++
      (field.chars ++ spread (fun i => between (i + 1)) fields))

/-- A row with these fields. -/
def Spacing.row (s : Spacing) : List Word → List Char
  | [] => blanks s.indent
  | field :: fields =>
    blanks s.indent ++ (field.chars ++ (spread s.between fields ++ blanks s.ending))

theorem isBlank_of_mem_blanks {bs : List Blank} : ∀ c ∈ blanks bs, isBlank c = true := by
  intro c hc
  obtain ⟨blank, -, rfl⟩ := List.mem_map.mp hc
  exact blank.2.1

theorem newline_not_mem_blanks (bs : List Blank) : '\n' ∉ blanks bs := by
  intro h
  obtain ⟨blank, -, heq⟩ := List.mem_map.mp h
  exact blank.2.2 heq

theorem Word.newline_not_mem (field : Word) : '\n' ∉ field.chars := fun h =>
  Bool.false_ne_true ((field.solid _ h).symm.trans (by decide))

theorem newline_not_mem_spread (between : Nat → Blank × List Blank) (fields : List Word) :
    '\n' ∉ spread between fields := by
  induction fields generalizing between with
  | nil => exact List.not_mem_nil
  | cons field fields ih =>
      simp only [spread, List.mem_cons, List.mem_append, not_or]
      exact ⟨(between 0).1.2.2.symm, newline_not_mem_blanks _, field.newline_not_mem, ih _⟩

theorem Spacing.newline_not_mem_row (s : Spacing) (fields : List Word) : '\n' ∉ s.row fields := by
  cases fields with
  | nil => exact newline_not_mem_blanks _
  | cons field fields =>
      simp only [Spacing.row, List.mem_append, not_or]
      exact ⟨newline_not_mem_blanks _, field.newline_not_mem, newline_not_mem_spread _ _,
        newline_not_mem_blanks _⟩

theorem words_blanks (bs : List Blank) : words (blanks bs) = [] := by
  have hwords : words (blanks bs ++ []) = words [] := words_blanks_append isBlank_of_mem_blanks []
  rwa [List.append_nil] at hwords

theorem words_spread (between : Nat → Blank × List Blank) (field : Word) (fields : List Word)
    (ending : List Blank) :
    words (field.chars ++ (spread between fields ++ blanks ending)) =
      field.chars :: fields.map Word.chars := by
  induction fields generalizing between field with
  | nil =>
      rw [spread, List.nil_append, List.map_nil]
      cases ending with
      | nil =>
          rw [blanks, List.map_nil, List.append_nil, words_eq_singleton field.ne_nil field.solid]
      | cons blank ending =>
          rw [blanks, List.map_cons, words_append_blank blank.2.1, ← blanks, words_blanks,
            words_eq_singleton field.ne_nil field.solid, List.append_nil]
  | cons next fields ih =>
      rw [spread, List.cons_append, words_append_blank (between 0).1.2.1,
        words_eq_singleton field.ne_nil field.solid, List.append_assoc, List.append_assoc,
        words_blanks_append isBlank_of_mem_blanks, ih]
      rfl

/-- A row is cut into its fields. -/
theorem Spacing.words_row (s : Spacing) (fields : List Word) :
    words (s.row fields) = fields.map Word.chars := by
  cases fields with
  | nil => exact words_blanks _
  | cons field fields =>
      rw [Spacing.row, words_blanks_append isBlank_of_mem_blanks, words_spread, List.map_cons]

end Fields

section Lines

theorem splitAt_eq_splitOn (sep : Char) (cs : List Char) : splitAt sep cs = cs.splitOn sep := by
  rw [List.splitOn_eq_splitOnP]
  induction cs with
  | nil => rfl
  | cons c cs ih =>
      rw [splitAt, ih, List.splitOnP_cons_eq_if_modifyHead]
      obtain ⟨piece, pieces, hpieces⟩ :=
        List.exists_cons_of_ne_nil (List.splitOnP_ne_nil (· == sep) cs)
      rw [hpieces]
      simp only [beq_iff_eq, List.modifyHead_cons]

theorem splitAt_ne_nil (sep : Char) (cs : List Char) : splitAt sep cs ≠ [] := by
  rw [splitAt_eq_splitOn, List.splitOn_eq_splitOnP]
  exact List.splitOnP_ne_nil _ cs

theorem splitAt_append (sep : Char) (front back : List Char) :
    splitAt sep (front ++ sep :: back) = splitAt sep front ++ splitAt sep back := by
  simp only [splitAt_eq_splitOn, List.splitOn_eq_splitOnP]
  exact List.splitOnP_append_cons front back (beq_self_eq_true sep)

theorem splitAt_of_not_mem {sep : Char} {piece : List Char} (h : sep ∉ piece) :
    splitAt sep piece = [piece] := by
  rw [splitAt_eq_splitOn, List.splitOn_eq_splitOnP]
  exact List.splitOnP_eq_singleton fun c hc => beq_false_of_ne fun heq => h (heq ▸ hc)

theorem lines_append {line : List Char} (h : '\n' ∉ line) (rest : List Char) :
    lines (line ++ '\n' :: rest) = line :: lines rest := by
  rw [lines, splitAt_append, splitAt_of_not_mem h]
  rfl

/-- Lines as a text, with a line feed between any two, and one behind the last if it is closed. -/
def ofLines (ls : List Line) (closed : Bool) : String :=
  String.ofList (['\n'].intercalate (ls.map Subtype.val) ++ if closed then ['\n'] else [])

theorem lines_intercalate (ls : List Line) :
    ∃ n, lines (['\n'].intercalate (ls.map Subtype.val)) =
      ls.map Subtype.val ++ List.replicate n [] := by
  rw [lines, splitAt_eq_splitOn]
  by_cases hne : ls = []
  · exact ⟨1, by rw [hne]; rfl⟩
  · refine ⟨0, ?_⟩
    rw [List.splitOn_intercalate '\n' ?_ (mt List.map_eq_nil_iff.mp hne), List.replicate_zero,
      List.append_nil]
    intro cs hcs
    obtain ⟨line, -, rfl⟩ := List.mem_map.mp hcs
    exact line.2

/-- A text is cut into the lines it was written with, and empty ones at most behind them. -/
theorem lines_ofLines (ls : List Line) (closed : Bool) :
    ∃ n, lines (ofLines ls closed).toList = ls.map Subtype.val ++ List.replicate n [] := by
  obtain ⟨n, hlines⟩ := lines_intercalate ls
  rw [ofLines, String.toList_ofList]
  cases closed with
  | false => exact ⟨n, by rw [if_neg Bool.false_ne_true, List.append_nil, hlines]⟩
  | true =>
      refine ⟨n + 1, ?_⟩
      rw [if_pos rfl, lines, splitAt_append, ← lines, hlines, List.replicate_succ',
        List.append_assoc]
      rfl

/-- Empty lines behind others have no property that the empty line lacks. -/
theorem exists_mem_append_empty {P : List Char → Prop} (hP : ¬ P []) (ls : List Line) (n : Nat) :
    (∃ cs ∈ ls.map Subtype.val ++ List.replicate n [], P cs) ↔ ∃ line ∈ ls, P line.val := by
  constructor
  · rintro ⟨cs, hcs, hPcs⟩
    rcases List.mem_append.mp hcs with hcs | hcs
    · obtain ⟨line, hline, rfl⟩ := List.mem_map.mp hcs
      exact ⟨line, hline, hPcs⟩
    · exact absurd (List.eq_of_mem_replicate hcs ▸ hPcs) hP
  · rintro ⟨line, hline, hPline⟩
    exact ⟨line.val, List.mem_append_left _ (List.mem_map_of_mem hline), hPline⟩

end Lines

end Readiness.Text
