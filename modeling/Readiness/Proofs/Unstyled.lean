import Mathlib.Data.List.Forall2
import Readiness.Proofs.PlainReport
import Readiness.Proofs.Rows

/-!
Colour is presentation. Text in a style is that text between sequences that set the style, and
taking all such sequences out of a report leaves the report without styles, whatever the theme, if
the results bring no escape of their own.
-/

namespace Readiness

namespace Style

/-- The character that a sequence begins with. -/
def escape : Char := '\x1b'

/-- The characters of the numbers in a sequence and between them. -/
def isParameter (c : Char) : Bool := c.isDigit || c == ';'

/-- The text behind the sequence that stands in front, if one does. -/
def behindSequence? (cs : List Char) : Option (List Char) :=
  ([escape, '['].isPrefixOf? cs).bind fun rest => ['m'].isPrefixOf? (rest.dropWhile isParameter)

theorem length_behindSequence? {cs behind : List Char} (h : behindSequence? cs = some behind) :
    behind.length < cs.length := by
  obtain ⟨rest, hrest, hbehind⟩ := Option.bind_eq_some_iff.mp h
  have hdropped : (rest.dropWhile isParameter).length ≤ rest.length :=
    (List.dropWhile_sublist _).length_le
  rw [List.isPrefixOf?_eq_some_iff_append_eq] at hrest hbehind
  rw [← hbehind, List.length_append, List.length_singleton] at hdropped
  rw [← hrest, List.length_append]
  omega

/-- A text without the sequences that set styles. -/
def unstyled : List Char → List Char
  | [] => []
  | c :: rest =>
    match _ : behindSequence? (c :: rest) with
    | some behind => unstyled behind
    | none => c :: unstyled rest
termination_by cs => cs.length
decreasing_by
  · exact length_behindSequence? ‹_›
  · exact Nat.lt_succ_self _

theorem unstyled_of_behind {cs behind : List Char} (h : behindSequence? cs = some behind) :
    unstyled cs = unstyled behind := by
  cases cs with
  | nil => cases h
  | cons c rest =>
      rw [unstyled]
      split
      · rename_i found hfound
        rw [Option.some.inj (h.symm.trans hfound)]
      · rename_i hnone
        cases h.symm.trans hnone

theorem unstyled_cons {c : Char} (h : c ≠ escape) (rest : List Char) :
    unstyled (c :: rest) = c :: unstyled rest := by
  have hnone : behindSequence? (c :: rest) = none := by
    have hhead : (escape == c) = false := beq_false_of_ne h.symm
    simp only [behindSequence?, List.isPrefixOf?, hhead]
    rfl
  rw [unstyled]
  split
  · rename_i found hfound
    cases hnone.symm.trans hfound
  · rfl

/-- A text becomes another without its styles, whatever stands behind it. -/
def Unstyles (written plain : List Char) : Prop :=
  ∀ rest, unstyled (written ++ rest) = plain ++ unstyled rest

variable {written plain written' plain' cs : List Char} {text : String}

theorem unstyles_nil : Unstyles [] [] := fun _ => rfl

theorem Unstyles.append (h : Unstyles written plain) (h' : Unstyles written' plain') :
    Unstyles (written ++ written') (plain ++ plain') := by
  intro rest
  rw [List.append_assoc, h, h', List.append_assoc]

theorem Unstyles.unstyled_eq (h : Unstyles written plain) : unstyled written = plain := by
  have hall := h []
  rwa [List.append_nil, unstyled, List.append_nil] at hall

theorem unstyles_self (h : escape ∉ cs) : Unstyles cs cs := by
  intro rest
  induction cs with
  | nil => rfl
  | cons c cs ih =>
      obtain ⟨hc, hcs⟩ := not_or.mp (mt List.mem_cons.mpr h)
      rw [List.cons_append, unstyled_cons (Ne.symm hc), ih hcs, List.cons_append]

theorem unstyles_sequence {parameters : String} (h : parameters.toList.all isParameter = true) :
    Unstyles (sequence parameters).toList [] := by
  intro rest
  have hopen : "\x1b[".toList = [escape, '['] := rfl
  have hclose : "m".toList = ['m'] := rfl
  refine unstyled_of_behind ?_
  rw [sequence, String.toList_append, String.toList_append, hopen, hclose, List.append_assoc,
    List.append_assoc, behindSequence?, List.isPrefixOf?_eq_some_iff_append_eq.mpr rfl,
    Option.bind_some, (Text.takeWhile_run (List.all_eq_true.mp h) (['m'] ++ rest) rfl).2]
  exact List.isPrefixOf?_eq_some_iff_append_eq.mpr rfl

theorem isParameter_colorParameters (color : Color) :
    (colorParameters color).toList.all isParameter = true := by
  cases color with
  | red => decide
  | green => decide
  | magenta => decide
  | indexed n =>
      have hprefix : "38;5;".toList.all isParameter = true := rfl
      have hdigits : (toString n).toList = Nat.toDigits 10 n.toNat := Nat.toList_repr
      rw [colorParameters, String.toList_append, List.all_append, hprefix, Bool.true_and, hdigits,
        List.all_eq_true]
      intro c hc
      rw [isParameter, Nat.isDigit_of_mem_toDigits (by decide) (by decide) hc, Bool.true_or]

theorem unstyles_join {parts : List String} (h : ∀ part ∈ parts, Unstyles part.toList []) :
    Unstyles (String.join parts).toList [] := by
  rw [String.toList_join]
  induction parts with
  | nil => exact unstyles_nil
  | cons part parts ih =>
      obtain ⟨hpart, hparts⟩ := List.forall_mem_cons.mp h
      exact hpart.append (ih hparts)

theorem unstyles_opening (s : Style) : Unstyles s.opening.toList [] := by
  refine unstyles_join fun part hpart => ?_
  rw [List.mem_append, List.mem_append, List.mem_map] at hpart
  obtain (⟨color, -, rfl⟩ | hbold) | hdim := hpart
  · exact unstyles_sequence (isParameter_colorParameters color)
  · obtain rfl : part = sequence "1" := by
      split at hbold
      · exact List.mem_singleton.mp hbold
      · cases hbold
    exact unstyles_sequence (by decide)
  · obtain rfl : part = sequence "2" := by
      split at hdim
      · exact List.mem_singleton.mp hdim
      · cases hdim
    exact unstyles_sequence (by decide)

/-- The text of a styled text. -/
theorem unstyles_apply (s : Style) (h : escape ∉ text.toList) :
    Unstyles (s.apply text).toList text.toList := by
  rw [apply]
  split
  · exact unstyles_self h
  · rw [String.toList_append, String.toList_append]
    have hreset : Unstyles (sequence "0").toList [] := unstyles_sequence (by decide)
    simpa using ((unstyles_opening s).append (unstyles_self h)).append hreset

/-- Lines that become others without their styles, each one by itself. -/
def LinesUnstyle : List String → List String → Prop :=
  List.Forall₂ fun written plain => Unstyles written.toList plain.toList

variable {a a' b b' : String}

theorem unstyles_visible (h : Text.Visible a) : Unstyles a.toList a.toList :=
  unstyles_self fun hmem => h escape hmem (by decide)

theorem unstyles_append (ha : Unstyles a.toList a'.toList) (hb : Unstyles b.toList b'.toList) :
    Unstyles (a ++ b).toList (a' ++ b').toList := by
  rw [String.toList_append, String.toList_append]
  exact ha.append hb

theorem LinesUnstyle.unstyles_join {written plain : List String} (h : LinesUnstyle written plain) :
    Unstyles (String.join (written.map (· ++ "\n"))).toList
      (String.join (plain.map (· ++ "\n"))).toList := by
  rw [String.toList_join, String.toList_join]
  induction h with
  | nil => exact unstyles_nil
  | cons hline _ ih =>
      exact (unstyles_append hline (unstyles_self (by decide))).append ih

end Style

namespace Report.Human

open Style (escape unstyled Unstyles LinesUnstyle unstyles_apply unstyles_append unstyles_visible)
open Text (visible_ofList visible_toString)

/-- None of the results brings an escape into a report. -/
def NoEscape (results : List CheckResult) : Prop :=
  ∀ r ∈ results, escape ∉ r.message.toList ∧ escape ∉ r.details.toList

variable (theme : Theme) (v : Verdict)

theorem linesUnstyle_head : LinesUnstyle (head theme v) (head .plain v) := by
  have hmark : Text.Visible "◆" := visible_ofList (by decide)
  have htitle : Text.Visible "System Requirements Check" := visible_ofList (by decide)
  have hheader : Unstyles (theme.headerLine "System Requirements Check").toList
      ("◆" ++ " " ++ "System Requirements Check").toList :=
    unstyles_append
      (unstyles_append (unstyles_apply _ fun hmem => hmark _ hmem (by decide))
        (unstyles_visible (visible_ofList (by decide))))
      (unstyles_apply _ fun hmem => htitle _ hmem (by decide))
  have hempty : Unstyles "".toList "".toList := Style.unstyles_nil
  obtain ⟨hheadline, hdetail⟩ := visible_summary v
  rw [head_plain]
  exact .cons hheader (.cons hempty (.cons
    (unstyles_apply _ fun hmem => hheadline _ hmem (by decide))
    (.cons (unstyles_visible hdetail) (.cons hempty .nil))))

theorem linesUnstyle_entry {r : CheckResult} (hmessage : escape ∉ r.message.toList)
    (hdetails : escape ∉ r.details.toList) :
    LinesUnstyle (entry theme r) (entry .plain r) := by
  have hplace : Unstyles (theme.counterText r.id.position).toList
      (placeText r.id.position).toList :=
    unstyles_apply _ fun hmem => visible_placeText _ _ hmem (by decide)
  have hmargin : Unstyles "  ".toList "  ".toList := Style.unstyles_self (by decide)
  have hgap : Unstyles " ".toList " ".toList := Style.unstyles_self (by decide)
  have hindent : Unstyles "       ".toList "       ".toList := Style.unstyles_self (by decide)
  rw [entry_plain, entry]
  refine .cons ?_ ?_
  · exact unstyles_append (unstyles_append (unstyles_append hmargin hplace) hgap)
      (unstyles_apply _ hmessage)
  · split
    · exact .nil
    · exact .cons (unstyles_append hindent (unstyles_apply _ hdetails)) .nil

theorem linesUnstyle_note : LinesUnstyle (note theme v) (note .plain v) := by
  have hwords : Text.Visible (toString v.advisories ++ noteWords) :=
    (visible_toString _).append (visible_ofList (by decide))
  rw [note_plain, note]
  split
  · exact .cons Style.unstyles_nil
      (.cons (unstyles_apply _ fun hmem => hwords _ hmem (by decide)) .nil)
  · exact .nil

theorem linesUnstyle_lines {results : List CheckResult} (h : NoEscape results) :
    LinesUnstyle (lines theme results v) (lines .plain results v) := by
  have hentries :
      LinesUnstyle (results.flatMap (entry theme)) (results.flatMap (entry .plain)) := by
    induction results with
    | nil => exact .nil
    | cons r results ih =>
        obtain ⟨⟨hmessage, hdetails⟩, hrest⟩ := List.forall_mem_cons.mp h
        exact List.rel_append (linesUnstyle_entry theme hmessage hdetails) (ih hrest)
  exact List.rel_append (List.rel_append (linesUnstyle_head theme v) hentries)
    (linesUnstyle_note theme v)

/-- In any theme the text of a report is that of the report without styles. -/
theorem unstyled_text {results : List CheckResult} (h : NoEscape results) :
    unstyled (text theme results v).toList = (text .plain results v).toList :=
  (linesUnstyle_lines theme v h).unstyles_join.unstyled_eq

theorem mem_text_iff {c : Char} (hc : c ≠ '\n') (results : List CheckResult) :
    c ∈ (text theme results v).toList ↔ ∃ line ∈ lines theme results v, c ∈ line.toList := by
  have hbreak : c ∉ "\n".toList := by simpa using hc
  simp only [text, String.toList_join, List.mem_flatMap, List.mem_map, String.toList_append,
    exists_exists_and_eq_and, List.mem_append, hbreak, or_false]

theorem escape_not_mem_plain_iff (results : List CheckResult) :
    escape ∉ (text .plain results v).toList ↔ NoEscape results := by
  rw [mem_text_iff .plain v (by decide), control_mem_lines_iff (by decide), NoEscape]
  simp only [not_exists, not_and, not_or]

/-- Colour is presentation only: a report in colour has styles, and without them it is the report
without colour, if no result brings an escape. That is exactly if the latter holds none. -/
theorem colored_differs_in_styles (results : List CheckResult) (v : Verdict) :
    let plain := (text (.ofColor false) results v).toList
    let colored := (text (.ofColor true) results v).toList
    (escape ∉ plain ↔ NoEscape results) ∧ escape ∈ colored ∧
      (NoEscape results → unstyled colored = plain) := by
  refine ⟨escape_not_mem_plain_iff v results, ?_, unstyled_text .colored v⟩
  have htitle : escape ∈ (Theme.colored.headerLine "System Requirements Check").toList := by decide
  exact (mem_text_iff .colored v (by decide) results).mpr ⟨_, List.mem_cons_self, htitle⟩

/-- A caveat with details, an empty text and a failure that the note counts. -/
theorem colored_differs_in_styles_of_three :
    let results := [CheckResult.warn .firewall "Firewall is off" "It [m]ay be on later;",
      ⟨.port, .fail, true, "", ""⟩, .fail .databasePath "missing" "[0m"]
    let v := Verdict.ofResults results
    NoEscape results ∧ escape ∉ (text (.ofColor false) results v).toList ∧
      unstyled (text (.ofColor true) results v).toList =
        (text (.ofColor false) results v).toList := by
  intro results v
  have h : NoEscape results := by
    rw [NoEscape]
    decide
  obtain ⟨hplain, -, hcolored⟩ := colored_differs_in_styles results v
  exact ⟨h, hplain.mpr h, hcolored h⟩

end Report.Human
end Readiness
