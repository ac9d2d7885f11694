import Readiness.Proofs.Numerals
import Readiness.Report.Human

/-!
The lines of the report for people in the theme without styles. The words of the report are
printable, so a control character in one of its lines comes from the message or the details of a
result.
-/

namespace Readiness

/-- The control characters below the blank, the escape and the line feed among them. -/
def Text.IsControl (c : Char) : Prop := c.toNat < 0x20

/-- A text that holds none of the control characters. -/
def Text.Visible (s : String) : Prop := ∀ c ∈ s.toList, ¬ IsControl c

namespace Text

variable {s t : String} {c : Char}

instance : Decidable (IsControl c) := inferInstanceAs (Decidable (c.toNat < 0x20))

/-- The characters are gone through one by one, since a quantifier over characters could also be
decided by going through all that there are. -/
theorem visible_ofList {cs : List Char} (h : cs.all (fun c => decide (¬ IsControl c)) = true) :
    Visible (String.ofList cs) := by
  rw [Visible, String.toList_ofList]
  exact fun c hc => of_decide_eq_true (List.all_eq_true.mp h c hc)

theorem Visible.append (hs : Visible s) (ht : Visible t) : Visible (s ++ t) := by
  rw [Visible, String.toList_append, List.forall_mem_append]
  exact ⟨hs, ht⟩

theorem visible_toString (n : Nat) : Visible (toString n) := by
  intro c hc
  rw [Nat.toString_eq_repr, Nat.toList_repr] at hc
  have hdigit := Nat.isDigit_of_mem_toDigits (by decide) (by decide) hc
  have hrange : 48 ≤ c.toNat ∧ c.toNat ≤ 57 := by
    simpa [Char.isDigit, UInt32.le_iff_toNat_le] using hdigit
  rw [IsControl]
  omega

/-- A visible text in front of another adds no control character. -/
theorem mem_append_iff_of_visible (hs : Visible s) (hc : IsControl c) :
    c ∈ (s ++ t).toList ↔ c ∈ t.toList := by
  rw [String.toList_append, List.mem_append, or_iff_right]
  exact fun hmem => hs c hmem hc

end Text

theorem Style.apply_default (text : String) : ({} : Style).apply text = text := if_pos rfl

namespace Report.Human

open Text (IsControl Visible visible_ofList visible_toString)

variable {c : Char}

/-- A place in the checklist as it stands in front of an entry. -/
def placeText (position : Nat) : String :=
  "[" ++ (if position < 10 then " " else "") ++ toString position ++ "]"

theorem counterText_plain (position : Nat) :
    Theme.plain.counterText position = placeText position :=
  Style.apply_default _

theorem messageStyle_plain (r : CheckResult) : messageStyle .plain r = {} := by
  rw [messageStyle]
  split
  · rfl
  · cases r.reportClass <;> rfl

theorem head_plain (v : Verdict) :
    head .plain v =
      ["◆ System Requirements Check", "", (summary v).headline, (summary v).detail, ""] := by
  have hstyle : (if v.canInstall then Theme.plain.success else Theme.plain.error) = {} := by
    split <;> rfl
  have htitle : Theme.plain.headerLine "System Requirements Check" =
      "◆ System Requirements Check" := by decide
  rw [head, hstyle, Style.apply_default, htitle]

theorem entry_plain (r : CheckResult) :
    entry .plain r = ("  " ++ placeText r.id.position ++ " " ++ r.message) ::
      if r.details.isEmpty then [] else ["       " ++ r.details] := by
  rw [entry, counterText_plain, messageStyle_plain, Style.apply_default]
  exact congrArg (fun text => _ :: if r.details.isEmpty then [] else ["       " ++ text])
    (Style.apply_default r.details)

/-- The words of the note, behind the number of failures. -/
def noteWords : String := " advisory issue(s) found; installation can still proceed."

theorem note_plain (v : Verdict) :
    note .plain v = if 0 < v.advisories then ["", toString v.advisories ++ noteWords] else [] := by
  rw [note]
  exact congrArg (fun text => if 0 < v.advisories then ["", text] else []) (Style.apply_default _)

theorem visible_placeText (position : Nat) : Visible (placeText position) := by
  refine ((Visible.append ?_ ?_).append (visible_toString position)).append ?_
  · exact visible_ofList (by decide)
  · split <;> exact visible_ofList (by decide)
  · exact visible_ofList (by decide)

theorem visible_summary (v : Verdict) :
    Visible (summary v).headline ∧ Visible (summary v).detail := by
  rw [summary]
  split
  · refine ⟨visible_ofList (by decide), ?_⟩
    refine (((visible_toString _).append ?_).append (visible_toString _)).append ?_ <;>
      exact visible_ofList (by decide)
  · exact ⟨visible_ofList (by decide), (visible_toString _).append (visible_ofList (by decide))⟩

theorem visible_head (v : Verdict) : ∀ line ∈ head .plain v, Visible line := by
  have hempty : Visible "" := visible_ofList (by decide)
  have htitle : Visible "◆ System Requirements Check" := visible_ofList (by decide)
  rw [head_plain]
  simp only [List.forall_mem_cons]
  exact ⟨htitle, hempty, (visible_summary v).1, (visible_summary v).2, hempty,
    List.forall_mem_nil _⟩

theorem visible_note (v : Verdict) : ∀ line ∈ note .plain v, Visible line := by
  have hwords : Visible noteWords := visible_ofList (by decide)
  rw [note_plain]
  split
  · simp only [List.forall_mem_cons]
    exact ⟨visible_ofList (by decide), (visible_toString _).append hwords, List.forall_mem_nil _⟩
  · exact List.forall_mem_nil _

theorem control_mem_entry_iff (hc : IsControl c) (r : CheckResult) :
    (∃ line ∈ entry .plain r, c ∈ line.toList) ↔ c ∈ r.message.toList ∨ c ∈ r.details.toList := by
  have hfront : Visible ("  " ++ placeText r.id.position ++ " ") :=
    ((visible_ofList (by decide)).append (visible_placeText _)).append (visible_ofList (by decide))
  have hindent : Visible "       " := visible_ofList (by decide)
  rw [entry_plain, List.exists_mem_cons_iff, Text.mem_append_iff_of_visible hfront hc]
  refine or_congr_right ?_
  split
  next hdetails =>
      rw [String.isEmpty_iff.mp hdetails]
      simp
  next => simp only [List.mem_singleton, exists_eq_left, Text.mem_append_iff_of_visible hindent hc]

/-- A control character in a report is one of a message or of details. -/
theorem control_mem_lines_iff (hc : IsControl c) (results : List CheckResult) (v : Verdict) :
    (∃ line ∈ lines .plain results v, c ∈ line.toList) ↔
      ∃ r ∈ results, c ∈ r.message.toList ∨ c ∈ r.details.toList := by
  have hhead : ¬ ∃ line ∈ head .plain v, c ∈ line.toList := by
    rintro ⟨line, hline, hmem⟩
    exact visible_head v line hline c hmem hc
  have hnote : ¬ ∃ line ∈ note .plain v, c ∈ line.toList := by
    rintro ⟨line, hline, hmem⟩
    exact visible_note v line hline c hmem hc
  have hentries : (∃ line ∈ results.flatMap (entry .plain), c ∈ line.toList) ↔
      ∃ r ∈ results, c ∈ r.message.toList ∨ c ∈ r.details.toList := by
    simp only [List.mem_flatMap, ← control_mem_entry_iff hc]
    grind
  rw [lines]
  simp only [List.mem_append, or_and_right, exists_or]
  rw [or_iff_left hnote, or_iff_right hhead, hentries]

end Report.Human
end Readiness
