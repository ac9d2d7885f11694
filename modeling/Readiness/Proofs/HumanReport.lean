import Readiness.Proofs.Decision
import Readiness.Report.Human
import Readiness.Terminal.Recording

/-!
What the report for people says of the installation in its own lines, those of the entries left
out. Its head says that the installation can proceed exactly if the verdict allows it; its closing
note says so of every list with an advisory result, also where another result blocks.
-/

namespace Readiness

namespace Recording

theorem contains_iff {needle cs : List Char} : contains needle cs = true ↔ needle <:+: cs := by
  induction cs with
  | nil => simp only [contains, List.isEmpty_iff, List.infix_nil]
  | cons c cs ih =>
      simp only [contains, Bool.or_eq_true, List.isPrefixOf_iff_prefix, ih, List.infix_cons_iff]

end Recording

/-- A phrase that cannot begin in the first part of a text stands in the rest. -/
theorem infix_append_iff_of_not_mem {c : Char} {phrase before after : List Char}
    (h : c ∉ before) : c :: phrase <:+: before ++ after ↔ c :: phrase <:+: after := by
  induction before with
  | nil => rfl
  | cons b before ih =>
      rw [List.mem_cons, not_or] at h
      rw [List.cons_append, List.infix_cons_iff, ih h.2, or_iff_right]
      intro hprefix
      exact h.1 (List.cons_prefix_cons.mp hprefix).1

namespace Report.Human

/-- The words with which a line says that the installation can proceed. -/
def goAheads : List String :=
  ["You can proceed with the installation.", "installation can still proceed."]

def GoesAhead (line : String) : Prop :=
  ∃ phrase ∈ goAheads, Recording.contains phrase.toList line.toList = true

instance (line : String) : Decidable (GoesAhead line) :=
  inferInstanceAs (Decidable (∃ phrase ∈ goAheads, _))

theorem GoesAhead.append {text : String} (h : GoesAhead text) (before after : String) :
    GoesAhead (before ++ text ++ after) := by
  obtain ⟨phrase, hphrase, h⟩ := h
  refine ⟨phrase, hphrase, ?_⟩
  rw [Recording.contains_iff, String.toList_append, String.toList_append]
  exact (Recording.contains_iff.mp h).trans (List.infix_append _ _ _)

theorem GoesAhead.apply {text : String} (h : GoesAhead text) (s : Style) :
    GoesAhead (s.apply text) := by
  rw [Style.apply]
  split
  · exact h
  · exact h.append _ _

theorem head_of_mem_goAheads {phrase : String} (h : phrase ∈ goAheads) :
    ∃ c rest, phrase.toList = c :: rest ∧ c.isDigit = false := by
  obtain rfl | h := List.mem_cons.mp h
  · exact ⟨'Y', _, rfl, by decide⟩
  · obtain rfl := List.mem_singleton.mp h
    exact ⟨'i', _, rfl, by decide⟩

/-- A count in front of a text says nothing of the installation. -/
theorem goesAhead_count_iff (n : Nat) (text : String) :
    GoesAhead (toString n ++ text) ↔ GoesAhead text := by
  refine exists_congr fun phrase => and_congr_right fun hphrase => ?_
  obtain ⟨c, rest, hchars, hc⟩ := head_of_mem_goAheads hphrase
  have hdigits : c ∉ Nat.toDigits 10 n := by
    intro hmem
    have hdigit := Nat.isDigit_of_mem_toDigits (by decide) (by decide) hmem
    rw [hc] at hdigit
    cases hdigit
  rw [Recording.contains_iff, Recording.contains_iff, String.toList_append, hchars]
  exact infix_append_iff_of_not_mem (by rwa [Nat.toString_eq_repr, Nat.toList_repr])

theorem goesAhead_detail_iff (v : Verdict) :
    GoesAhead (summary v).detail ↔ v.canInstall = true := by
  rw [summary]
  split
  next h =>
      have hcan : GoesAhead " checks passed. You can proceed with the installation." := by
        decide +kernel
      refine iff_of_true ?_ h
      simpa only [String.append_empty] using hcan.append _ ""
  next h =>
      refine iff_of_false (mt (goesAhead_count_iff _ _).mp ?_) h
      decide +kernel

/-- Of the lines in front of the entries it is the detail of the summary that counts. -/
theorem goesAhead_head_iff (useColor : Bool) (v : Verdict) :
    (∃ line ∈ head (.ofColor useColor) v, GoesAhead line) ↔ v.canInstall = true := by
  have htitle : ∀ useColor,
      ¬ GoesAhead ((Theme.ofColor useColor).headerLine "System Requirements Check") := by
    decide +kernel
  have hheadline : ∀ useColor canInstall : Bool,
      ¬ GoesAhead ((if canInstall then (Theme.ofColor useColor).success
        else (Theme.ofColor useColor).error).apply
          (if canInstall then "✓ Ready to Install" else "✗ Cannot Install")) := by
    decide +kernel
  have hempty : ¬ GoesAhead "" := by decide
  have heq : (summary v).headline =
      if v.canInstall then "✓ Ready to Install" else "✗ Cannot Install" := by
    rw [summary]
    split <;> rfl
  simp only [head, heq, List.mem_cons, List.not_mem_nil, or_false, exists_eq_or_imp,
    exists_eq_left, htitle, hheadline, hempty, goesAhead_detail_iff, false_or]

theorem goesAhead_note_iff (theme : Theme) (v : Verdict) :
    (∃ line ∈ note theme v, GoesAhead line) ↔ 0 < v.advisories := by
  rw [note]
  split
  next h =>
      have hnote : GoesAhead " advisory issue(s) found; installation can still proceed." := by
        decide +kernel
      have hline := (goesAhead_count_iff v.advisories _).mpr hnote
      refine iff_of_true ⟨_, List.mem_cons_of_mem _ List.mem_cons_self, hline.apply _⟩ h
  next h =>
      refine iff_of_false ?_ h
      rintro ⟨line, hline, -⟩
      cases hline

end Report.Human

theorem Verdict.advisories_pos_iff (results : List CheckResult) :
    0 < (Verdict.ofResults results).advisories ↔ ∃ r ∈ results, r.reportClass = .advisory := by
  simp only [ofResults, count, List.countP_pos_iff, beq_iff_eq]

namespace Report.Human

/-- Where a report says that the installation can proceed: in its head exactly if the verdict
allows it, and in its closing note exactly if a result is advisory. So it contradicts its verdict
exactly for results of which one is advisory and one blocks. -/
theorem goesAhead_iff (results : List CheckResult) (useColor : Bool) :
    let theme := Theme.ofColor useColor
    let v := Verdict.ofResults results
    ((∃ line ∈ head theme v, GoesAhead line) ↔ v.canInstall = true) ∧
    ((∃ line ∈ note theme v, GoesAhead line) ↔ ∃ r ∈ results, r.reportClass = .advisory) ∧
    ((∃ line ∈ head theme v ++ note theme v, GoesAhead line) ∧ v.canInstall = false ↔
      (∃ r ∈ results, r.reportClass = .advisory) ∧ ∃ r ∈ results, r.isBlocking = true) := by
  intro theme v
  have hhead := goesAhead_head_iff useColor v
  have hnote := (goesAhead_note_iff theme v).trans (Verdict.advisories_pos_iff results)
  have hblocked : v.canInstall = false ↔ ∃ r ∈ results, r.isBlocking = true := by
    rw [← Bool.not_eq_true, Verdict.canInstall_iff]
    simp only [Classical.not_forall, Bool.not_eq_false, exists_prop]
  refine ⟨hhead, hnote, ?_⟩
  rw [← hblocked]
  constructor
  · rintro ⟨⟨line, hline, hahead⟩, hcannot⟩
    obtain hline | hline := List.mem_append.mp hline
    · rw [hhead.mp ⟨line, hline, hahead⟩] at hcannot
      cases hcannot
    · exact ⟨hnote.mp ⟨line, hline, hahead⟩, hcannot⟩
  · rintro ⟨hadvisory, hcannot⟩
    obtain ⟨line, hline, hahead⟩ := hnote.mpr hadvisory
    exact ⟨⟨line, List.mem_append_right _ hline, hahead⟩, hcannot⟩

/-- A report whose verdict is against the installation can say that it can proceed. -/
theorem goesAhead_of_blocked :
    let results := [CheckResult.fail .port "busy" "", .fail .databasePath "missing" ""]
    let v := Verdict.ofResults results
    ¬ ((∃ line ∈ head .plain v ++ note .plain v, GoesAhead line) → v.canInstall = true) := by
  decide +kernel

end Report.Human
end Readiness
