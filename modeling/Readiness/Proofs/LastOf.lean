import Mathlib.Data.List.Induction

/-!
The last of a list that has a property, with all that stands before it. A list that grows at its
end has a new last one exactly if what is added has the property.
-/

namespace Readiness

variable {α : Type} {P Q : α → Prop} {before l : List α} {a last : α}

/-- The last of a list with the property, after all of `before`. -/
def IsLast (P : α → Prop) (before : List α) (a : α) (l : List α) : Prop :=
  ∃ after, l = before ++ a :: after ∧ P a ∧ ∀ b ∈ after, ¬ P b

theorem not_isLast_nil : ¬ IsLast P before a [] := by
  rintro ⟨after, h, -⟩
  cases before <;> cases h

theorem isLast_concat_of_pos (h : P last) :
    IsLast P before a (l ++ [last]) ↔ before = l ∧ a = last := by
  constructor
  · rintro ⟨after, heq, -, hafter⟩
    induction after using List.reverseRecOn with
    | nil =>
        obtain ⟨rfl, hlast⟩ := List.append_inj' heq rfl
        exact ⟨rfl, (List.singleton_inj.mp hlast).symm⟩
    | append_singleton after top _ =>
        rw [← List.cons_append, ← List.append_assoc] at heq
        have htop : last = top := List.singleton_inj.mp (List.append_inj_right' heq rfl)
        exact (hafter top (by simp) (htop ▸ h)).elim
  · rintro ⟨rfl, rfl⟩
    exact ⟨[], rfl, h, List.forall_mem_nil _⟩

theorem isLast_concat_of_neg (h : ¬ P last) :
    IsLast P before a (l ++ [last]) ↔ IsLast P before a l := by
  constructor
  · rintro ⟨after, heq, ha, hafter⟩
    induction after using List.reverseRecOn with
    | nil =>
        have htop : last = a := List.singleton_inj.mp (List.append_inj_right' heq rfl)
        exact (h (htop ▸ ha)).elim
    | append_singleton after top _ =>
        rw [← List.cons_append, ← List.append_assoc] at heq
        rw [List.forall_mem_append] at hafter
        exact ⟨after, List.append_inj_left' heq rfl, ha, hafter.1⟩
  · rintro ⟨after, rfl, ha, hafter⟩
    refine ⟨after ++ [last], by simp, ha, ?_⟩
    rw [List.forall_mem_append, List.forall_mem_singleton]
    exact ⟨hafter, h⟩

theorem IsLast.congr (h : ∀ b ∈ l, P b ↔ Q b) : IsLast P before a l ↔ IsLast Q before a l := by
  refine exists_congr fun after => and_congr_right ?_
  rintro rfl
  rw [List.forall_mem_append, List.forall_mem_cons] at h
  refine and_congr h.2.1 (forall₂_congr fun b hb => ?_)
  rw [h.2.2 b hb]

end Readiness
