import Mathlib.Data.List.Induction
import Mathlib.Logic.Relation
import Readiness.Path
import Readiness.Proofs.Rows

/-!
The components of a path, from the last separator of its text backwards. Two texts spell the same
components exactly if one becomes the other by writing separators and dot pieces once more or once
less: repeated separators, inner dot pieces and what of both stands at the end count for nothing,
while a leading dot, a step up and the root stay.
-/

namespace Readiness.Path

/-- The path that is written so. -/
def ofChars (cs : List Char) : Path := ⟨String.ofList cs⟩

/-- The components that characters behind a separator stand for. -/
def steps (cs : List Char) : List Component := (Text.splitAt '/' cs).filterMap Component.ofPiece?

@[simp] theorem toList_ofChars (cs : List Char) : (ofChars cs).text.toList = cs :=
  String.toList_ofList

theorem ofChars_toList (p : Path) : ofChars p.text.toList = p := by
  rw [ofChars, String.ofList_toList]

/-- A text is one piece, or a text with one more piece behind a separator. -/
@[elab_as_elim]
theorem pieces_induction {P : List Char → Prop} (single : ∀ piece, '/' ∉ piece → P piece)
    (more : ∀ front piece, '/' ∉ piece → P front → P (front ++ '/' :: piece)) (cs : List Char) :
    P cs := by
  have hbehind : ∀ piece, '/' ∉ piece → P (cs ++ piece) := by
    -- From the end on, characters are collected to a piece up to the separator in front of it.
    induction cs using List.reverseRecOn with
    | nil => exact single
    | append_singleton front c ih =>
        intro piece hpiece
        rw [List.append_assoc, List.singleton_append]
        by_cases hc : c = '/'
        · subst hc
          refine more front piece hpiece ?_
          simpa using ih [] List.not_mem_nil
        · exact ih (c :: piece) (by simp [Ne.symm hc, hpiece])
  simpa using hbehind [] List.not_mem_nil

section Components

variable {front back piece : List Char}

theorem steps_append (front back : List Char) :
    steps (front ++ '/' :: back) = steps front ++ steps back := by
  rw [steps, Text.splitAt_append, List.filterMap_append]
  rfl

theorem steps_of_not_mem (h : '/' ∉ piece) :
    steps piece = (Component.ofPiece? piece).toList := by
  rw [steps, Text.splitAt_of_not_mem h]
  cases hpiece : Component.ofPiece? piece <;> simp [hpiece]

theorem steps_separator (back : List Char) : steps ('/' :: back) = steps back :=
  steps_append [] back

theorem steps_dot (back : List Char) : steps ('.' :: '/' :: back) = steps back :=
  steps_append ['.'] back

theorem components_separator (back : List Char) :
    (ofChars ('/' :: back)).components = .root :: steps back := by
  rw [components, toList_ofChars]
  rfl

/-- The components that the first piece of a relative path stands for. -/
def ofFirst (piece : List Char) : List Component :=
  if piece = ['.'] then [.here] else (Component.ofPiece? piece).toList

theorem components_relative {pieces : List (List Char)} (h : front.head? ≠ some '/')
    (hpieces : Text.splitAt '/' front = piece :: pieces) :
    (ofChars front).components = ofFirst piece ++ pieces.filterMap Component.ofPiece? := by
  rw [components, toList_ofChars]
  split
  · exact absurd rfl h
  · rw [hpieces, ofFirst]
    split
    next heq =>
        obtain ⟨rfl, rfl⟩ := List.cons.inj heq
        rfl
    next hne =>
        have hpiece : piece ≠ ['.'] := fun heq => hne pieces (by rw [heq])
        rw [if_neg hpiece]
        cases hfirst : Component.ofPiece? piece <;> simp [hfirst]

theorem components_of_not_mem (h : '/' ∉ piece) : (ofChars piece).components = ofFirst piece := by
  have hhead : piece.head? ≠ some '/' := fun heq => h (List.mem_of_head? heq)
  rw [components_relative hhead (Text.splitAt_of_not_mem h), List.filterMap_nil, List.append_nil]

/-- What stands behind a separator adds its steps. -/
theorem components_append (front back : List Char) :
    (ofChars (front ++ '/' :: back)).components =
      (if front = [] then [.root] else (ofChars front).components) ++ steps back := by
  by_cases hfront : front = []
  · rw [if_pos hfront, hfront]
    exact components_separator back
  · rw [if_neg hfront]
    obtain ⟨c, front, rfl⟩ := List.exists_cons_of_ne_nil hfront
    by_cases hc : c = '/'
    · subst hc
      rw [List.cons_append, components_separator, components_separator, steps_append]
      rfl
    · have hhead (rest : List Char) : (c :: rest).head? ≠ some '/' :=
        fun heq => hc (Option.some.inj heq)
      obtain ⟨piece, pieces, hpieces⟩ :=
        List.exists_cons_of_ne_nil (Text.splitAt_ne_nil '/' (c :: front))
      have hwhole : Text.splitAt '/' (c :: (front ++ '/' :: back)) =
          piece :: (pieces ++ Text.splitAt '/' back) := by
        rw [← List.cons_append, Text.splitAt_append, hpieces, List.cons_append]
      rw [List.cons_append, components_relative (hhead _) hwhole,
        components_relative (hhead front) hpieces, List.filterMap_append, List.append_assoc]
      rfl

/-- How a component is written. -/
def Component.chars : Component → List Char
  | root => ['/']
  | here => ['.']
  | up => ['.', '.']
  | name text => text

/-- A piece stands for no step if it is empty or a dot, and for the one that it spells otherwise. -/
theorem ofPiece?_cases (piece : List Char) :
    (piece = [] ∨ piece = ['.']) ∧ Component.ofPiece? piece = none ∨
      isStep piece = true ∧
        ∃ c, c ≠ .root ∧ c.chars = piece ∧ Component.ofPiece? piece = some c := by
  fun_cases Component.ofPiece? piece with
  | case1 => exact Or.inl ⟨Or.inl rfl, rfl⟩
  | case2 => exact Or.inl ⟨Or.inr rfl, rfl⟩
  | case3 => exact Or.inr ⟨rfl, .up, by simp, rfl, rfl⟩
  | case4 =>
      rename_i hempty hdot _
      exact Or.inr ⟨decide_eq_true ⟨hempty, hdot⟩, .name piece, by simp, rfl, rfl⟩

theorem steps_cases (h : '/' ∉ piece) :
    (piece = [] ∨ piece = ['.']) ∧ steps piece = [] ∨
      isStep piece = true ∧ ∃ c, c ≠ .root ∧ c.chars = piece ∧ steps piece = [c] := by
  rw [steps_of_not_mem h]
  obtain ⟨hidle, hnone⟩ | ⟨hstep, c, hc, hchars, hsome⟩ := ofPiece?_cases piece
  · exact Or.inl ⟨hidle, by rw [hnone]; rfl⟩
  · exact Or.inr ⟨hstep, c, hc, hchars, by rw [hsome]; rfl⟩

/-- At the beginning of a relative path a dot is a component, too. -/
theorem ofFirst_cases (piece : List Char) :
    piece = [] ∧ ofFirst piece = [] ∨
      piece ≠ [] ∧ ∃ c, c ≠ .root ∧ c.chars = piece ∧ ofFirst piece = [c] := by
  rw [ofFirst]
  by_cases hdot : piece = ['.']
  · rw [if_pos hdot, hdot]
    exact Or.inr ⟨List.cons_ne_nil _ _, .here, by simp, rfl, rfl⟩
  · rw [if_neg hdot]
    obtain ⟨hidle, hnone⟩ | ⟨-, c, hc, hchars, hsome⟩ := ofPiece?_cases piece
    · exact Or.inl ⟨hidle.resolve_right hdot, by rw [hnone]; rfl⟩
    · refine Or.inr ⟨?_, c, hc, hchars, by rw [hsome]; rfl⟩
      rintro rfl
      cases hsome

theorem components_eq_nil_iff {cs : List Char} : (ofChars cs).components = [] ↔ cs = [] := by
  induction cs using pieces_induction with
  | single piece hpiece =>
      rw [components_of_not_mem hpiece]
      obtain ⟨rfl, hfirst⟩ | ⟨hne, c, -, -, hfirst⟩ := ofFirst_cases piece
      · exact iff_of_true hfirst rfl
      · exact iff_of_false (by rw [hfirst]; exact List.cons_ne_nil _ _) hne
  | more front piece hpiece ih =>
      rw [components_append]
      by_cases hfront : front = []
      · simp [hfront]
      · simp [hfront, ih]

end Components

section Spellings

/-- One spelling of a path, and another that leaves out a separator or a dot piece. -/
inductive Respelling : Path → Path → Prop
  | separator (front back : List Char) :
      Respelling (ofChars (front ++ '/' :: '/' :: back)) (ofChars (front ++ '/' :: back))
  | dot (front back : List Char) :
      Respelling (ofChars (front ++ '/' :: '.' :: '/' :: back)) (ofChars (front ++ '/' :: back))
  | lastDot (front : List Char) :
      Respelling (ofChars (front ++ ['/', '.'])) (ofChars (front ++ ['/']))
  | lastSeparator (front : List Char) (h : front ≠ []) :
      Respelling (ofChars (front ++ ['/'])) (ofChars front)

theorem Respelling.components_eq {p q : Path} (h : Respelling p q) :
    p.components = q.components := by
  cases h with
  | separator front back => rw [components_append, components_append, steps_separator]
  | dot front back => rw [components_append, components_append, steps_dot]
  | lastDot front => rw [components_append, components_append]; rfl
  | lastSeparator front hne => rw [components_append, if_neg hne]; exact List.append_nil _

/-- The spellings that come to be of each other. -/
abbrev Respelled : Path → Path → Prop := Relation.EqvGen Respelling

theorem Respelled.components_eq {p q : Path} (h : Respelled p q) :
    p.components = q.components := by
  induction h with
  | rel p q h => exact h.components_eq
  | refl p => rfl
  | symm p q _ ih => exact ih.symm
  | trans p q r _ _ ihp ihq => exact ihp.trans ihq

/-- Spellings of one path are so, too, in front of one more piece. -/
theorem Respelled.append {p q : Path} (h : Respelled p q) (piece : List Char) :
    Respelled (ofChars (p.text.toList ++ '/' :: piece))
      (ofChars (q.text.toList ++ '/' :: piece)) := by
  induction h with
  | rel p q h =>
      cases h with
      | separator front back =>
          simpa using .rel _ _ (Respelling.separator front (back ++ '/' :: piece))
      | dot front back =>
          simpa using .rel _ _ (Respelling.dot front (back ++ '/' :: piece))
      | lastDot front =>
          have hdot := Relation.EqvGen.rel _ _ (Respelling.dot front piece)
          have hseparator := Relation.EqvGen.rel _ _ (Respelling.separator front piece)
          simpa using hdot.trans _ _ _ (hseparator.symm _ _)
      | lastSeparator front hne => simpa using .rel _ _ (Respelling.separator front piece)
  | refl p => exact .refl _
  | symm p q _ ih => exact ih.symm _ _
  | trans p q r _ _ ihp ihq => exact ihp.trans _ _ _ ihq

/-- Characters with a component written behind them. -/
def written (cs : List Char) (c : Component) : List Char :=
  if cs = [] then c.chars else if cs = ['/'] then '/' :: c.chars else cs ++ '/' :: c.chars

/-- The spelling of components that writes nothing else. -/
def plain (components : List Component) : List Char := components.foldl written []

theorem plain_concat (components : List Component) (c : Component) :
    plain (components ++ [c]) = written (plain components) c := by
  rw [plain, List.foldl_append]
  rfl

theorem respelled_written {cs : List Char} (hne : cs ≠ []) (c : Component) :
    Respelled (ofChars (cs ++ '/' :: c.chars)) (ofChars (written cs c)) := by
  rw [written, if_neg hne]
  split
  next hroot =>
      rw [hroot]
      exact .rel _ _ (.separator [] c.chars)
  next => exact .refl _

/-- Every path is spelled so plainly, too. -/
theorem respelled_plain (cs : List Char) :
    Respelled (ofChars cs) (ofChars (plain (ofChars cs).components)) := by
  induction cs using pieces_induction with
  | single piece hpiece =>
      rw [components_of_not_mem hpiece]
      obtain ⟨rfl, hfirst⟩ | ⟨-, c, -, rfl, hfirst⟩ := ofFirst_cases piece <;> rw [hfirst]
      · exact .refl _
      · exact .refl _
  | more front piece hpiece ih =>
      rw [components_append]
      by_cases hfront : front = []
      · rw [if_pos hfront, hfront]
        obtain ⟨rfl | rfl, hsteps⟩ | ⟨-, c, -, rfl, hsteps⟩ := steps_cases hpiece <;> rw [hsteps]
        · exact .refl _
        · exact .rel _ _ (.lastDot [])
        · exact .refl _
      · rw [if_neg hfront]
        -- In front of the piece there is something left to be written.
        have hne : plain (ofChars front).components ≠ [] := fun heq =>
          hfront (components_eq_nil_iff.mp
            (ih.components_eq.trans (components_eq_nil_iff.mpr heq)))
        have hbehind := ih.append piece
        simp only [toList_ofChars] at hbehind
        refine hbehind.trans _ _ _ ?_
        have hlast : Respelled (ofChars (plain (ofChars front).components ++ ['/']))
            (ofChars (plain (ofChars front).components)) := .rel _ _ (.lastSeparator _ hne)
        obtain ⟨rfl | rfl, hsteps⟩ | ⟨-, c, -, rfl, hsteps⟩ := steps_cases hpiece <;> rw [hsteps]
        · rwa [List.append_nil]
        · rw [List.append_nil]
          exact .trans _ _ _ (.rel _ _ (.lastDot _)) hlast
        · rw [plain_concat]
          exact respelled_written hne c

/-- Two paths have the same components if and only if they are spellings of each other. -/
theorem components_eq_iff {p q : Path} : p.components = q.components ↔ Respelled p q := by
  refine ⟨fun h => ?_, Respelled.components_eq⟩
  have hp := respelled_plain p.text.toList
  have hq := respelled_plain q.text.toList
  rw [ofChars_toList] at hp hq
  rw [h] at hp
  exact hp.trans _ _ _ (hq.symm _ _)

example : (⟨"./a//b/./../"⟩ : Path).components = [.here, .name ['a'], .name ['b'], .up] := by decide

end Spellings

end Readiness.Path
