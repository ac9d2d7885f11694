import Mathlib.Data.List.Infix
import Readiness.Proofs.Components

/-!
The way upwards from a path. The parent of a path is the shortest beginning of its text with all
components but the last; the root and the empty path have none. So from every path there is one way
upwards, and it ends.
-/

namespace Readiness.Path

section Pieces

/-- Whether a text begins at the root, and its pieces, last first. -/
def piecesOf (cs : List Char) : Bool × List (List Char) :=
  if cs.head? = some '/' then (true, (Text.splitAt '/' cs.tail).reverse)
  else (false, (Text.splitAt '/' cs).reverse)

/-- The text of pieces that come last first. -/
def joined (rooted : Bool) (pieces : List (List Char)) : List Char :=
  (if rooted then ['/'] else []) ++ ['/'].intercalate pieces.reverse

variable {front piece : List Char}

theorem piecesOf_separator (rest : List Char) :
    piecesOf ('/' :: rest) = (true, (Text.splitAt '/' rest).reverse) := rfl

theorem piecesOf_relative (h : front.head? ≠ some '/') :
    piecesOf front = (false, (Text.splitAt '/' front).reverse) := if_neg h

theorem parent?_ofChars (cs : List Char) :
    (ofChars cs).parent? =
      (parentPieces? (!(piecesOf cs).1) (piecesOf cs).2).map fun pieces =>
        ofChars (joined (piecesOf cs).1 pieces) := by
  rw [parent?, toList_ofChars]
  split
  next rest =>
      rw [piecesOf_separator]
      simp only [joined, ofChars, ofPieces, if_true, String.ofList_append]
      rfl
  next _ hroot =>
      have hhead : cs.head? ≠ some '/' := fun h => by
        obtain ⟨rest, hrest⟩ := List.head?_eq_some_iff.mp h
        exact hroot rest hrest
      rw [piecesOf_relative hhead]
      simp only [joined, ofChars, ofPieces, Bool.false_eq_true, if_false, List.nil_append]
      rfl

theorem joined_piecesOf (cs : List Char) : joined (piecesOf cs).1 (piecesOf cs).2 = cs := by
  have hsplit (cs : List Char) : ['/'].intercalate (Text.splitAt '/' cs).reverse.reverse = cs := by
    rw [List.reverse_reverse, Text.splitAt_eq_splitOn, List.intercalate_splitOn]
  by_cases h : cs.head? = some '/'
  · obtain ⟨rest, rfl⟩ := List.head?_eq_some_iff.mp h
    rw [piecesOf_separator, joined, hsplit]
    rfl
  · rw [piecesOf_relative h, joined, hsplit]
    rfl

theorem piecesOf_ne_nil (cs : List Char) : (piecesOf cs).2 ≠ [] := by
  rw [piecesOf]
  split <;> simp [Text.splitAt_ne_nil]

theorem piecesOf_of_not_mem (h : '/' ∉ piece) : piecesOf piece = (false, [piece]) := by
  have hhead : piece.head? ≠ some '/' := fun heq => h (List.mem_of_head? heq)
  rw [piecesOf_relative hhead, Text.splitAt_of_not_mem h]
  rfl

theorem piecesOf_append (front : List Char) (h : '/' ∉ piece) :
    piecesOf (front ++ '/' :: piece) =
      if front = [] then (true, [piece])
      else ((piecesOf front).1, piece :: (piecesOf front).2) := by
  cases front with
  | nil =>
      rw [if_pos rfl, List.nil_append, piecesOf_separator, Text.splitAt_of_not_mem h]
      rfl
  | cons c front =>
      rw [if_neg (List.cons_ne_nil c front), List.cons_append]
      by_cases hc : c = '/'
      · subst hc
        rw [piecesOf_separator, piecesOf_separator, Text.splitAt_append,
          Text.splitAt_of_not_mem h, List.reverse_append]
        rfl
      · have hhead (rest : List Char) : (c :: rest).head? ≠ some '/' :=
          fun heq => hc (Option.some.inj heq)
        rw [piecesOf_relative (hhead _), piecesOf_relative (hhead front), ← List.cons_append,
          Text.splitAt_append, Text.splitAt_of_not_mem h, List.reverse_append]
        rfl

end Pieces

section Idle

variable {front piece : List Char}

theorem isStep_of_idle (h : piece = [] ∨ piece = ['.']) : isStep piece = false := by
  obtain rfl | rfl := h <;> rfl

theorem dropIdle_of_step (leadingDot : Bool) (h : isStep piece = true)
    (pieces : List (List Char)) : dropIdle leadingDot (piece :: pieces) = piece :: pieces := by
  cases pieces with
  | nil => rw [dropIdle, h, Bool.true_or, if_pos rfl]
  | cons next rest => rw [dropIdle, if_pos h]

theorem dropIdle_of_idle (leadingDot : Bool) (h : piece = [] ∨ piece = ['.'])
    {pieces : List (List Char)} (hne : pieces ≠ []) :
    dropIdle leadingDot (piece :: pieces) = dropIdle leadingDot pieces := by
  obtain ⟨next, rest, rfl⟩ := List.exists_cons_of_ne_nil hne
  rw [dropIdle, isStep_of_idle h, if_neg Bool.false_ne_true]

theorem dropIdle_root (h : piece = [] ∨ piece = ['.']) : dropIdle false [piece] = [] := by
  obtain rfl | rfl := h <;> rfl

theorem dropIdle_first (hne : piece ≠ []) : dropIdle true [piece] = [piece] := by
  by_cases hdot : piece = ['.']
  · rw [hdot]
    rfl
  · exact dropIdle_of_step true (decide_eq_true ⟨hne, hdot⟩) []

/-- A text without what stands for no step at its end. -/
def kept (cs : List Char) : List Char :=
  joined (piecesOf cs).1 (dropIdle (!(piecesOf cs).1) (piecesOf cs).2)

theorem kept_of_not_mem (h : '/' ∉ piece) : kept piece = piece := by
  rw [kept, piecesOf_of_not_mem h]
  by_cases hne : piece = []
  · rw [hne]
    rfl
  · exact (congrArg (joined false) (dropIdle_first hne)).trans (List.append_nil piece)

theorem kept_append_idle (front : List Char) (hpiece : '/' ∉ piece)
    (h : piece = [] ∨ piece = ['.']) :
    kept (front ++ '/' :: piece) = if front = [] then ['/'] else kept front := by
  rw [kept, piecesOf_append front hpiece]
  split
  · exact congrArg (joined true) (dropIdle_root h)
  · rw [kept, dropIdle_of_idle _ h (piecesOf_ne_nil front)]

theorem kept_append_step (front : List Char) (hpiece : '/' ∉ piece) (h : isStep piece = true) :
    kept (front ++ '/' :: piece) = front ++ '/' :: piece := by
  obtain ⟨pieces, hpieces⟩ : ∃ pieces, (piecesOf (front ++ '/' :: piece)).2 = piece :: pieces := by
    rw [piecesOf_append front hpiece]
    split <;> exact ⟨_, rfl⟩
  rw [kept, hpieces, dropIdle_of_step _ h, ← hpieces, joined_piecesOf]

theorem parent?_of_not_mem (h : '/' ∉ piece) :
    (ofChars piece).parent? = if piece = [] then none else some (ofChars []) := by
  rw [parent?_ofChars, piecesOf_of_not_mem h]
  by_cases hne : piece = []
  · rw [if_pos hne, hne]
    rfl
  · simp only [Bool.not_false, parentPieces?, dropIdle_first hne, if_neg hne]
    rfl

theorem parent?_append_idle (front : List Char) (hpiece : '/' ∉ piece)
    (h : piece = [] ∨ piece = ['.']) :
    (ofChars (front ++ '/' :: piece)).parent? =
      if front = [] then none else (ofChars front).parent? := by
  rw [parent?_ofChars, piecesOf_append front hpiece]
  by_cases hfront : front = []
  · rw [if_pos hfront, if_pos hfront]
    obtain rfl | rfl := h <;> rfl
  · rw [if_neg hfront, if_neg hfront, parent?_ofChars, parentPieces?,
      dropIdle_of_idle _ h (piecesOf_ne_nil front), ← parentPieces?]

theorem parent?_append_step (front : List Char) (hpiece : '/' ∉ piece) (h : isStep piece = true) :
    (ofChars (front ++ '/' :: piece)).parent? = some (ofChars (kept (front ++ ['/']))) := by
  rw [parent?_ofChars, piecesOf_append front hpiece,
    kept_append_idle front List.not_mem_nil (Or.inl rfl)]
  by_cases hfront : front = []
  · rw [if_pos hfront, if_pos hfront, parentPieces?, dropIdle_of_step _ h]
    rfl
  · rw [if_neg hfront, if_neg hfront, parentPieces?, dropIdle_of_step _ h]
    rfl

end Idle

section Beginnings

variable {r cs front back piece : List Char}

/-- A beginning of two texts around a separator is empty, or ends in the first of them, or goes
beyond the separator. -/
theorem beginning_cases (h : r <+: front ++ '/' :: back) :
    r = [] ∨ front ≠ [] ∧ r <+: front ∨
      ∃ begun, r = front ++ '/' :: begun ∧ begun <+: back := by
  have hin (hshort : r <+: front) : r = [] ∨ front ≠ [] ∧ r <+: front := by
    by_cases hfront : front = []
    · exact Or.inl (List.prefix_nil.mp (hfront ▸ hshort))
    · exact Or.inr ⟨hfront, hshort⟩
  obtain hshort | ⟨rest, rfl⟩ := List.prefix_or_prefix_of_prefix h (List.prefix_append front _)
  · exact (hin hshort).imp_right Or.inl
  · rw [List.prefix_append_right_inj, List.prefix_cons_iff] at h
    obtain rfl | ⟨begun, rfl, hbegun⟩ := h
    · exact (hin (by rw [List.append_nil])).imp_right Or.inl
    · exact Or.inr (Or.inr ⟨begun, rfl, hbegun⟩)

theorem not_mem_of_beginning (h : '/' ∉ piece) (hr : r <+: piece) : '/' ∉ r :=
  fun hmem => h (hr.subset hmem)

theorem length_steps_le (h : '/' ∉ piece) (hr : r <+: piece) :
    (steps r).length ≤ (steps piece).length := by
  obtain ⟨rfl | rfl, -⟩ | ⟨-, c, -, -, hsteps⟩ := steps_cases h
  · rw [List.prefix_nil.mp hr]
  · obtain rfl | ⟨begun, rfl, hbegun⟩ := List.prefix_cons_iff.mp hr
    · exact Nat.zero_le _
    · rw [List.prefix_nil.mp hbegun]
  · rw [hsteps]
    obtain ⟨-, hr⟩ | ⟨-, c', -, -, hr⟩ := steps_cases (not_mem_of_beginning h hr) <;> rw [hr]
    · exact Nat.zero_le _
    · exact Nat.le_refl _

/-- A beginning has no more components. -/
theorem length_components_le (hr : r <+: cs) :
    (ofChars r).components.length ≤ (ofChars cs).components.length := by
  induction cs using pieces_induction generalizing r with
  | single piece hpiece =>
      rw [components_of_not_mem hpiece, components_of_not_mem (not_mem_of_beginning hpiece hr)]
      obtain ⟨-, hfirst⟩ | ⟨hne, c, -, -, hfirst⟩ := ofFirst_cases r <;> rw [hfirst]
      · exact Nat.zero_le _
      · obtain ⟨rfl, -⟩ | ⟨-, c', -, -, hpiece⟩ := ofFirst_cases piece
        · exact absurd (List.prefix_nil.mp hr) hne
        · rw [hpiece]
          exact Nat.le_refl _
  | more front piece hpiece ih =>
      obtain rfl | ⟨hfront, hshort⟩ | ⟨begun, rfl, hbegun⟩ := beginning_cases hr
      · exact Nat.zero_le _
      · rw [components_append, if_neg hfront, List.length_append]
        exact Nat.le_trans (ih hshort) (Nat.le_add_right _ _)
      · rw [components_append, components_append, List.length_append, List.length_append]
        exact Nat.add_le_add_left (length_steps_le hpiece hbegun) _

theorem ofFirst_inj {piece' : List Char} (h : ofFirst piece = ofFirst piece') : piece = piece' := by
  obtain ⟨rfl, hfirst⟩ | ⟨-, c, -, rfl, hfirst⟩ := ofFirst_cases piece <;>
    obtain ⟨rfl, hfirst'⟩ | ⟨-, c', -, rfl, hfirst'⟩ := ofFirst_cases piece'
  · rfl
  · cases hfirst.symm.trans (h.trans hfirst')
  · cases hfirst.symm.trans (h.trans hfirst')
  · rw [List.singleton_inj.mp (hfirst.symm.trans (h.trans hfirst'))]

theorem kept_begins (cs : List Char) : kept cs <+: cs := by
  induction cs using pieces_induction with
  | single piece hpiece => rw [kept_of_not_mem hpiece]
  | more front piece hpiece ih =>
      obtain ⟨hidle, -⟩ | ⟨hstep, -⟩ := steps_cases hpiece
      · rw [kept_append_idle front hpiece hidle]
        split
        next hfront =>
            rw [hfront]
            exact ⟨piece, rfl⟩
        next => exact ih.trans (List.prefix_append front _)
      · rw [kept_append_step front hpiece hstep]

theorem components_kept (cs : List Char) :
    (ofChars (kept cs)).components = (ofChars cs).components := by
  induction cs using pieces_induction with
  | single piece hpiece => rw [kept_of_not_mem hpiece]
  | more front piece hpiece ih =>
      obtain ⟨hidle, hsteps⟩ | ⟨hstep, -⟩ := steps_cases hpiece
      · rw [kept_append_idle front hpiece hidle, components_append, hsteps, List.append_nil]
        split
        · rfl
        · exact ih
      · rw [kept_append_step front hpiece hstep]

/-- No shorter beginning has all the components. -/
theorem kept_begins_of_components_eq (hr : r <+: cs)
    (h : (ofChars r).components = (ofChars cs).components) : kept cs <+: r := by
  induction cs using pieces_induction generalizing r with
  | single piece hpiece =>
      rw [components_of_not_mem hpiece,
        components_of_not_mem (not_mem_of_beginning hpiece hr)] at h
      rw [kept_of_not_mem hpiece, ofFirst_inj h]
  | more front piece hpiece ih =>
      have hne : r ≠ [] := by
        rintro rfl
        exact List.append_ne_nil_of_right_ne_nil front (List.cons_ne_nil '/' piece)
          (components_eq_nil_iff.mp h.symm)
      obtain ⟨hidle, hsteps⟩ | ⟨hstep, c, -, hchars, hsteps⟩ := steps_cases hpiece <;>
        rw [components_append, hsteps] at h
      · rw [kept_append_idle front hpiece hidle]
        obtain rfl | ⟨hfront, hshort⟩ | ⟨begun, rfl, -⟩ := beginning_cases hr
        · exact absurd rfl hne
        · rw [if_neg hfront, List.append_nil] at h
          rw [if_neg hfront]
          exact ih hshort h
        · split
          next hfront =>
              rw [hfront]
              exact ⟨begun, rfl⟩
          next => exact (kept_begins front).trans (List.prefix_append front _)
      · rw [kept_append_step front hpiece hstep]
        obtain rfl | ⟨hfront, hshort⟩ | ⟨begun, rfl, hbegun⟩ := beginning_cases hr
        · exact absurd rfl hne
        · -- A beginning that short has one component too few.
          have hle := length_components_le hshort
          rw [h, if_neg hfront, List.length_append] at hle
          exact absurd hle (Nat.not_succ_le_self _)
        · rw [components_append, List.append_cancel_left_eq] at h
          obtain ⟨-, hnone⟩ | ⟨-, c', -, rfl, hone⟩ :=
            steps_cases (not_mem_of_beginning hpiece hbegun)
          · cases hnone.symm.trans h
          · rw [← hchars, List.singleton_inj.mp (hone.symm.trans h)]

end Beginnings

section Parent

variable {p q r : Path}

/-- The parent: the shortest beginning of the text that has all components but the last. -/
structure IsParentOf (q p : Path) : Prop where
  but_last : ∃ c, c ≠ .root ∧ p.components = q.components ++ [c]
  begins : q.text.toList <+: p.text.toList
  shortest : ∀ r : Path, r.text.toList <+: q.text.toList → r.components = q.components → r = q

theorem IsParentOf.length_components (h : q.IsParentOf p) :
    p.components.length = q.components.length + 1 := by
  obtain ⟨c, -, hc⟩ := h.but_last
  rw [hc, List.length_append]
  rfl

theorem IsParentOf.components_ne (h : q.IsParentOf p) :
    ¬ (p.components = [] ∨ p.components = [.root]) := by
  obtain ⟨c, hc, hlast⟩ := h.but_last
  rintro (hnil | hroot)
  · exact List.cons_ne_nil _ _ (List.append_eq_nil_iff.mp (hlast.symm.trans hnil)).2
  · have hboth : q.components ++ [c] = [] ++ [.root] := hlast.symm.trans hroot
    exact hc (List.singleton_inj.mp (List.append_inj_right' hboth rfl))

theorem IsParentOf.length_text_lt (h : q.IsParentOf p) : q.text.length < p.text.length := by
  refine Nat.lt_of_le_of_ne h.begins.length_le fun heq => ?_
  have hpq : q = p := by
    rw [← ofChars_toList q, h.begins.eq_of_length heq, ofChars_toList]
  have hlength := h.length_components
  rw [hpq] at hlength
  exact absurd hlength (Nat.ne_of_lt (Nat.lt_succ_self _))

/-- A path has at most one parent. -/
theorem IsParentOf.unique (hq : q.IsParentOf p) (hr : r.IsParentOf p) : q = r := by
  have hcomponents : q.components = r.components := by
    obtain ⟨c, -, hc⟩ := hq.but_last
    obtain ⟨c', -, hc'⟩ := hr.but_last
    exact List.append_inj_left' (hc.symm.trans hc') rfl
  obtain hle | hle := List.prefix_or_prefix_of_prefix hq.begins hr.begins
  · exact hr.shortest q hle hcomponents
  · exact (hq.shortest r hle hcomponents.symm).symm

theorem isParentOf_kept {front piece : List Char} {c : Component} (hc : c ≠ .root)
    (hsteps : steps piece = [c]) :
    (ofChars (kept (front ++ ['/']))).IsParentOf (ofChars (front ++ '/' :: piece)) where
  but_last := by
    refine ⟨c, hc, ?_⟩
    rw [components_kept, components_append, components_append, hsteps]
    exact congrArg (· ++ [c]) (List.append_nil _).symm
  begins := by
    rw [toList_ofChars, toList_ofChars, List.append_cons front '/' piece]
    exact (kept_begins _).trans (List.prefix_append _ piece)
  shortest r hr h := by
    rw [toList_ofChars] at hr
    rw [components_kept, ← ofChars_toList r] at h
    have hle := kept_begins_of_components_eq (hr.trans (kept_begins _)) h
    rw [← ofChars_toList r, hr.eq_of_length_le hle.length_le]

/-- A path has a parent, or it is the root or empty. -/
theorem parent?_cases (p : Path) :
    (∃ q, p.parent? = some q ∧ q.IsParentOf p) ∨
      p.parent? = none ∧ (p.components = [] ∨ p.components = [.root]) := by
  suffices h : ∀ cs, (∃ q, (ofChars cs).parent? = some q ∧ q.IsParentOf (ofChars cs)) ∨
      (ofChars cs).parent? = none ∧
        ((ofChars cs).components = [] ∨ (ofChars cs).components = [.root]) by
    rw [← ofChars_toList p]
    exact h p.text.toList
  intro cs
  induction cs using pieces_induction with
  | single piece hpiece =>
      rw [parent?_of_not_mem hpiece]
      obtain ⟨rfl, hfirst⟩ | ⟨hne, c, hc, -, hfirst⟩ := ofFirst_cases piece
      · exact Or.inr ⟨rfl, Or.inl rfl⟩
      · rw [if_neg hne]
        refine Or.inl ⟨_, rfl, ⟨c, hc, ?_⟩, List.nil_prefix, fun r hr _ => ?_⟩
        · rw [components_of_not_mem hpiece, hfirst]
          rfl
        · rw [← ofChars_toList r, List.prefix_nil.mp hr]
  | more front piece hpiece ih =>
      obtain ⟨hidle, hsteps⟩ | ⟨hstep, c, hc, -, hsteps⟩ := steps_cases hpiece
      · have hsame := components_append front piece
        rw [hsteps, List.append_nil] at hsame
        -- What stands for no step behind a text leaves it the parent that it has.
        rw [parent?_append_idle front hpiece hidle]
        by_cases hfront : front = []
        · rw [if_pos hfront] at hsame ⊢
          exact Or.inr ⟨rfl, Or.inr hsame⟩
        · rw [if_neg hfront] at hsame ⊢
          rw [hsame]
          refine ih.imp_left fun ⟨q, hq, hparent⟩ => ⟨q, hq, ?_, ?_, hparent.shortest⟩
          · rw [hsame]
            exact hparent.but_last
          · have hbegins := hparent.begins
            rw [toList_ofChars] at hbegins ⊢
            exact hbegins.trans (List.prefix_append _ _)
      · exact Or.inl ⟨_, parent?_append_step front hpiece hstep, isParentOf_kept hc hsteps⟩

theorem parent?_eq_some_iff : p.parent? = some q ↔ q.IsParentOf p := by
  obtain ⟨r, hr, hparent⟩ | ⟨hnone, hcomponents⟩ := parent?_cases p
  · rw [hr, Option.some.injEq]
    exact ⟨fun heq => heq ▸ hparent, hparent.unique⟩
  · rw [hnone]
    exact iff_of_false (fun h => nomatch h) fun h => h.components_ne hcomponents

/-- The root and the empty path, however they are spelled, have no parent. -/
theorem no_parent_iff :
    (∀ q : Path, ¬ q.IsParentOf p) ↔ p.components = [] ∨ p.components = [.root] := by
  constructor
  · intro hnone
    obtain ⟨q, -, hparent⟩ | ⟨-, hcomponents⟩ := parent?_cases p
    · exact absurd hparent (hnone q)
    · exact hcomponents
  · exact fun hcomponents q hparent => hparent.components_ne hcomponents

end Parent

section Ascent

variable {p q : Path} {dirs dirs' : List Path}

/-- The way upwards: a path, its parent, the parent of that, up to one without a parent. -/
inductive Ascent : Path → List Path → Prop
  | top {p : Path} (h : ∀ q : Path, ¬ q.IsParentOf p) : Ascent p [p]
  | climb {p q : Path} {dirs : List Path} (h : q.IsParentOf p) (rest : Ascent q dirs) :
      Ascent p (p :: dirs)

theorem Ascent.unique (h : p.Ascent dirs) (h' : p.Ascent dirs') : dirs = dirs' := by
  induction h generalizing dirs' with
  | top hnone =>
      cases h' with
      | top => rfl
      | climb hparent rest => exact absurd hparent (hnone _)
  | climb hparent rest ih =>
      cases h' with
      | top hnone => exact absurd hparent (hnone _)
      | climb hparent' rest' =>
          rw [hparent.unique hparent'] at ih
          rw [ih rest']

/-- Each step upwards leaves out a component. -/
theorem Ascent.length_le (h : p.Ascent dirs) : dirs.length ≤ p.components.length + 1 := by
  induction h with
  | top => exact Nat.le_add_left _ _
  | climb hparent rest ih =>
      rw [List.length_cons, hparent.length_components]
      exact Nat.succ_le_succ ih

theorem Ascent.ends (h : p.Ascent dirs) :
    ∃ top, dirs.getLast? = some top ∧ (top.components = [] ∨ top.components = [.root]) := by
  induction h with
  | top hnone => exact ⟨_, rfl, no_parent_iff.mp hnone⟩
  | climb hparent rest ih =>
      obtain ⟨top, hlast, htop⟩ := ih
      exact ⟨top, by rw [List.getLast?_cons, hlast]; rfl, htop⟩

/-- As many steps as the text has characters are enough. -/
theorem ascent_ancestorsUpTo {count : Nat} (h : p.text.length < count) :
    p.Ascent (ancestorsUpTo count p) := by
  induction count generalizing p with
  | zero => exact absurd h (Nat.not_lt_zero _)
  | succ count ih =>
      rw [ancestorsUpTo]
      cases hparent : p.parent? with
      | none => exact .top fun q hq => nomatch hparent.symm.trans (parent?_eq_some_iff.mpr hq)
      | some q =>
          have hq := parent?_eq_some_iff.mp hparent
          exact .climb hq (ih (Nat.lt_of_lt_of_le hq.length_text_lt (Nat.le_of_lt_succ h)))

/-- From every path there is one way upwards. -/
theorem ascent_iff : p.Ascent dirs ↔ dirs = p.ancestors := by
  have hancestors : p.Ascent p.ancestors := ascent_ancestorsUpTo (Nat.lt_succ_self _)
  refine ⟨fun h => h.unique hancestors, ?_⟩
  rintro rfl
  exact hancestors

example : (⟨"./a//b/./"⟩ : Path).ancestors = [⟨"./a//b/./"⟩, ⟨"./a"⟩, ⟨"."⟩, ⟨""⟩] := by decide

end Ascent

end Readiness.Path
