import Mathlib.Data.List.Perm.Basic
import Readiness.Proofs.YamlEquality

/-!
The entries of a mapping as a finite map. Looking a key up after an insertion or an erasure, for
entries no two of which have the same key; an erasure may reorder what is left, and no look-up
notices.
-/

namespace Readiness.Yaml.Entries

/-- The entries of a well-formed mapping. -/
structure Proper (entries : Entries) : Prop where
  distinct : entries.Pairwise fun a b => a.1.same b.1 = false ∧ b.1.same a.1 = false
  keys : ∀ e ∈ entries, e.1.wellFormed = true
  values : ∀ e ∈ entries, e.2.wellFormed = true

theorem proper_iff (entries : Entries) :
    entries.Proper ↔ (Value.mapping entries).wellFormed = true := by
  rw [Value.wellFormed, Value.wellFormedEntries_iff]
  constructor
  · intro h
    refine ⟨h.distinct.imp And.left, ?_⟩
    intro e he
    exact ⟨h.keys e he, h.values e he⟩
  · rintro ⟨hdistinct, hall⟩
    refine ⟨?_, fun e he => (hall e he).1, fun e he => (hall e he).2⟩
    refine hdistinct.imp_of_mem ?_
    intro a b ha hb hab
    refine ⟨hab, Bool.eq_false_iff.mpr ?_⟩
    intro hba
    have hback := Value.same_symm (hall b hb).1 (hall a ha).1 hba
    exact Bool.false_ne_true (hab.symm.trans hback)

theorem proper_nil : Proper [] := ⟨.nil, by simp, by simp⟩

theorem proper_cons (key value : Value) (rest : Entries) :
    Proper ((key, value) :: rest) ↔
      (∀ e ∈ rest, key.same e.1 = false ∧ e.1.same key = false) ∧ key.wellFormed = true ∧
        value.wellFormed = true ∧ Proper rest := by
  constructor
  · rintro ⟨hdistinct, hkeys, hvalues⟩
    rw [List.pairwise_cons] at hdistinct
    rw [List.forall_mem_cons] at hkeys hvalues
    exact ⟨hdistinct.1, hkeys.1, hvalues.1, hdistinct.2, hkeys.2, hvalues.2⟩
  · rintro ⟨hnew, hkey, hvalue, hrest⟩
    exact ⟨List.pairwise_cons.mpr ⟨hnew, hrest.distinct⟩,
      List.forall_mem_cons.mpr ⟨hkey, hrest.keys⟩,
      List.forall_mem_cons.mpr ⟨hvalue, hrest.values⟩⟩

theorem Proper.perm {entries entries' : Entries} (h : entries.Proper)
    (hp : entries.Perm entries') : entries'.Proper where
  distinct := hp.pairwise h.distinct And.symm
  keys := fun e he => h.keys e (hp.mem_iff.mpr he)
  values := fun e he => h.values e (hp.mem_iff.mpr he)

theorem Proper.sublist {entries entries' : Entries} (h : entries.Proper)
    (hs : List.Sublist entries' entries) : entries'.Proper where
  distinct := h.distinct.sublist hs
  keys := fun e he => h.keys e (hs.mem he)
  values := fun e he => h.values e (hs.mem he)

section LookUp

theorem get?_cons (key other value : Value) (rest : Entries) :
    get? key ((other, value) :: rest) =
      if other.same key = true then some value else get? key rest := by
  simp only [get?, List.find?_cons]
  cases other.same key <;> rfl

theorem get?_eq_none_iff (key : Value) (entries : Entries) :
    get? key entries = none ↔ ∀ e ∈ entries, e.1.same key = false := by
  simp [get?]

theorem mem_of_get? {key value : Value} {entries : Entries} (h : get? key entries = some value) :
    ∃ other, (other, value) ∈ entries ∧ other.same key = true := by
  obtain ⟨⟨other, value'⟩, hfind, rfl⟩ := Option.map_eq_some_iff.mp h
  exact ⟨other, List.mem_of_find?_eq_some hfind, by simpa using List.find?_some hfind⟩

theorem get?_of_mem {key other value : Value} {entries : Entries} (h : entries.Proper)
    (hkey : key.wellFormed = true) (hmem : (other, value) ∈ entries)
    (hsame : other.same key = true) : get? key entries = some value := by
  induction entries with
  | nil => cases hmem
  | cons e rest ih =>
      obtain ⟨head, headValue⟩ := e
      obtain ⟨hnew, hhead, -, hrest⟩ := (proper_cons head headValue rest).mp h
      rw [get?_cons]
      rcases List.mem_cons.mp hmem with heq | hmem
      · cases heq
        rw [if_pos hsame]
      · have hother : other.wellFormed = true := hrest.keys _ hmem
        have hne : ¬ head.same key = true := by
          intro hk
          have hback := Value.same_trans hk (Value.same_symm hother hkey hsame)
          exact Bool.false_ne_true ((hnew _ hmem).1.symm.trans hback)
        rw [if_neg hne]
        exact ih hrest hmem

theorem get?_wellFormed {key value : Value} {entries : Entries} (h : entries.Proper)
    (hget : get? key entries = some value) : value.wellFormed = true := by
  obtain ⟨other, hmem, -⟩ := mem_of_get? hget
  exact h.values _ hmem

theorem get?_congr {key key' : Value} (hkey : key.wellFormed = true)
    (hkey' : key'.wellFormed = true) (h : key.same key' = true) (entries : Entries) :
    get? key entries = get? key' entries := by
  simp only [get?, Value.same_congr_right hkey hkey' h]

theorem get?_perm {entries entries' : Entries} (h : entries.Proper) (hp : entries.Perm entries')
    {key : Value} (hkey : key.wellFormed = true) : get? key entries' = get? key entries := by
  cases hget : get? key entries with
  | some value =>
      obtain ⟨other, hmem, hsame⟩ := mem_of_get? hget
      exact get?_of_mem (h.perm hp) hkey (hp.mem_iff.mp hmem) hsame
  | none =>
      rw [get?_eq_none_iff] at hget ⊢
      intro e he
      exact hget e (hp.mem_iff.mpr he)

end LookUp

section Insert

variable {key value : Value}

theorem get?_insert {key' : Value} {entries : Entries} (h : entries.Proper)
    (hkey : key.wellFormed = true) (hkey' : key'.wellFormed = true) :
    get? key' (insert key value entries) =
      if key.same key' = true then some value else get? key' entries := by
  induction entries with
  | nil => simp only [insert, get?_cons]
  | cons e rest ih =>
      obtain ⟨other, old⟩ := e
      obtain ⟨-, hother, -, hrest⟩ := (proper_cons other old rest).mp h
      simp only [insert]
      split
      · rename_i hsame
        simp only [get?_cons, Value.same_congr_left hother hkey hsame]
        split <;> rfl
      · rename_i hdiffer
        simp only [get?_cons, ih hrest]
        split
        · rename_i hhit
          have hmiss : ¬ key.same key' = true := by
            intro hk
            exact hdiffer (Value.same_trans hhit (Value.same_symm hkey hkey' hk))
          rw [if_neg hmiss]
        · rfl

theorem insert_of_get?_eq_none {entries : Entries} (h : get? key entries = none) :
    insert key value entries = entries ++ [(key, value)] := by
  induction entries with
  | nil => rfl
  | cons e rest ih =>
      obtain ⟨other, old⟩ := e
      rw [get?_eq_none_iff, List.forall_mem_cons, ← get?_eq_none_iff] at h
      simp only [insert, h.1, Bool.false_eq_true, if_false, ih h.2, List.cons_append]

theorem key_of_mem_insert {e : Value × Value} {entries : Entries}
    (h : e ∈ insert key value entries) : e.1 = key ∨ ∃ e' ∈ entries, e'.1 = e.1 := by
  induction entries with
  | nil => exact Or.inl (by simp_all [insert])
  | cons e' rest ih =>
      obtain ⟨other, old⟩ := e'
      simp only [insert] at h
      split at h
      · rcases List.mem_cons.mp h with rfl | h
        · exact Or.inr ⟨(other, old), List.mem_cons_self, rfl⟩
        · exact Or.inr ⟨e, List.mem_cons_of_mem _ h, rfl⟩
      · rcases List.mem_cons.mp h with rfl | h
        · exact Or.inr ⟨(other, old), List.mem_cons_self, rfl⟩
        · rcases ih h with h | ⟨e', he', h⟩
          · exact Or.inl h
          · exact Or.inr ⟨e', List.mem_cons_of_mem _ he', h⟩

theorem mem_of_mem_insert {e : Value × Value} {entries : Entries}
    (h : e ∈ insert key value entries) : e ∈ entries ∨ e.2 = value ∧ e.1.same key = true := by
  induction entries with
  | nil =>
      obtain rfl := List.mem_singleton.mp h
      exact Or.inr ⟨rfl, Value.same_refl key⟩
  | cons e' rest ih =>
      obtain ⟨other, old⟩ := e'
      simp only [insert] at h
      split at h
      · rename_i hsame
        rcases List.mem_cons.mp h with rfl | h
        · exact Or.inr ⟨rfl, hsame⟩
        · exact Or.inl (List.mem_cons_of_mem _ h)
      · rcases List.mem_cons.mp h with rfl | h
        · exact Or.inl List.mem_cons_self
        · exact (ih h).imp_left (List.mem_cons_of_mem _)

theorem Proper.insert {entries : Entries} (h : entries.Proper) (hkey : key.wellFormed = true)
    (hvalue : value.wellFormed = true) : (Entries.insert key value entries).Proper := by
  induction entries with
  | nil => exact (proper_cons key value []).mpr ⟨by simp, hkey, hvalue, h⟩
  | cons e rest ih =>
      obtain ⟨other, old⟩ := e
      obtain ⟨hnew, hother, hold, hrest⟩ := (proper_cons other old rest).mp h
      simp only [Entries.insert]
      split
      · exact (proper_cons other value rest).mpr ⟨hnew, hother, hvalue, hrest⟩
      · rename_i hdiffer
        have hdiffer' : ¬ key.same other = true := by
          intro hk
          exact hdiffer (Value.same_symm hkey hother hk)
        refine (proper_cons other old _).mpr ⟨?_, hother, hold, ih hrest⟩
        intro e he
        rcases key_of_mem_insert he with hk | ⟨e', he', hk⟩
        · rw [hk]
          exact ⟨Bool.eq_false_iff.mpr hdiffer, Bool.eq_false_iff.mpr hdiffer'⟩
        · rw [← hk]
          exact hnew e' he'

end Insert

section Erase

/-- Moving the last of a list into a place and taking it from the end leaves what is left when the
place is taken away, in another order. -/
theorem dropLast_set_perm {α : Type} {l : List α} {i : Nat} {last : α} (hi : i < l.length)
    (hlast : l.getLast? = some last) : (l.set i last).dropLast.Perm (l.eraseIdx i) := by
  obtain ⟨front, rfl⟩ := List.getLast?_eq_some_iff.mp hlast
  by_cases h : i < front.length
  · rw [List.set_append_left i last h, List.dropLast_concat,
      List.eraseIdx_append_of_lt_length h]
    exact (List.set_perm_cons_eraseIdx h last).trans (List.perm_append_singleton _ _).symm
  · have hlen : front.length = i := by
      simp only [List.length_append, List.length_cons, List.length_nil] at hi
      omega
    subst i
    simp [List.eraseIdx_append_of_length_le]

theorem erase_perm (key : Value) (entries : Entries) :
    (erase key entries).Perm (entries.eraseP fun e => e.1.same key) := by
  rw [List.eraseP_eq_eraseIdx]
  simp only [erase]
  cases hfind : entries.findIdx? fun e => e.1.same key with
  | none => exact .refl entries
  | some i =>
      obtain ⟨hi, -⟩ := List.findIdx?_eq_some_iff_getElem.mp hfind
      cases hlast : entries.getLast? with
      | none => simp_all
      | some last => exact dropLast_set_perm hi hlast

theorem mem_of_mem_erase {key : Value} {e : Value × Value} {entries : Entries}
    (h : e ∈ erase key entries) : e ∈ entries :=
  List.mem_of_mem_eraseP ((erase_perm key entries).mem_iff.mp h)

theorem Proper.erase {entries : Entries} (h : entries.Proper) (key : Value) :
    (Entries.erase key entries).Proper :=
  (h.sublist List.eraseP_sublist).perm (erase_perm key entries).symm

theorem get?_eraseP {key key' : Value} {entries : Entries} (h : entries.Proper)
    (hkey : key.wellFormed = true) (hkey' : key'.wellFormed = true) :
    get? key' (entries.eraseP fun e => e.1.same key) =
      if key.same key' = true then none else get? key' entries := by
  induction entries with
  | nil => simp [get?]
  | cons e rest ih =>
      obtain ⟨other, old⟩ := e
      obtain ⟨hnew, hother, -, hrest⟩ := (proper_cons other old rest).mp h
      rw [List.eraseP_cons]
      cases hsame : other.same key with
      | true =>
          simp only [cond_true, get?_cons, Value.same_congr_left hother hkey hsame]
          split
          · rename_i hhit
            rw [get?_eq_none_iff]
            intro e he
            refine Bool.eq_false_iff.mpr ?_
            intro he'
            have hback := Value.same_trans hsame
              (Value.same_trans hhit (Value.same_symm (hrest.keys e he) hkey' he'))
            exact Bool.false_ne_true ((hnew e he).1.symm.trans hback)
          · rfl
      | false =>
          simp only [cond_false, get?_cons, ih hrest]
          split
          · rename_i hhit
            have hmiss : ¬ key.same key' = true := by
              intro hk
              have hback := Value.same_trans hhit (Value.same_symm hkey hkey' hk)
              exact Bool.false_ne_true (hsame.symm.trans hback)
            rw [if_neg hmiss]
          · rfl

theorem get?_erase {key key' : Value} {entries : Entries} (h : entries.Proper)
    (hkey : key.wellFormed = true) (hkey' : key'.wellFormed = true) :
    get? key' (erase key entries) =
      if key.same key' = true then none else get? key' entries := by
  rw [← get?_eraseP h hkey hkey']
  exact get?_perm (h.sublist List.eraseP_sublist) (erase_perm key entries).symm hkey'

end Erase
end Readiness.Yaml.Entries
