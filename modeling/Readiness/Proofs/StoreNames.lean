import Mathlib.Data.Finset.Card
import Readiness.Host.StoreKey
import Readiness.Proofs.LastOf

/-!
What a key of the store holds after values were set one after the other. Every spelling of a name
keeps the value that was set last under it, and a look-up finds the least spelling that is the name
but for case. So the last value set is found, and a name counts once, where all of its spellings
are one; with more of them an older value can stand in front of a newer one.
-/

namespace Readiness.StoreKey

section Ascending

variable {name : String} {value : StoreValue} {e : String × StoreValue}
  {entries : List (String × StoreValue)}

/-- The names ascend, so that no name has two values. -/
def Ascending (entries : List (String × StoreValue)) : Prop :=
  entries.Pairwise fun a b => a.1 < b.1

theorem mem_insertValue (h : Ascending entries) :
    e ∈ insertValue name value entries ↔ e = (name, value) ∨ e ∈ entries ∧ e.1 ≠ name := by
  induction entries with
  | nil => simp [insertValue]
  | cons head rest ih =>
      obtain ⟨other, old⟩ := head
      obtain ⟨hhead, hrest⟩ := List.pairwise_cons.mp h
      -- No name behind one that is not less is the name itself.
      have hbehind (hle : name ≤ other) : ∀ e ∈ rest, e.1 ≠ name := by
        rintro e he rfl
        exact String.not_lt.mpr hle (hhead e he)
      simp only [insertValue]
      split
      · rename_i heq
        have hgone := hbehind (heq ▸ String.le_refl name)
        simp only [List.mem_cons]
        grind
      · rename_i hne
        split
        · rename_i hlt
          have hgone := hbehind (String.not_lt.mp (String.lt_asymm hlt))
          simp only [List.mem_cons]
          grind
        · rw [List.mem_cons, ih hrest, List.mem_cons]
          grind

theorem Ascending.insertValue (h : Ascending entries) (name : String) (value : StoreValue) :
    Ascending (StoreKey.insertValue name value entries) := by
  induction entries with
  | nil => exact List.pairwise_singleton _ _
  | cons head rest ih =>
      obtain ⟨other, old⟩ := head
      obtain ⟨hhead, hrest⟩ := List.pairwise_cons.mp h
      simp only [StoreKey.insertValue]
      split
      · rename_i heq
        subst heq
        exact List.pairwise_cons.mpr ⟨hhead, hrest⟩
      · rename_i hne
        split
        · rename_i hlt
          refine List.pairwise_cons.mpr ⟨?_, h⟩
          rintro e he
          rcases List.mem_cons.mp he with rfl | he
          · exact hlt
          · exact String.lt_trans hlt (hhead e he)
        · rename_i hnlt
          have hlt : other < name := Std.lt_of_le_of_ne (String.not_lt.mp hnlt) (Ne.symm hne)
          refine List.pairwise_cons.mpr ⟨?_, ih hrest⟩
          intro e he
          rcases (mem_insertValue hrest).mp he with rfl | ⟨he, -⟩
          · exact hlt
          · exact hhead e he

/-- Among ascending names the first that fits is the least that fits. -/
theorem find?_eq_some_iff {p : String → Bool} (h : Ascending entries) :
    (entries.find? fun e => p e.1) = some e ↔
      e ∈ entries ∧ p e.1 = true ∧ ∀ e' ∈ entries, p e'.1 = true → e.1 ≤ e'.1 := by
  induction entries with
  | nil => simp
  | cons head rest ih =>
      obtain ⟨hhead, hrest⟩ := List.pairwise_cons.mp h
      rw [List.find?_cons, List.mem_cons, List.forall_mem_cons]
      cases hp : p head.1 with
      | true =>
          dsimp only
          constructor
          · rintro ⟨⟩
            exact ⟨Or.inl rfl, hp, fun _ => String.le_refl _,
              fun e' he' _ => String.not_lt.mp (String.lt_asymm (hhead e' he'))⟩
          · rintro ⟨rfl | he, -, hle, -⟩
            · rfl
            · exact absurd (hle rfl) (String.not_le.mpr (hhead e he))
      | false =>
          dsimp only
          rw [ih hrest]
          constructor
          · rintro ⟨he, hpe, hleast⟩
            exact ⟨Or.inr he, hpe, nofun, hleast⟩
          · rintro ⟨rfl | he, hpe, -, hleast⟩
            · exact absurd (hp.symm.trans hpe) Bool.false_ne_true
            · exact ⟨he, hpe, hleast⟩

end Ascending

section Calls

variable {name spelling : String} {value : StoreValue} {calls : List (String × StoreValue)}

/-- The key that has had its values set by calls, one after the other. -/
def ofCalls (calls : List (String × StoreValue)) : StoreKey :=
  calls.foldl (fun k call => k.insert call.1 call.2) {}

/-- The names as they were called. -/
def called (calls : List (String × StoreValue)) : List String := calls.map Prod.fst

/-- A call whose name is of a kind. -/
def Names (p : String → Prop) (call : String × StoreValue) : Prop := p call.1

/-- The value of the last call whose name is of a kind. -/
def LastCall (p : String → Prop) (value : StoreValue) (calls : List (String × StoreValue)) : Prop :=
  ∃ before name, IsLast (Names p) before (name, value) calls

/-- Of the spellings called that are the name but for case, the least. -/
structure LeastSpelling (calls : List (String × StoreValue)) (name spelling : String) : Prop where
  called : spelling ∈ called calls
  same : Text.eqIgnoringCase spelling name = true
  least : ∀ other ∈ StoreKey.called calls, Text.eqIgnoringCase other name = true → spelling ≤ other

/-- No two of the names called differ in case alone. -/
def OneSpelling (calls : List (String × StoreValue)) : Prop :=
  ∀ a ∈ called calls, ∀ b ∈ called calls, Text.eqIgnoringCase a b = true → a = b

theorem lastCall_concat {p : String → Prop} {call : String × StoreValue} :
    LastCall p value (calls ++ [call]) ↔
      p call.1 ∧ call.2 = value ∨ ¬ p call.1 ∧ LastCall p value calls := by
  change _ ↔ Names p call ∧ _ ∨ ¬ Names p call ∧ _
  by_cases hp : Names p call
  · rw [and_iff_right hp, or_iff_left fun h => h.1 hp]
    constructor
    · rintro ⟨before, name, h⟩
      exact (congrArg Prod.snd ((isLast_concat_of_pos hp).mp h).2).symm
    · rintro rfl
      exact ⟨calls, call.1, (isLast_concat_of_pos hp).mpr ⟨rfl, rfl⟩⟩
  · rw [and_iff_right hp, or_iff_right fun h => hp h.1]
    exact exists₂_congr fun _ _ => isLast_concat_of_neg hp

theorem lastCall_congr {p q : String → Prop} (h : ∀ name ∈ called calls, p name ↔ q name) :
    LastCall p value calls ↔ LastCall q value calls := by
  have hcalls : ∀ call ∈ calls, Names p call ↔ Names q call :=
    fun call hcall => h call.1 (List.mem_map_of_mem hcall)
  exact exists₂_congr fun _ _ => IsLast.congr hcalls

theorem exists_lastCall_iff {p : String → Prop} :
    (∃ value, LastCall p value calls) ↔ ∃ name ∈ called calls, p name := by
  induction calls using List.reverseRecOn with
  | nil =>
      refine iff_of_false ?_ (by simp [called])
      rintro ⟨value, before, name, h⟩
      exact not_isLast_nil h
  | append_singleton calls call ih =>
      simp only [lastCall_concat, exists_or, exists_and_left, ih, called, List.map_append,
        List.mem_append, List.map_singleton, List.mem_singleton]
      by_cases hp : p call.1
      · exact iff_of_true (Or.inl ⟨hp, call.2, rfl⟩) ⟨call.1, Or.inr rfl, hp⟩
      · grind

theorem ofCalls_concat (calls : List (String × StoreValue)) (call : String × StoreValue) :
    ofCalls (calls ++ [call]) = (ofCalls calls).insert call.1 call.2 := by
  rw [ofCalls, List.foldl_concat]
  rfl

theorem ofCalls_ascending (calls : List (String × StoreValue)) :
    Ascending (ofCalls calls).values := by
  induction calls using List.reverseRecOn with
  | nil => exact .nil
  | append_singleton calls call ih =>
      rw [ofCalls_concat]
      exact ih.insertValue call.1 call.2

/-- A spelling keeps the value of the last call that used it. -/
theorem mem_ofCalls_iff :
    (spelling, value) ∈ (ofCalls calls).values ↔ LastCall (· = spelling) value calls := by
  induction calls using List.reverseRecOn with
  | nil =>
      refine iff_of_false (List.not_mem_nil) ?_
      rintro ⟨before, name, h⟩
      exact not_isLast_nil h
  | append_singleton calls call ih =>
      rw [ofCalls_concat, lastCall_concat, ← ih]
      refine (mem_insertValue (ofCalls_ascending calls)).trans ?_
      rw [Prod.mk.injEq]
      grind

theorem exists_mem_ofCalls_iff :
    (∃ value, (spelling, value) ∈ (ofCalls calls).values) ↔ spelling ∈ called calls := by
  simp only [mem_ofCalls_iff, exists_lastCall_iff, exists_eq_right]

/-- A look-up finds the value set last under the least spelling of the name. -/
theorem get?_ofCalls_eq_some_iff :
    (ofCalls calls).get? name = some value ↔
      ∃ spelling, LeastSpelling calls name spelling ∧ LastCall (· = spelling) value calls := by
  have hleast (spelling : String) : LeastSpelling calls name spelling ↔
      spelling ∈ called calls ∧ Text.eqIgnoringCase spelling name = true ∧
        ∀ e ∈ (ofCalls calls).values, Text.eqIgnoringCase e.1 name = true → spelling ≤ e.1 := by
    constructor
    · intro h
      exact ⟨h.called, h.same, fun e he => h.least e.1 (exists_mem_ofCalls_iff.mp ⟨e.2, he⟩)⟩
    · rintro ⟨hcalled, hsame, hleast⟩
      refine ⟨hcalled, hsame, fun other hother => ?_⟩
      obtain ⟨value, he⟩ := exists_mem_ofCalls_iff.mpr hother
      exact hleast _ he
  have hfind (e : String × StoreValue) := find?_eq_some_iff (e := e)
    (p := fun other => Text.eqIgnoringCase other name) (ofCalls_ascending calls)
  rw [get?, Option.map_eq_some_iff]
  constructor
  · rintro ⟨⟨spelling, _⟩, h, rfl⟩
    obtain ⟨hmem, hsame, hleast'⟩ := (hfind _).mp h
    exact ⟨spelling, (hleast spelling).mpr ⟨exists_mem_ofCalls_iff.mp ⟨_, hmem⟩, hsame, hleast'⟩,
      mem_ofCalls_iff.mp hmem⟩
  · rintro ⟨spelling, h, hlast⟩
    exact ⟨(spelling, value), (hfind _).mpr
      ⟨mem_ofCalls_iff.mpr hlast, ((hleast spelling).mp h).2⟩, rfl⟩

theorem size_ofCalls : (ofCalls calls).size = (called calls).toFinset.card := by
  have hnodup : ((ofCalls calls).values.map Prod.fst).Nodup := by
    rw [List.Nodup, List.pairwise_map]
    refine (ofCalls_ascending calls).imp ?_
    rintro a b hlt heq
    exact String.lt_irrefl _ (heq ▸ hlt)
  have hnames : (called calls).toFinset = ((ofCalls calls).values.map Prod.fst).toFinset := by
    ext spelling
    rw [List.mem_toFinset, List.mem_toFinset, ← exists_mem_ofCalls_iff]
    simp
  rw [hnames, List.toFinset_card_of_nodup hnodup, List.length_map, size]

/-- A name with the case of its letters taken off. -/
def folded (name : String) : List Char := name.toList.map Char.toLower

theorem eqIgnoringCase_iff {a b : String} :
    Text.eqIgnoringCase a b = true ↔ folded a = folded b := by
  rw [Text.eqIgnoringCase, beq_iff_eq, folded, folded]

theorem OneSpelling.get?_eq_some_iff (h : OneSpelling calls) :
    (ofCalls calls).get? name = some value ↔
      LastCall (fun other => Text.eqIgnoringCase other name = true) value calls := by
  have hsame {spelling : String} (hmem : spelling ∈ called calls)
      (hfits : Text.eqIgnoringCase spelling name = true) :
      ∀ other ∈ called calls, other = spelling ↔ Text.eqIgnoringCase other name = true := by
    intro other hother
    constructor
    · rintro rfl
      exact hfits
    · intro hfits'
      rw [eqIgnoringCase_iff] at hfits hfits'
      exact h other hother spelling hmem (eqIgnoringCase_iff.mpr (hfits'.trans hfits.symm))
  rw [get?_ofCalls_eq_some_iff]
  constructor
  · rintro ⟨spelling, hleast, hlast⟩
    exact (lastCall_congr (hsame hleast.called hleast.same)).mp hlast
  · intro hlast
    obtain ⟨spelling, hmem, hfits⟩ := exists_lastCall_iff.mp ⟨value, hlast⟩
    refine ⟨spelling, ⟨hmem, hfits, ?_⟩, (lastCall_congr (hsame hmem hfits)).mpr hlast⟩
    intro other hother hfits'
    obtain rfl := (hsame hmem hfits other hother).mpr hfits'
    exact String.le_refl other

theorem OneSpelling.size_eq (h : OneSpelling calls) :
    (ofCalls calls).size = ((called calls).map folded).toFinset.card := by
  have hinj : Set.InjOn folded ((called calls).toFinset : Set String) := by
    intro a ha b hb hab
    rw [Finset.mem_coe, List.mem_toFinset] at ha hb
    exact h a ha b hb (eqIgnoringCase_iff.mpr hab)
  have himage : ((called calls).map folded).toFinset = (called calls).toFinset.image folded := by
    ext cs
    simp
  rw [size_ofCalls, himage, Finset.card_image_of_injOn hinj]

/-- What a key holds after any calls: under a name the value that was set last under the least of
its spellings, and as many values as there are spellings. Where no name was spelled in two ways,
that is the value set last under the name, and as many values as there are names. -/
theorem ofCalls_holds (calls : List (String × StoreValue)) :
    (∀ name value, (ofCalls calls).get? name = some value ↔
      ∃ spelling, LeastSpelling calls name spelling ∧ LastCall (· = spelling) value calls) ∧
    (ofCalls calls).size = (called calls).toFinset.card ∧
    (OneSpelling calls →
      (∀ name value, (ofCalls calls).get? name = some value ↔
        LastCall (fun other => Text.eqIgnoringCase other name = true) value calls) ∧
      (ofCalls calls).size = ((called calls).map folded).toFinset.card) :=
  ⟨fun _ _ => get?_ofCalls_eq_some_iff, size_ofCalls,
    fun h => ⟨fun _ _ => h.get?_eq_some_iff, h.size_eq⟩⟩

/-- Two names, one of them called twice. -/
theorem ofCalls_holds_twoNames :
    let calls : List (String × StoreValue) := [("b", .number 1), ("c", .number 2), ("b", .number 3)]
    OneSpelling calls ∧ (ofCalls calls).get? "B" = some (.number 3) ∧ (ofCalls calls).size = 2 := by
  intro calls
  have hone : OneSpelling calls := by
    rw [OneSpelling]
    decide
  obtain ⟨hget, hsize⟩ := (ofCalls_holds calls).2.2 hone
  have hlast : IsLast (Names fun other => Text.eqIgnoringCase other "B" = true) (calls.take 2)
      ("b", .number 3) calls := ⟨[], rfl, rfl, List.forall_mem_nil _⟩
  exact ⟨hone, (hget _ _).mpr ⟨_, _, hlast⟩, hsize.trans (by decide)⟩

/-- One name in two spellings: the second call hides the third, and the name counts twice. -/
theorem newer_value_is_hidden :
    let calls : List (String × StoreValue) := [("b", .number 1), ("B", .number 2), ("b", .number 3)]
    LastCall (fun other => Text.eqIgnoringCase other "b" = true) (.number 3) calls ∧
      (ofCalls calls).get? "b" = some (.number 2) ∧
      ((called calls).map folded).toFinset.card = 1 ∧ (ofCalls calls).size = 2 := by
  intro calls
  have hlast : IsLast (Names fun other => Text.eqIgnoringCase other "b" = true) (calls.take 2)
      ("b", .number 3) calls := ⟨[], rfl, rfl, List.forall_mem_nil _⟩
  exact ⟨⟨_, _, hlast⟩, by decide, by decide, by decide⟩

end Calls
end Readiness.StoreKey
