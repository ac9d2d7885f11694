import Readiness.Proofs.YamlEntries
import Readiness.Yaml.Document

/-!
What a text is read as: no mapping in it holds a key twice, since a repeated key is refused.
-/

namespace Readiness.Yaml

namespace Linked

/-- Whatever a loading ends with, if it ends, is of a kind. -/
def Yields {α : Type} (P : α → Prop) (m : Load α) : Prop :=
  ∀ followed a followed', m.run followed = some (a, followed') → P a

section Yields

variable {α β : Type} {P : α → Prop} {Q : β → Prop}

theorem yields_pure {a : α} (h : P a) : Yields P (pure a) := by
  rintro followed _ _ ⟨⟩
  exact h

theorem yields_failure : Yields P failure := by
  rintro followed a followed' ⟨⟩

theorem yields_any (m : Load α) : Yields (fun _ => True) m := fun _ _ _ _ => trivial

theorem yields_bind {m : Load α} {f : α → Load β} (hm : Yields P m) (hf : ∀ a, P a → Yields Q (f a)) :
    Yields Q (m >>= f) := by
  intro followed b followed' h
  rw [StateT.run_bind] at h
  obtain ⟨⟨a, between⟩, ha, hb⟩ := Option.bind_eq_some_iff.mp h
  exact hf a (hm _ _ _ ha) _ _ _ hb

theorem yields_lift {o : Option α} (h : ∀ a, o = some a → P a) : Yields P (o : Load α) := by
  intro followed a followed' hrun
  cases o with
  | none => cases hrun
  | some a =>
      cases hrun
      exact h a rfl

theorem yields_mapM {f : β → Load α} (h : ∀ b, Yields P (f b)) (items : List β) :
    Yields (fun as : List α => ∀ a ∈ as, P a) (items.mapM f) := by
  induction items with
  | nil =>
      rw [List.mapM_nil]
      exact yields_pure (by simp)
  | cons b rest ih =>
      rw [List.mapM_cons]
      refine yields_bind (h b) fun a ha => yields_bind ih fun as has => yields_pure ?_
      exact List.forall_mem_cons.mpr ⟨ha, has⟩

theorem yields_foldlM {f : α → β → Load α} (h : ∀ a b, P a → Yields P (f a b)) (items : List β)
    {start : α} (hstart : P start) : Yields P (items.foldlM f start) := by
  induction items generalizing start with
  | nil => exact yields_pure hstart
  | cons b rest ih =>
      rw [List.foldlM_cons]
      exact yields_bind (h start b hstart) fun a ha => ih ha

end Yields

theorem value?_wellFormed {text : String} {v : Value} (h : Plain.value? text = some v) :
    v.wellFormed = true := by
  simp only [Plain.value?] at h
  repeat' split at h
  all_goals cases h
  all_goals rfl

theorem scalar_wellFormed {bare : Bool} {tag : Option Tag} {text : String} {plain : Bool}
    {v : Value} (h : scalar bare tag text plain = some v) : v.wellFormed = true := by
  have hplain : (if plain then Plain.value? text else some (.string text)) = some v →
      v.wellFormed = true := by
    intro h
    split at h
    · exact value?_wellFormed h
    · cases h
      rfl
  unfold scalar at h
  split at h
  · split at h
    · cases h
      rfl
    · cases h
  · obtain ⟨b, -, rfl⟩ := Option.map_eq_some_iff.mp h
    rfl
  · split at h
    · cases h
      rfl
    · cases h
  · obtain ⟨x, -, rfl⟩ := Option.map_eq_some_iff.mp h
    rfl
  · cases h
    rfl
  · exact hplain h

theorem wrap_wellFormed (name? : Option String) {v : Value} (h : v.wellFormed = true) :
    (wrap name? v).wellFormed = true := by
  cases name? <;> simpa only [wrap, Value.wellFormed] using h

theorem yields_scalar (bare : Bool) (name? : Option String) (tag : Option Tag) (text : String)
    (plain : Bool) :
    Yields (fun v => v.wellFormed = true)
      (do return wrap name? (← (scalar bare tag text plain : Option Value))) := by
  refine yields_bind (yields_lift fun v hv => scalar_wellFormed hv) fun v hv => ?_
  exact yields_pure (wrap_wellFormed name? hv)

theorem load_wellFormed (d : Linked) (bare : Bool) (depth : Nat) (node : Node Nat) :
    Yields (fun v => v.wellFormed = true) (d.load bare depth node) := by
  induction depth generalizing bare node with
  | zero =>
      rw [load]
      refine yields_bind (yields_any _) fun target _ => ?_
      cases target with
      | scalar props text plain => exact yields_scalar _ _ _ _ _
      | reference _ | sequence _ _ | mapping _ _ => exact yields_failure
  | succ depth ih =>
      rw [load]
      refine yields_bind (yields_any _) fun target _ => ?_
      cases target with
      | reference _ => exact yields_failure
      | scalar props text plain => exact yields_scalar _ _ _ _ _
      | sequence props items =>
          refine yields_bind (yields_mapM (fun item => ih false item) items) fun vs hvs => ?_
          refine yields_pure (wrap_wellFormed _ ?_)
          rw [Value.wellFormed, Value.wellFormedItems_iff]
          exact hvs
      | mapping props entries =>
          refine yields_bind (P := Entries.Proper) (yields_foldlM ?_ entries Entries.proper_nil) ?_
          · rintro done ⟨key, value⟩ hdone
            refine yields_bind (ih _ key) fun key hkey => ?_
            split
            · exact yields_bind (P := fun _ => False) yields_failure fun _ h => h.elim
            · rename_i hnew
              rw [Bool.not_eq_true, Option.isSome_eq_false_iff, Option.isNone_iff_eq_none] at hnew
              refine yields_bind (ih false value) fun value hvalue => yields_pure ?_
              rw [← Entries.insert_of_get?_eq_none hnew]
              exact hdone.insert hkey hvalue
          · intro entries hentries
            exact yields_pure (wrap_wellFormed _ ((Entries.proper_iff entries).mp hentries))

end Linked

theorem Value.parse?_wellFormed {text : String} {v : Value} (h : Value.parse? text = some v) :
    v.wellFormed = true := by
  simp only [Value.parse?, Option.bind_eq_bind, Option.bind_eq_some_iff] at h
  obtain ⟨tokens, -, root, -, ⟨linked, names⟩, -, ⟨value, followed⟩, hload, hv⟩ := h
  cases hv
  exact Linked.load_wellFormed _ _ _ _ _ _ _ hload

end Readiness.Yaml
