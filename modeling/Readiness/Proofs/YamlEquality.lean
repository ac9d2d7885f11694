import Mathlib.Data.List.Forall2
import Mathlib.Tactic.Tauto
import Readiness.Yaml.Value

/-!
Equality of YAML values. Where no mapping holds a key twice, being the same value is an
equivalence: a mapping whose entries are all found in another of the same size has room for no
other entries there.
-/

namespace Readiness

namespace Decimal.Binary64

theorem sameValue_iff (x y : Binary64) :
    x.sameValue y = true ↔
      x = y ∨ (∃ sign exponent, x = .finite sign 0 exponent) ∧
        ∃ sign exponent, y = .finite sign 0 exponent := by
  fun_cases sameValue x y with
  | case1 => simp
  | case2 => simp
  | case3 =>
      rename_i hzero
      constructor
      · intro h
        exact Or.inl (eq_of_beq h)
      · rintro (h | ⟨⟨s, e, hx⟩, s', e', hy⟩)
        · exact beq_iff_eq.mpr h
        · exact (hzero s e s' e' hx hy).elim

theorem sameValue_refl (x : Binary64) : x.sameValue x = true :=
  (sameValue_iff x x).mpr (Or.inl rfl)

theorem sameValue_symm {x y : Binary64} (h : x.sameValue y = true) : y.sameValue x = true := by
  rw [sameValue_iff] at h ⊢
  exact h.imp Eq.symm And.symm

theorem sameValue_trans {x y z : Binary64} (hxy : x.sameValue y = true)
    (hyz : y.sameValue z = true) : x.sameValue z = true := by
  rw [sameValue_iff] at hxy hyz ⊢
  rcases hxy with rfl | ⟨hx, hy⟩
  · exact hyz
  · rcases hyz with rfl | ⟨_, hz⟩
    · exact Or.inr ⟨hx, hy⟩
    · exact Or.inr ⟨hx, hz⟩

end Decimal.Binary64

namespace Yaml.Value

/-- Induction over a value and all that it holds. -/
@[elab_as_elim]
theorem induct {motive : Value → Prop} (null : motive .null) (bool : ∀ b, motive (.bool b))
    (int : ∀ n, motive (.int n)) (float : ∀ x, motive (.float x))
    (string : ∀ text, motive (.string text))
    (sequence : ∀ items, (∀ v ∈ items, motive v) → motive (.sequence items))
    (mapping : ∀ entries : Entries, (∀ e ∈ entries, motive e.1 ∧ motive e.2) →
      motive (.mapping entries))
    (tagged : ∀ name content, motive content → motive (.tagged name content)) (v : Value) :
    motive v :=
  @Value.rec motive (fun items => ∀ v ∈ items, motive v)
    (fun entries => ∀ e ∈ entries, motive e.1 ∧ motive e.2) (fun e => motive e.1 ∧ motive e.2)
    null bool int float string sequence mapping tagged
    (fun _ h => by cases h) (fun _ _ hv hrest => List.forall_mem_cons.mpr ⟨hv, hrest⟩)
    (fun _ h => by cases h) (fun _ _ he hrest => List.forall_mem_cons.mpr ⟨he, hrest⟩)
    (fun _ _ hkey hvalue => ⟨hkey, hvalue⟩) v

mutual

/-- Whether no mapping holds the same key twice, in a value and in all that it holds. -/
def wellFormed : Value → Bool
  | sequence items => wellFormedItems items
  | mapping entries => wellFormedEntries entries
  | tagged _ content => wellFormed content
  | _ => true

def wellFormedItems : List Value → Bool
  | [] => true
  | v :: rest => wellFormed v && wellFormedItems rest

def wellFormedEntries : List (Value × Value) → Bool
  | [] => true
  | (key, value) :: rest =>
    wellFormed key && wellFormed value && (rest.all fun (other, _) => !same key other) &&
      wellFormedEntries rest

end

attribute [simp] same sameItems entriesIn

theorem mapping_or_not (v : Value) :
    (∃ entries, v = .mapping entries) ∨ ∀ entries, v ≠ .mapping entries := by
  cases v with
  | mapping entries => exact Or.inl ⟨entries, rfl⟩
  | null | bool _ | int _ | float _ | string _ | sequence _ | tagged _ _ => exact Or.inr nofun

theorem wellFormedItems_iff (items : List Value) :
    wellFormedItems items = true ↔ ∀ v ∈ items, v.wellFormed = true := by
  induction items with
  | nil => simp [wellFormedItems]
  | cons v rest ih => simp [wellFormedItems, ih]

theorem wellFormedEntries_iff (entries : Entries) :
    wellFormedEntries entries = true ↔
      (entries.Pairwise fun a b => a.1.same b.1 = false) ∧
        ∀ e ∈ entries, e.1.wellFormed = true ∧ e.2.wellFormed = true := by
  induction entries with
  | nil => simp [wellFormedEntries]
  | cons e rest ih =>
      simp only [wellFormedEntries, Bool.and_eq_true, ih, List.pairwise_cons, List.all_eq_true,
        Bool.not_eq_true', List.forall_mem_cons]
      tauto

section Inversion

theorem sameItems_iff (as bs : List Value) :
    sameItems as bs = true ↔ List.Forall₂ (fun a b => a.same b = true) as bs := by
  induction as generalizing bs with
  | nil => cases bs <;> simp
  | cons a as ih => cases bs <;> simp [ih]

theorem entriesIn_iff (others entries : Entries) :
    entriesIn others entries = true ↔
      ∀ e ∈ entries, ∃ e' ∈ others, e.1.same e'.1 = true ∧ e.2.same e'.2 = true := by
  induction entries with
  | nil => simp
  | cons e rest ih => simp [ih]

variable {b : Value}

theorem null_same_iff : null.same b = true ↔ .null = b := by
  cases b <;> simp

theorem bool_same_iff {x : Bool} : (bool x).same b = true ↔ .bool x = b := by
  cases b <;> simp

theorem int_same_iff {n : Int} : (int n).same b = true ↔ .int n = b := by
  cases b <;> simp

theorem string_same_iff {text : String} : (string text).same b = true ↔ .string text = b := by
  cases b <;> simp

theorem float_same_iff {x : Decimal.Binary64} :
    (float x).same b = true ↔ ∃ y, .float y = b ∧ x.sameValue y = true := by
  cases b <;> simp

theorem sequence_same_iff {as : List Value} :
    (sequence as).same b = true ↔
      ∃ bs, .sequence bs = b ∧ List.Forall₂ (fun a b => a.same b = true) as bs := by
  cases b <;> simp [sameItems_iff]

theorem mapping_same_iff {as : Entries} :
    (mapping as).same b = true ↔
      ∃ bs : Entries, .mapping bs = b ∧ as.length = bs.length ∧
        ∀ e ∈ as, ∃ e' ∈ bs, e.1.same e'.1 = true ∧ e.2.same e'.2 = true := by
  cases b <;> simp [entriesIn_iff]

/-- A mapping of a text alone is the same as those that map this text to the same. -/
theorem entry_same_iff {text : String} {v : Value} :
    (mapping [(.string text, v)]).same b = true ↔
      ∃ w, .mapping [(.string text, w)] = b ∧ v.same w = true := by
  rw [mapping_same_iff]
  simp only [List.forall_mem_singleton]
  constructor
  · rintro ⟨bs, rfl, hlength, e, he, hkey, hvalue⟩
    obtain ⟨e', rfl⟩ := List.length_eq_one_iff.mp hlength.symm
    obtain rfl := List.mem_singleton.mp he
    exact ⟨e.2, by rw [string_same_iff.mp hkey], hvalue⟩
  · rintro ⟨w, rfl, hvalue⟩
    exact ⟨_, rfl, rfl, _, List.mem_cons_self, string_same_iff.mpr rfl, hvalue⟩

theorem tagged_same_iff {name : String} {content : Value} :
    (tagged name content).same b = true ↔
      ∃ content', .tagged name content' = b ∧ content.same content' = true := by
  cases b <;> simp

end Inversion

theorem same_refl (v : Value) : v.same v = true := by
  induction v using induct with
  | null | bool _ | int _ | string _ => simp
  | float x => exact float_same_iff.mpr ⟨x, rfl, x.sameValue_refl⟩
  | sequence items ih =>
      exact sequence_same_iff.mpr ⟨items, rfl, List.forall₂_same.mpr ih⟩
  | mapping entries ih =>
      refine mapping_same_iff.mpr ⟨entries, rfl, rfl, ?_⟩
      intro e he
      exact ⟨e, he, ih e he⟩
  | tagged name content ih => exact tagged_same_iff.mpr ⟨content, rfl, ih⟩

theorem sameItems_trans {as bs cs : List Value}
    (ih : ∀ a ∈ as, ∀ {b c : Value}, a.same b = true → b.same c = true → a.same c = true)
    (hab : List.Forall₂ (fun a b => a.same b = true) as bs)
    (hbc : List.Forall₂ (fun b c => b.same c = true) bs cs) :
    List.Forall₂ (fun a c => a.same c = true) as cs := by
  induction hab generalizing cs with
  | nil => cases hbc; exact .nil
  | cons hab _ iht =>
      cases hbc with
      | cons hbc hrest =>
          have hhead := ih _ List.mem_cons_self hab hbc
          exact .cons hhead (iht (fun a ha => ih a (List.mem_cons_of_mem _ ha)) hrest)

theorem same_trans {a b c : Value} (hab : a.same b = true) (hbc : b.same c = true) :
    a.same c = true := by
  induction a using induct generalizing b c with
  | null | bool _ | int _ | string _ =>
      simp only [null_same_iff, bool_same_iff, int_same_iff, string_same_iff] at hab
      subst hab
      exact hbc
  | float x =>
      obtain ⟨y, rfl, hxy⟩ := float_same_iff.mp hab
      obtain ⟨z, rfl, hyz⟩ := float_same_iff.mp hbc
      exact float_same_iff.mpr ⟨z, rfl, Decimal.Binary64.sameValue_trans hxy hyz⟩
  | sequence as ih =>
      obtain ⟨bs, rfl, hitems⟩ := sequence_same_iff.mp hab
      obtain ⟨cs, rfl, hitems'⟩ := sequence_same_iff.mp hbc
      have hall := sameItems_trans (fun a ha => ih a ha) hitems hitems'
      exact sequence_same_iff.mpr ⟨cs, rfl, hall⟩
  | mapping as ih =>
      obtain ⟨bs, rfl, hlen, hentries⟩ := mapping_same_iff.mp hab
      obtain ⟨cs, rfl, hlen', hentries'⟩ := mapping_same_iff.mp hbc
      refine mapping_same_iff.mpr ⟨cs, rfl, hlen.trans hlen', ?_⟩
      intro e he
      obtain ⟨e', he', hkey, hvalue⟩ := hentries e he
      obtain ⟨e'', he'', hkey', hvalue'⟩ := hentries' e' he'
      exact ⟨e'', he'', (ih e he).1 hkey hkey', (ih e he).2 hvalue hvalue'⟩
  | tagged name x ih =>
      obtain ⟨y, rfl, hxy⟩ := tagged_same_iff.mp hab
      obtain ⟨z, rfl, hyz⟩ := tagged_same_iff.mp hbc
      exact tagged_same_iff.mpr ⟨z, rfl, ih hxy hyz⟩

theorem sameItems_symm {as bs : List Value} (has : ∀ a ∈ as, a.wellFormed = true)
    (hbs : ∀ b ∈ bs, b.wellFormed = true)
    (ih : ∀ a ∈ as, ∀ {b : Value}, a.wellFormed = true → b.wellFormed = true →
      a.same b = true → b.same a = true)
    (h : List.Forall₂ (fun a b => a.same b = true) as bs) :
    List.Forall₂ (fun b a => b.same a = true) bs as := by
  induction h with
  | nil => exact .nil
  | cons hab _ iht =>
      rw [List.forall_mem_cons] at has hbs
      have hhead := ih _ List.mem_cons_self has.1 hbs.1 hab
      exact .cons hhead (iht has.2 hbs.2 fun a ha => ih a (List.mem_cons_of_mem _ ha))

/-- If each of some things has one of as many others, no two of them the same one, then all the
others are taken. -/
theorem all_taken {α β : Type} {takes : α → β → Prop} {as : List α} {bs : List β}
    (hlen : as.length = bs.length) (htakes : ∀ a ∈ as, ∃ b ∈ bs, takes a b)
    (halone : as.Pairwise fun a a' => ∀ b ∈ bs, takes a b → ¬ takes a' b) :
    ∀ b ∈ bs, ∃ a ∈ as, takes a b := by
  induction as generalizing bs with
  | nil =>
      intro b hb
      rw [List.length_eq_zero_iff.mp hlen.symm] at hb
      cases hb
  | cons a as ih =>
      rw [List.pairwise_cons] at halone
      obtain ⟨taken, hmem, ha⟩ := htakes a List.mem_cons_self
      obtain ⟨front, back, rfl⟩ := List.append_of_mem hmem
      have hsub : ∀ b ∈ front ++ back, b ∈ front ++ taken :: back := by
        intro b hb
        rcases List.mem_append.mp hb with hb | hb
        · exact List.mem_append_left _ hb
        · exact List.mem_append_right _ (List.mem_cons_of_mem _ hb)
      have hrest : ∀ a' ∈ as, ∃ b ∈ front ++ back, takes a' b := by
        intro a' ha'
        obtain ⟨b, hb, hab⟩ := htakes a' (List.mem_cons_of_mem _ ha')
        have hne : b ≠ taken := by
          rintro rfl
          exact halone.1 a' ha' b hb ha hab
        refine ⟨b, ?_, hab⟩
        simpa [hne] using hb
      have hfree := halone.2.imp fun {x y} (h : ∀ b ∈ front ++ taken :: back, takes x b → ¬ takes y b)
        b hb => h b (hsub b hb)
      have hlen' : as.length = (front ++ back).length := by
        simp only [List.length_cons, List.length_append] at hlen ⊢
        omega
      have hall := ih hlen' hrest hfree
      intro b hb
      by_cases hb' : b ∈ front ++ back
      · obtain ⟨a', ha', hab⟩ := hall b hb'
        exact ⟨a', List.mem_cons_of_mem _ ha', hab⟩
      · have heq : b = taken := by
          simp only [List.mem_append, List.mem_cons, not_or] at hb hb'
          tauto
        exact ⟨a, List.mem_cons_self, heq ▸ ha⟩

theorem same_symm {a b : Value} (ha : a.wellFormed = true) (hb : b.wellFormed = true)
    (h : a.same b = true) : b.same a = true := by
  induction a using induct generalizing b with
  | null | bool _ | int _ | string _ =>
      simp only [null_same_iff, bool_same_iff, int_same_iff, string_same_iff] at h
      subst h
      exact same_refl _
  | float x =>
      obtain ⟨y, rfl, hxy⟩ := float_same_iff.mp h
      exact float_same_iff.mpr ⟨x, rfl, Decimal.Binary64.sameValue_symm hxy⟩
  | sequence as ih =>
      obtain ⟨bs, rfl, hitems⟩ := sequence_same_iff.mp h
      simp only [wellFormed, wellFormedItems_iff] at ha hb
      exact sequence_same_iff.mpr ⟨as, rfl, sameItems_symm ha hb (fun a ha => ih a ha) hitems⟩
  | mapping as ih =>
      obtain ⟨bs, rfl, hlen, hentries⟩ := mapping_same_iff.mp h
      simp only [wellFormed, wellFormedEntries_iff] at ha hb
      refine mapping_same_iff.mpr ⟨as, rfl, hlen.symm, ?_⟩
      have halone : as.Pairwise fun e e' => ∀ f ∈ bs,
          (e.1.same f.1 = true ∧ e.2.same f.2 = true) →
            ¬ (e'.1.same f.1 = true ∧ e'.2.same f.2 = true) := by
        refine List.Pairwise.imp_of_mem ?_ ha.1
        intro e e' _ he' hne f hf hef hef'
        have hback : f.1.same e'.1 = true :=
          (ih e' he').1 (ha.2 e' he').1 (hb.2 f hf).1 hef'.1
        exact Bool.false_ne_true (hne.symm.trans (same_trans hef.1 hback))
      intro f hf
      obtain ⟨e, he, hkey, hvalue⟩ := all_taken hlen hentries halone f hf
      exact ⟨e, he, (ih e he).1 (ha.2 e he).1 (hb.2 f hf).1 hkey,
        (ih e he).2 (ha.2 e he).2 (hb.2 f hf).2 hvalue⟩
  | tagged name x ih =>
      obtain ⟨y, rfl, hxy⟩ := tagged_same_iff.mp h
      exact tagged_same_iff.mpr ⟨x, rfl, ih ha hb hxy⟩

/-- Two spellings of a key are told apart from a third key together. -/
theorem same_congr_left {a b : Value} (ha : a.wellFormed = true) (hb : b.wellFormed = true)
    (h : a.same b = true) (c : Value) : a.same c = b.same c := by
  rw [Bool.eq_iff_iff]
  exact ⟨same_trans (same_symm ha hb h), same_trans h⟩

theorem same_congr_right {a b : Value} (ha : a.wellFormed = true) (hb : b.wellFormed = true)
    (h : a.same b = true) (c : Value) : c.same a = c.same b := by
  rw [Bool.eq_iff_iff]
  exact ⟨fun hca => same_trans hca h, fun hcb => same_trans hcb (same_symm ha hb h)⟩

end Yaml.Value
end Readiness
