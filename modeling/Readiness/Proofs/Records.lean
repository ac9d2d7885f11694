import Readiness.Proofs.Faults
import Mathlib.Data.List.Nodup
import Mathlib.Data.List.Pairwise

/-!
Records as mappings describe them. Entries are read in their order, but what a field becomes rests
on the values under its name alone: one value sets it, none leaves it at its default, and two are
refused. So a record is what it would be without a field's entries, with that field set at the end.
-/

namespace Readiness.Config

open Decoder
open Yaml (Value Entries)

section Results

variable {α β ε : Type} {x : Except ε α}

theorem toOption_bind (x : Except ε α) (k : α → Except ε β) :
    (x >>= k).toOption = x.toOption.bind fun a => (k a).toOption := by
  cases x <;> rfl

theorem toOption_map (x : Except ε α) (g : α → β) : (x.map g).toOption = x.toOption.map g := by
  cases x <;> rfl

theorem toOption_eq_some_iff {a : α} : x.toOption = some a ↔ x = .ok a := by
  cases x <;> simp [Except.toOption]

end Results

section Names

/-- The entries of a mapping, under tags or not. -/
def entriesOf (v : Value) : Entries :=
  match v.untagged with
  | .mapping es => es
  | _ => []

/-- The name that a key is, under tags or not. -/
def nameOf? (key : Value) : Option String :=
  match key.untagged with
  | .string text => some text
  | _ => none

/-- The values of the entries with a name. -/
def valuesOf (name : String) (es : Entries) : List Value :=
  (es.filter fun e => nameOf? e.1 == some name).map Prod.snd

/-- The entries without those with a name. -/
def withoutName (name : String) (es : Entries) : Entries :=
  es.filter fun e => nameOf? e.1 != some name

variable {name : String} {key v : Value} {es rest : Entries}

theorem toOption_string (expected : String) (key : Value) :
    (string expected key).toOption = nameOf? key := by
  rw [string, nameOf?]
  cases key.untagged <;> rfl

theorem valuesOf_cons_of_eq (h : nameOf? key = some name) :
    valuesOf name ((key, v) :: rest) = v :: valuesOf name rest := by
  simp [valuesOf, h]

theorem valuesOf_cons_of_ne (h : nameOf? key ≠ some name) :
    valuesOf name ((key, v) :: rest) = valuesOf name rest := by
  simp [valuesOf, h]

theorem withoutName_cons_of_eq (h : nameOf? key = some name) :
    withoutName name ((key, v) :: rest) = withoutName name rest := by
  simp [withoutName, h]

theorem withoutName_cons_of_ne (h : nameOf? key ≠ some name) :
    withoutName name ((key, v) :: rest) = (key, v) :: withoutName name rest := by
  simp [withoutName, h]

theorem valuesOf_eq_nil_iff :
    valuesOf name es = [] ↔ ∀ e ∈ es, nameOf? e.1 ≠ some name := by
  simp [valuesOf]

theorem withoutName_of_valuesOf_eq_nil (h : valuesOf name es = []) : withoutName name es = es := by
  rw [valuesOf_eq_nil_iff] at h
  simpa [withoutName] using h

theorem valuesOf_withoutName_of_ne {other : String} (h : other ≠ name) :
    valuesOf other (withoutName name es) = valuesOf other es := by
  rw [valuesOf, withoutName, List.filter_filter, valuesOf]
  congr 1
  refine List.filter_congr fun e _ => ?_
  by_cases hother : nameOf? e.1 = some other <;> simp [hother, h]

end Names

section Fields

variable {α : Type}

/-- A field set from a value, if the value fits. -/
def Decoder.Field.set? (f : Decoder.Field α) (v : Value) (a : α) : Option α := (f.set v a).toOption

/-- Two fields that can be set in either order. -/
def Independent (f g : Decoder.Field α) : Prop :=
  ∀ v w a, (f.set? v a).bind (g.set? w) = (g.set? w a).bind (f.set? v)

/-- Fields of different names, none of which another one touches. -/
structure Separate (fields : List (Decoder.Field α)) : Prop where
  names : (fields.map Decoder.Field.name).Nodup
  independent : fields.Pairwise Independent

/-- What entries make of a record, if they can be read. -/
def read? (fields : List (Decoder.Field α)) (seen : List String) (a : α) (es : Entries) :
    Option α :=
  (entries fields seen a es).toOption

/-- The field as the entries have it. -/
def settle? (es : Entries) (f : Decoder.Field α) (a : α) : Option α :=
  match valuesOf f.name es with
  | [] => some a
  | [v] => f.set? v a
  | _ => none

variable {fields : List (Decoder.Field α)} {f g : Decoder.Field α} {seen seen' : List String}
  {name : String} {key v : Value} {es rest : Entries} {a : α}

theorem settle?_of_valuesOf_nil (h : valuesOf f.name es = []) : settle? es f a = some a := by
  simp only [settle?, h]

theorem settle?_of_valuesOf_singleton (h : valuesOf f.name es = [v]) :
    settle? es f a = f.set? v a := by
  simp only [settle?, h]

theorem read?_cons (fields : List (Decoder.Field α)) (seen : List String) (a : α) (key v : Value)
    (rest : Entries) :
    read? fields seen a ((key, v) :: rest) = (nameOf? key).bind fun name =>
      match fields.find? fun f => f.name == name with
      | none => read? fields seen a rest
      | some f =>
        if seen.contains name then none
        else (f.set? v a).bind fun a => read? fields (name :: seen) a rest := by
  rw [read?, entries, toOption_bind, toOption_string]
  refine Option.bind_congr fun name _ => ?_
  cases fields.find? fun f => f.name == name with
  | none => rfl
  | some f =>
      dsimp only
      split
      · rfl
      · exact toOption_bind _ _

theorem Separate.find?_name (h : Separate fields) (hf : f ∈ fields) :
    (fields.find? fun g => g.name == f.name) = some f := by
  cases hfind : fields.find? fun g => g.name == f.name with
  | none => simpa using List.find?_eq_none.mp hfind f hf
  | some g =>
      have hname : g.name = f.name := by simpa using List.find?_some hfind
      have hmem := List.mem_of_find?_eq_some hfind
      exact congrArg some (List.inj_on_of_nodup_map h.names hmem hf hname)

theorem Separate.comm (h : Separate fields) (hf : f ∈ fields) (hg : g ∈ fields)
    (hne : g.name ≠ f.name) : Independent f g := by
  have hsymm : Std.Symm (Independent (α := α)) := ⟨fun _ _ h v w a => (h w v a).symm⟩
  exact h.independent.forall hf hg fun heq => hne (congrArg _ heq.symm)

/-- Which names came before counts only for the names still to come. -/
theorem read?_seen_congr
    (h : ∀ e ∈ es, ∀ name ∈ nameOf? e.1, seen.contains name = seen'.contains name) :
    read? fields seen a es = read? fields seen' a es := by
  induction es generalizing seen seen' a with
  | nil => rfl
  | cons e rest ih =>
      obtain ⟨key, v⟩ := e
      rw [List.forall_mem_cons] at h
      rw [read?_cons, read?_cons]
      refine Option.bind_congr fun name hname => ?_
      split
      · exact ih h.2
      · rw [h.1 name hname]
        split
        · rfl
        · refine Option.bind_congr fun b _ => ih fun e he other hother => ?_
          rw [List.contains_cons, List.contains_cons, h.2 e he other hother]

theorem read?_seen_of_valuesOf_eq_nil (h : valuesOf name es = []) :
    read? fields (name :: seen) a es = read? fields seen a es := by
  rw [valuesOf_eq_nil_iff] at h
  refine read?_seen_congr fun e he other hother => ?_
  have hne : other ≠ name := by
    rintro rfl
    exact h e he hother
  rw [List.contains_cons, beq_eq_false_iff_ne.mpr hne, Bool.false_or]

/-- A name that came before is refused. -/
theorem read?_of_seen (h : Separate fields) (hf : f ∈ fields) (hseen : f.name ∈ seen)
    (hes : valuesOf f.name es ≠ []) : read? fields seen a es = none := by
  induction es generalizing seen a with
  | nil => exact absurd rfl hes
  | cons e rest ih =>
      obtain ⟨key, v⟩ := e
      rw [read?_cons]
      cases hname : nameOf? key with
      | none => rfl
      | some name =>
          rw [Option.bind_some]
          by_cases hkey : name = f.name
          · rw [hkey, h.find?_name hf]
            simp [hseen]
          · rw [valuesOf_cons_of_ne (by simpa [hname] using hkey)] at hes
            split
            · exact ih hseen hes
            · split
              · rfl
              · refine Option.bind_eq_none_iff.mpr fun b _ => ?_
                exact ih (List.mem_cons_of_mem _ hseen) hes

/-- A field that no entry names may be set before the others or after them. -/
theorem set?_bind_read? (h : Separate fields) (hf : f ∈ fields) (hes : valuesOf f.name es = []) :
    ((f.set? v a).bind fun a => read? fields seen a es) =
      (read? fields seen a es).bind (f.set? v) := by
  induction es generalizing seen a with
  | nil => exact Option.bind_fun_some _
  | cons e rest ih =>
      obtain ⟨key, w⟩ := e
      have hkey : nameOf? key ≠ some f.name := valuesOf_eq_nil_iff.mp hes _ List.mem_cons_self
      rw [valuesOf_cons_of_ne hkey] at hes
      simp only [read?_cons]
      cases hname : nameOf? key with
      | none => exact Option.bind_fun_none _
      | some name =>
          simp only [Option.bind_some]
          cases hfind : fields.find? fun g => g.name == name with
          | none => exact ih hes
          | some g =>
              have hgname : g.name = name := by simpa using List.find?_some hfind
              have hne : g.name ≠ f.name := by
                rintro heq
                exact hkey (hname.trans (congrArg some (hgname.symm.trans heq)))
              have hcomm := h.comm hf (List.mem_of_find?_eq_some hfind) hne
              dsimp only
              split
              · exact Option.bind_fun_none _
              · rw [Option.bind_assoc]
                simp only [← ih hes]
                rw [← Option.bind_assoc, hcomm, Option.bind_assoc]

/-- A record is what it is without a field's entries, with that field set at the end. -/
theorem read?_eq_settle? (h : Separate fields) (hf : f ∈ fields) (hseen : f.name ∉ seen) :
    read? fields seen a es =
      (read? fields seen a (withoutName f.name es)).bind (settle? es f) := by
  induction es generalizing seen a with
  | nil => rfl
  | cons e rest ih =>
      obtain ⟨key, v⟩ := e
      -- An entry of the field either waits for the others to be read, or another one refuses it.
      by_cases hkey : nameOf? key = some f.name
      · rw [withoutName_cons_of_eq hkey, read?_cons, hkey, Option.bind_some, h.find?_name hf]
        simp only [List.contains_iff_mem, hseen, if_false]
        by_cases hrest : valuesOf f.name rest = []
        · have hsettle : settle? ((key, v) :: rest) f = f.set? v := by
            funext b
            rw [settle?, valuesOf_cons_of_eq hkey, hrest]
          simp only [read?_seen_of_valuesOf_eq_nil hrest]
          rw [withoutName_of_valuesOf_eq_nil hrest, hsettle, set?_bind_read? h hf hrest]
        · have hsettle : settle? ((key, v) :: rest) f = fun _ => none := by
            funext b
            obtain ⟨w, more, hw⟩ := List.exists_cons_of_ne_nil hrest
            rw [settle?, valuesOf_cons_of_eq hkey, hw]
          rw [hsettle, Option.bind_fun_none, Option.bind_eq_none_iff]
          exact fun b _ => read?_of_seen h hf List.mem_cons_self hrest
      · have hsettle : settle? ((key, v) :: rest) f = settle? rest f := by
          funext b
          rw [settle?, valuesOf_cons_of_ne hkey, settle?]
        rw [withoutName_cons_of_ne hkey, hsettle, read?_cons, read?_cons, Option.bind_assoc]
        refine Option.bind_congr fun name hname => ?_
        split
        · exact ih hseen
        · split
          · rfl
          · rw [Option.bind_assoc]
            refine Option.bind_congr fun b _ => ih ?_
            have hne : f.name ≠ name := by
              rintro rfl
              exact hkey hname
            exact List.not_mem_cons_of_ne_of_not_mem hne hseen

/-- Without the entries of any field a record is left at its defaults. -/
theorem read?_of_unnamed (hkeys : ∀ e ∈ es, (nameOf? e.1).isSome)
    (hes : ∀ f ∈ fields, valuesOf f.name es = []) : read? fields seen a es = some a := by
  induction es with
  | nil => rfl
  | cons e rest ih =>
      obtain ⟨key, v⟩ := e
      rw [List.forall_mem_cons] at hkeys
      obtain ⟨name, hname⟩ := Option.isSome_iff_exists.mp hkeys.1
      have hnone : (fields.find? fun f => f.name == name) = none := by
        rw [List.find?_eq_none]
        intro f hf hfname
        have hkey := valuesOf_eq_nil_iff.mp (hes f hf) _ List.mem_cons_self
        exact hkey (hname.trans (congrArg some (eq_of_beq hfname).symm))
      rw [read?_cons, hname, Option.bind_some, hnone]
      refine ih hkeys.2 fun f hf => valuesOf_eq_nil_iff.mpr ?_
      exact fun e he => valuesOf_eq_nil_iff.mp (hes f hf) e (List.mem_cons_of_mem _ he)

/-- All of some fields as the entries have them, the last one first. -/
def settleAll? (es : Entries) (a : α) (fields : List (Decoder.Field α)) : Option α :=
  fields.foldr (fun f r => r.bind (settle? es f)) (some a)

theorem settleAll?_congr (h : ∀ f ∈ fields, settle? es f = settle? rest f) :
    settleAll? es a fields = settleAll? rest a fields := by
  refine List.foldr_ext _ _ _ fun f hf r => ?_
  rw [h f hf]

theorem settle?_withoutName (hne : g.name ≠ f.name) :
    settle? (withoutName f.name es) g = settle? es g := by
  funext b
  rw [settle?, settle?, valuesOf_withoutName_of_ne hne]

theorem read?_eq_settleAll?_of_append (h : Separate fields) (done rest' : List (Decoder.Field α))
    (hfields : fields = done ++ rest') (hkeys : ∀ e ∈ es, (nameOf? e.1).isSome)
    (hdone : ∀ f ∈ done, valuesOf f.name es = []) :
    read? fields [] a es = settleAll? es a rest' := by
  -- The entries of one field after the other are taken away, until none is left that names a field.
  induction rest' generalizing done es with
  | nil =>
      rw [List.append_nil] at hfields
      exact read?_of_unnamed hkeys (hfields ▸ hdone)
  | cons f rest' ih =>
      have hf : f ∈ fields := by simp [hfields]
      have hrest : read? fields [] a (withoutName f.name es) =
          settleAll? (withoutName f.name es) a rest' := by
        refine ih (done ++ [f]) (by simp [hfields])
          (fun e he => hkeys e (List.mem_of_mem_filter he)) ?_
        rw [List.forall_mem_append, List.forall_mem_singleton]
        refine ⟨fun g hg => ?_, ?_⟩
        · exact valuesOf_eq_nil_iff.mpr fun e he =>
            valuesOf_eq_nil_iff.mp (hdone g hg) e (List.mem_of_mem_filter he)
        · exact valuesOf_eq_nil_iff.mpr fun e he => by simpa using List.of_mem_filter he
      have hsettle : settleAll? (withoutName f.name es) a rest' = settleAll? es a rest' := by
        refine settleAll?_congr fun g hg => settle?_withoutName ?_
        have hnames := h.names
        rw [hfields, List.map_append, List.map_cons] at hnames
        have hnot := (List.nodup_cons.mp hnames.of_append_right).1
        exact fun heq => hnot (heq ▸ List.mem_map_of_mem hg)
      rw [read?_eq_settle? h hf List.not_mem_nil, hrest, hsettle]
      rfl

/-- A record is read field by field. -/
theorem read?_eq_settleAll? (h : Separate fields) (hkeys : ∀ e ∈ es, (nameOf? e.1).isSome) :
    read? fields [] a es = settleAll? es a fields :=
  read?_eq_settleAll?_of_append h [] fields (List.nil_append fields).symm hkeys
    (List.forall_mem_nil _)

end Fields

section Decoders

variable {α β : Type} {d : Decoder α}

/-- A decoder of records whose fields are separate. -/
structure Record (d : Decoder α) where
  expected : String
  fields : List (Decoder.Field α)
  default : α
  eq_record : d = record expected fields default
  separate : Separate fields

theorem set?_field (name : String) (decode : Decoder β) (put : β → α → α) (v : Value) :
    (field name decode put).set? v = fun a => (decode v).toOption.map fun b => put b a := by
  funext a
  exact toOption_map _ _

theorem independent_field {γ : Type} {name name' : String} {decode : Decoder β}
    {decode' : Decoder γ} {put : β → α → α} {put' : γ → α → α}
    (h : ∀ b c a, put' c (put b a) = put b (put' c a)) :
    Independent (field name decode put) (field name' decode' put') := by
  intro v w a
  simp only [set?_field]
  cases (decode v).toOption <;> cases (decode' w).toOption <;> simp [h]

theorem Record.toOption_eq (r : Record d) (v : Value) :
    (d v).toOption = match v.untagged with
      | .mapping es => read? r.fields [] r.default es
      | .null => some r.default
      | _ => none := by
  have hd : d v = _ := congrFun r.eq_record v
  rw [hd, record]
  cases v.untagged <;> rfl

def settingsRecord : Record settingsDecoder where
  expected := _
  fields := _
  default := _
  eq_record := rfl
  separate := by
    refine ⟨by decide, ?_⟩
    simp only [List.pairwise_cons, List.forall_mem_cons, List.not_mem_nil, IsEmpty.forall_iff,
      implies_true, List.Pairwise.nil, and_true]
    and_intros <;> exact independent_field fun _ _ _ => rfl

def companionToolRecord : Record companionToolDecoder where
  expected := _
  fields := _
  default := _
  eq_record := rfl
  separate := by
    refine ⟨by decide, ?_⟩
    simp only [List.pairwise_cons, List.forall_mem_cons, List.not_mem_nil, IsEmpty.forall_iff,
      implies_true, List.Pairwise.nil, and_true]
    and_intros <;> exact independent_field fun _ _ _ => rfl

def checkSettingsRecord : Record checkSettingsDecoder where
  expected := _
  fields := _
  default := _
  eq_record := rfl
  separate := by
    refine ⟨by decide, ?_⟩
    simp only [List.pairwise_cons, List.forall_mem_cons, List.not_mem_nil, IsEmpty.forall_iff,
      implies_true, List.Pairwise.nil, and_true]
    and_intros <;> exact independent_field fun _ _ _ => rfl

def configRecord : Record decode where
  expected := _
  fields := _
  default := _
  eq_record := rfl
  separate := by
    refine ⟨by decide, ?_⟩
    simp only [List.pairwise_cons, List.forall_mem_cons, List.not_mem_nil, IsEmpty.forall_iff,
      implies_true, List.Pairwise.nil, and_true]
    exact independent_field fun _ _ _ => rfl

end Decoders
end Readiness.Config
