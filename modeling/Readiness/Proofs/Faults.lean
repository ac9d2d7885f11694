import Readiness.Proofs.Steps
import Readiness.Proofs.UnsetEntries

/-!
What is at fault when merged layers describe no configuration. A decoder fails for an entry that
does not fit, and such an entry comes from one of the layers, which then fails alone as well. Only
a field that is there twice can be the doing of the merge, when layers spell its key differently.
-/

namespace Readiness.Config

open Decoder
open Yaml (Value Entries)

section Merged

variable {key : Value} {e : Value × Value} {old result es : Entries}

theorem laid_eq_some_iff {before : Option Value} {value w : Value} :
    laid before value = some w ↔
      value.isNull = false ∧ (match before with
        | some before => overlaid before value
        | none => value) = w := by
  cases before <;> simp [laid]

theorem mem_of_mem_settled {value : Option Value} (h : e ∈ settled key value es) :
    e ∈ es ∨ value = some e.2 ∧ e.1.same key = true := by
  cases value with
  | none => exact Or.inl (Entries.mem_of_mem_erase h)
  | some value =>
      refine (Entries.mem_of_mem_insert h).imp_right ?_
      rintro ⟨rfl, hsame⟩
      exact ⟨rfl, hsame⟩

/-- An entry of merged entries was there before, or is one that was laid over the others, perhaps
under another spelling of its key. -/
theorem mem_of_mem_overlaidEntries (h : e ∈ overlaidEntries old result es) :
    e ∈ result ∨
      ∃ key value, (key, value) ∈ es ∧ laid (Entries.get? key old) value = some e.2 ∧
        e.1.same key = true := by
  induction es generalizing result with
  | nil => exact Or.inl (by simpa only [overlaidEntries] using h)
  | cons head rest ih =>
      obtain ⟨key, value⟩ := head
      rw [overlaidEntries_cons] at h
      obtain h | ⟨key', value', hmem, h⟩ := ih h
      · refine (mem_of_mem_settled h).imp_right ?_
        rintro ⟨hlaid, hsame⟩
        exact ⟨key, value, List.mem_cons_self, hlaid, hsame⟩
      · exact Or.inr ⟨key', value', List.mem_cons_of_mem _ hmem, h⟩

end Merged

section Names

variable {expected text : String} {a b : Value}

theorem same_untagged (h : a.same b = true) : a.untagged.same b.untagged = true := by
  induction a using Value.induct generalizing b with
  | tagged name content ih =>
      obtain ⟨content', rfl, hcontent⟩ := Value.tagged_same_iff.mp h
      simpa only [Value.untagged] using ih hcontent
  | null | bool _ | int _ | float _ | string _ | sequence _ _ | mapping _ _ =>
      cases b with
      | tagged _ _ => cases h
      | _ => exact h

theorem string_ok_iff (v : Value) : string expected v = .ok text ↔ v.untagged = .string text := by
  rw [string]
  split
  · rename_i found h
    simp [h]
  · rename_i h
    exact iff_of_false nofun (h text)

/-- Spellings of one key name the same field. -/
theorem string_ok_congr (h : a.same b = true) :
    string expected a = .ok text ↔ string expected b = .ok text := by
  have huntagged := same_untagged h
  rw [string_ok_iff, string_ok_iff]
  constructor
  · intro ha
    rw [ha, Value.string_same_iff] at huntagged
    exact huntagged.symm
  · intro hb
    rw [hb] at huntagged
    generalize a.untagged = w at huntagged
    cases w with
    | string t => simpa using huntagged
    | _ => cases huntagged

end Names

section Fault

/-- What is at fault in a value of each field. -/
abbrev Faults (α : Type) := Decoder.Field α → Value → Prop

variable {α β : Type} {d : Decoder α} {fault : Value → Prop} {v base overlay : Value}
  {old result es : Entries} {fields : List (Decoder.Field α)} {faults : Faults α}

/-- A property of values for which a decoder fails, and but for which it fails only for a field
that is there twice. Merged mappings have it only if one of them has; the upper one then also has
it without its nulls, as it is when it is laid over nothing. -/
structure Finds (d : Decoder α) (fault : Value → Prop) : Prop where
  found : ∀ {v m}, d v = .error m → (∃ field, m = .duplicate field) ∨ fault v
  fails : ∀ {v}, fault v → ∃ m, d v = .error m
  merged : ∀ {old es : Entries}, fault (overlaid (.mapping old) (.mapping es)) →
    fault (.mapping old) ∨ fault (.mapping es)
  alone : ∀ {old es : Entries}, es.Proper → fault (overlaid (.mapping old) (.mapping es)) →
    fault (.mapping old) ∨ fault (overlaid (.mapping []) (.mapping es))

def Attributable (d : Decoder α) : Prop := ∃ fault, Finds d fault

theorem Finds.overlaid (h : Finds d fault) (hfault : fault (overlaid base overlay)) :
    fault base ∨ fault overlay := by
  obtain ⟨es, rfl⟩ | hnot := overlay.mapping_or_not
  · obtain ⟨old, rfl⟩ | hold := base.mapping_or_not
    · exact h.merged hfault
    · rw [overlaid_on_not_mapping hold] at hfault
      exact Or.inr hfault
  · rw [overlaid_of_not_mapping hnot] at hfault
    exact Or.inr hfault

theorem finds_of_mapping_fails (h : ∀ es, ∃ m, d (.mapping es) = .error m) :
    Finds d fun v => ∃ m, d v = .error m where
  found hd := Or.inr ⟨_, hd⟩
  fails := id
  merged _ := Or.inl (h _)
  alone _ _ := Or.inl (h _)

theorem attributable_of_mapping_fails (h : ∀ es, ∃ m, d (.mapping es) = .error m) :
    Attributable d := ⟨_, finds_of_mapping_fails h⟩

def FieldAttributable (f : Decoder.Field α) : Prop :=
  ∃ fault, ∀ a, Finds (fun v => f.set v a) fault

theorem field_attributable {decode : Decoder β} (h : Attributable decode) (name : String)
    (put : β → α → α) : FieldAttributable (field name decode put) := by
  obtain ⟨fault, h⟩ := h
  refine ⟨fault, fun a => ⟨?_, ?_, h.merged, h.alone⟩⟩
  · intro v m hset
    exact h.found (map_eq_error_iff.mp hset)
  · intro v hfault
    obtain ⟨m, hm⟩ := h.fails hfault
    exact ⟨m, map_eq_error_iff.mpr hm⟩

/-- An entry is at fault whose key names no field, or whose value is at fault for its field. -/
def EntryAtFault (fields : List (Decoder.Field α)) (faults : Faults α) (e : Value × Value) :
    Prop :=
  ∀ name, string "field identifier" e.1 = .ok name →
    ∃ f, (fields.find? fun f => f.name == name) = some f ∧ faults f e.2

def RecordAtFault (fields : List (Decoder.Field α)) (faults : Faults α) (v : Value) : Prop :=
  match v.untagged with
  | .mapping es => ∃ e ∈ es, EntryAtFault fields faults e
  | .null => False
  | _ => True

theorem EntryAtFault.congr {key key' : Value} (h : key.same key' = true) :
    EntryAtFault fields faults (key, v) ↔ EntryAtFault fields faults (key', v) :=
  forall_congr' fun _ => imp_congr_left (string_ok_congr h)

theorem entryAtFault_iff_of_name {key : Value} {name : String}
    (h : string "field identifier" key = .ok name) :
    EntryAtFault fields faults (key, v) ↔
      ∃ f, (fields.find? fun f => f.name == name) = some f ∧ faults f v := by
  simp only [EntryAtFault, h, Except.ok.injEq, forall_eq']

/-- Each field finds what is at fault for it, whatever it is put into. -/
def AllFind (fields : List (Decoder.Field α)) (faults : Faults α) : Prop :=
  ∀ f ∈ fields, ∀ a, Finds (fun v => f.set v a) (faults f)

theorem entries_found (h : AllFind fields faults) {seen : List String} {a : α} {m : Mismatch}
    (herror : entries fields seen a es = .error m) :
    (∃ field, m = .duplicate field) ∨ ∃ e ∈ es, EntryAtFault fields faults e := by
  induction es generalizing seen a with
  | nil => cases herror
  | cons e rest ih =>
      obtain ⟨key, value⟩ := e
      rw [List.exists_mem_cons_iff]
      obtain hkey | ⟨name, hname, herror⟩ := bind_eq_error_iff.mp herror
      · exact Or.inr (Or.inl fun name hname => nomatch hkey.symm.trans hname)
      · split at herror
        · exact (ih herror).imp_right Or.inr
        · rename_i f hfind
          split at herror
          · cases herror
            exact Or.inl ⟨name, rfl⟩
          · obtain hset | ⟨a', -, hrest⟩ := bind_eq_error_iff.mp herror
            · have hf := (h f (List.mem_of_find?_eq_some hfind) a).found hset
              refine hf.imp_right fun hvalue => Or.inl ?_
              exact (entryAtFault_iff_of_name hname).mpr ⟨f, hfind, hvalue⟩
            · exact (ih hrest).imp_right Or.inr

theorem not_entryAtFault_of_entries (h : AllFind fields faults) {seen : List String} {a b : α}
    (hok : entries fields seen a es = .ok b) : ∀ e ∈ es, ¬ EntryAtFault fields faults e := by
  induction es generalizing seen a with
  | nil => exact List.forall_mem_nil _
  | cons e rest ih =>
      obtain ⟨key, value⟩ := e
      obtain ⟨name, hname, hok⟩ := bind_eq_ok_iff.mp hok
      rw [List.forall_mem_cons, entryAtFault_iff_of_name hname]
      split at hok
      · rename_i hnone
        refine ⟨?_, ih hok⟩
        rintro ⟨f, hfind, -⟩
        exact nomatch hnone.symm.trans hfind
      · rename_i f hfind
        split at hok
        · cases hok
        · obtain ⟨a', hset, hok⟩ := bind_eq_ok_iff.mp hok
          refine ⟨?_, ih hok⟩
          rintro ⟨f', hfind', hvalue⟩
          obtain rfl := Option.some.inj (hfind.symm.trans hfind')
          obtain ⟨m, hm⟩ := (h f (List.mem_of_find?_eq_some hfind) a).fails hvalue
          exact nomatch hset.symm.trans hm

/-- An entry at fault among merged ones was at fault among those below, or comes from one at fault
that was laid over them. -/
theorem entryAtFault_overlaid (h : AllFind fields faults) (a : α)
    {e : Value × Value} (he : e ∈ overlaidEntries old old es)
    (hfault : EntryAtFault fields faults e) :
    (∃ e ∈ old, EntryAtFault fields faults e) ∨
      ∃ e ∈ es, e.2.isNull = false ∧ EntryAtFault fields faults e := by
  obtain ⟨key', w⟩ := e
  obtain he | ⟨key, value, hmem, hlaid, hsame⟩ := mem_of_mem_overlaidEntries he
  · exact Or.inl ⟨_, he, hfault⟩
  · rw [EntryAtFault.congr hsame] at hfault
    obtain ⟨hnull, rfl⟩ := laid_eq_some_iff.mp hlaid
    cases hname : string "field identifier" key with
    | error m => exact Or.inr ⟨_, hmem, hnull, fun name h => nomatch hname.symm.trans h⟩
    | ok name =>
        cases hget : Entries.get? key old with
        | none =>
            rw [hget] at hfault
            exact Or.inr ⟨_, hmem, hnull, hfault⟩
        | some b =>
            rw [hget] at hfault
            -- The entry below may spell the key in a third way, and it names the same field.
            obtain ⟨other, hother, hsame⟩ := Entries.mem_of_get? hget
            obtain ⟨f, hfind, hf⟩ := (entryAtFault_iff_of_name hname).mp hfault
            obtain hf | hf := (h f (List.mem_of_find?_eq_some hfind) a).overlaid hf
            · have hbelow := (entryAtFault_iff_of_name hname).mpr ⟨f, hfind, hf⟩
              exact Or.inl ⟨_, hother, (EntryAtFault.congr hsame).mpr hbelow⟩
            · exact Or.inr ⟨_, hmem, hnull, (entryAtFault_iff_of_name hname).mpr ⟨f, hfind, hf⟩⟩

theorem recordAtFault_overlaid (h : AllFind fields faults) (a : α)
    (hfault : RecordAtFault fields faults (overlaid (.mapping old) (.mapping es))) :
    RecordAtFault fields faults (.mapping old) ∨
      ∃ e ∈ es, e.2.isNull = false ∧ EntryAtFault fields faults e := by
  rw [overlaid] at hfault
  obtain ⟨e, he, hfault⟩ := hfault
  exact entryAtFault_overlaid h a he hfault

theorem record_finds (h : AllFind fields faults) (expected : String) (default : α) :
    Finds (record expected fields default) (RecordAtFault fields faults) where
  found {v m} herror := by
    rw [record] at herror
    rw [RecordAtFault]
    cases hv : v.untagged with
    | mapping es =>
        rw [hv] at herror
        exact entries_found h herror
    | null =>
        rw [hv] at herror
        cases herror
    | bool _ | int _ | float _ | string _ | sequence _ | tagged _ _ => exact Or.inr trivial
  fails {v} hfault := by
    rw [RecordAtFault] at hfault
    rw [record]
    cases hv : v.untagged with
    | mapping es =>
        rw [hv] at hfault
        obtain ⟨e, he, hfault⟩ := hfault
        dsimp only
        cases hok : entries fields [] default es with
        | error m => exact ⟨m, rfl⟩
        | ok b => exact absurd hfault (not_entryAtFault_of_entries h hok e he)
    | null =>
        rw [hv] at hfault
        exact hfault.elim
    | bool _ | int _ | float _ | string _ | sequence _ | tagged _ _ => exact ⟨_, rfl⟩
  merged {old es} hfault := by
    refine (recordAtFault_overlaid h default hfault).imp_right ?_
    rintro ⟨e, he, -, hfault⟩
    exact ⟨e, he, hfault⟩
  alone {old es} hes hfault := by
    refine (recordAtFault_overlaid h default hfault).imp_right ?_
    rintro ⟨⟨key, value⟩, he, hnull, hfault⟩
    have hget : Entries.get? key (overlaidEntries [] [] es) = some value := by
      rw [get?_overlaidEntries Entries.proper_nil Entries.proper_nil hes (hes.keys _ he),
        Entries.get?_of_mem hes (hes.keys _ he) he (Value.same_refl key)]
      exact laid_eq_some_iff.mpr ⟨hnull, rfl⟩
    obtain ⟨other, hmem, hsame⟩ := Entries.mem_of_get? hget
    rw [overlaid]
    exact ⟨_, hmem, (EntryAtFault.congr hsame).mpr hfault⟩

theorem record_attributable (h : ∀ f ∈ fields, FieldAttributable f) (expected : String)
    (default : α) : Attributable (record expected fields default) := by
  choose! faults hfaults using h
  exact ⟨_, record_finds hfaults expected default⟩

end Fault

section Schema

variable {α β : Type}

theorem leaf_attributable {decode : Decoder β} (h : ∀ es, ∃ m, decode (.mapping es) = .error m)
    (name : String) (put : β → α → α) : FieldAttributable (field name decode put) :=
  field_attributable (attributable_of_mapping_fails h) name put

theorem settingsDecoder_attributable : Attributable settingsDecoder := by
  refine record_attributable ?_ _ _
  simp only [List.forall_mem_cons]
  refine ⟨?_, ?_, ?_, List.forall_mem_nil _⟩
  all_goals exact leaf_attributable (fun _ => ⟨_, rfl⟩) _ _

theorem companionToolDecoder_attributable : Attributable companionToolDecoder := by
  refine record_attributable ?_ _ _
  simp only [List.forall_mem_cons]
  refine ⟨?_, ?_, ?_, ?_, List.forall_mem_nil _⟩
  all_goals exact leaf_attributable (fun _ => ⟨_, rfl⟩) _ _

theorem checkSettingsDecoder_attributable : Attributable checkSettingsDecoder := by
  have htool := field_attributable companionToolDecoder_attributable "companion_tool"
    fun tool (s : CheckSettings) => { s with companionTool := tool }
  refine record_attributable ?_ _ _
  simp only [List.forall_mem_cons]
  refine ⟨?_, ?_, ?_, ?_, ?_, ?_, ?_, htool, List.forall_mem_nil _⟩
  all_goals exact leaf_attributable (fun _ => ⟨_, rfl⟩) _ _

theorem decode_attributable : Attributable decode := by
  refine record_attributable ?_ _ _
  simp only [List.forall_mem_cons]
  exact ⟨field_attributable settingsDecoder_attributable _ _,
    field_attributable checkSettingsDecoder_attributable _ _, List.forall_mem_nil _⟩

end Schema

section Layers

variable {layers : List Value} {layer : Value} {m : Mismatch}

def FailsAlone (layer : Value) : Prop := ∃ m, decode (mergeLayers [layer]) = .error m

theorem mergeLayers_singleton (h : layer.isNull = false) :
    mergeLayers [layer] = overlaid (.mapping []) layer :=
  (mergeLayers_concat [] layer).trans (if_neg (by simp [h]))

theorem fault_mergeLayers {fault : Value → Prop} (h : Finds decode fault)
    (hlayers : ∀ layer ∈ layers, layer.wellFormed = true)
    (hplain : ∀ layer ∈ layers, layer.isNull = true ∨ isSection layer = true)
    (hfault : fault (mergeLayers layers)) : ∃ layer ∈ layers, fault (mergeLayers [layer]) := by
  induction layers using List.reverseRecOn with
  | nil =>
      obtain ⟨m, hm⟩ := h.fails hfault
      cases hm
  | append_singleton layers last ih =>
      rw [List.forall_mem_append, List.forall_mem_singleton] at hlayers hplain
      obtain ⟨hlayers, hlast⟩ := hlayers
      obtain ⟨hplain, hsection⟩ := hplain
      have hbelow (hfault : fault (mergeLayers layers)) :
          ∃ layer ∈ layers ++ [last], fault (mergeLayers [layer]) := by
        obtain ⟨layer, hmem, hlayer⟩ := ih hlayers hplain hfault
        exact ⟨layer, List.mem_append_left _ hmem, hlayer⟩
      rw [mergeLayers_concat] at hfault
      split at hfault
      · exact hbelow hfault
      · rename_i hnull
        -- The layers below make a mapping, so the last one adds none of its nulls to it.
        obtain ⟨es, rfl⟩ := isSection_iff.mp (hsection.resolve_left hnull)
        obtain ⟨old, hold⟩ := isSection_iff.mp (isSection_mergeLayers hplain)
        rw [hold] at hfault hbelow
        refine (h.alone ((Entries.proper_iff es).mpr hlast) hfault).elim hbelow ?_
        intro halone
        refine ⟨.mapping es, by simp, ?_⟩
        rwa [mergeLayers_singleton rfl]

theorem failsAlone_of_not_plain (h : layer.isNull = false) (hsection : isSection layer = false) :
    (∃ name content, layer = .tagged name content) ∨ FailsAlone layer := by
  cases layer with
  | null => cases h
  | mapping es => cases hsection
  | tagged name content => exact Or.inl ⟨name, content, rfl⟩
  | bool _ | int _ | float _ | string _ | sequence _ =>
      right
      rw [FailsAlone, mergeLayers_singleton h]
      exact ⟨_, rfl⟩

/-- Layers that together describe no configuration have one that describes none alone, unless a
field is there twice, or a tag keeps the entries of a layer from being merged. -/
theorem decode_mergeLayers_error (hlayers : ∀ layer ∈ layers, layer.wellFormed = true)
    (h : decode (mergeLayers layers) = .error m) :
    (∃ field, m = .duplicate field) ∨ (∃ name content, .tagged name content ∈ layers) ∨
      ∃ layer ∈ layers, FailsAlone layer := by
  by_cases hplain : ∀ layer ∈ layers, layer.isNull = true ∨ isSection layer = true
  · obtain ⟨fault, hfinds⟩ := decode_attributable
    refine (hfinds.found h).imp_right fun hfault => Or.inr ?_
    obtain ⟨layer, hmem, hlayer⟩ := fault_mergeLayers hfinds hlayers hplain hfault
    exact ⟨layer, hmem, hfinds.fails hlayer⟩
  · simp only [not_forall, not_or, exists_prop] at hplain
    obtain ⟨layer, hmem, hnull, hsection⟩ := hplain
    obtain ⟨name, content, rfl⟩ | hfails :=
      failsAlone_of_not_plain (Bool.eq_false_iff.mpr hnull) (Bool.eq_false_iff.mpr hsection)
    · exact Or.inr (Or.inl ⟨name, content, hmem⟩)
    · exact Or.inr (Or.inr ⟨layer, hmem, hfails⟩)

end Layers
end Readiness.Config
