import Mathlib.Algebra.Group.Nat.Defs
import Readiness.Proofs.Records

/-!
Whole numbers in a configuration. A number is loaded as the integer that the merged layers have for
its field, if that is in the range of the field; any other value there refuses the configuration,
so that no number is ever cut to size, converted or replaced by a default.
-/

namespace Readiness.Config

open Decoder
open Yaml (Value Entries)

section Places

/-- A mapping with its entries changed, under tags or not. -/
def mapEntries (change : Entries → Entries) : Value → Value
  | .mapping es => .mapping (change es)
  | .tagged tag content => .tagged tag (mapEntries change content)
  | v => v

/-- All that stands for a field which lies in a section of a section, and so on. -/
def standing : List String → String → Value → List Value
  | [], name, v => valuesOf name (entriesOf v)
  | s :: sections, name, v => (valuesOf s (entriesOf v)).flatMap (standing sections name)

/-- The value without all that stands for a field. -/
def without : List String → String → Value → Value
  | [], name => mapEntries (withoutName name)
  | s :: sections, name => mapEntries fun es => es.map fun e =>
      if nameOf? e.1 = some s then (e.1, without sections name e.2) else e

theorem untagged_mapEntries (change : Entries → Entries) (v : Value) :
    (mapEntries change v).untagged =
      match v.untagged with
      | .mapping es => .mapping (change es)
      | w => w := by
  induction v using Value.induct with
  | tagged tag content ih => simpa only [mapEntries, Value.untagged] using ih
  | null | bool _ | int _ | float _ | string _ | sequence _ _ | mapping _ _ => rfl

variable {name : String} (change : Value → Value) (es : Entries)

theorem valuesOf_map : valuesOf name (es.map fun e =>
    if nameOf? e.1 = some name then (e.1, change e.2) else e) = (valuesOf name es).map change := by
  induction es with
  | nil => rfl
  | cons e rest ih =>
      obtain ⟨key, v⟩ := e
      rw [List.map_cons]
      by_cases h : nameOf? key = some name
      · rw [if_pos h, valuesOf_cons_of_eq h, valuesOf_cons_of_eq h, ih, List.map_cons]
      · rw [if_neg h, valuesOf_cons_of_ne h, valuesOf_cons_of_ne h, ih]

theorem withoutName_map : withoutName name (es.map fun e =>
    if nameOf? e.1 = some name then (e.1, change e.2) else e) = withoutName name es := by
  induction es with
  | nil => rfl
  | cons e rest ih =>
      obtain ⟨key, v⟩ := e
      rw [List.map_cons]
      by_cases h : nameOf? key = some name
      · rw [if_pos h, withoutName_cons_of_eq h, withoutName_cons_of_eq h, ih]
      · rw [if_neg h, withoutName_cons_of_ne h, withoutName_cons_of_ne h, ih]

end Places

section Placed

variable {α β σ : Type} {d : Decoder α} {d' : Decoder σ} {f : Decoder.Field α}
  {sections : List String} {name : String} {leaf : Value → Option β} {put : β → α → α}
  {putSection : σ → α → α} {getSection : α → σ}

/-- A field filled from all that stands for it, where nothing else is left to be read. -/
def fill? (leaf : Value → Option β) (put : β → α → α) (c : α) : List Value → Option α
  | [] => some c
  | [v] => (leaf v).map fun b => put b c
  | _ => none

/-- A decoder that reads a field at its place: it fills it into what it makes of all the rest, and
takes nothing that the field does not take. -/
structure ReadsAt (d : Decoder α) (sections : List String) (name : String)
    (leaf : Value → Option β) (put : β → α → α) : Prop where
  fills : ∀ v c, (d (without sections name v)).toOption = some c →
    (d v).toOption = fill? leaf put c (standing sections name v)
  refuses : ∀ v, ∀ w ∈ standing sections name v, leaf w = none → (d v).toOption = none

theorem settle?_eq_fill? {es : Entries}
    (hset : ∀ v, f.set? v = fun a => (leaf v).map fun b => put b a) (a : α) :
    settle? es f a = fill? leaf put a (valuesOf f.name es) := by
  rw [settle?]
  obtain _ | ⟨v, _ | ⟨w, more⟩⟩ := valuesOf f.name es
  · rfl
  · exact congrFun (hset v) a
  · rfl

theorem fill?_of_none {values : List Value} {w : Value} (hw : w ∈ values) (hleaf : leaf w = none)
    (c : α) : fill? leaf put c values = none := by
  obtain _ | ⟨v, _ | ⟨v', more⟩⟩ := values
  · cases hw
  · obtain rfl := List.mem_singleton.mp hw
    rw [fill?, hleaf, Option.map_none]
  · rfl

/-- A record is looked at through its entries only. -/
theorem Record.readsAt_of_entries (r : Record d) {change : Entries → Entries}
    (stands : Entries → List Value) (hchange : without sections name = mapEntries change)
    (hstands : ∀ v, standing sections name v = stands (entriesOf v)) (hnil : stands [] = [])
    (hfills : ∀ es c, read? r.fields [] r.default (change es) = some c →
      read? r.fields [] r.default es = fill? leaf put c (stands es))
    (hrefuses : ∀ es, ∀ w ∈ stands es, leaf w = none → read? r.fields [] r.default es = none) :
    ReadsAt d sections name leaf put where
  fills v c hc := by
    rw [hchange, r.toOption_eq, untagged_mapEntries] at hc
    rw [hstands, entriesOf, r.toOption_eq]
    cases hv : v.untagged with
    | mapping es =>
        rw [hv] at hc
        exact hfills es c hc
    | null =>
        rw [hv] at hc
        rw [hnil]
        exact hc
    | bool _ | int _ | float _ | string _ | sequence _ | tagged _ _ =>
        rw [hv] at hc
        cases hc
  refuses v w hw hleaf := by
    rw [hstands, entriesOf] at hw
    rw [r.toOption_eq]
    cases hv : v.untagged with
    | mapping es =>
        rw [hv] at hw
        exact hrefuses es w hw hleaf
    | null =>
        rw [hv, hnil] at hw
        cases hw
    | bool _ | int _ | float _ | string _ | sequence _ | tagged _ _ => rfl

theorem Record.readsAt (r : Record d) (hf : f ∈ r.fields)
    (hset : ∀ v, f.set? v = fun a => (leaf v).map fun b => put b a) :
    ReadsAt d [] f.name leaf put := by
  refine r.readsAt_of_entries (valuesOf f.name) rfl (fun _ => rfl) rfl (fun es c hc => ?_)
    fun es w hw hleaf => ?_
  · rw [read?_eq_settle? r.separate hf List.not_mem_nil, hc]
    exact settle?_eq_fill? hset c
  · rw [read?_eq_settle? r.separate hf List.not_mem_nil, Option.bind_eq_none_iff]
    intro c _
    rw [settle?_eq_fill? hset, fill?_of_none hw hleaf]

/-- A field of a section is a field of the record that has the section. -/
theorem Record.readsAt_section (r : Record d) (hf : f ∈ r.fields)
    (hset : ∀ v, f.set? v = fun a => (d' v).toOption.map fun s => putSection s a)
    {putInner : β → σ → σ} (h : ReadsAt d' sections name leaf putInner)
    (hget : ∀ s a, getSection (putSection s a) = s)
    (hput : ∀ s s' a, putSection s (putSection s' a) = putSection s a) :
    ReadsAt d (f.name :: sections) name leaf
      fun b a => putSection (putInner b (getSection a)) a := by
  refine r.readsAt_of_entries (fun es => (valuesOf f.name es).flatMap (standing sections name)) rfl
    (fun _ => rfl) rfl (fun es c hc => ?_) fun es w hw hleaf => ?_
  · -- Both values make the same of all but the section, of which there is one at most.
    rw [read?_eq_settle? r.separate hf List.not_mem_nil] at hc ⊢
    rw [withoutName_map] at hc
    obtain ⟨b, hb, hsettle⟩ := Option.bind_eq_some_iff.mp hc
    rw [hb, Option.bind_some]
    rw [settle?, valuesOf_map] at hsettle
    rw [settle?]
    generalize valuesOf f.name es = values at hsettle ⊢
    obtain _ | ⟨s, _ | ⟨s', more⟩⟩ := values
    · exact hsettle
    · rw [List.map_singleton] at hsettle
      dsimp only at hsettle ⊢
      rw [hset] at hsettle ⊢
      obtain ⟨inner, hinner, rfl⟩ := Option.map_eq_some_iff.mp hsettle
      rw [h.fills s inner hinner, List.flatMap_singleton]
      obtain _ | ⟨w, _ | ⟨w', more⟩⟩ := standing sections name s
      · rfl
      · simp only [fill?, Option.map_map, Function.comp_def, hget, hput]
      · rfl
    · cases hsettle
  · obtain ⟨s, hs, hw⟩ := List.mem_flatMap.mp hw
    have hnone := h.refuses s w hw hleaf
    rw [read?_eq_settle? r.separate hf List.not_mem_nil, Option.bind_eq_none_iff]
    intro c _
    rw [settle?_eq_fill? hset, fill?_of_none hs hnone]

end Placed

section Numbers

/-- The fields of a configuration that are whole numbers. -/
inductive NumberField
  | port
  | minOsMajor
  | minFreeSpaceMb
  | minManagedRelease
  | timeoutSecs
  deriving DecidableEq

namespace NumberField

def sections : NumberField → List String
  | timeoutSecs => ["checks", "companion_tool"]
  | _ => ["checks"]

def name : NumberField → String
  | port => "port"
  | minOsMajor => "min_os_major"
  | minFreeSpaceMb => "min_free_space_mb"
  | minManagedRelease => "min_managed_release"
  | timeoutSecs => "timeout_secs"

def bits : NumberField → Nat
  | port => 16
  | minOsMajor => 32
  | _ => 64

def get (c : Config) : NumberField → Nat
  | port => c.checks.port.toNat
  | minOsMajor => c.checks.minOsMajor.toNat
  | minFreeSpaceMb => c.checks.minFreeSpaceMb.toNat
  | minManagedRelease => c.checks.minManagedRelease.toNat
  | timeoutSecs => c.checks.companionTool.timeoutSecs.toNat

def put (n : Nat) (c : Config) : NumberField → Config
  | port => { c with checks.port := .ofNat n }
  | minOsMajor => { c with checks.minOsMajor := .ofNat n }
  | minFreeSpaceMb => { c with checks.minFreeSpaceMb := .ofNat n }
  | minManagedRelease => { c with checks.minManagedRelease := .ofNat n }
  | timeoutSecs => { c with checks.companionTool.timeoutSecs := .ofNat n }

end NumberField

/-- A whole number below a bound, under tags or not. -/
def naturalBelow? (bound : Nat) (v : Value) : Option Nat :=
  match v.untagged with
  | .int n => if 0 ≤ n ∧ n < bound then some n.toNat else none
  | _ => none

theorem toOption_natural (bound : Nat) (expected : String) (v : Value) :
    (natural bound expected v).toOption = naturalBelow? bound v := by
  rw [natural, naturalBelow?]
  cases v.untagged with
  | int n =>
    dsimp only
    split <;> rfl
  | _ => rfl

theorem set?_number {α β : Type} {bound : Nat} {expected : String} {ofNat : Nat → β}
    {decoder : Decoder β} (h : ∀ v, decoder v = (natural bound expected v).map ofNat)
    (name : String) (put : β → α → α) (v : Value) :
    (field name decoder put).set? v =
      fun a => (naturalBelow? bound v).map fun n => put (ofNat n) a := by
  rw [set?_field]
  funext a
  rw [h, toOption_map, toOption_natural, Option.map_map]
  rfl

theorem readsAt_checks {name : String} {leaf : Value → Option Nat}
    {put : Nat → CheckSettings → CheckSettings} {sections : List String}
    (h : ReadsAt checkSettingsDecoder sections name leaf put) :
    ReadsAt decode ("checks" :: sections) name leaf
      fun n c => { c with checks := put n c.checks } :=
  configRecord.readsAt_section (.tail _ (.head _)) (set?_field _ _ _) h (fun _ _ => rfl)
    fun _ _ _ => rfl

theorem readsAt_companionTool {name : String} {leaf : Value → Option Nat}
    {put : Nat → CompanionTool → CompanionTool} {sections : List String}
    (h : ReadsAt companionToolDecoder sections name leaf put) :
    ReadsAt checkSettingsDecoder ("companion_tool" :: sections) name leaf
      fun n s => { s with companionTool := put n s.companionTool } :=
  checkSettingsRecord.readsAt_section
    (.tail _ (.tail _ (.tail _ (.tail _ (.tail _ (.tail _ (.tail _ (.head _))))))))
    (set?_field _ _ _) h (fun _ _ => rfl) fun _ _ _ => rfl

theorem NumberField.readsAt (f : NumberField) :
    ReadsAt decode f.sections f.name (naturalBelow? (2 ^ f.bits)) fun n c => f.put n c := by
  cases f with
  | port =>
      exact readsAt_checks <| checkSettingsRecord.readsAt (.head _)
        (set?_number (fun _ => rfl) _ _)
  | minOsMajor =>
      exact readsAt_checks <| checkSettingsRecord.readsAt (.tail _ (.tail _ (.head _)))
        (set?_number (fun _ => rfl) _ _)
  | minFreeSpaceMb =>
      exact readsAt_checks <| checkSettingsRecord.readsAt
        (.tail _ (.tail _ (.tail _ (.head _)))) (set?_number (fun _ => rfl) _ _)
  | minManagedRelease =>
      exact readsAt_checks <| checkSettingsRecord.readsAt
        (.tail _ (.tail _ (.tail _ (.tail _ (.head _))))) (set?_number (fun _ => rfl) _ _)
  | timeoutSecs =>
      exact readsAt_checks <| readsAt_companionTool <| companionToolRecord.readsAt
        (.tail _ (.tail _ (.head _))) (set?_number (fun _ => rfl) _ _)

variable {f : NumberField} {files : File.System} {sources : Sources} {layers : List Value}

theorem NumberField.get_put {n : Nat} (hn : n < 2 ^ f.bits) (c : Config) :
    f.get (f.put n c) = n := by
  cases f with
  | port => exact UInt16.toNat_ofNat_of_lt hn
  | minOsMajor => exact UInt32.toNat_ofNat_of_lt hn
  | minFreeSpaceMb | minManagedRelease | timeoutSecs => exact UInt64.toNat_ofNat_of_lt hn

theorem naturalBelow?_eq_some_iff {bound n : Nat} {v : Value} :
    naturalBelow? bound v = some n ↔ n < bound ∧ v.untagged = .int n := by
  rw [naturalBelow?]
  cases v.untagged with
  | int k =>
      simp only [Option.ite_none_right_eq_some, Option.some.injEq, Value.int.injEq]
      omega
  | _ => simp

theorem load_of_layers (h : sources.all.mapM (loadValue files) = .ok layers) :
    load files sources = ofValue (mergeLayers layers) sources.blamed := by
  rw [load, h]
  rfl

theorem load_eq_ok_iff (h : sources.all.mapM (loadValue files) = .ok layers) {c : Config} :
    load files sources = .ok c ↔ (decode (mergeLayers layers)).toOption = some c := by
  rw [load_of_layers h, ofValue, mapError_eq_ok_iff, toOption_eq_some_iff]

theorem load_of_refused (h : sources.all.mapM (loadValue files) = .ok layers)
    (hnone : (decode (mergeLayers layers)).toOption = none) :
    ∃ message, load files sources = .error (.configMisread sources.blamed message) := by
  rw [load_of_layers h, ofValue]
  cases hd : decode (mergeLayers layers) with
  | ok c => cases (congrArg Except.toOption hd).symm.trans hnone
  | error m => exact ⟨m.message, rfl⟩

/-- A number is loaded as it stands in the merged layers, and nothing else is taken for one. -/
theorem load_reads_number (f : NumberField) (h : sources.all.mapM (loadValue files) = .ok layers) :
    let merged := mergeLayers layers
    let values := standing f.sections f.name merged
    (∀ c, decode (without f.sections f.name merged) = .ok c → ∀ c',
      load files sources = .ok c' ↔
        values = [] ∧ c' = c ∨
        ∃ v, values = [v] ∧ ∃ n : Nat, v.untagged = .int n ∧ n < 2 ^ f.bits ∧
          f.get c' = n ∧ c' = f.put n c) ∧
    ∀ v ∈ values, (∀ n : Nat, v.untagged = .int n → ¬ n < 2 ^ f.bits) →
      ∃ message, load files sources = .error (.configMisread sources.blamed message) := by
  intro merged values
  refine ⟨fun c hc c' => ?_, fun v hv hrange => ?_⟩
  · rw [load_eq_ok_iff h, f.readsAt.fills merged c (toOption_eq_some_iff.mpr hc)]
    change fill? _ _ c values = some c' ↔ _
    obtain _ | ⟨v, _ | ⟨w, more⟩⟩ := values
    · simp [fill?, eq_comm]
    · simp only [fill?, Option.map_eq_some_iff, naturalBelow?_eq_some_iff]
      constructor
      · rintro ⟨n, ⟨hn, hv⟩, rfl⟩
        exact Or.inr ⟨v, rfl, n, hv, hn, NumberField.get_put hn c, rfl⟩
      · rintro (⟨hnil, -⟩ | ⟨w, hw, n, hv, hn, -, rfl⟩)
        · cases hnil
        · obtain rfl := List.singleton_inj.mp hw
          exact ⟨n, ⟨hn, hv⟩, rfl⟩
    · simp [fill?]
  · refine load_of_refused h (f.readsAt.refuses merged v hv ?_)
    rw [Option.eq_none_iff_forall_ne_some]
    intro n hn
    obtain ⟨hlt, hint⟩ := naturalBelow?_eq_some_iff.mp hn
    exact hrange n hint hlt

/-- A layer with a port and nothing else. -/
def portLayer (n : Int) : Value :=
  .mapping [(.string "checks", .mapping [(.string "port", .int n)])]

/-- No other value is the same as such a layer. -/
theorem loadValue_of_same_portLayer {files : File.System} {p : Path} {n : Int}
    (h : (loadValue files p).toOption.any (portLayer n).same = true) :
    loadValue files p = .ok (portLayer n) := by
  cases hload : loadValue files p with
  | error failure =>
      rw [hload] at h
      cases h
  | ok v =>
      rw [hload] at h
      obtain ⟨inner, rfl, hinner⟩ := Value.entry_same_iff.mp h
      obtain ⟨number, rfl, hnumber⟩ := Value.entry_same_iff.mp hinner
      rw [← Value.int_same_iff.mp hnumber]
      rfl

/-- A project with a port, and a local file with another one. -/
def portFiles : File.System where
  kind := fun _ => .ok .file
  read := fun p => .ok (if p = ⟨"config.yml"⟩ then "checks:\n port: 7" else "checks:\n port: 9")
  names := fun _ => .ok []
  write := fun _ => .ok ()

def portSources : Sources :=
  { project := some ⟨"config.yml"⟩, projectLocal := some ⟨"config.local.yml"⟩ }

theorem load_reads_number_portFiles :
    portSources.all.mapM (loadValue portFiles) = .ok [portLayer 7, portLayer 9] ∧
      load portFiles portSources = .ok { checks := { port := 9 } } := by
  have hproject : loadValue portFiles ⟨"config.yml"⟩ = .ok (portLayer 7) :=
    loadValue_of_same_portLayer (by decide +kernel)
  have hlocal : loadValue portFiles ⟨"config.local.yml"⟩ = .ok (portLayer 9) :=
    loadValue_of_same_portLayer (by decide +kernel)
  have hlayers : portSources.all.mapM (loadValue portFiles) = .ok [portLayer 7, portLayer 9] := by
    change List.mapM (loadValue portFiles) [⟨"config.yml"⟩, ⟨"config.local.yml"⟩] = _
    rw [List.mapM_cons, hproject, List.mapM_cons, hlocal]
    rfl
  refine ⟨hlayers, ((load_reads_number .port hlayers).1 {} rfl _).mpr (Or.inr ?_)⟩
  exact ⟨.int 9, rfl, 9, rfl, by decide, rfl, rfl⟩

end Numbers
end Readiness.Config
