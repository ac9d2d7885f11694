import Readiness.Config.Encode
import Readiness.Config.Sources
import Readiness.Proofs.Records

/-!
Configurations that are written and loaded again. The value of a configuration gives it back, also
with its entries in another order and among entries of unknown names. Over the value of another
one it leaves that one only what it does not say itself: a path that it has unset, and that the
checks run in parallel.
-/

namespace Readiness.Config

open Decoder
open Yaml (Value Entries)

section LookUp

variable {name : String} {es old rest all : Entries} {v : Value}

/-- The value under a name. -/
def field? (name : String) (es : Entries) : Option Value := Entries.get? (.string name) es

/-- Entries whose keys are strings. -/
def Named (es : Entries) : Prop := ∀ e ∈ es, ∃ text, e.1 = .string text

/-- Entries with different strings for their keys. -/
structure Plain (es : Entries) : Prop where
  proper : es.Proper
  named : Named es

theorem same_string_iff {key : Value} {text : String} :
    key.same (.string text) = true ↔ key = .string text := by
  cases key <;> simp

theorem field?_nil : field? name [] = none := by
  simp [field?, Entries.get?]

@[simp]
theorem field?_entry_cons (other : String) :
    field? name (entry other v :: rest) = if other = name then some v else field? name rest := by
  simp only [field?, entry, Entries.get?_cons, same_string_iff, Value.string.injEq]

@[simp]
theorem field?_append (es rest : Entries) :
    field? name (es ++ rest) = (field? name es).or (field? name rest) := by
  simp only [field?, Entries.get?, List.find?_append]
  cases es.find? _ <;> rfl

@[simp]
theorem field?_pathEntry (other : String) (path : Option Path) :
    field? name (pathEntry other path) =
      if other = name then path.map fun p => .string p.text else none := by
  cases path <;> simp [pathEntry, field?_nil]

theorem valuesOf_of_plain (h : Plain es) : valuesOf name es = (field? name es).toList := by
  induction es with
  | nil => rfl
  | cons e rest ih =>
      obtain ⟨key, v⟩ := e
      obtain ⟨hdiffer, -, -, hproper⟩ := (Entries.proper_cons key v rest).mp h.proper
      obtain ⟨⟨text, rfl⟩, hnamed⟩ := List.forall_mem_cons.mp h.named
      have hrest := ih ⟨hproper, hnamed⟩
      have hfield : field? name ((.string text, v) :: rest) =
        if text = name then some v else field? name rest := field?_entry_cons text
      rw [hfield]
      by_cases htext : text = name
      · subst htext
        have hnone : valuesOf text rest = [] := by
          rw [valuesOf_eq_nil_iff]
          intro e he hname
          obtain ⟨other, hother⟩ := hnamed e he
          rw [hother] at hname
          have hsame := (hdiffer e he).2
          rw [hother, Option.some.inj hname, Value.same_refl] at hsame
          cases hsame
        rw [valuesOf_cons_of_eq rfl, hnone, if_pos rfl, Option.toList_some]
      · have hne : nameOf? (.string text) ≠ some name := by
          intro hname
          exact htext (Option.some.inj hname)
        rw [valuesOf_cons_of_ne hne, hrest, if_neg htext]

theorem plain_nil : Plain [] := ⟨Entries.proper_nil, List.forall_mem_nil _⟩

theorem plain_overlaidEntries (hold : Plain old) (hes : Plain es) :
    Plain (overlaidEntries old old es) := by
  refine ⟨?_, fun e he => ?_⟩
  · have hmerged := overlaid_wellFormed ((Entries.proper_iff old).mp hold.proper)
      ((Entries.proper_iff es).mp hes.proper)
    rwa [overlaid, ← Entries.proper_iff] at hmerged
  · obtain he | ⟨key, value, hmem, -, hsame⟩ := mem_of_mem_overlaidEntries he
    · exact hold.named e he
    · obtain ⟨text, htext⟩ := hes.named _ hmem
      refine ⟨text, ?_⟩
      rw [← same_string_iff, ← htext]
      exact hsame

theorem field?_overlaidEntries (hold : Plain old) (hes : Plain es) :
    field? name (overlaidEntries old old es) =
      match field? name es with
      | some value => laid (field? name old) value
      | none => field? name old :=
  get?_overlaidEntries hold.proper hold.proper hes.proper rfl

theorem laid_of_isLeaf {before : Option Value} (h : isLeaf v = true) : laid before v = some v := by
  have hnull : v.isNull = false := by
    by_contra hnull
    simp [isLeaf_of_isNull (Bool.not_eq_false _ ▸ hnull)] at h
  have hmapping : ∀ es, v ≠ .mapping es := by
    rintro es rfl
    cases h
  cases before with
  | none => exact laid_eq_some_iff.mpr ⟨hnull, rfl⟩
  | some b => exact laid_eq_some_iff.mpr ⟨hnull, overlaid_of_not_mapping hmapping b⟩

theorem field?_overlaid_leaf (hold : Plain old) (hes : Plain es) (h : field? name es = some v)
    (hleaf : isLeaf v = true) : field? name (overlaidEntries old old es) = some v := by
  rw [field?_overlaidEntries hold hes, h]
  exact laid_of_isLeaf hleaf

theorem field?_overlaid_none (hold : Plain old) (hes : Plain es) (h : field? name es = none) :
    field? name (overlaidEntries old old es) = field? name old := by
  rw [field?_overlaidEntries hold hes, h]

theorem field?_overlaid_mapping {inner : Entries} (hold : Plain old) (hes : Plain es)
    (h : field? name es = some (.mapping inner)) :
    field? name (overlaidEntries old old es) =
      some (match field? name old with
        | some before => overlaid before (.mapping inner)
        | none => .mapping inner) := by
  rw [field?_overlaidEntries hold hes, h]
  rfl

end LookUp

section Reading

variable {α β : Type} {es rest all : Entries} {a c c' : α} {f : Decoder.Field α}
  {fields : List (Decoder.Field α)} {name : String} {decode : Decoder β} {put : β → α → α}

theorem settle?_told (h : Plain es) {v : Value} (hv : field? name es = some v) {b : β}
    (hb : decode v = .ok b) : settle? es (field name decode put) a = some (put b a) := by
  have hvalues : valuesOf (field name decode put).name es = [v] := by
    rw [valuesOf_of_plain h]
    exact congrArg Option.toList hv
  rw [settle?_of_valuesOf_singleton hvalues, set?_field, hb]
  rfl

theorem settle?_untold (h : Plain es) (hv : field? name es = none) :
    settle? es (field name decode put) a = some a := by
  refine settle?_of_valuesOf_nil ?_
  rw [valuesOf_of_plain h]
  exact congrArg Option.toList hv

theorem settle?_flag {put : Bool → α → α} (h : Plain es) {b : Bool}
    (hv : field? name es = if b then some (.bool true) else none) (hdefault : put false a = a) :
    settle? es (field name boolean put) a = some (put b a) := by
  cases b with
  | true => exact settle?_told h hv rfl
  | false => rw [hdefault, settle?_untold h hv]

theorem settle?_path {put : Option Path → α → α} (h : Plain es) {p : Option Path}
    (hv : field? name es = p.map fun p => .string p.text) (hdefault : put none a = a) :
    settle? es (field name path? put) a = some (put p a) := by
  cases p with
  | some p => exact settle?_told h hv rfl
  | none => rw [hdefault, settle?_untold h hv]

theorem settleAll?_cons (h : settleAll? es a fields = some c) (hf : settle? es f c = some c') :
    settleAll? es a (f :: fields) = some c' := by
  rw [settleAll?, List.foldr_cons, ← settleAll?, h, Option.bind_some, hf]

theorem Record.eq_ok {d : Decoder α} (r : Record d) (h : Plain es)
    (hall : settleAll? es r.default r.fields = some c) : d (.mapping es) = .ok c := by
  rw [← toOption_eq_some_iff, r.toOption_eq]
  change read? r.fields [] r.default es = some c
  rw [read?_eq_settleAll? r.separate, hall]
  intro e he
  obtain ⟨text, htext⟩ := h.named e he
  rw [htext]
  rfl

theorem natural_of_lt {n bound : Nat} (h : n < bound) (expected : String) :
    natural bound expected (.int n) = .ok n := by
  simp [natural, Value.untagged, h]

theorem uint16_toNat (n : UInt16) : uint16 (.int n.toNat) = .ok n := by
  rw [uint16, natural_of_lt n.toNat_lt]
  exact congrArg Except.ok n.ofNat_toNat

theorem uint32_toNat (n : UInt32) : uint32 (.int n.toNat) = .ok n := by
  rw [uint32, natural_of_lt n.toNat_lt]
  exact congrArg Except.ok n.ofNat_toNat

theorem uint64_toNat (n : UInt64) : uint64 (.int n.toNat) = .ok n := by
  rw [uint64, natural_of_lt n.toNat_lt]
  exact congrArg Except.ok n.ofNat_toNat

theorem strings_map (texts : List String) :
    strings (.sequence (texts.map .string)) = .ok texts := by
  change (texts.map Value.string).mapM (string "a string") = _
  induction texts with
  | nil => rfl
  | cons text rest ih =>
      rw [List.map_cons, List.mapM_cons, ih]
      rfl

theorem choice_name {all : List β} {name : β → String} {b : β}
    (h : (all.find? fun other => name other == name b) = some b) :
    choice all name (.string (name b)) = .ok b := by
  simp only [choice, bind, Except.bind, h, Value.untagged]

end Reading

section Told

variable {s t : Settings} {tool tool' : CompanionTool} {checks checks' : CheckSettings}
  {c d : Config} {es old : Entries}

/-- Entries that say all that a value of the type has apart from its defaults. -/
structure SettingsTold (s : Settings) (es : Entries) : Prop where
  plain : Plain es
  defaultOutput : field? "default_output" es = some (.string s.defaultOutput.name)
  format : field? "format" es = some (.string s.format.name)
  parallel : field? "parallel" es = if s.parallel then some (.bool true) else none

structure CompanionToolTold (tool : CompanionTool) (es : Entries) : Prop where
  plain : Plain es
  program : field? "program" es = some (.string tool.program)
  args : field? "args" es = some (.sequence (tool.args.map .string))
  timeoutSecs : field? "timeout_secs" es = some (.int tool.timeoutSecs.toNat)
  installHint : field? "install_hint" es = some (.string tool.installHint)

structure CheckSettingsTold (checks : CheckSettings) (es : Entries) : Prop where
  plain : Plain es
  port : field? "port" es = some (.int checks.port.toNat)
  databasePath : field? "database_path" es = checks.databasePath.map fun p => .string p.text
  minOsMajor : field? "min_os_major" es = some (.int checks.minOsMajor.toNat)
  minFreeSpaceMb : field? "min_free_space_mb" es = some (.int checks.minFreeSpaceMb.toNat)
  minManagedRelease : field? "min_managed_release" es = some (.int checks.minManagedRelease.toNat)
  installDir : field? "install_dir" es = checks.installDir.map fun p => .string p.text
  firewallPolicy : field? "firewall_policy" es = some (.string checks.firewallPolicy.name)
  companionTool : ∃ inner, field? "companion_tool" es = some (.mapping inner) ∧
    CompanionToolTold checks.companionTool inner

structure ConfigTold (c : Config) (es : Entries) : Prop where
  plain : Plain es
  settings : ∃ inner, field? "settings" es = some (.mapping inner) ∧ SettingsTold c.settings inner
  checks : ∃ inner, field? "checks" es = some (.mapping inner) ∧ CheckSettingsTold c.checks inner

theorem SettingsTold.decoded (h : SettingsTold s es) : settingsDecoder (.mapping es) = .ok s := by
  refine settingsRecord.eq_ok h.plain <| settleAll?_cons (settleAll?_cons (settleAll?_cons rfl
    (settle?_flag h.plain h.parallel rfl))
    (settle?_told h.plain h.format (choice_name ?_)))
    (settle?_told h.plain h.defaultOutput (choice_name ?_))
  · cases s.format <;> rfl
  · cases s.defaultOutput <;> rfl

theorem CompanionToolTold.decoded (h : CompanionToolTold tool es) :
    companionToolDecoder (.mapping es) = .ok tool :=
  companionToolRecord.eq_ok h.plain <|
    settleAll?_cons (settleAll?_cons (settleAll?_cons (settleAll?_cons rfl
      (settle?_told h.plain h.installHint rfl))
      (settle?_told h.plain h.timeoutSecs (uint64_toNat _)))
      (settle?_told h.plain h.args (strings_map _)))
      (settle?_told h.plain h.program rfl)

theorem CheckSettingsTold.decoded (h : CheckSettingsTold checks es) :
    checkSettingsDecoder (.mapping es) = .ok checks := by
  obtain ⟨inner, htool, hinner⟩ := h.companionTool
  refine checkSettingsRecord.eq_ok h.plain <|
    settleAll?_cons (settleAll?_cons (settleAll?_cons (settleAll?_cons
      (settleAll?_cons (settleAll?_cons (settleAll?_cons (settleAll?_cons rfl
      (settle?_told h.plain htool hinner.decoded))
      (settle?_told h.plain h.firewallPolicy (choice_name ?_)))
      (settle?_path h.plain h.installDir rfl))
      (settle?_told h.plain h.minManagedRelease (uint64_toNat _)))
      (settle?_told h.plain h.minFreeSpaceMb (uint64_toNat _)))
      (settle?_told h.plain h.minOsMajor (uint32_toNat _)))
      (settle?_path h.plain h.databasePath rfl))
      (settle?_told h.plain h.port (uint16_toNat _))
  cases checks.firewallPolicy <;> rfl

theorem ConfigTold.decoded (h : ConfigTold c es) : decode (.mapping es) = .ok c := by
  obtain ⟨inner, hsettings, hinner⟩ := h.settings
  obtain ⟨inner', hchecks, hinner'⟩ := h.checks
  exact configRecord.eq_ok h.plain <| settleAll?_cons (settleAll?_cons rfl
    (settle?_told h.plain hchecks hinner'.decoded))
    (settle?_told h.plain hsettings hinner.decoded)

end Told

section Laid

variable {name : String} {s t : Settings} {tool tool' : CompanionTool}
  {checks checks' : CheckSettings} {c d : Config} {es old : Entries}

theorem field?_overlaid_flag (hold : Plain old) (hes : Plain es) {a b : Bool}
    (ha : field? name old = if a then some (.bool true) else none)
    (hb : field? name es = if b then some (.bool true) else none) :
    field? name (overlaidEntries old old es) = if a || b then some (.bool true) else none := by
  cases b with
  | true => simpa using field?_overlaid_leaf hold hes hb rfl
  | false => rw [field?_overlaid_none hold hes hb, ha, Bool.or_false]

theorem field?_overlaid_path (hold : Plain old) (hes : Plain es) {p q : Option Path}
    (hp : field? name old = p.map fun p => .string p.text)
    (hq : field? name es = q.map fun p => .string p.text) :
    field? name (overlaidEntries old old es) = (q.or p).map fun p => .string p.text := by
  cases q with
  | some q => exact field?_overlaid_leaf hold hes hq rfl
  | none => rw [field?_overlaid_none hold hes hq, hp, Option.none_or]

theorem field?_overlaid_sections (hold : Plain old) (hes : Plain es) {before inner : Entries}
    (hbefore : field? name old = some (.mapping before))
    (hinner : field? name es = some (.mapping inner)) :
    field? name (overlaidEntries old old es) =
      some (.mapping (overlaidEntries before before inner)) := by
  rw [field?_overlaid_mapping hold hes hinner, hbefore]
  dsimp only
  rw [overlaid]

def settingsUpon (s t : Settings) : Settings := { s with parallel := t.parallel || s.parallel }

def checkSettingsUpon (checks checks' : CheckSettings) : CheckSettings :=
  { checks with
    databasePath := checks.databasePath.or checks'.databasePath
    installDir := checks.installDir.or checks'.installDir }

/-- A configuration in place of another one, of which only stays what the first leaves unsaid. -/
def upon (c d : Config) : Config :=
  ⟨settingsUpon c.settings d.settings, checkSettingsUpon c.checks d.checks⟩

theorem SettingsTold.laid (hold : SettingsTold t old) (hes : SettingsTold s es) :
    SettingsTold (settingsUpon s t) (overlaidEntries old old es) where
  plain := plain_overlaidEntries hold.plain hes.plain
  defaultOutput := field?_overlaid_leaf hold.plain hes.plain hes.defaultOutput rfl
  format := field?_overlaid_leaf hold.plain hes.plain hes.format rfl
  parallel := field?_overlaid_flag hold.plain hes.plain hold.parallel hes.parallel

theorem CompanionToolTold.laid (hold : CompanionToolTold tool' old)
    (hes : CompanionToolTold tool es) :
    CompanionToolTold tool (overlaidEntries old old es) where
  plain := plain_overlaidEntries hold.plain hes.plain
  program := field?_overlaid_leaf hold.plain hes.plain hes.program rfl
  args := field?_overlaid_leaf hold.plain hes.plain hes.args rfl
  timeoutSecs := field?_overlaid_leaf hold.plain hes.plain hes.timeoutSecs rfl
  installHint := field?_overlaid_leaf hold.plain hes.plain hes.installHint rfl

theorem CheckSettingsTold.laid (hold : CheckSettingsTold checks' old)
    (hes : CheckSettingsTold checks es) :
    CheckSettingsTold (checkSettingsUpon checks checks') (overlaidEntries old old es) where
  plain := plain_overlaidEntries hold.plain hes.plain
  port := field?_overlaid_leaf hold.plain hes.plain hes.port rfl
  databasePath := field?_overlaid_path hold.plain hes.plain hold.databasePath hes.databasePath
  minOsMajor := field?_overlaid_leaf hold.plain hes.plain hes.minOsMajor rfl
  minFreeSpaceMb := field?_overlaid_leaf hold.plain hes.plain hes.minFreeSpaceMb rfl
  minManagedRelease := field?_overlaid_leaf hold.plain hes.plain hes.minManagedRelease rfl
  installDir := field?_overlaid_path hold.plain hes.plain hold.installDir hes.installDir
  firewallPolicy := field?_overlaid_leaf hold.plain hes.plain hes.firewallPolicy rfl
  companionTool := by
    obtain ⟨before, hbefore, htold⟩ := hold.companionTool
    obtain ⟨inner, hinner, htold'⟩ := hes.companionTool
    exact ⟨_, field?_overlaid_sections hold.plain hes.plain hbefore hinner, htold.laid htold'⟩

theorem ConfigTold.laid (hold : ConfigTold d old) (hes : ConfigTold c es) :
    ConfigTold (upon c d) (overlaidEntries old old es) where
  plain := plain_overlaidEntries hold.plain hes.plain
  settings := by
    obtain ⟨before, hbefore, htold⟩ := hold.settings
    obtain ⟨inner, hinner, htold'⟩ := hes.settings
    exact ⟨_, field?_overlaid_sections hold.plain hes.plain hbefore hinner, htold.laid htold'⟩
  checks := by
    obtain ⟨before, hbefore, htold⟩ := hold.checks
    obtain ⟨inner, hinner, htold'⟩ := hes.checks
    exact ⟨_, field?_overlaid_sections hold.plain hes.plain hbefore hinner, htold.laid htold'⟩

/-- Over nothing, the sections stand as they are. -/
theorem ConfigTold.laid_first (h : ConfigTold c es) : ConfigTold c (overlaidEntries [] [] es) where
  plain := plain_overlaidEntries plain_nil h.plain
  settings := by
    obtain ⟨inner, hinner, htold⟩ := h.settings
    exact ⟨inner, field?_overlaid_mapping plain_nil h.plain hinner, htold⟩
  checks := by
    obtain ⟨inner, hinner, htold⟩ := h.checks
    exact ⟨inner, field?_overlaid_mapping plain_nil h.plain hinner, htold⟩

end Laid

section Saved

variable {known : List String} {name : String} {es all : Entries} {v w : Value} {c d : Config}

def Record.names {α : Type} {d : Decoder α} (r : Record d) : List String :=
  r.fields.map Decoder.Field.name

/-- Entries in any order, among others with strings for keys that are not known. -/
def Spread (known : List String) (es all : Entries) : Prop :=
  ∃ more, all.Perm (es ++ more) ∧ ∀ e ∈ more, ∃ name, e.1 = .string name ∧ name ∉ known

/-- The entries with another value under a name. -/
def replaced (name : String) (v : Value) (es : Entries) : Entries :=
  es.map fun e => if nameOf? e.1 = some name then (e.1, v) else e

/-- The value of the settings, with entries reordered and unknown ones added. -/
def SettingsSaved (s : Settings) (v : Value) : Prop :=
  ∃ all, v = .mapping all ∧ Spread settingsRecord.names (entriesOf s.toYaml) all

def CompanionToolSaved (tool : CompanionTool) (v : Value) : Prop :=
  ∃ all, v = .mapping all ∧ Spread companionToolRecord.names (entriesOf tool.toYaml) all

def CheckSettingsSaved (checks : CheckSettings) (v : Value) : Prop :=
  ∃ all, v = .mapping all ∧ ∃ tool, CompanionToolSaved checks.companionTool tool ∧
    Spread checkSettingsRecord.names (replaced "companion_tool" tool (entriesOf checks.toYaml)) all

/-- The value of a configuration, with the entries of all its mappings reordered and unknown ones
added to them. -/
def Saved (c : Config) (v : Value) : Prop :=
  ∃ all, v = .mapping all ∧ ∃ settings checks, SettingsSaved c.settings settings ∧
    CheckSettingsSaved c.checks checks ∧
    Spread configRecord.names
      (replaced "settings" settings (replaced "checks" checks (entriesOf c.toYaml))) all

theorem field?_replaced (other : String) :
    field? name (replaced other v es) =
      if other = name then (field? name es).map fun _ => v else field? name es := by
  induction es with
  | nil => simp [replaced, field?_nil]
  | cons e rest ih =>
      obtain ⟨key, w⟩ := e
      simp only [field?, replaced, List.map_cons] at ih ⊢
      by_cases hkey : key = .string name
      · subst hkey
        have hname : nameOf? (.string name) = some other ↔ other = name := by
          simp [nameOf?, Value.untagged, eq_comm]
        simp only [hname]
        split <;> simp [Entries.get?_cons]
      · have hmiss : ¬ key.same (.string name) = true := by rwa [same_string_iff]
        split <;> simp only [Entries.get?_cons, if_neg hmiss, ih]

theorem Named.replaced (h : Named es) (name : String) (v : Value) : Named (replaced name v es) := by
  intro e he
  obtain ⟨e', he', rfl⟩ := List.mem_map.mp he
  obtain ⟨text, htext⟩ := h e' he'
  refine ⟨text, ?_⟩
  split <;> exact htext

theorem Spread.plain (h : Spread known es all) (hall : all.Proper) (hes : Named es) :
    Plain all := by
  obtain ⟨more, hperm, hmore⟩ := h
  refine ⟨hall, fun e he => ?_⟩
  obtain he | he := List.mem_append.mp (hperm.mem_iff.mp he)
  · exact hes e he
  · obtain ⟨text, htext, -⟩ := hmore e he
    exact ⟨text, htext⟩

/-- A name that is known has the same value among all the entries. -/
theorem Spread.field?_eq (h : Spread known es all) (hall : all.Proper) (hname : name ∈ known) :
    field? name all = field? name es := by
  obtain ⟨more, hperm, hmore⟩ := h
  have hnone : field? name more = none := by
    rw [field?, Entries.get?_eq_none_iff]
    intro e he
    obtain ⟨text, htext, hunknown⟩ := hmore e he
    refine Bool.eq_false_iff.mpr fun hsame => hunknown ?_
    rw [htext, same_string_iff, Value.string.injEq] at hsame
    rwa [hsame]
  have happend : field? name (es ++ more) = field? name all := Entries.get?_perm hall hperm rfl
  rw [← happend, field?_append, hnone, Option.or_none]

theorem named_settings (s : Settings) : Named (entriesOf s.toYaml) := by
  change Named (_ ++ _)
  split <;> simp [Named, entry]

theorem named_companionTool (tool : CompanionTool) : Named (entriesOf tool.toYaml) := by
  change Named [_, _, _, _]
  simp [Named, entry]

theorem named_checkSettings (checks : CheckSettings) : Named (entriesOf checks.toYaml) := by
  change Named (_ ++ _)
  cases hdatabase : checks.databasePath <;> cases hinstall : checks.installDir <;>
    simp [Named, entry, pathEntry]

theorem told_of_settingsSaved {s : Settings} (h : SettingsSaved s v) (hv : v.wellFormed = true) :
    ∃ es, v = .mapping es ∧ SettingsTold s es := by
  obtain ⟨all, rfl, hspread⟩ := h
  have hall := (Entries.proper_iff all).mpr hv
  refine ⟨all, rfl, hspread.plain hall (named_settings s), ?_, ?_, ?_⟩
  all_goals
    rw [hspread.field?_eq hall (by decide)]
    simp [entriesOf, Settings.toYaml, Value.untagged]
  split <;> rfl

theorem told_of_companionToolSaved {tool : CompanionTool} (h : CompanionToolSaved tool v)
    (hv : v.wellFormed = true) : ∃ es, v = .mapping es ∧ CompanionToolTold tool es := by
  obtain ⟨all, rfl, hspread⟩ := h
  have hall := (Entries.proper_iff all).mpr hv
  refine ⟨all, rfl, hspread.plain hall (named_companionTool tool), ?_, ?_, ?_, ?_⟩
  all_goals
    rw [hspread.field?_eq hall (by decide)]
    simp [entriesOf, CompanionTool.toYaml, Value.untagged]

theorem told_of_checkSettingsSaved {checks : CheckSettings} (h : CheckSettingsSaved checks v)
    (hv : v.wellFormed = true) : ∃ es, v = .mapping es ∧ CheckSettingsTold checks es := by
  obtain ⟨all, rfl, tool, hsaved, hspread⟩ := h
  have hall := (Entries.proper_iff all).mpr hv
  have htool : field? "companion_tool" all = some tool := by
    rw [hspread.field?_eq hall (by decide)]
    simp [field?_replaced, entriesOf, CheckSettings.toYaml, Value.untagged]
  obtain ⟨inner, rfl, htold⟩ :=
    told_of_companionToolSaved hsaved (Entries.get?_wellFormed hall htool)
  have hplain := hspread.plain hall ((named_checkSettings checks).replaced _ _)
  refine ⟨all, rfl, hplain, ?_, ?_, ?_, ?_, ?_, ?_, ?_, inner, htool, htold⟩
  all_goals
    rw [hspread.field?_eq hall (by decide)]
    simp [field?_nil, field?_replaced, entriesOf, CheckSettings.toYaml, Value.untagged]

theorem told_of_saved (h : Saved c v) (hv : v.wellFormed = true) :
    ∃ es, v = .mapping es ∧ ConfigTold c es := by
  obtain ⟨all, rfl, settings, checks, hsettings, hchecks, hspread⟩ := h
  have hall := (Entries.proper_iff all).mpr hv
  have hfield : field? "settings" all = some settings := by
    rw [hspread.field?_eq hall (by decide)]
    simp [field?_replaced, entriesOf, Config.toYaml, Value.untagged]
  have hfield' : field? "checks" all = some checks := by
    rw [hspread.field?_eq hall (by decide)]
    simp [field?_replaced, entriesOf, Config.toYaml, Value.untagged]
  obtain ⟨inner, rfl, htold⟩ :=
    told_of_settingsSaved hsettings (Entries.get?_wellFormed hall hfield)
  obtain ⟨inner', rfl, htold'⟩ :=
    told_of_checkSettingsSaved hchecks (Entries.get?_wellFormed hall hfield')
  have hnamed : Named (entriesOf c.toYaml) := by
    change Named [_, _]
    simp [Named, entry]
  have hplain := hspread.plain hall ((hnamed.replaced _ _).replaced _ _)
  exact ⟨all, rfl, hplain, ⟨inner, hfield, htold⟩, inner', hfield', htold'⟩

theorem decode_told {es : Entries} (h : ConfigTold c es) (source : Path) :
    ofValue (.mapping es) source = .ok c := by
  rw [ofValue, h.decoded]
  rfl

theorem spread_refl (known : List String) (es : Entries) : Spread known es es :=
  ⟨[], by simp, List.forall_mem_nil _⟩

theorem settingsSaved_toYaml (s : Settings) : SettingsSaved s s.toYaml :=
  ⟨_, rfl, spread_refl _ _⟩

theorem checkSettingsSaved_toYaml (checks : CheckSettings) :
    CheckSettingsSaved checks checks.toYaml := by
  refine ⟨_, rfl, checks.companionTool.toYaml, ⟨_, rfl, spread_refl _ _⟩, ?_⟩
  have hsame : replaced "companion_tool" checks.companionTool.toYaml (entriesOf checks.toYaml) =
      entriesOf checks.toYaml := by
    cases hdatabase : checks.databasePath <;> cases hinstall : checks.installDir <;>
      simp [replaced, entriesOf, CheckSettings.toYaml, Value.untagged, entry, pathEntry, nameOf?,
        hdatabase, hinstall]
  rw [hsame]
  exact spread_refl _ _

/-- What is written of a configuration is a value of it. -/
theorem saved_toYaml (c : Config) : Saved c c.toYaml := by
  refine ⟨_, rfl, _, _, settingsSaved_toYaml c.settings, checkSettingsSaved_toYaml c.checks, ?_⟩
  have hsame : replaced "settings" c.settings.toYaml
      (replaced "checks" c.checks.toYaml (entriesOf c.toYaml)) = entriesOf c.toYaml := by
    simp [replaced, entriesOf, Config.toYaml, Value.untagged, entry, nameOf?]
  rw [hsame]
  exact spread_refl _ _

theorem settings_wellFormed (s : Settings) : s.toYaml.wellFormed = true := by
  rw [Settings.toYaml, ← Entries.proper_iff]
  cases s.parallel <;> simp [entry, Entries.proper_cons, Entries.proper_nil, Value.wellFormed]

theorem companionTool_wellFormed (tool : CompanionTool) : tool.toYaml.wellFormed = true := by
  have hargs : Value.wellFormedItems (tool.args.map .string) = true := by
    rw [Value.wellFormedItems_iff, List.forall_mem_map]
    exact fun _ _ => rfl
  rw [CompanionTool.toYaml, ← Entries.proper_iff]
  simp [entry, Entries.proper_cons, Entries.proper_nil, Value.wellFormed, hargs]

theorem checkSettings_wellFormed (checks : CheckSettings) : checks.toYaml.wellFormed = true := by
  have htool := companionTool_wellFormed checks.companionTool
  rw [CheckSettings.toYaml, ← Entries.proper_iff]
  cases checks.databasePath <;> cases checks.installDir <;>
    simp [entry, pathEntry, Entries.proper_cons, Entries.proper_nil, Value.wellFormed, htool]

/-- No mapping that is written of a configuration has a key twice. -/
theorem toYaml_wellFormed (c : Config) : c.toYaml.wellFormed = true := by
  have hsettings := settings_wellFormed c.settings
  have hchecks := checkSettings_wellFormed c.checks
  rw [Config.toYaml, ← Entries.proper_iff]
  simp [entry, Entries.proper_cons, Entries.proper_nil, Value.wellFormed, hsettings, hchecks]

/-- What is written of a configuration gives it back when it is loaded, in any order and among
unknown entries. Over another configuration it leaves that one's paths where its own are unset, and
the checks run in parallel if either says so. -/
theorem saved_loads_back (hd : Saved d v) (hc : Saved c w) (hv : v.wellFormed = true)
    (hw : w.wellFormed = true) (source : Path) :
    ofValue (mergeLayers [w]) source = .ok c ∧
      ofValue (mergeLayers [v, w]) source = .ok (upon c d) := by
  obtain ⟨old, rfl, hold⟩ := told_of_saved hd hv
  obtain ⟨es, rfl, hes⟩ := told_of_saved hc hw
  -- Merging begins with an empty mapping, so that the first layer is laid over it too.
  have hfirst : mergeLayers [.mapping old] = .mapping (overlaidEntries [] [] old) := by
    rw [mergeLayers_singleton rfl, overlaid]
  have hsecond : mergeLayers [.mapping es] = .mapping (overlaidEntries [] [] es) := by
    rw [mergeLayers_singleton rfl, overlaid]
  have hboth : mergeLayers [.mapping old, .mapping es] =
      overlaid (mergeLayers [.mapping old]) (.mapping es) :=
    mergeLayers_concat [.mapping old] (.mapping es)
  rw [hsecond, hboth, hfirst, overlaid]
  exact ⟨decode_told hes.laid_first source, decode_told (hold.laid_first.laid hes) source⟩

theorem spread_reverse {es : Entries} {name : String} (h : name ∉ known) (v : Value) :
    Spread known es (es ++ [entry name v]).reverse :=
  ⟨[entry name v], List.reverse_perm _, by simpa [entry] using h⟩

def lowerConfig : Config :=
  { settings := { parallel := true }, checks := { databasePath := some ⟨"/srv/db"⟩ } }

def upperConfig : Config :=
  { checks := { port := 9000, installDir := some ⟨"/opt"⟩, companionTool := { args := [] } } }

/-- Values of the upper configuration from the last entry to the first, behind unknown entries. -/
def upperTool : Value :=
  .mapping
    [entry "port" (.int 1),
     entry "install_hint" (.string upperConfig.checks.companionTool.installHint),
     entry "timeout_secs" (.int 5),
     entry "args" (.sequence []),
     entry "program" (.string "cloudflared")]

def upperChecks : Value :=
  .mapping
    [entry "settings" .null,
     entry "companion_tool" upperTool,
     entry "firewall_policy" (.string "advisory"),
     entry "install_dir" (.string "/opt"),
     entry "min_managed_release" (.int 461808),
     entry "min_free_space_mb" (.int 500),
     entry "min_os_major" (.int 10),
     entry "port" (.int 9000)]

def upperSettings : Value :=
  .mapping
    [entry "Parallel" (.bool true),
     entry "format" (.string "human"),
     entry "default_output" (.string "normal")]

def upperValue : Value :=
  .mapping [entry "retired" .null, entry "checks" upperChecks, entry "settings" upperSettings]

theorem saved_loads_back_upperConfig :
    Saved lowerConfig lowerConfig.toYaml ∧ Saved upperConfig upperValue ∧
      lowerConfig.toYaml.wellFormed = true ∧ upperValue.wellFormed = true ∧
      ofValue (mergeLayers [lowerConfig.toYaml, upperValue]) ⟨"config.yml"⟩ =
        .ok { settings := { parallel := true }
              checks := { upperConfig.checks with databasePath := some ⟨"/srv/db"⟩ } } := by
  have htool : CompanionToolSaved upperConfig.checks.companionTool upperTool :=
    ⟨_, rfl, spread_reverse (by decide) _⟩
  have hchecks : CheckSettingsSaved upperConfig.checks upperChecks :=
    ⟨_, rfl, upperTool, htool, spread_reverse (by decide) _⟩
  have hsettings : SettingsSaved upperConfig.settings upperSettings :=
    ⟨_, rfl, spread_reverse (by decide) _⟩
  have hupper : Saved upperConfig upperValue :=
    ⟨_, rfl, upperSettings, upperChecks, hsettings, hchecks, spread_reverse (by decide) _⟩
  have hlower := saved_toYaml lowerConfig
  have hlowerFormed := toYaml_wellFormed lowerConfig
  have hupperFormed : upperValue.wellFormed = true := by decide
  exact ⟨hlower, hupper, hlowerFormed, hupperFormed,
    (saved_loads_back hlower hupper hlowerFormed hupperFormed _).2⟩

end Saved
end Readiness.Config
