import Readiness.Proofs.ConfigFailure
import Readiness.Proofs.Faults

/-!
Which file an error about configuration names. A text that is no YAML is laid to the file that
holds it. What all layers together do not describe is laid to the last of them, though another may
be the one that fails alone.
-/

namespace Readiness.Config

open Yaml (Value)

variable {files : File.System} {sources : Sources} {p q : Path} {v : Value} {m : Mismatch}
  {message : String} {layers : List Value}

/-- A file that is there alone. -/
def Sources.only (p : Path) : Sources := { project := some p }

/-- A file that can be read and holds no YAML. -/
def Malformed (files : File.System) (p : Path) : Prop :=
  ∃ text, files.read p = .ok text ∧ Value.parse? text = none

/-- The first of the files without a value is one that holds no YAML. -/
def StopsMalformed (files : File.System) (p : Path) (paths : List Path) : Prop :=
  ∃ before after, paths = before ++ p :: after ∧
    (∀ q ∈ before, ∃ v, loadValue files q = .ok v) ∧ Malformed files p

/-- All files have values, and the values together describe no configuration. -/
def DescribeNone (files : File.System) (m : Mismatch) (paths : List Path) : Prop :=
  ∃ layers, paths.mapM (loadValue files) = .ok layers ∧ decode (mergeLayers layers) = .error m

/-- A file that is named for an error when it is there alone. -/
def MisreadAlone (files : File.System) (p : Path) : Prop :=
  ∃ message, load files (.only p) = .error (.configMisread p message)

theorem readFile_ne_misread : readFile files q ≠ .error (.configMisread p message) := by
  intro h
  rw [readFile] at h
  split at h <;> cases h

theorem parseValue_eq_misread_iff {text : String} :
    parseValue text q = .error (.configMisread p message) ↔
      Value.parse? text = none ∧ q = p ∧ message = Failure.malformedText := by
  rw [parseValue]
  cases Value.parse? text with
  | some v => simp
  | none => simp [eq_comm]

theorem loadValue_eq_misread_iff :
    loadValue files q = .error (.configMisread p message) ↔
      Malformed files q ∧ q = p ∧ message = Failure.malformedText := by
  simp only [loadValue, bind_eq_error_iff, readFile_ne_misread, false_or, readFile_eq_ok_iff,
    parseValue_eq_misread_iff, Malformed, ← and_assoc, exists_and_right]

theorem ofValue_eq_misread_iff :
    ofValue v q = .error (.configMisread p message) ↔
      q = p ∧ ∃ m, decode v = .error m ∧ m.message = message := by
  simp only [ofValue, mapError_eq_error_iff, Failure.configMisread.injEq, and_left_comm,
    exists_and_left]

theorem getLast?_of_describeNone (h : DescribeNone files m sources.all) :
    sources.all.getLast? = some sources.blamed := by
  rw [Sources.blamed]
  cases hall : sources.all with
  | nil =>
      -- Without a file nothing is wrong.
      rw [hall] at h
      obtain ⟨layers, hlayers, herror⟩ := h
      cases hlayers
      cases herror
  | cons head rest => rw [List.getLast?_cons, Option.getD_some]

theorem load_eq_misread_iff :
    load files sources = .error (.configMisread p message) ↔
      StopsMalformed files p sources.all ∧ message = Failure.malformedText ∨
      sources.all.getLast? = some p ∧ ∃ m, DescribeNone files m sources.all ∧ m.message = message := by
  rw [load, bind_eq_error_iff, mapM_eq_error_iff]
  refine or_congr ?_ ?_
  · simp only [loadValue_eq_misread_iff, StopsMalformed]
    constructor
    · rintro ⟨before, q, after, hall, hbefore, hq, rfl, rfl⟩
      exact ⟨⟨before, after, hall, hbefore, hq⟩, rfl⟩
    · rintro ⟨⟨before, after, hall, hbefore, hp⟩, rfl⟩
      exact ⟨before, p, after, hall, hbefore, hp, rfl, rfl⟩
  · simp only [ofValue_eq_misread_iff]
    constructor
    · rintro ⟨layers, hlayers, rfl, m, herror, hmessage⟩
      have hnone : DescribeNone files m sources.all := ⟨layers, hlayers, herror⟩
      exact ⟨getLast?_of_describeNone hnone, m, hnone, hmessage⟩
    · rintro ⟨hlast, m, hnone, hmessage⟩
      have hp : sources.blamed = p :=
        Option.some.inj ((getLast?_of_describeNone hnone).symm.trans hlast)
      obtain ⟨layers, hlayers, herror⟩ := hnone
      exact ⟨layers, hlayers, hp, m, herror, hmessage⟩

theorem misreadAlone_of_malformed (h : Malformed files p) : MisreadAlone files p := by
  refine ⟨Failure.malformedText, load_eq_misread_iff.mpr (Or.inl ⟨?_, rfl⟩)⟩
  exact ⟨[], [], rfl, List.forall_mem_nil _, h⟩

theorem misreadAlone_of_failsAlone (h : loadValue files p = .ok v) (hfails : FailsAlone v) :
    MisreadAlone files p := by
  obtain ⟨m, hm⟩ := hfails
  refine ⟨m.message, load_eq_misread_iff.mpr (Or.inr ⟨rfl, m, ⟨[v], ?_, hm⟩, rfl⟩)⟩
  change List.mapM (loadValue files) [p] = _
  rw [List.mapM_cons, h]
  rfl

/-- A layer whose entries a tag keeps from being merged. -/
def Tagged (files : File.System) (p : Path) : Prop :=
  ∃ name content, loadValue files p = .ok (.tagged name content)

theorem misreadAlone_of_describeNone (h : DescribeNone files m sources.all) :
    (∃ field, m = .duplicate field) ∨ (∃ q ∈ sources.all, Tagged files q) ∨
      ∃ q ∈ sources.all, MisreadAlone files q := by
  obtain ⟨layers, hlayers, herror⟩ := h
  have hfrom := exists_of_mem_mapM hlayers
  obtain h | ⟨name, content, hmem⟩ | ⟨layer, hmem, hfails⟩ :=
    decode_mergeLayers_error (layers_wellFormed hlayers) herror
  · exact Or.inl h
  · obtain ⟨q, hq, hload⟩ := hfrom _ hmem
    exact Or.inr (Or.inl ⟨q, hq, name, content, hload⟩)
  · obtain ⟨q, hq, hload⟩ := hfrom _ hmem
    exact Or.inr (Or.inr ⟨q, hq, misreadAlone_of_failsAlone hload hfails⟩)

/-- The file that an error names is one of the files. It is named for its text, and then alone as
well; or it is the last of files that can all be read, named for what they say together. -/
theorem load_names_iff (files : File.System) (sources : Sources) (p : Path) (message : String) :
    load files sources = .error (.configMisread p message) ↔
      StopsMalformed files p sources.all ∧ message = Failure.malformedText ∧ MisreadAlone files p ∨
      sources.all.getLast? = some p ∧ ∃ m, DescribeNone files m sources.all ∧ m.message = message ∧
        ((∃ field, m = .duplicate field) ∨ (∃ q ∈ sources.all, Tagged files q) ∨
          ∃ q ∈ sources.all, MisreadAlone files q) := by
  rw [load_eq_misread_iff]
  refine or_congr ?_ ?_
  · rw [← and_assoc]
    refine (and_iff_left_of_imp ?_).symm
    rintro ⟨⟨_, _, -, -, hp⟩, -⟩
    exact misreadAlone_of_malformed hp
  · refine and_congr_right fun _ => exists_congr fun m => and_congr_right fun hnone => ?_
    exact (and_iff_left (misreadAlone_of_describeNone hnone)).symm

/-- A project whose checks are a number, and whose local file is empty. -/
def mistypedProject : File.System where
  kind := fun _ => .ok .file
  read := fun p => .ok (if p = ⟨"config.yml"⟩ then "checks: 5" else "")
  names := fun _ => .ok []
  write := fun _ => .ok ()

def mistypedSources : Sources :=
  { project := some ⟨"config.yml"⟩, projectLocal := some ⟨"config.local.yml"⟩ }

/-- The empty file is named, which says nothing and fails nowhere, and not the file at fault. -/
theorem empty_file_is_named :
    load mistypedProject mistypedSources = .error (.configMisread ⟨"config.local.yml"⟩
        "invalid type: integer `5`, expected struct CheckSettings") ∧
      load mistypedProject (.only ⟨"config.local.yml"⟩) = .ok {} ∧
      MisreadAlone mistypedProject ⟨"config.yml"⟩ := by
  refine ⟨?_, ?_, "invalid type: integer `5`, expected struct CheckSettings", ?_⟩ <;> decide +kernel

end Readiness.Config
