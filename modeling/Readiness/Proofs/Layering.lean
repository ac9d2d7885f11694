import Readiness.Config.Sources
import Readiness.Proofs.LastOf
import Readiness.Proofs.Steps
import Readiness.Proofs.YamlReading

/-!
What merged layers hold where a path of keys leads: what the last layer that has anything to say
about the path says, whatever the layers below it were.
-/

namespace Readiness.Config

open Yaml (Value Entries)

section Overlay

/-- What an entry becomes that is laid over what its key had. Nothing takes the key away. -/
def laid (before : Option Value) (value : Value) : Option Value :=
  if value.isNull then none
  else some (match before with
    | some before => overlaid before value
    | none => value)

/-- The entries with another value for a key, or with none. -/
def settled (key : Value) (value : Option Value) (entries : Entries) : Entries :=
  match value with
  | some value => entries.insert key value
  | none => entries.erase key

variable {key : Value} {entries : Entries}

theorem get?_settled (h : entries.Proper) {key' : Value} (hkey : key.wellFormed = true)
    (hkey' : key'.wellFormed = true) (value : Option Value) :
    Entries.get? key' (settled key value entries) =
      if key.same key' = true then value else Entries.get? key' entries := by
  cases value with
  | some value => exact Entries.get?_insert h hkey hkey'
  | none => exact Entries.get?_erase h hkey hkey'

theorem settled_proper (h : entries.Proper) (hkey : key.wellFormed = true) {value : Option Value}
    (hvalue : ∀ v ∈ value, v.wellFormed = true) : (settled key value entries).Proper := by
  cases value with
  | some value => exact h.insert hkey (hvalue value rfl)
  | none => exact h.erase key

theorem overlaidEntries_cons (old result : Entries) (value : Value) (rest : Entries) :
    overlaidEntries old result ((key, value) :: rest) =
      overlaidEntries old (settled key (laid (Entries.get? key old) value) result) rest := by
  simp only [overlaidEntries, laid]
  split
  · rfl
  · cases Entries.get? key old <;> rfl

theorem laid_wellFormed {before : Option Value} {value : Value} (hvalue : value.wellFormed = true)
    (hover : ∀ b ∈ before, (overlaid b value).wellFormed = true) :
    ∀ v ∈ laid before value, v.wellFormed = true := by
  intro v hv
  simp only [laid] at hv
  split at hv
  · cases hv
  · cases before with
    | none =>
        cases hv
        exact hvalue
    | some b =>
        cases hv
        exact hover b rfl

theorem overlaidEntries_proper {old result : Entries} (hold : old.Proper)
    (hresult : result.Proper) (h : entries.Proper)
    (ih : ∀ e ∈ entries, ∀ b : Value, b.wellFormed = true → (overlaid b e.2).wellFormed = true) :
    (overlaidEntries old result entries).Proper := by
  induction entries generalizing result with
  | nil => simpa only [overlaidEntries] using hresult
  | cons e rest iht =>
      obtain ⟨key, value⟩ := e
      obtain ⟨-, hkey, hvalue, hrest⟩ := (Entries.proper_cons key value rest).mp h
      rw [List.forall_mem_cons] at ih
      rw [overlaidEntries_cons]
      have hlaid := laid_wellFormed hvalue fun b (hb : Entries.get? key old = some b) =>
        ih.1 b (Entries.get?_wellFormed hold hb)
      exact iht (settled_proper hresult hkey hlaid) hrest ih.2

theorem overlaid_of_not_mapping {overlay : Value} (h : ∀ entries, overlay ≠ .mapping entries)
    (base : Value) : overlaid base overlay = overlay := by
  cases overlay with
  | mapping entries => exact (h entries rfl).elim
  | null | bool _ | int _ | float _ | string _ | sequence _ | tagged _ _ => simp only [overlaid]

theorem overlaid_on_not_mapping {base : Value} (h : ∀ old, base ≠ .mapping old)
    (entries : Entries) : overlaid base (.mapping entries) = .mapping entries := by
  cases base with
  | mapping old => exact (h old rfl).elim
  | null | bool _ | int _ | float _ | string _ | sequence _ | tagged _ _ => simp only [overlaid]

theorem overlaid_wellFormed {base overlay : Value} (hbase : base.wellFormed = true)
    (hoverlay : overlay.wellFormed = true) : (overlaid base overlay).wellFormed = true := by
  induction overlay using Value.induct generalizing base with
  | null | bool _ | int _ | float _ | string _ | sequence _ _ | tagged _ _ _ =>
      simpa only [overlaid] using hoverlay
  | mapping entries ih =>
      rcases base.mapping_or_not with ⟨old, rfl⟩ | hold
      · rw [← Entries.proper_iff] at hbase hoverlay
        simp only [overlaid]
        rw [← Entries.proper_iff]
        refine overlaidEntries_proper hbase hbase hoverlay ?_
        intro e he b hb
        exact (ih e he).2 hb (hoverlay.values e he)
      · rw [overlaid_on_not_mapping hold]
        exact hoverlay

/-- Entries are laid over one another key by key, each over what its key had at first. -/
theorem get?_overlaidEntries {old result : Entries} (hold : old.Proper) (hresult : result.Proper)
    (h : entries.Proper) (hkey : key.wellFormed = true) :
    Entries.get? key (overlaidEntries old result entries) =
      match Entries.get? key entries with
      | some value => laid (Entries.get? key old) value
      | none => Entries.get? key result := by
  induction entries generalizing result with
  | nil => simp only [overlaidEntries, Entries.get?, List.find?_nil, Option.map_none]
  | cons e rest ih =>
      obtain ⟨other, value⟩ := e
      obtain ⟨hnew, hother, hvalue, hrest⟩ := (Entries.proper_cons other value rest).mp h
      rw [overlaidEntries_cons]
      have hlaid := laid_wellFormed hvalue fun b (hb : Entries.get? other old = some b) =>
        overlaid_wellFormed (Entries.get?_wellFormed hold hb) hvalue
      rw [ih (settled_proper hresult hother hlaid) hrest, Entries.get?_cons,
        get?_settled hresult hother hkey]
      by_cases hsame : other.same key = true
      · have hgone : Entries.get? key rest = none := by
          rw [← Entries.get?_congr hother hkey hsame, Entries.get?_eq_none_iff]
          intro e he
          exact (hnew e he).2
        simp only [hgone, hsame, if_true, Entries.get?_congr hother hkey hsame]
      · simp only [if_neg hsame]

end Overlay

section Path

/-- What a value holds where a path of keys leads. -/
def at? : List Value → Value → Option Value
  | [], v => some v
  | key :: path, .mapping entries => (Entries.get? key entries).bind (at? path)
  | _ :: _, _ => none

/-- What a layer has to say about a path: nothing, where a mapping on the way lacks the next key;
the value there; or a value on the way that is no mapping. -/
inductive Saying
  | silent
  | holds (v : Value)
  | cut (v : Value)

def saying : List Value → Value → Saying
  | [], v => .holds v
  | key :: path, .mapping entries =>
    match Entries.get? key entries with
    | some v => saying path v
    | none => .silent
  | _ :: _, v => .cut v

/-- A value that is neither null nor a mapping. -/
def isLeaf (v : Value) : Bool :=
  match v with
  | .mapping _ => false
  | v => !v.isNull

/-- The leaf that a value holds at a path. -/
def leafAt (path : List Value) (v : Value) : Option Value :=
  (at? path v).filter isLeaf

/-- The leaf at a path once a layer has had its say, over what there was. -/
def Saying.over (below : Option Value) : Saying → Option Value
  | .silent => below
  | .holds v => if isLeaf v then some v else none
  | .cut _ => none

variable {key : Value} {path : List Value}

theorem leafAt_nil (v : Value) : leafAt [] v = if isLeaf v then some v else none := by
  simp only [leafAt, at?, Option.filter]

theorem leafAt_mapping (entries : Entries) :
    leafAt (key :: path) (.mapping entries) = (Entries.get? key entries).bind (leafAt path) := by
  simp only [leafAt, at?]
  cases Entries.get? key entries <;> rfl

theorem leafAt_of_not_mapping {v : Value} (h : ∀ entries, v ≠ .mapping entries) :
    leafAt (key :: path) v = none := by
  cases v with
  | mapping entries => exact (h entries rfl).elim
  | null | bool _ | int _ | float _ | string _ | sequence _ | tagged _ _ => rfl

theorem saying_of_not_mapping {v : Value} (h : ∀ entries, v ≠ .mapping entries) :
    saying (key :: path) v = .cut v := by
  cases v with
  | mapping entries => exact (h entries rfl).elim
  | null | bool _ | int _ | float _ | string _ | sequence _ | tagged _ _ => rfl

theorem leafAt_eq_over (path : List Value) (v : Value) :
    leafAt path v = (saying path v).over none := by
  induction path generalizing v with
  | nil => exact leafAt_nil v
  | cons key path ih =>
      rcases v.mapping_or_not with ⟨entries, rfl⟩ | h
      · rw [leafAt_mapping, saying]
        cases Entries.get? key entries with
        | some v => exact ih v
        | none => rfl
      · rw [leafAt_of_not_mapping h, saying_of_not_mapping h, Saying.over]

theorem isLeaf_of_isNull {v : Value} (h : v.isNull = true) : isLeaf v = false := by
  cases v with
  | mapping entries => rfl
  | null | bool _ | int _ | float _ | string _ | sequence _ | tagged _ _ => simp [isLeaf, h]

theorem not_mapping_of_isNull {v : Value} (h : v.isNull = true) :
    ∀ entries, v ≠ .mapping entries := by
  rintro entries rfl
  cases h

theorem over_saying_of_isNull {v : Value} (h : v.isNull = true) (below : Option Value) :
    (saying path v).over below = none := by
  cases path with
  | nil => simp [saying, Saying.over, isLeaf_of_isNull h]
  | cons key path => rw [saying_of_not_mapping (not_mapping_of_isNull h), Saying.over]

theorem isLeaf_overlaid_mapping (base : Value) (entries : Entries) :
    isLeaf (overlaid base (.mapping entries)) = false := by
  cases base <;> simp only [overlaid, isLeaf]

theorem leafAt_laid {before : Option Value} {value : Value}
    (h : ∀ b ∈ before, leafAt path (overlaid b value) = (saying path value).over (leafAt path b)) :
    (laid before value).bind (leafAt path) =
      (saying path value).over (before.bind (leafAt path)) := by
  simp only [laid]
  split
  · rename_i hnull
    exact (over_saying_of_isNull hnull _).symm
  · cases before with
    | none => exact leafAt_eq_over path value
    | some b => exact h b rfl

/-- One layer laid over a value decides every path that it says something about, and no other. -/
theorem leafAt_overlaid {base overlay : Value} (hbase : base.wellFormed = true)
    (hoverlay : overlay.wellFormed = true) (hpath : ∀ k ∈ path, k.wellFormed = true) :
    leafAt path (overlaid base overlay) = (saying path overlay).over (leafAt path base) := by
  induction path generalizing base overlay with
  | nil =>
      rcases overlay.mapping_or_not with ⟨entries, rfl⟩ | h
      · rw [leafAt_nil, isLeaf_overlaid_mapping]
        rfl
      · rw [overlaid_of_not_mapping h, leafAt_nil]
        rfl
  | cons key path ih =>
      rw [List.forall_mem_cons] at hpath
      obtain ⟨hkey, hpath⟩ := hpath
      rcases overlay.mapping_or_not with ⟨entries, rfl⟩ | h
      · rcases base.mapping_or_not with ⟨old, rfl⟩ | hold
        · rw [← Entries.proper_iff] at hbase hoverlay
          simp only [overlaid, leafAt_mapping, saying]
          rw [get?_overlaidEntries hbase hbase hoverlay hkey]
          cases hover : Entries.get? key entries with
          | none => rfl
          | some value =>
              refine leafAt_laid ?_
              intro b hb
              exact ih (Entries.get?_wellFormed hbase hb) (Entries.get?_wellFormed hoverlay hover)
                hpath
        · rw [overlaid_on_not_mapping hold, leafAt_of_not_mapping hold]
          exact leafAt_eq_over (key :: path) (.mapping entries)
      · rw [overlaid_of_not_mapping h, saying_of_not_mapping h, leafAt_of_not_mapping h]
        rfl

end Path

section Layers

variable {layers : List Value}

theorem loadValue_wellFormed {files : File.System} {p : Path} {v : Value}
    (h : loadValue files p = .ok v) : v.wellFormed = true := by
  obtain ⟨text, -, h⟩ := bind_eq_ok_iff.mp h
  rw [parseValue] at h
  split at h
  · rename_i w hparse
    cases h
    exact Value.parse?_wellFormed hparse
  · cases h

/-- The layers that files hold have no key twice anywhere. -/
theorem layers_wellFormed {files : File.System} {paths : List Path}
    (h : paths.mapM (loadValue files) = .ok layers) : ∀ layer ∈ layers, layer.wellFormed = true := by
  intro layer hlayer
  obtain ⟨p, -, hload⟩ := exists_of_mem_mapM h layer hlayer
  exact loadValue_wellFormed hload

theorem mergeLayers_concat (layers : List Value) (layer : Value) :
    mergeLayers (layers ++ [layer]) =
      if layer.isNull = true then mergeLayers layers else overlaid (mergeLayers layers) layer := by
  simp only [mergeLayers, List.filter_append, List.foldl_append, List.filter_cons, List.filter_nil]
  cases layer.isNull <;> rfl

theorem mergeLayers_wellFormed (h : ∀ layer ∈ layers, layer.wellFormed = true) :
    (mergeLayers layers).wellFormed = true := by
  induction layers using List.reverseRecOn with
  | nil => rfl
  | append_singleton layers layer ih =>
      rw [List.forall_mem_append, List.forall_mem_singleton] at h
      rw [mergeLayers_concat]
      split
      · exact ih h.1
      · exact overlaid_wellFormed (ih h.1) h.2

/-- Whether a layer counts at a path: one that is null counts nowhere. -/
def Speaks (path : List Value) (layer : Value) : Prop :=
  layer.isNull = false ∧ saying path layer ≠ .silent

/-- The last of the layers that speak on a path. -/
def HasLastWord (path : List Value) (layer : Value) (layers : List Value) : Prop :=
  ∃ below above, layers = below ++ layer :: above ∧ Speaks path layer ∧
    ∀ l ∈ above, ¬ Speaks path l

variable {path : List Value} {layer last : Value}

theorem hasLastWord_iff :
    HasLastWord path layer layers ↔ ∃ below, IsLast (Speaks path) below layer layers := Iff.rfl

theorem silent_of_not_speaks (hnull : ¬ layer.isNull = true) (h : ¬ Speaks path layer) :
    saying path layer = .silent := by
  by_contra hspeaks
  exact h ⟨Bool.eq_false_iff.mpr hnull, hspeaks⟩

/-- A property of merged layers that the last of them to speak on a path settles, over those below
it: a layer that is silent there changes nothing. -/
structure SettledBy (path : List Value) (P : Value → Prop) (Q : List Value → Value → Prop) :
    Prop where
  speaks : ∀ below layer, (∀ l ∈ below, l.wellFormed = true) → layer.wellFormed = true →
    Speaks path layer → (P (overlaid (mergeLayers below) layer) ↔ Q below layer)
  silent : ∀ base layer : Value, base.wellFormed = true → layer.wellFormed = true →
    saying path layer = .silent → (P (overlaid base layer) ↔ P base)

theorem SettledBy.mergeLayers_iff {P : Value → Prop} {Q : List Value → Value → Prop}
    (h : SettledBy path P Q) (hlayers : ∀ layer ∈ layers, layer.wellFormed = true) :
    P (mergeLayers layers) ↔
      (∃ layer below, IsLast (Speaks path) below layer layers ∧ Q below layer) ∨
      P (.mapping []) ∧ ∀ layer ∈ layers, ¬ Speaks path layer := by
  induction layers using List.reverseRecOn with
  | nil =>
      have hempty : mergeLayers [] = .mapping [] := rfl
      simp [not_isLast_nil, hempty]
  | append_singleton layers last ih =>
      rw [List.forall_mem_append, List.forall_mem_singleton] at hlayers
      obtain ⟨hlayers, hlast⟩ := hlayers
      rw [mergeLayers_concat]
      simp only [List.forall_mem_append, List.forall_mem_singleton]
      by_cases hspeaks : Speaks path last
      · rw [if_neg (by simp [hspeaks.1]), h.speaks layers last hlayers hlast hspeaks]
        simp [isLast_concat_of_pos hspeaks, hspeaks]
      · simp only [isLast_concat_of_neg hspeaks, hspeaks, not_false_eq_true, and_true, ← ih hlayers]
        split
        · rfl
        · rename_i hnull
          exact h.silent _ last (mergeLayers_wellFormed hlayers) hlast
            (silent_of_not_speaks hnull hspeaks)

theorem over_of_speaks (h : Speaks path layer) (below : Option Value) :
    (saying path layer).over below = (saying path layer).over none := by
  cases hsaying : saying path layer with
  | silent => exact (h.2 hsaying).elim
  | holds v => rfl
  | cut v => rfl

theorem leafAt_settledBy (hpath : ∀ k ∈ path, k.wellFormed = true) (v : Value) :
    SettledBy path (fun w => leafAt path w = some v) fun _ layer => leafAt path layer = some v where
  speaks below layer hbelow hlayer h := by
    rw [leafAt_overlaid (mergeLayers_wellFormed hbelow) hlayer hpath, over_of_speaks h,
      leafAt_eq_over path layer]
  silent base layer hbase hlayer h := by
    rw [leafAt_overlaid hbase hlayer hpath, h, Saying.over]

theorem leafAt_mergeLayers_iff (hlayers : ∀ layer ∈ layers, layer.wellFormed = true)
    (hpath : ∀ k ∈ path, k.wellFormed = true) (v : Value) :
    leafAt path (mergeLayers layers) = some v ↔
      ∃ layer, HasLastWord path layer layers ∧ leafAt path layer = some v := by
  have hempty : leafAt path (.mapping []) ≠ some v := by
    cases path <;> nofun
  rw [(leafAt_settledBy hpath v).mergeLayers_iff hlayers]
  simp only [hasLastWord_iff, exists_and_right, hempty, false_and, or_false]

theorem leafAt_eq_some_iff (path : List Value) (layer v : Value) :
    leafAt path layer = some v ↔ saying path layer = .holds v ∧ isLeaf v = true := by
  rw [leafAt_eq_over]
  cases hsaying : saying path layer with
  | silent => simp [Saying.over]
  | cut w => simp [Saying.over]
  | holds w =>
      simp only [Saying.over, Option.ite_none_right_eq_some, Option.some.injEq, Saying.holds.injEq]
      constructor
      · rintro ⟨hleaf, rfl⟩
        exact ⟨rfl, hleaf⟩
      · rintro ⟨rfl, hleaf⟩
        exact ⟨hleaf, rfl⟩

/-- The last layer that speaks wins: the merged layers hold a leaf at a path exactly if that layer
holds it there. -/
theorem mergeLayers_holds_iff (layers path : List Value) (v : Value)
    (hlayers : ∀ layer ∈ layers, layer.wellFormed = true)
    (hpath : ∀ k ∈ path, k.wellFormed = true) (hleaf : isLeaf v = true) :
    at? path (mergeLayers layers) = some v ↔
      ∃ layer, HasLastWord path layer layers ∧ saying path layer = .holds v := by
  have hat : at? path (mergeLayers layers) = some v ↔ leafAt path (mergeLayers layers) = some v := by
    simp only [leafAt, Option.filter_eq_some_iff, hleaf, and_true]
  rw [hat, leafAt_mergeLayers_iff hlayers hpath]
  simp only [leafAt_eq_some_iff, hleaf, and_true]

/-- A section that one layer makes a scalar and the next brings back. -/
def reintroduced : List Value :=
  [.mapping [(.string "checks", .mapping [(.string "port", .int 1)])],
    .mapping [(.string "checks", .bool false)],
    .mapping [(.string "checks", .mapping [(.string "port", .int 2)])],
    .null,
    .mapping [(.string "checks", .mapping [(.string "host", .null)])]]

theorem mergeLayers_holds_reintroduced :
    (∀ layer ∈ reintroduced, layer.wellFormed = true) ∧
      (∀ k ∈ [Value.string "checks", .string "port"], k.wellFormed = true) ∧
      isLeaf (.int 2) = true ∧
      at? [.string "checks", .string "port"] (mergeLayers reintroduced) = some (.int 2) := by
  have hlayers : ∀ layer ∈ reintroduced, layer.wellFormed = true := by decide
  have hpath : ∀ k ∈ [Value.string "checks", .string "port"], k.wellFormed = true := by decide
  have hlast : HasLastWord [.string "checks", .string "port"]
      (.mapping [(.string "checks", .mapping [(.string "port", .int 2)])]) reintroduced := by
    refine ⟨reintroduced.take 2, reintroduced.drop 3, rfl, ⟨rfl, nofun⟩, ?_⟩
    simp only [reintroduced, List.drop, List.forall_mem_cons]
    refine ⟨fun h => Bool.noConfusion h.1, fun h => h.2 rfl, by simp⟩
  exact ⟨hlayers, hpath, rfl,
    (mergeLayers_holds_iff reintroduced _ (.int 2) hlayers hpath rfl).mpr ⟨_, hlast, rfl⟩⟩

end Layers
end Readiness.Config
