import Readiness.Proofs.Layering

/-!
Nulls that merged layers still hold. A null unsets an entry of a section that the layers below
have. A section that none of them has is copied as it stands, and the nulls in it stay.
-/

namespace Readiness.Config

open Yaml (Value Entries)

section At

variable {key : Value} {path : List Value} {v : Value}

def isSection : Value → Bool
  | .mapping _ => true
  | _ => false

def nullAt (path : List Value) (v : Value) : Bool := (at? path v).any Value.isNull

def sectionAt (path : List Value) (v : Value) : Bool := (at? path v).any isSection

/-- An entry once a layer has had its say, over what there was. In a section that was there before
it is laid over that; in one that was not, it is copied. -/
def Saying.entryOver (inSection : Bool) (below : Option Value) : Saying → Option Value
  | .silent => below
  | .holds v => if inSection then laid below v else some v
  | .cut _ => none

theorem at?_mapping (entries : Entries) :
    at? (key :: path) (.mapping entries) = (Entries.get? key entries).bind (at? path) := rfl

theorem at?_of_not_mapping (h : ∀ entries, v ≠ .mapping entries) : at? (key :: path) v = none := by
  cases v with
  | mapping entries => exact (h entries rfl).elim
  | null | bool _ | int _ | float _ | string _ | sequence _ | tagged _ _ => rfl

theorem at?_eq_entryOver (path : List Value) (v : Value) :
    at? path v = (saying path v).entryOver false none := by
  induction path generalizing v with
  | nil => rfl
  | cons key path ih =>
      obtain ⟨entries, rfl⟩ | h := v.mapping_or_not
      · rw [at?_mapping, saying]
        cases Entries.get? key entries with
        | none => rfl
        | some v => exact ih v
      · rw [at?_of_not_mapping h, saying_of_not_mapping h]
        rfl

theorem nullAt_eq (path : List Value) (v : Value) :
    nullAt path v = ((saying path v).entryOver false none).any Value.isNull := by
  rw [nullAt, at?_eq_entryOver]

theorem sectionAt_eq (path : List Value) (v : Value) :
    sectionAt path v = ((saying path v).entryOver false none).any isSection := by
  rw [sectionAt, at?_eq_entryOver]

theorem at?_entry_of_not_mapping (h : ∀ entries, v ≠ .mapping entries) :
    at? (path ++ [key]) v = none := by
  cases path <;> exact at?_of_not_mapping h

theorem saying_entry_of_not_mapping (h : ∀ entries, v ≠ .mapping entries) :
    saying (path ++ [key]) v = .cut v := by
  cases path <;> exact saying_of_not_mapping h

theorem isSection_of_not_mapping (h : ∀ entries, v ≠ .mapping entries) : isSection v = false := by
  cases v with
  | mapping entries => exact (h entries rfl).elim
  | null | bool _ | int _ | float _ | string _ | sequence _ | tagged _ _ => rfl

theorem isSection_iff : isSection v = true ↔ ∃ entries, v = .mapping entries := by
  obtain h | h := v.mapping_or_not
  · obtain ⟨entries, rfl⟩ := h
    exact iff_of_true rfl ⟨entries, rfl⟩
  · refine iff_of_false ?_ (not_exists.mpr h)
    rw [isSection_of_not_mapping h]
    exact Bool.false_ne_true

theorem sectionAt_of_not_mapping (h : ∀ entries, v ≠ .mapping entries) :
    sectionAt path v = false := by
  cases path with
  | nil => exact isSection_of_not_mapping h
  | cons key path => rw [sectionAt, at?_of_not_mapping h, Option.any_none]

theorem sectionAt_mapping {entries : Entries} :
    sectionAt (key :: path) (.mapping entries) = (Entries.get? key entries).any (sectionAt path) := by
  rw [sectionAt, at?_mapping]
  cases Entries.get? key entries <;> rfl

end At

section Overlay

variable {key : Value} {path : List Value} {base overlay : Value}

theorem isSection_overlaid (base overlay : Value) :
    isSection (overlaid base overlay) = isSection overlay := by
  obtain ⟨entries, rfl⟩ | h := overlay.mapping_or_not
  · cases base <;> simp only [overlaid, isSection]
  · rw [overlaid_of_not_mapping h]

theorem isNull_overlaid (base overlay : Value) :
    (overlaid base overlay).isNull = overlay.isNull := by
  obtain ⟨entries, rfl⟩ | h := overlay.mapping_or_not
  · cases base <;> simp only [overlaid, Value.isNull, Value.untagged]
  · rw [overlaid_of_not_mapping h]

theorem any_isSection_laid (before : Option Value) (value : Value) :
    (laid before value).any isSection = isSection value := by
  simp only [laid]
  split
  · rename_i hnull
    rw [isSection_of_not_mapping (not_mapping_of_isNull hnull), Option.any_none]
  · cases before with
    | none => rfl
    | some b => exact isSection_overlaid b value

theorem any_isNull_laid (before : Option Value) (value : Value) :
    (laid before value).any Value.isNull = false := by
  simp only [laid]
  split
  · rfl
  · rename_i h
    rw [Bool.not_eq_true] at h
    cases before with
    | none => exact h
    | some b => exact (isNull_overlaid b value).trans h

theorem at?_overlaid_mapping {old entries : Entries} (hold : old.Proper) (h : entries.Proper)
    (hkey : key.wellFormed = true) :
    at? (key :: path) (overlaid (.mapping old) (.mapping entries)) =
      match Entries.get? key entries with
      | some value => (laid (Entries.get? key old) value).bind (at? path)
      | none => (Entries.get? key old).bind (at? path) := by
  rw [overlaid, at?_mapping, get?_overlaidEntries hold hold h hkey]
  cases Entries.get? key entries <;> rfl

theorem at?_overlaid_of_not_mapping
    (h : (∀ old, base ≠ .mapping old) ∨ ∀ entries, overlay ≠ .mapping entries) :
    at? (path ++ [key]) (overlaid base overlay) =
      (saying (path ++ [key]) overlay).entryOver (sectionAt path base)
        (at? (path ++ [key]) base) := by
  obtain ⟨entries, rfl⟩ | hnot := overlay.mapping_or_not
  · have hbase := h.resolve_right fun h => h entries rfl
    rw [overlaid_on_not_mapping hbase, sectionAt_of_not_mapping hbase,
      at?_entry_of_not_mapping hbase]
    exact at?_eq_entryOver _ _
  · rw [overlaid_of_not_mapping hnot, saying_entry_of_not_mapping hnot]
    exact at?_entry_of_not_mapping hnot

/-- A layer settles an entry by whether the section that the entry stands in was there before. -/
theorem at?_overlaid (hbase : base.wellFormed = true) (hoverlay : overlay.wellFormed = true)
    (hpath : ∀ k ∈ path ++ [key], k.wellFormed = true) :
    at? (path ++ [key]) (overlaid base overlay) =
      (saying (path ++ [key]) overlay).entryOver (sectionAt path base)
        (at? (path ++ [key]) base) := by
  induction path generalizing base overlay with
  | nil =>
      obtain ⟨old, rfl⟩ | h := base.mapping_or_not
      · obtain ⟨entries, rfl⟩ | h := overlay.mapping_or_not
        · rw [← Entries.proper_iff] at hbase hoverlay
          rw [List.nil_append, at?_overlaid_mapping hbase hoverlay (hpath key List.mem_cons_self),
            at?_mapping, saying]
          cases Entries.get? key entries with
          | none => rfl
          | some value => simp [at?, saying, sectionAt, isSection, Saying.entryOver]
        · exact at?_overlaid_of_not_mapping (Or.inr h)
      · exact at?_overlaid_of_not_mapping (Or.inl h)
  | cons head path ih =>
      obtain ⟨old, rfl⟩ | h := base.mapping_or_not
      · obtain ⟨entries, rfl⟩ | h := overlay.mapping_or_not
        · -- A section further down is there if what the base has under this key has it.
          rw [← Entries.proper_iff] at hbase hoverlay
          rw [List.cons_append, List.forall_mem_cons] at hpath
          rw [List.cons_append, at?_overlaid_mapping hbase hoverlay hpath.1, at?_mapping, saying,
            sectionAt_mapping]
          cases hentry : Entries.get? head entries with
          | none => rfl
          | some value =>
              have hvalue := Entries.get?_wellFormed hoverlay hentry
              simp only [laid]
              split
              · rename_i hnull
                rw [saying_entry_of_not_mapping (not_mapping_of_isNull hnull)]
                rfl
              · cases hbefore : Entries.get? head old with
                | none => exact at?_eq_entryOver _ value
                | some before =>
                    exact ih (Entries.get?_wellFormed hbase hbefore) hvalue hpath.2
        · exact at?_overlaid_of_not_mapping (Or.inr h)
      · exact at?_overlaid_of_not_mapping (Or.inl h)

theorem nullAt_overlaid_iff (hbase : base.wellFormed = true) (hoverlay : overlay.wellFormed = true)
    (hpath : ∀ k ∈ path ++ [key], k.wellFormed = true) :
    nullAt (path ++ [key]) (overlaid base overlay) = true ↔
      saying (path ++ [key]) overlay = .silent ∧ nullAt (path ++ [key]) base = true ∨
      nullAt (path ++ [key]) overlay = true ∧ sectionAt path base = false := by
  rw [nullAt, at?_overlaid hbase hoverlay hpath, nullAt_eq _ overlay]
  cases saying (path ++ [key]) overlay with
  | silent | cut _ => simp [Saying.entryOver, nullAt]
  | holds v => cases sectionAt path base <;> simp [Saying.entryOver, any_isNull_laid]

theorem sectionAt_overlaid_iff (hbase : base.wellFormed = true)
    (hoverlay : overlay.wellFormed = true) (hpath : ∀ k ∈ path, k.wellFormed = true) :
    sectionAt path (overlaid base overlay) = true ↔
      saying path overlay = .silent ∧ sectionAt path base = true ∨
      sectionAt path overlay = true := by
  obtain rfl | ⟨path, key, rfl⟩ := path.eq_nil_or_concat'
  · simp [saying, sectionAt, at?, isSection_overlaid]
  · rw [sectionAt, at?_overlaid hbase hoverlay hpath, sectionAt_eq _ overlay]
    cases saying (path ++ [key]) overlay with
    | silent | cut _ => simp [Saying.entryOver, sectionAt]
    | holds v => cases sectionAt path base <;> simp [Saying.entryOver, any_isSection_laid]

end Overlay

section Layers

variable {layers : List Value} {path : List Value} {key : Value}

theorem nullAt_settledBy (hpath : ∀ k ∈ path ++ [key], k.wellFormed = true) :
    SettledBy (path ++ [key]) (fun w => nullAt (path ++ [key]) w = true) fun below layer =>
      nullAt (path ++ [key]) layer = true ∧ sectionAt path (mergeLayers below) = false where
  speaks below layer hbelow hlayer h := by
    rw [nullAt_overlaid_iff (mergeLayers_wellFormed hbelow) hlayer hpath,
      or_iff_right fun hsilent => h.2 hsilent.1]
  silent base layer hbase hlayer h := by
    rw [nullAt_overlaid_iff hbase hlayer hpath, nullAt_eq _ layer, h]
    simp [Saying.entryOver]

theorem nullAt_mergeLayers_iff (hlayers : ∀ layer ∈ layers, layer.wellFormed = true)
    (hpath : ∀ k ∈ path ++ [key], k.wellFormed = true) :
    nullAt (path ++ [key]) (mergeLayers layers) = true ↔
      ∃ layer below, IsLast (Speaks (path ++ [key])) below layer layers ∧
        nullAt (path ++ [key]) layer = true ∧ sectionAt path (mergeLayers below) = false := by
  have hempty : nullAt (path ++ [key]) (.mapping []) = false := by
    cases path <;> rfl
  rw [(nullAt_settledBy hpath).mergeLayers_iff hlayers]
  simp only [hempty, Bool.false_eq_true, false_and, or_false]

/-- Whether layers have a section at a path: the last that speaks on it holds one there. At the
root there is one even if no layer says anything. -/
def HasSection (path layers : List Value) : Prop :=
  (∃ layer, HasLastWord path layer layers ∧ sectionAt path layer = true) ∨
    path = [] ∧ ∀ layer ∈ layers, layer.isNull = true

theorem sectionAt_settledBy (hpath : ∀ k ∈ path, k.wellFormed = true) :
    SettledBy path (fun w => sectionAt path w = true) fun _ layer => sectionAt path layer = true where
  speaks below layer hbelow hlayer h := by
    rw [sectionAt_overlaid_iff (mergeLayers_wellFormed hbelow) hlayer hpath,
      or_iff_right fun hsilent => h.2 hsilent.1]
  silent base layer hbase hlayer h := by
    rw [sectionAt_overlaid_iff hbase hlayer hpath, sectionAt_eq _ layer, h]
    simp [Saying.entryOver]

theorem sectionAt_mergeLayers_iff (hlayers : ∀ layer ∈ layers, layer.wellFormed = true)
    (hpath : ∀ k ∈ path, k.wellFormed = true) :
    sectionAt path (mergeLayers layers) = true ↔ HasSection path layers := by
  rw [(sectionAt_settledBy hpath).mergeLayers_iff hlayers, HasSection]
  simp only [hasLastWord_iff, exists_and_right]
  refine or_congr_right ?_
  cases path with
  | nil => simp [sectionAt, at?, isSection, Speaks, saying]
  | cons key path => simp [sectionAt, at?, Entries.get?]

theorem isSection_mergeLayers (h : ∀ layer ∈ layers, layer.isNull = true ∨ isSection layer = true) :
    isSection (mergeLayers layers) = true := by
  induction layers using List.reverseRecOn with
  | nil => rfl
  | append_singleton layers last ih =>
      rw [List.forall_mem_append, List.forall_mem_singleton] at h
      rw [mergeLayers_concat]
      split
      · exact ih h.1
      · rename_i hnull
        rw [isSection_overlaid]
        exact h.2.resolve_left hnull

/-- A null of the merged layers is one that the last layer with a say on it holds, in a section
that the layers below it do not have. -/
theorem mergeLayers_null_iff (layers path : List Value) (key : Value)
    (hlayers : ∀ layer ∈ layers, layer.wellFormed = true)
    (hpath : ∀ k ∈ path ++ [key], k.wellFormed = true) :
    nullAt (path ++ [key]) (mergeLayers layers) = true ↔
      ∃ layer below, IsLast (Speaks (path ++ [key])) below layer layers ∧
        nullAt (path ++ [key]) layer = true ∧ ¬ HasSection path below := by
  rw [nullAt_mergeLayers_iff hlayers hpath]
  refine exists₂_congr fun layer below => and_congr_right ?_
  rintro ⟨above, rfl, -⟩
  rw [List.forall_mem_append] at hlayers hpath
  rw [← sectionAt_mergeLayers_iff hlayers.1 hpath.1, Bool.not_eq_true]

/-- A section that no layer below has, with nothing in it but a null. -/
def nulledSection : Value := .mapping [(.string "checks", .mapping [(.string "port", .null)])]

def otherSection : Value := .mapping [(.string "settings", .mapping [])]

theorem mergeLayers_null_nulledSection :
    (∀ layer ∈ [otherSection, nulledSection], layer.wellFormed = true) ∧
      (∀ k ∈ [Value.string "checks"] ++ [.string "port"], k.wellFormed = true) ∧
      nullAt [.string "checks", .string "port"] (mergeLayers [otherSection, nulledSection]) = true := by
  have hlayers : ∀ layer ∈ [otherSection, nulledSection], layer.wellFormed = true := by decide
  have hpath : ∀ k ∈ [Value.string "checks"] ++ [.string "port"], k.wellFormed = true := by decide
  have hlast : IsLast (Speaks [.string "checks", .string "port"]) [otherSection] nulledSection
      [otherSection, nulledSection] := ⟨[], rfl, ⟨rfl, nofun⟩, List.forall_mem_nil _⟩
  have hnone : ¬ HasSection [.string "checks"] [otherSection] := by
    rw [← sectionAt_mergeLayers_iff (fun l hl => hlayers l (by simp_all))
      (fun k hk => hpath k (List.mem_append_left _ hk))]
    decide
  exact ⟨hlayers, hpath, (mergeLayers_null_iff _ _ _ hlayers hpath).mpr ⟨_, _, hlast, rfl, hnone⟩⟩

/-- The same section with nothing in it. -/
def emptySection : Value := .mapping [(.string "checks", .mapping [])]

/-- Alone the null stays and is no port. Over an empty section it goes, and the port is left at its
default. -/
theorem null_stays :
    isSection nulledSection = true ∧
      nullAt [.string "checks", .string "port"] (mergeLayers [nulledSection]) = true ∧
      decode (mergeLayers [nulledSection]) = .error (.type .unit "u16") ∧
      nullAt [.string "checks", .string "port"] (mergeLayers [emptySection, nulledSection]) = false ∧
      decode (mergeLayers [emptySection, nulledSection]) = .ok {} :=
  ⟨rfl, by decide, rfl, by decide, rfl⟩

end Layers
end Readiness.Config
