import Mathlib.Data.List.Sort
import Readiness.Host.Ports
import Readiness.Proofs.Numerals

/-!
Lists of ports and the ports of addresses. Ports are put into place one by one, so that a list
ascends and depends on nothing but which ports there are; the port of an address is what stands
behind its last separator, whatever the host before it.
-/

namespace Readiness.Ports

section Ascending

variable {port p : UInt16} {ports : List UInt16}

/-- The ports ascend, so that none is there twice. -/
abbrev Ascending (ports : List UInt16) : Prop := ports.Pairwise (· < ·)

theorem mem_insert : p ∈ insert port ports ↔ p = port ∨ p ∈ ports := by
  induction ports with
  | nil => rw [insert, List.mem_singleton, or_iff_left List.not_mem_nil]
  | cons other rest ih =>
      rw [insert]
      split
      · rename_i heq
        rw [heq, List.mem_cons, or_self_left]
      · split
        · rw [List.mem_cons]
        · rw [List.mem_cons, ih, List.mem_cons, or_left_comm]

theorem Ascending.insert (h : Ascending ports) (port : UInt16) :
    Ascending (Ports.insert port ports) := by
  induction ports with
  | nil => exact List.pairwise_singleton _ _
  | cons other rest ih =>
      obtain ⟨hother, hrest⟩ := List.pairwise_cons.mp h
      rw [Ports.insert]
      split
      · exact h
      · rename_i hne
        split
        · rename_i hlt
          refine List.pairwise_cons.mpr ⟨?_, h⟩
          exact List.forall_mem_cons.mpr ⟨hlt, fun p hp => UInt16.lt_trans hlt (hother p hp)⟩
        · rename_i hnlt
          have hlt : other < port := UInt16.lt_of_le_of_ne (UInt16.not_lt.mp hnlt) (Ne.symm hne)
          refine List.pairwise_cons.mpr ⟨fun p hp => ?_, ih hrest⟩
          rcases mem_insert.mp hp with rfl | hp
          · exact hlt
          · exact hother p hp

theorem mem_ascending : p ∈ ascending ports ↔ p ∈ ports := by
  induction ports with
  | nil => rfl
  | cons port ports ih =>
      rw [ascending, List.foldr_cons, ← ascending, mem_insert, ih, List.mem_cons]

theorem ascending_ascending (ports : List UInt16) : Ascending (ascending ports) := by
  induction ports with
  | nil => exact .nil
  | cons port ports ih => exact ih.insert port

end Ascending

section Addresses

variable {isSeparator : Char → Bool} {sep : Char} {cs portText : List Char}

theorem afterLast?_append (host : List Char) (hsep : isSeparator sep = true)
    (hport : ∀ c ∈ portText, isSeparator c = false) :
    afterLast? isSeparator (host ++ sep :: portText) = some portText := by
  have hany : (host ++ sep :: portText).any isSeparator = true := by simp [hsep]
  have hreverse : (host ++ sep :: portText).reverse = portText.reverse ++ sep :: host.reverse := by
    simp
  rw [afterLast?, if_pos hany, hreverse, List.takeWhile_append_of_pos (by simpa using hport),
    List.takeWhile_cons_of_neg (by simp [hsep]), List.append_nil, List.reverse_reverse]

theorem afterLast?_eq_none (hcs : ∀ c ∈ cs, isSeparator c = false) :
    afterLast? isSeparator cs = none := by
  rw [afterLast?, if_neg]
  simpa using hcs

theorem port?_digits (port : UInt16) : port? 10 (Nat.toDigits 10 port.toNat) = some port := by
  have hread : Text.readNat? 10 (Nat.toDigits 10 port.toNat) = some port.toNat :=
    Text.readNat?_toDigits (by decide) (by decide) _
  rw [port?, Text.readBounded?_of_readNat? hread port.toNat_lt, Option.map_some,
    UInt16.ofNat_toNat]

theorem port?_hexadecimal (port : UInt16) :
    port? 16 (Text.hexadecimal 4 port.toNat) = some port := by
  rw [port?, Text.readBounded?_of_readNat? (Text.readNat?_hexadecimal 4 port.toNat) port.toNat_lt,
    Option.map_some, UInt16.ofNat_toNat]

end Addresses

end Readiness.Ports
