import Mathlib.Data.Nat.Basic
import Stencil.Text.Division
import Stencil.Text.Utf8

/-
  Bytes of characters. A byte below 128 is a character of its own: no other character has it among
  its bytes.

  Proved: `utf8EncodeChar_of_mem`.
-/

namespace Stencil.Text

variable {b : UInt8} {c d : Char}

theorem utf8EncodeChar_ascii (h : c.toNat < 128) : String.utf8EncodeChar c = [c.toNat.toUInt8] := by
  have small : c.val.toNat ≤ 0x7f := by
    have : c.val.toNat = c.toNat := rfl
    omega
  simp only [String.utf8EncodeChar, if_pos small]
  rfl

theorem le_of_mem_utf8EncodeChar (large : 128 ≤ c.toNat) (mem : b ∈ String.utf8EncodeChar c) :
    128 ≤ b.toNat := by
  have not_ascii : ¬ c.val.toNat ≤ 0x7f := by
    have : c.val.toNat = c.toNat := rfl
    omega
  simp only [String.utf8EncodeChar, if_neg not_ascii] at mem
  split at mem
  · simp only [List.mem_cons, List.not_mem_nil, or_false] at mem
    rcases mem with rfl | rfl <;> rw [UInt8.toNat_ofNat'] <;> omega
  split at mem
  · simp only [List.mem_cons, List.not_mem_nil, or_false] at mem
    rcases mem with rfl | rfl | rfl <;> rw [UInt8.toNat_ofNat'] <;> omega
  · simp only [List.mem_cons, List.not_mem_nil, or_false] at mem
    rcases mem with rfl | rfl | rfl | rfl <;> rw [UInt8.toNat_ofNat'] <;> omega

/-- A character that has a byte below 128 is that byte. -/
theorem utf8EncodeChar_of_mem (mem : b ∈ String.utf8EncodeChar c) (small : b.toNat < 128) :
    String.utf8EncodeChar c = [b] ∧ c.toNat = b.toNat := by
  have ascii : c.toNat < 128 := by
    by_contra large
    have := le_of_mem_utf8EncodeChar (Nat.le_of_not_lt large) mem
    omega
  have single := utf8EncodeChar_ascii ascii
  rw [single, List.mem_singleton] at mem
  subst mem
  refine ⟨single, ?_⟩
  simp
  omega

theorem utf8_append (s s' : List Char) : utf8 (s ++ s') = utf8 s ++ utf8 s' := List.flatMap_append

theorem length_utf8 (s : List Char) : (utf8 s).length = byteLength s := by
  induction s with
  | nil => rfl
  | cons c s ih => simpa [utf8] using ih

end Stencil.Text
