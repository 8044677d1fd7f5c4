import Stencil.Text.Quoted

/-
  Quoted display. Escaping a text without quotes brings none in, so what is displayed between
  quotes ends at the last of them.
-/

namespace Stencil.Text

variable {s : List Char}

theorem quote_not_mem_toDigits (n : Nat) : '"' ∉ Nat.toDigits 16 n := by
  induction n using Nat.strongRecOn with
  | ind n ih =>
    rw [Nat.toDigits_eq_if (by decide)]
    split
    · simp
    · rename_i large
      have upper := ih (n / 16) (Nat.div_lt_self (by omega) (by decide))
      simp [upper]

theorem quote_not_mem_escaped (h : '"' ∉ s) : '"' ∉ escaped s := by
  intro mem
  obtain ⟨c, among, mem⟩ := List.mem_flatMap.mp mem
  have other : '"' ≠ c := fun same => h (same ▸ among)
  unfold escapeChar at mem
  split at mem
  · simp [other] at mem
  repeat' split at mem
  all_goals simp [other, quote_not_mem_toDigits] at mem

theorem escaped_ne_nil (h : s ≠ []) : escaped s ≠ [] := by
  cases s with
  | nil => exact absurd rfl h
  | cons c s =>
    have some_left : escapeChar c ≠ [] := by
      unfold escapeChar
      repeat' split
      all_goals exact List.cons_ne_nil _ _
    rw [escaped, List.flatMap_cons]
    exact List.append_ne_nil_of_left_ne_nil some_left _

theorem toList_quoted (s : String) : (quoted s).toList = '"' :: (escaped s.toList ++ ['"']) := by
  rw [quoted, String.toList_ofList, List.cons_append]

end Stencil.Text
