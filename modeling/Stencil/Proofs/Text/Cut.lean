import Stencil.Text.Split

/-
  Cutting texts: a text is cut where it was put together, if the part on the side that is
  searched first does not hold what it is cut at.
-/

namespace Stencil.Text

variable {sep c d : Char} {before after s : List Char}

/-- A test that tells two characters apart. -/
theorem ne_of_test {p : Char → Bool} (h : p c = true) (h' : p d = false) : c ≠ d := by
  rintro rfl
  rw [h] at h'
  cases h'

theorem cut_append (h : sep ∉ before) (after : List Char) :
    cut sep (before ++ sep :: after) = some (before, after) := by
  induction before with
  | nil => exact if_pos rfl
  | cons c before ih =>
    obtain ⟨other, rest⟩ := not_or.mp (mt List.mem_cons.mpr h)
    rw [List.cons_append, cut, if_neg (Ne.symm other), ih rest]
    rfl

theorem append_of_cut (h : cut sep s = some (before, after)) :
    s = before ++ sep :: after ∧ sep ∉ before := by
  induction s generalizing before with
  | nil => cases h
  | cons c s ih =>
    rw [cut] at h
    split at h
    · rename_i here
      cases h
      exact ⟨congrArg (· :: after) here, List.not_mem_nil⟩
    · rename_i other
      obtain ⟨⟨before', after'⟩, found, same⟩ := Option.map_eq_some_iff.mp h
      cases same
      obtain ⟨whole, none_before⟩ := ih found
      refine ⟨congrArg (c :: ·) whole, fun mem => ?_⟩
      rcases List.mem_cons.mp mem with here | mem
      · exact other here.symm
      · exact none_before mem

theorem sep_not_mem_splitOn (sep : Char) (s : List Char) : ∀ part ∈ s.splitOn sep, sep ∉ part := by
  induction s with
  | nil => simp [List.splitOn_nil]
  | cons c s ih =>
    rw [List.splitOn_cons_eq_if_modifyHead]
    split
    · intro part mem
      rcases List.mem_cons.mp mem with rfl | mem
      · exact List.not_mem_nil
      · exact ih part mem
    · rename_i not_sep
      cases shape : s.splitOn sep with
      | nil => exact absurd shape (List.splitOn_ne_nil _ _)
      | cons first rest =>
        rw [shape] at ih
        intro part mem
        rcases List.mem_cons.mp mem with rfl | mem
        · have other : sep ≠ c := by
            rintro rfl
            exact not_sep (beq_self_eq_true _)
          simpa [other] using ih first List.mem_cons_self
        · exact ih part (List.mem_cons_of_mem first mem)

theorem cutLast_of_not_mem (h : sep ∉ s) : cutLast sep s = none := by
  induction s with
  | nil => rfl
  | cons c s ih =>
    obtain ⟨other, rest⟩ := not_or.mp (mt List.mem_cons.mpr h)
    rw [cutLast, ih rest]
    exact if_neg (Ne.symm other)

theorem cutLast_append (before : List Char) (h : sep ∉ after) :
    cutLast sep (before ++ sep :: after) = some (before, after) := by
  induction before with
  | nil =>
    rw [List.nil_append, cutLast, cutLast_of_not_mem h]
    exact if_pos rfl
  | cons c before ih =>
    rw [List.cons_append, cutLast, ih]

theorem append_of_cutLast (h : cutLast sep s = some (before, after)) :
    s = before ++ sep :: after := by
  induction s generalizing before with
  | nil => cases h
  | cons c s ih =>
    rw [cutLast] at h
    split at h
    · rename_i before' after' found
      cases h
      exact congrArg (c :: ·) (ih found)
    · split at h
      · rename_i here
        cases h
        exact congrArg (· :: after) here
      · cases h

/-- A text is divided where a property of its characters ends. -/
theorem span_append {p : Char → Bool} (all : ∀ c ∈ before, p c = true)
    (ends : ∀ c ∈ after.head?, p c = false) :
    (before ++ after).takeWhile p = before ∧ (before ++ after).dropWhile p = after := by
  rw [List.takeWhile_append_of_pos all, List.dropWhile_append_of_pos all]
  cases after with
  | nil => simp
  | cons c after => simp [ends c rfl]

end Stencil.Text
