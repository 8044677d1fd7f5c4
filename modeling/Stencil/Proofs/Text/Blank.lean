import Mathlib.Data.List.TakeWhile
import Stencil.Naming
import Stencil.Proofs.Text.Cut

/-
  Blanks. Nothing that a name or a path is made of is a blank, and trimming a text leaves it as it
  is if no blank stands at its ends.
-/

namespace Stencil.Text

variable {r t : Ranges} {n : Nat} {c : Char} {s trail : List Char}

theorem Ranges.exists_of_has (h : r.has n = true) : ∃ range ∈ r, range.1 ≤ n ∧ n ≤ range.2 := by
  induction r with
  | nil => cases h
  | cons range r ih =>
    rw [has] at h
    split at h
    · cases h
    · rename_i not_below
      split at h
      · rename_i not_above
        exact ⟨range, List.mem_cons_self, Nat.le_of_not_lt not_below, not_above⟩
      · obtain ⟨other, mem, bounds⟩ := ih h
        exact ⟨other, List.mem_cons_of_mem range mem, bounds⟩

/-- Ranges are apart if no number of the first is in the second. -/
theorem Ranges.not_has_of_apart
    (apart : ∀ range ∈ r, ∀ k < range.2 + 1 - range.1, t.has (range.1 + k) = false)
    (h : r.has n = true) : t.has n = false := by
  obtain ⟨range, mem, low, high⟩ := exists_of_has h
  have outside := apart range mem (n - range.1) (by omega)
  rw [Nat.add_sub_cancel' low] at outside
  exact outside

theorem isAlphanumeric_of_isBlank (h : isBlank c = true) : isAlphanumeric c = false := by
  have letter : isAlphabetic c = false :=
    Ranges.not_has_of_apart (r := whiteSpace) (by decide +kernel) h
  have digit : isNumeric c = false :=
    Ranges.not_has_of_apart (r := whiteSpace) (by decide +kernel) h
  rw [isAlphanumeric, letter, digit]
  rfl

theorem trimEnd_of_last (h : ∀ c ∈ s.getLast?, isBlank c = false) : trimEnd s = s := by
  rw [List.getLast?_eq_head?_reverse] at h
  unfold trimEnd
  cases shape : s.reverse with
  | nil => rw [← List.reverse_reverse s, shape]; rfl
  | cons c rest =>
    have not_blank : ¬ isBlank c = true := by simp [h c (by simp [shape])]
    rw [List.dropWhile_cons_of_neg not_blank, ← shape, List.reverse_reverse]

theorem trimEnd_append (blank : ∀ c ∈ trail, isBlank c = true) (s : List Char) :
    trimEnd (s ++ trail) = trimEnd s := by
  have dropped : (trail.reverse ++ s.reverse).dropWhile isBlank = s.reverse.dropWhile isBlank :=
    List.dropWhile_append_of_pos fun c mem => blank c (List.mem_reverse.mp mem)
  rw [trimEnd, List.reverse_append, dropped, trimEnd]

/-- What trimming takes away is blank. -/
theorem exists_trimEnd (s : List Char) :
    ∃ trail, s = trimEnd s ++ trail ∧ ∀ c ∈ trail, isBlank c = true := by
  refine ⟨(s.reverse.takeWhile isBlank).reverse, ?_, fun c mem => ?_⟩
  · rw [trimEnd, ← List.reverse_append, List.takeWhile_append_dropWhile, List.reverse_reverse]
  · exact List.mem_takeWhile_imp (List.mem_reverse.mp mem)

theorem last_trimEnd (s : List Char) : ∀ c ∈ (trimEnd s).getLast?, isBlank c = false := by
  intro c last
  rw [trimEnd, List.getLast?_reverse] at last
  have kept := List.head?_dropWhile_not isBlank s.reverse
  rw [Option.mem_def.mp last] at kept
  exact kept

theorem trim_of_ends (first : ∀ c ∈ s.head?, isBlank c = false)
    (last : ∀ c ∈ s.getLast?, isBlank c = false) : trim s = s := by
  have front : trimStart s = s := by
    cases s with
    | nil => rfl
    | cons c s =>
      have not_blank : ¬ isBlank c = true := by simp [first c rfl]
      exact List.dropWhile_cons_of_neg not_blank
  rw [trim, front, trimEnd_of_last last]

theorem exists_trim (s : List Char) : ∃ front trail, s = front ++ trim s ++ trail ∧
    (∀ c ∈ front, isBlank c = true) ∧ ∀ c ∈ trail, isBlank c = true := by
  obtain ⟨trail, whole, blank⟩ := exists_trimEnd (trimStart s)
  refine ⟨s.takeWhile isBlank, trail, ?_, fun c mem => List.mem_takeWhile_imp mem, blank⟩
  rw [trim, List.append_assoc, ← whole, trimStart, List.takeWhile_append_dropWhile]

theorem mem_of_mem_trim (h : c ∈ trim s) : c ∈ s := by
  obtain ⟨front, trail, whole, _⟩ := exists_trim s
  rw [whole]
  simp [h]

/-- A trimmed text has no blanks at its ends. -/
theorem trim_trim (s : List Char) : trim (trim s) = trim s := by
  refine trim_of_ends (fun c first => ?_) (last_trimEnd _)
  obtain ⟨trail, whole, _⟩ := exists_trimEnd (trimStart s)
  have front : (trimStart s).head? = some c := by
    rw [whole, List.head?_append, ← trim, Option.mem_def.mp first]
    rfl
  have kept := List.head?_dropWhile_not isBlank s
  rw [← trimStart, front] at kept
  exact kept

/-- Only blanks are trimmed away altogether. -/
theorem trim_ne_nil (mem : c ∈ s) (not_blank : isBlank c = false) : trim s ≠ [] := by
  intro empty
  obtain ⟨front, trail, whole, front_blank, trail_blank⟩ := exists_trim s
  rw [empty, List.append_nil] at whole
  rw [whole] at mem
  have blank : isBlank c = true := (List.mem_append.mp mem).elim (front_blank c) (trail_blank c)
  rw [not_blank] at blank
  cases blank

end Stencil.Text

namespace Stencil

open Text

variable {c : Char}

theorem isPathChar_of_isWordChar (h : isWordChar c = true) : isPathChar c = true := by
  rcases Bool.or_eq_true_iff.mp h with word | line
  · simp [isPathChar, word]
  · simp [isPathChar, of_decide_eq_true line]

theorem isBlank_of_isPathChar (h : isPathChar c = true) : isBlank c = false := by
  cases blank : isBlank c with
  | false => rfl
  | true =>
    have dot : c ≠ '.' := ne_of_test blank (by decide +kernel)
    have line : c ≠ '_' := ne_of_test blank (by decide +kernel)
    have dash : c ≠ '-' := ne_of_test blank (by decide +kernel)
    have slash : c ≠ '/' := ne_of_test blank (by decide +kernel)
    have tilde : c ≠ '~' := ne_of_test blank (by decide +kernel)
    simp [isPathChar, isAlphanumeric_of_isBlank blank, dot, line, dash, slash, tilde] at h

end Stencil
