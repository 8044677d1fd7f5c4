import Stencil.Text.Split

/-
  Positions in the bytes of a text. A text is divided between two of its characters or at an end,
  and at no other position.
-/

namespace Stencil.Text

/-- Why there is nothing before and behind a position. -/
inductive Misplaced where
  /-- So many bytes past the end of the text. -/
  | past (bytes : Nat)
  /-- Inside of a character. -/
  | inside (c : Char)
  deriving DecidableEq, Repr

/-- The first `n` bytes of a text, and the others. -/
def divide : List Char → Nat → Except Misplaced (List Char × List Char)
  | s, 0 => .ok ([], s)
  | [], n + 1 => .error (.past (n + 1))
  | c :: s, n + 1 =>
    if c.utf8Size ≤ n + 1 then
      (divide s (n + 1 - c.utf8Size)).map fun (front, back) => (c :: front, back)
    else .error (.inside c)

@[simp] theorem byteLength_nil : byteLength [] = 0 := rfl

@[simp] theorem byteLength_cons (c : Char) (s : List Char) :
    byteLength (c :: s) = c.utf8Size + byteLength s := rfl

@[simp] theorem byteLength_append (s s' : List Char) :
    byteLength (s ++ s') = byteLength s + byteLength s' := by
  induction s with
  | nil => simp
  | cons c s ih => simp [ih, Nat.add_assoc]

theorem divide_append (front back : List Char) :
    divide (front ++ back) (byteLength front) = .ok (front, back) := by
  induction front with
  | nil => simp [divide]
  | cons c front ih =>
    obtain ⟨n, size⟩ := Nat.exists_eq_succ_of_ne_zero (Nat.ne_of_gt c.utf8Size_pos)
    have length : byteLength (c :: front) = n + byteLength front + 1 := by
      rw [byteLength_cons]
      omega
    have behind : n + byteLength front + 1 - c.utf8Size = byteLength front := by omega
    rw [length, List.cons_append, divide, if_pos (by omega), behind, ih]
    rfl

/-- Nothing is lost where a text is divided. -/
theorem append_of_divide {s front back : List Char} {n : Nat}
    (h : divide s n = .ok (front, back)) : s = front ++ back ∧ byteLength front = n := by
  induction s generalizing n front with
  | nil =>
    cases n with
    | zero =>
      cases h
      exact ⟨rfl, rfl⟩
    | succ n => cases h
  | cons c s ih =>
    cases n with
    | zero =>
      cases h
      exact ⟨rfl, rfl⟩
    | succ n =>
      rw [divide] at h
      split at h
      · cases found : divide s (n + 1 - c.utf8Size) with
        | error e =>
          rw [found] at h
          cases h
        | ok parts =>
          rw [found] at h
          cases h
          obtain ⟨whole, length⟩ := ih found
          refine ⟨congrArg (c :: ·) whole, ?_⟩
          rw [byteLength_cons]
          omega
      · cases h

example : divide "é!".toList 1 = .error (.inside 'é') ∧ divide "é!".toList 4 = .error (.past 1) := by
  exact ⟨rfl, rfl⟩

end Stencil.Text
