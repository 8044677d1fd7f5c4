/-
  Numbers written in a base up to sixteen.
-/

namespace Stencil.Text

/-- The value of a digit below `base`, in either case. -/
def digitOf (base : Nat) (c : Char) : Option Nat :=
  let value :=
    if '0' ≤ c ∧ c ≤ '9' then some (c.toNat - 48)
    else if 'a' ≤ c ∧ c ≤ 'f' then some (c.toNat - 87)
    else if 'A' ≤ c ∧ c ≤ 'F' then some (c.toNat - 55)
    else none
  value.filter (· < base)

/-- The value of a run of digits; the empty run is zero. -/
def ofDigits (base : Nat) (digits : List Char) : Option Nat :=
  digits.foldlM (fun n c => (digitOf base c).map (n * base + ·)) 0

/-- The digits at the front, of which at most `n` are taken, and the rest. -/
def takeDigits (base n : Nat) (s : List Char) : List Char × List Char :=
  let digits := (s.take n).takeWhile fun c => (digitOf base c).isSome
  (digits, s.drop digits.length)

/-- A one with some number of zeros. -/
def tens : Nat → Nat
  | 0 => 1
  | n + 1 => 10 * tens n

/-- The character with a code point, surrogates and numbers out of range excepted. -/
def charOf (n : Nat) : Option Char :=
  if n.isValidChar then some (Char.ofNat n) else none

end Stencil.Text
