import Stencil.Double.Basic

/-
  The shortest decimals of doubles: of all decimals that round to a double one with the fewest
  digits, and of these the nearest to it, halfway between two the greater.
-/

namespace Stencil

/-- The number `digits` times ten to the power `exponent`. -/
structure Decimal where
  digits : Nat
  exponent : Int
  deriving DecidableEq, Repr

namespace Double

/-- A finite magnitude other than zero. -/
structure Positive where
  mantissa : Nat
  exponent : Int
  deriving DecidableEq, Repr

namespace Positive

/-- A quarter of the last bit's worth over ten to the power `p`, as a fraction. -/
def quarter (x : Positive) (p : Int) : Nat × Nat :=
  let (num, den) := shift 1 1 (x.exponent - 2)
  if 0 ≤ p then (num, den * Text.tens p.toNat) else (num * Text.tens (-p).toNat, den)

/-- Below a power of two doubles lie twice as close as above it. -/
def isNarrowBelow (x : Positive) : Bool :=
  x.mantissa = leadingBit && x.exponent ≠ leastExponent

/-- Whether `n` times ten to the power `p` rounds to the number. -/
def readsBack (x : Positive) (n : Nat) (p : Int) : Bool :=
  let (num, den) := x.quarter p
  let low := (4 * x.mantissa - if x.isNarrowBelow then 1 else 2) * num
  let high := (4 * x.mantissa + 2) * num
  if x.mantissa % 2 = 0 then low ≤ n * den && n * den ≤ high
  else low < n * den && n * den < high

/-- The decimal with last digit at `p` that is taken, if one rounds to the number. -/
def decimalAt? (x : Positive) (p : Int) : Option Decimal :=
  let (num, den) := x.quarter p
  let below := 4 * x.mantissa * num / den
  let above := below + 1
  match x.readsBack below p, x.readsBack above p with
  | true, true =>
    if 8 * x.mantissa * num < (below + above) * den then some ⟨below, p⟩ else some ⟨above, p⟩
  | true, false => some ⟨below, p⟩
  | false, true => some ⟨above, p⟩
  | false, false => none

/-- The number itself. -/
def exact (x : Positive) : Decimal :=
  if 0 ≤ x.exponent then ⟨x.mantissa <<< x.exponent.toNat, 0⟩
  else
    let halves := (-x.exponent).toNat
    ⟨(x.mantissa * Text.tens halves) >>> halves, x.exponent⟩

/-- A power of ten that is not below the number. -/
def scale (x : Positive) : Int :=
  let (num, den) := shift x.mantissa 1 x.exponent
  let size := fun (n : Nat) => ((Nat.toDigits 10 n).length : Int)
  if den ≤ num then size (num / den) else 1 - size (den / num)

/-- The decimal taken is the first one found with its last digit further and further to the
right; seventeen digits suffice. -/
def shortest (x : Positive) : Decimal :=
  let places := (List.range 20).map fun (i : Nat) => x.scale - i
  (places.findSome? x.decimalAt?).getD x.exact

end Positive

end Double

end Stencil
