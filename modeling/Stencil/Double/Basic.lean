import Stencil.Text.Digits

/-
  Numbers of double precision. A magnitude is a mantissa of at most 53 bits times a power of
  two, or infinite. What a double cannot hold is rounded to the nearest one, and halfway
  between two to the one with the even mantissa.
-/

namespace Stencil

inductive Double.Magnitude where
  /-- `mantissa` times two to the power `exponent`. -/
  | finite (mantissa : Nat) (exponent : Int)
  | infinite
  deriving DecidableEq, Repr

structure Double where
  negative : Bool
  magnitude : Double.Magnitude
  deriving DecidableEq, Repr

namespace Double

/-- The least mantissa of 53 bits. -/
def leadingBit : Nat := 4503599627370496

def leastExponent : Int := -1074

def greatestExponent : Int := 971

/-! ## Rounding -/

/-- The fraction `num / den` times two to the power `e`. -/
def shift (num den : Nat) (e : Int) : Nat × Nat :=
  if 0 ≤ e then (num <<< e.toNat, den) else (num, den <<< (-e).toNat)

/-- The whole number nearest to a fraction, the even one of two. -/
def nearest (num den : Nat) : Nat :=
  let q := num / den
  let r := 2 * (num % den)
  if r < den ∨ (r = den ∧ q % 2 = 0) then q else q + 1

/-- The magnitude nearest to a fraction. -/
def Magnitude.ofRatio (num den : Nat) : Magnitude :=
  let guess : Int := num.log2 - den.log2
  let (n, d) := shift num den (-guess)
  let top := if n < d then guess - 1 else guess
  let exponent := max (top - 52) leastExponent
  let (n, d) := shift num den (-exponent)
  let mantissa := nearest n d
  let (mantissa, exponent) :=
    if mantissa = 2 * leadingBit then (leadingBit, exponent + 1) else (mantissa, exponent)
  if greatestExponent < exponent then .infinite else .finite mantissa exponent

/-- The magnitude nearest to `digits` times ten to the power `exponent`. Far beyond the
greatest and below the least one there is nothing to compute. -/
def Magnitude.ofDecimal (digits : Nat) (exponent : Int) : Magnitude :=
  let size := (Nat.toDigits 10 digits).length + exponent
  if digits = 0 ∨ size < -330 then .finite 0 leastExponent
  else if 310 < size then .infinite
  else if 0 ≤ exponent then .ofRatio (digits * Text.tens exponent.toNat) 1
  else .ofRatio digits (Text.tens (-exponent).toNat)

def ofDecimal (digits : Nat) (exponent : Int) : Double := ⟨false, .ofDecimal digits exponent⟩

/-- The double nearest to a whole number. -/
def ofInt (n : Int) : Double := ⟨n < 0, .ofRatio n.natAbs 1⟩

def neg (d : Double) : Double := { d with negative := !d.negative }

/-! ## Comparing -/

def Magnitude.order : Magnitude → Magnitude → Ordering
  | .infinite, .infinite => .eq
  | .infinite, _ => .gt
  | _, .infinite => .lt
  | .finite m p, .finite n q =>
    let least := min p q
    compare (m <<< (p - least).toNat) (n <<< (q - least).toNat)

def isZero (d : Double) : Bool :=
  match d.magnitude with
  | .finite m _ => m = 0
  | .infinite => false

/-- The order of numbers, in which the two zeros are equal. -/
def order (a b : Double) : Ordering :=
  if a.isZero && b.isZero then .eq
  else match a.negative, b.negative with
    | false, false => a.magnitude.order b.magnitude
    | true, true => b.magnitude.order a.magnitude
    | true, false => .lt
    | false, true => .gt

/-- The order of a number and a whole number, of which neither is rounded. -/
def orderInt (d : Double) (n : Int) : Ordering :=
  match d.magnitude with
  | .infinite => if d.negative then .lt else .gt
  | .finite m e =>
    let signed := fun (m : Nat) => if d.negative then -(m : Int) else (m : Int)
    if 0 ≤ e then compare (signed (m <<< e.toNat)) n
    else compare (signed m) (n * ((1 <<< (-e).toNat : Nat) : Int))

def same (a b : Double) : Bool := a.order b = .eq

/-! ## Whole numbers -/

/-- The magnitude less its fraction. -/
def Magnitude.whole : Magnitude → Nat
  | .finite m e => if 0 ≤ e then m <<< e.toNat else m >>> (-e).toNat
  | .infinite => 0

/-- The whole number of 64 bits with sign nearest to a double, if the two round to the same. -/
def whole? (d : Double) : Option Int :=
  let bound := 9223372036854775808
  let n : Int :=
    if d.negative then -(min d.magnitude.whole bound) else min d.magnitude.whole (bound - 1)
  if (ofInt n).same d then some n else none

/-- The double that stands for a whole number: the nearest one, if cut to the greatest number
there is room for it is the number again. -/
def ofInt? (greatest : Nat) (n : Int) : Option Double :=
  let d := ofInt n
  let back := if n < 0 then d.magnitude.whole else min d.magnitude.whole greatest
  if back = n.natAbs then some d else none

end Double

end Stencil
