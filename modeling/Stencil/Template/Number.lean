import Stencil.Double.Shortest

/-
  The numbers of templates: whole numbers of 128 bits and doubles, how they compare and how
  they print.
-/

namespace Stencil.Template

inductive Number where
  | natural (n : Nat)
  /-- A number that has been through a change of sign. -/
  | signed (n : Int)
  | double (d : Double)
  deriving DecidableEq, Repr

namespace Number

/-- Two to the power 63. -/
def halfWord : Nat := 9223372036854775808

/-- Two to the power 64. -/
def word : Nat := 18446744073709551616

/-- Two to the power 127. -/
def halfPair : Nat := 170141183460469231731687303715884105728

/-- Two to the power 128. -/
def pair : Nat := 340282366920938463463374607431768211456

/-- Natural numbers beyond `halfPair` have no negative, and that one is its own. -/
def neg? : Number → Option Number
  | natural n =>
    if n = halfPair then some (natural n)
    else if n < halfPair then some (signed (-n))
    else none
  | signed n => some (signed (-n))
  | double d => some (double d.neg)

def isZero : Number → Bool
  | natural n => n = 0
  | signed n => n = 0
  | double d => d.isZero

/-- The whole number it counts as, where one is asked for. -/
def whole? : Number → Option Int
  | natural n => some n
  | signed n => some n
  | double d => d.whole?

/-! ## Comparing -/

/-- The double that stands for a number. Whole numbers have 64 bits, or 128 if they need
them. -/
def double? : Number → Option Double
  | natural n => Double.ofInt? ((if n < word then word else pair) - 1) n
  | signed n =>
    let isShort := -(halfWord : Int) ≤ n ∧ n < (halfWord : Int)
    Double.ofInt? ((if isShort then halfWord else halfPair) - 1) n
  | double d => some d

/-- Whether two numbers are equal: a whole number and a double are if the whole number can be
a double, and then is that one. -/
def same (a b : Number) : Bool :=
  let sameDouble := fun (_ : Unit) => match a.double?, b.double? with
    | some c, some d => c.same d
    | _, _ => false
  match a, b with
  | double _, _ | _, double _ => sameDouble ()
  | _, _ => a.whole? = b.whole?

/-- The order of numbers, of which none is rounded. -/
def order : Number → Number → Ordering
  | double a, double b => a.order b
  | double a, natural n => a.orderInt n
  | double a, signed n => a.orderInt n
  | natural n, double b => (b.orderInt n).swap
  | signed n, double b => (b.orderInt n).swap
  | natural m, natural n => compare m n
  | natural m, signed n => compare (m : Int) n
  | signed m, natural n => compare m (n : Int)
  | signed m, signed n => compare m n

/-! ## Printing -/

/-- A decimal with some digit on each side of the point. -/
def positional (d : Decimal) : String :=
  let zeros := fun (n : Nat) => List.replicate n '0'
  let digits := Nat.toDigits 10 d.digits
  if 0 ≤ d.exponent then String.ofList (digits ++ zeros d.exponent.toNat ++ ['.', '0'])
  else
    let places := (-d.exponent).toNat
    let digits := zeros (places + 1 - digits.length) ++ digits
    let whole := digits.length - places
    String.ofList (digits.take whole ++ '.' :: digits.drop whole)

/-- A decimal with one digit before the point and a power of ten. -/
def scientific (d : Decimal) : String :=
  let digits := Nat.toDigits 10 d.digits
  let fraction := if digits.length = 1 then [] else '.' :: digits.drop 1
  String.ofList (digits.take 1 ++ fraction) ++ "e" ++ toString (d.exponent + digits.length - 1)

/-- A double with its sign, where `write` prints the decimal. -/
def signedText (write : Decimal → String) (d : Double) : String :=
  (if d.negative then "-" else "") ++
    match d.magnitude with
    | .infinite => "inf"
    | .finite 0 _ => "0.0"
    | .finite mantissa exponent => write (Double.Positive.shortest ⟨mantissa, exponent⟩)

/-- A number printed on its own. -/
def text : Number → String
  | natural n => toString n
  | signed n => toString n
  | double d => signedText positional d

/-- A number inside another value, with a power of ten below `0.0001` and from `1e16` on. -/
def inner : Number → String
  | natural n => toString n
  | signed n => toString n
  | double d => signedText (fun decimal =>
      let top := decimal.exponent + (Nat.toDigits 10 decimal.digits).length - 1
      if -4 ≤ top ∧ top < 16 then positional decimal else scientific decimal) d

end Number

end Stencil.Template
