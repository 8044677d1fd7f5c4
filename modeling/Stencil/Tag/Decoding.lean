import Stencil.Proofs.Outcome
import Stencil.Tag.Escape
import Stencil.Text.Split

/-
  Decoding a quoted text piece by piece: each round takes a character or an escape from the text
  and gives its bytes. The number of an escape is built digit by digit in 32 bits.
-/

namespace Stencil.Tag

open Text

/-- Why a quoted text does not decode. -/
inductive Fault where
  /-- There is no quote at the start, or none at the end. -/
  | noQuotes
  | bareQuote
  | bareNewline
  /-- Nothing stands behind a backslash. -/
  | openEscape
  | unknownEscape (c : Char)
  /-- An escape has too few digits. -/
  | noDigit
  /-- A number does not fit into 32 bits. -/
  | overflow
  | noByte (n : Nat)
  | noChar (n : Nat)
  /-- The bytes are no text. -/
  | noText
  deriving DecidableEq, Repr

/-- A number, if it fits into 32 bits. -/
def fitted (n : Nat) : Except Fault Nat := if n < UInt32.size then .ok n else .error .overflow

/-- The number that goes on with the next `count` digits, and the rest. -/
def readDigits (base : Nat) : Nat → Nat → List Char → Except Fault (Nat × List Char)
  | 0, n, s => .ok (n, s)
  | count + 1, n, s => do
    let product ← fitted (n * base)
    match s with
    | [] => .error .noDigit
    | c :: rest =>
      match digitOf base c with
      | some d => readDigits base count (← fitted (product + d)) rest
      | none => .error .noDigit

def asByte (n : Nat) : Except Fault (List UInt8) :=
  if n < 256 then .ok [n.toUInt8] else .error (.noByte n)

def asChar (n : Nat) : Except Fault (List UInt8) :=
  match charOf n with
  | some c => .ok (String.utf8EncodeChar c)
  | none => .error (.noChar n)

/-- The bytes that `count` digits stand for, the number so far being `n`, and the rest. -/
def readNumber (base count n : Nat) (give : Nat → Except Fault (List UInt8)) (s : List Char) :
    Except Fault (List UInt8 × List Char) := do
  let (n, rest) ← readDigits base count n s
  return (← give n, rest)

/-- The bytes of an escape, whose text starts behind the backslash, and the rest. -/
def readEscape : List Char → Except Fault (List UInt8 × List Char)
  | [] => .error .openEscape
  | 'x' :: s => readNumber 16 2 0 asByte s
  | 'u' :: s => readNumber 16 4 0 asChar s
  | 'U' :: s => readNumber 16 8 0 asChar s
  | c :: s =>
    match namedEscape c, digitOf 8 c with
    | some byte, _ => .ok ([byte], s)
    | none, some d => readNumber 8 2 d asByte s
    | none, none => .error (.unknownEscape c)

/-- The bytes of the next piece of a text and the rest. -/
def readPiece (c : Char) (s : List Char) : Except Fault (List UInt8 × List Char) :=
  if c = '\\' then readEscape s
  else if c = '"' then .error .bareQuote
  else if c = '\n' then .error .bareNewline
  else .ok (String.utf8EncodeChar c, s)

/-! ## What is left -/

section

variable {base count n m : Nat} {s rest : List Char} {c : Char} {bytes : List UInt8}

theorem length_le_of_readDigits (h : readDigits base count n s = .ok (m, rest)) :
    rest.length ≤ s.length := by
  induction count generalizing n s with
  | zero =>
    cases h
    exact Nat.le_refl _
  | succ count ih =>
    obtain ⟨_, -, h⟩ := ok_of_bind h
    cases s with
    | nil => cases h
    | cons c s =>
      dsimp only at h
      split at h
      · obtain ⟨_, -, h⟩ := ok_of_bind h
        exact Nat.le_succ_of_le (ih h)
      · cases h

theorem length_le_of_readNumber {give : Nat → Except Fault (List UInt8)}
    (h : readNumber base count n give s = .ok (bytes, rest)) : rest.length ≤ s.length := by
  obtain ⟨⟨_, _⟩, digits, h⟩ := ok_of_bind h
  obtain ⟨_, _, h⟩ := ok_of_bind h
  cases h
  exact length_le_of_readDigits digits

theorem length_lt_of_readEscape (h : readEscape s = .ok (bytes, rest)) :
    rest.length < s.length := by
  unfold readEscape at h
  split at h
  · cases h
  · exact Nat.lt_succ_of_le (length_le_of_readNumber h)
  · exact Nat.lt_succ_of_le (length_le_of_readNumber h)
  · exact Nat.lt_succ_of_le (length_le_of_readNumber h)
  · split at h
    · cases h
      exact Nat.lt_succ_self _
    · exact Nat.lt_succ_of_le (length_le_of_readNumber h)
    · cases h

theorem length_le_of_readPiece (h : readPiece c s = .ok (bytes, rest)) :
    rest.length ≤ s.length := by
  unfold readPiece at h
  split at h
  · exact Nat.le_of_lt (length_lt_of_readEscape h)
  split at h
  · cases h
  split at h
  · cases h
  · cases h
    exact Nat.le_refl _

end

/-- The bytes of all pieces. -/
def readPieces : List Char → Except Fault (List UInt8)
  | [] => .ok []
  | c :: s =>
    match _ : readPiece c s with
    | .ok (bytes, rest) => (readPieces rest).map (bytes ++ ·)
    | .error fault => .error fault
termination_by s => s.length
decreasing_by exact Nat.lt_succ_of_le (length_le_of_readPiece ‹_›)

/-- What stands between the quotes around a text. -/
def unwrap (quoted : List Char) : Except Fault (List Char) :=
  match stripHead ['"'] quoted with
  | some s => if s.getLast? = some '"' then .ok s.dropLast else .error .noQuotes
  | none => .error .noQuotes

def asText (bytes : List UInt8) : Except Fault (List Char) :=
  match ofUtf8 bytes with
  | some text => .ok text
  | none => .error .noText

/-- A quoted text, decoded. -/
def decodeQuoted (quoted : List Char) : Except Fault (List Char) := do
  asText (← readPieces (← unwrap quoted))

end Stencil.Tag
