import Stencil.Proofs.Outcome
import Stencil.Text.Division
import Stencil.Text.Utf8

/-
  Finding the pairs of a tag in its bytes. Where a key and a quoted text end is told by single
  bytes, whatever characters they belong to, and the text is then divided at their positions.
-/

namespace Stencil.Tag

open Text

/-- A pair as it stands in a text, with the quotes around its value. -/
structure QuotedPair where
  key : List Char
  quoted : List Char
  deriving DecidableEq, Repr

/-- A control byte, a space, a quote, a colon or DEL. -/
def endsKey (b : UInt8) : Bool := b ≤ 0x20 || b = 0x22 || b = 0x3a || b = 0x7f

/-- The position of the first quote from `i` on, two bytes being stepped over at each backslash. -/
def closing (bytes : List UInt8) (i : Nat) : Option Nat :=
  if _ : i < bytes.length then
    if bytes[i] = 0x22 then some i
    else if bytes[i] = 0x5c then closing bytes (i + 2)
    else closing bytes (i + 1)
  else none
termination_by bytes.length - i

/-- The key at the start of a text and what stands behind its colon, if that is a quote. -/
def cutKey (s : List Char) : Except Misplaced (Option (List Char × List Char)) := do
  let n := (utf8 s).findIdx endsKey
  let (key, behind) ← divide s n
  if n ≠ 0 ∧ [':', '"'] <+: behind then
    let (_, value) ← divide s (n + 1)
    return some (key, value)
  else return none

/-- The quoted text that a text starts with, if it ends, and the rest. -/
def cutQuoted (s : List Char) : Except Misplaced (Option (List Char × List Char)) := do
  match closing (utf8 s) 1 with
  | some i => return some (← divide s (i + 1))
  | none => return none

/-- The next pair and the rest behind it, if a pair is next. -/
def nextPair (s : List Char) : Except Misplaced (Option (QuotedPair × List Char)) := do
  let some (key, value) ← cutKey (s.dropWhile (· = ' ')) | return none
  let some (quoted, rest) ← cutQuoted value | return none
  return some (⟨key, quoted⟩, rest)

/-! ## What is left -/

section

variable {s key value quoted rest : List Char} {pair : QuotedPair}

theorem length_le_of_cutKey (h : cutKey s = .ok (some (key, value))) :
    value.length ≤ s.length := by
  obtain ⟨⟨_, behind⟩, -, h⟩ := ok_of_bind h
  dsimp only at h
  split at h
  · obtain ⟨_, divided, h⟩ := ok_of_bind h
    cases h
    obtain ⟨rfl, -⟩ := append_of_divide divided
    simp
  · cases h

theorem length_lt_of_cutQuoted (h : cutQuoted s = .ok (some (quoted, rest))) :
    rest.length < s.length := by
  unfold cutQuoted at h
  split at h
  · obtain ⟨_, divided, h⟩ := ok_of_bind h
    cases h
    obtain ⟨rfl, length⟩ := append_of_divide divided
    have some_quoted : quoted ≠ [] := by
      rintro rfl
      cases length
    simpa [List.length_pos_iff] using some_quoted
  · cases h

/-- What is left behind a pair is shorter. -/
theorem length_lt_of_nextPair (h : nextPair s = .ok (some (pair, rest))) :
    rest.length < s.length := by
  obtain ⟨_ | ⟨key, value⟩, first, h⟩ := ok_of_bind h
  · cases h
  obtain ⟨_ | ⟨quoted, rest⟩, second, h⟩ := ok_of_bind h
  · cases h
  cases h
  calc rest.length
      < value.length := length_lt_of_cutQuoted second
    _ ≤ (s.dropWhile (· = ' ')).length := length_le_of_cutKey first
    _ ≤ s.length := (List.dropWhile_suffix _).length_le

end

/-- The pairs of a text, up to where none is next. -/
def cutPairs (s : List Char) : Except Misplaced (List QuotedPair) :=
  match _ : nextPair s with
  | .error misplaced => .error misplaced
  | .ok none => .ok []
  | .ok (some (pair, rest)) => (cutPairs rest).map (pair :: ·)
termination_by s.length
decreasing_by exact length_lt_of_nextPair ‹_›

end Stencil.Tag
