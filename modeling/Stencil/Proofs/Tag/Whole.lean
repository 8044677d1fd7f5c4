import Stencil.Proofs.Tag.Cutting
import Stencil.Proofs.Tag.Decoding

/-
  Quoted texts are handed on whole. The closing quote is told by counting the backslashes right
  before it, with no word of how it is searched for: an odd number escapes it.

  Proved: `pairs_cut_whole`. The search in the bytes of a tag comes to an end and divides the text
  between characters only; what it hands to decoding are the pairs of the tag, each with its
  quotes, so decoding finds no quote and no open escape in them and no number past 32 bits.
-/

namespace Stencil.Tag

open Text

/-! ## Escaped quotes -/

/-- How many backslashes a text ends with. -/
def backslashes (s : List Char) : Nat := (s.reverse.takeWhile (· = '\\')).length

/-- What comes behind a text is escaped if an odd number of backslashes stand right before it. -/
def Escapes (before : List Char) : Prop := backslashes before % 2 = 1

instance (before : List Char) : Decidable (Escapes before) := inferInstanceAs (Decidable (_ = _))

/-- The last quote is the first one behind the quote at the start that is not escaped. -/
structure IsQuoted (quoted value : List Char) : Prop where
  shape : quoted = '"' :: (value ++ ['"'])
  closes : ¬Escapes value
  first : ∀ before after, value = before ++ '"' :: after → Escapes before

section

variable {s s' left value : List Char} {raws : List RawPair}

theorem backslashes_concat (s : List Char) (c : Char) :
    backslashes (s ++ [c]) = if c = '\\' then backslashes s + 1 else 0 := by
  simp only [backslashes, List.reverse_append, List.reverse_singleton, List.singleton_append,
    List.takeWhile_cons]
  split <;> simp_all

theorem escapes_concat (s : List Char) (c : Char) :
    Escapes (s ++ [c]) ↔ c = '\\' ∧ ¬Escapes s := by
  rw [Escapes, Escapes, backslashes_concat]
  split
  · rename_i backslash
    simp only [backslash, true_and]
    omega
  · rename_i other
    simp [other]

/-- Behind a backslash that is not escaped stands one character that is, and none after it. -/
theorem not_escapes_pair (h : ¬Escapes s) (c : Char) : ¬Escapes (s ++ ['\\', c]) := by
  have backslash : Escapes (s ++ ['\\']) := (escapes_concat s '\\').mpr ⟨rfl, h⟩
  have pair : s ++ ['\\', c] = s ++ ['\\'] ++ [c] := by simp
  rw [pair, escapes_concat]
  exact fun escapes => escapes.2 backslash

/-- Behind a body nothing is escaped that was not before it. -/
theorem Body.not_escapes (body : Body s) (h : ¬Escapes s') : ¬Escapes (s' ++ s) := by
  induction body generalizing s' with
  | nil => simpa using h
  | @plain c s notQuote notBackslash _ ih =>
    have next : ¬Escapes (s' ++ [c]) := by simp [escapes_concat, notBackslash]
    simpa using ih next
  | @escaped c s _ ih => simpa using ih (not_escapes_pair h c)

/-- A quote in a body is escaped. -/
theorem Body.escapes_of_quote (body : Body s) (h : ¬Escapes s') (before after : List Char)
    (quote : s = before ++ '"' :: after) : Escapes (s' ++ before) := by
  induction body generalizing s' before with
  | nil => simp at quote
  | @plain c s notQuote notBackslash _ ih =>
    cases before with
    | nil => exact absurd (List.cons.inj quote).1 notQuote
    | cons d before =>
      obtain ⟨rfl, rest⟩ := List.cons.inj quote
      have next : ¬Escapes (s' ++ [c]) := by simp [escapes_concat, notBackslash]
      simpa using ih next before rest
  | @escaped c s _ ih =>
    -- The quote is the escaped character, or stands in the body behind it.
    match before with
    | [] => cases quote
    | [d] =>
      obtain ⟨rfl, -⟩ := List.cons.inj quote
      exact (escapes_concat s' '\\').mpr ⟨rfl, h⟩
    | d :: e :: before =>
      obtain ⟨rfl, inner⟩ := List.cons.inj quote
      obtain ⟨rfl, rest⟩ := List.cons.inj inner
      simpa using ih (not_escapes_pair h c) before rest

theorem not_escapes_nil : ¬Escapes [] := by decide

theorem Body.isQuoted (body : Body value) : IsQuoted ('"' :: (value ++ ['"'])) value where
  shape := rfl
  closes := body.not_escapes not_escapes_nil
  first := body.escapes_of_quote not_escapes_nil

/-! ## Pairs -/

/-- A pair as it is written, behind some spaces. -/
def QuotedPair.written (spaces : Nat) (pair : QuotedPair) : List Char :=
  List.replicate spaces ' ' ++ (pair.key ++ ':' :: pair.quoted)

/-- The pairs that a text begins with make up its front. -/
theorem Begins.exists_gaps (h : Begins raws s left) : ∃ gaps : List Nat,
    gaps.length = raws.length ∧
      s = (List.zipWith QuotedPair.written gaps (raws.map .ofRaw)).flatten ++ left := by
  induction h with
  | nil => exact ⟨[], rfl, rfl⟩
  | pair spaces isKey body _ ih =>
    obtain ⟨gaps, length, rfl⟩ := ih
    exact ⟨spaces :: gaps, congrArg (· + 1) length, by simp [QuotedPair.written, QuotedPair.ofRaw]⟩

theorem Begins.each (h : Begins raws s left) : ∀ raw ∈ raws, IsKey raw.1 ∧ Body raw.2 := by
  induction h with
  | nil => simp
  | pair spaces isKey body _ ih =>
    intro raw mem
    rcases List.mem_cons.mp mem with rfl | mem
    · exact ⟨isKey, body⟩
    · exact ih raw mem

/-- A round of the search in `before` leaves `rest`. -/
def Leaves (rest before : List Char) : Prop := ∃ pair, nextPair before = .ok (some (pair, rest))

theorem acc_leaves (s : List Char) : Acc Leaves s :=
  Subrelation.accessible (fun ⟨_, found⟩ => length_lt_of_nextPair found)
    ((measure List.length).wf.apply s)

end

/-- The search in the bytes of a tag ends after finitely many rounds and divides its text between
characters only. It gives the pairs of the tag with their quotes, and these, with their keys,
colons and the spaces before them, make up the front of the tag. Each has a key, and its quoted
text ends with the first quote that is not escaped. Decoding such a text never comes upon a missing
or a bare quote, a backslash with nothing behind it, or a number past 32 bits. -/
theorem pairs_cut_whole (t : Tag) : Acc Leaves t.text.toList ∧ ∃ pairs gaps,
    cutPairs t.text.toList = .ok pairs ∧ pairs = t.pairs.map .ofRaw ∧
      gaps.length = pairs.length ∧
      (List.zipWith QuotedPair.written gaps pairs).flatten <+: t.text.toList ∧
      ∀ pair ∈ pairs, pair.key ≠ [] ∧ ∃ value, IsQuoted pair.quoted value ∧
        (decodeQuoted pair.quoted).toOption = decode value ∧
        ∀ fault, decodeQuoted pair.quoted = .error fault →
          fault ∉ [Fault.noQuotes, .bareQuote, .openEscape, .overflow] := by
  obtain ⟨left, begins⟩ := begins_scan t.text.toList
  obtain ⟨gaps, length, front⟩ := begins.exists_gaps
  refine ⟨acc_leaves _, _, gaps, cutPairs_eq _, rfl, by simpa using length, ⟨left, front.symm⟩, ?_⟩
  intro pair mem
  obtain ⟨⟨key, value⟩, listed, rfl⟩ := List.mem_map.mp mem
  obtain ⟨isKey, body⟩ := begins.each _ listed
  exact ⟨isKey.nonempty, value, body.isQuoted, toOption_decodeQuoted value,
    fun fault => body.decodeQuoted_fault⟩

end Stencil.Tag
