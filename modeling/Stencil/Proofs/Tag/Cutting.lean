import Mathlib.Data.List.TakeWhile
import Stencil.Proofs.Tag.Pairs
import Stencil.Proofs.Text.Bytes
import Stencil.Proofs.Text.Cut
import Stencil.Tag.Cutting

/-
  The pairs of a tag as they are cut from its bytes. The position behind a backslash is passed
  over as one byte, so the search for the closing quote can go on inside of a character; it comes
  out of it without having taken a byte of it for a quote or a backslash.

  Proved: `cutPairs_eq`. Every cut falls between two characters, and what is cut out are the pairs
  that are found character by character.
-/

namespace Stencil.Tag

open Text

/-! ## Keys -/

section

variable {c : Char} {b : UInt8} {key behind : List Char}

theorem inKey_iff_toNat : InKey c ↔
    32 < c.toNat ∧ c.toNat ≠ 58 ∧ c.toNat ≠ 34 ∧ c.toNat ≠ 127 := by
  simp only [InKey, Char.lt_def, UInt32.lt_iff_toNat_lt, ne_eq, ← Char.toNat_inj]
  rfl

theorem endsKey_iff_toNat : endsKey b = true ↔
    b.toNat ≤ 32 ∨ b.toNat = 34 ∨ b.toNat = 58 ∨ b.toNat = 127 := by
  simp [endsKey, UInt8.le_iff_toNat_le, ← UInt8.toNat_inj, or_assoc]

theorem endsKey_of_inKey (keyed : InKey c) (mem : b ∈ String.utf8EncodeChar c) :
    ¬endsKey b = true := by
  rw [endsKey_iff_toNat]
  intro ends
  obtain ⟨-, same⟩ := utf8EncodeChar_of_mem mem (by omega)
  rw [inKey_iff_toNat] at keyed
  omega

theorem endsKey_of_not_inKey (not_keyed : ¬InKey c) :
    ∃ b, String.utf8EncodeChar c = [b] ∧ endsKey b = true := by
  rw [inKey_iff_toNat] at not_keyed
  refine ⟨c.toNat.toUInt8, utf8EncodeChar_ascii (by omega), ?_⟩
  have same : c.toNat.toUInt8.toNat = c.toNat := by
    rw [Nat.toUInt8_eq, UInt8.toNat_ofNat']
    omega
  rw [endsKey_iff_toNat, same]
  omega

/-- The first byte that ends a key is the first one behind it. -/
theorem findIdx_endsKey (keyed : ∀ c ∈ key, InKey c) (ends : ∀ c ∈ behind.head?, ¬InKey c) :
    (utf8 (key ++ behind)).findIdx endsKey = byteLength key := by
  have inKey : (utf8 key).findIdx endsKey = (utf8 key).length := by
    rw [List.findIdx_eq_length]
    intro b mem
    obtain ⟨c, listed, mem⟩ := List.mem_flatMap.mp mem
    simpa using endsKey_of_inKey (keyed c listed) mem
  have first : (utf8 behind).findIdx endsKey = 0 := by
    cases behind with
    | nil => rfl
    | cons c behind =>
      obtain ⟨b, single, found⟩ := endsKey_of_not_inKey (ends c rfl)
      simp [utf8, single, List.findIdx_cons, found]
  rw [utf8, List.flatMap_append, List.findIdx_append]
  change (if (utf8 key).findIdx endsKey < (utf8 key).length then _
    else (utf8 behind).findIdx endsKey + (utf8 key).length) = _
  rw [inKey, first, if_neg (Nat.lt_irrefl _), Nat.zero_add, length_utf8]

end

/-! ## The closing quote -/

section

variable {plain : List UInt8} {s : List Char}

theorem closing_quote (front back : List UInt8) :
    closing (front ++ 0x22 :: back) front.length = some front.length := by
  rw [closing, dif_pos (by simp), if_pos (by simp)]

theorem closing_escape (front back : List UInt8) (b : UInt8) :
    closing (front ++ 0x5c :: b :: back) front.length =
      closing (front ++ [0x5c, b] ++ back) (front ++ [0x5c, b]).length := by
  rw [closing, dif_pos (by simp), if_neg (by simp), if_pos (by simp)]
  simp

theorem closing_plain (each : ∀ b ∈ plain, b ≠ 0x22 ∧ b ≠ 0x5c) (front back : List UInt8) :
    closing (front ++ (plain ++ back)) front.length =
      closing (front ++ plain ++ back) (front ++ plain).length := by
  induction plain generalizing front with
  | nil => simp
  | cons b plain ih =>
    obtain ⟨not_quote, not_backslash⟩ := each b List.mem_cons_self
    have step : closing (front ++ (b :: plain ++ back)) front.length =
        closing (front ++ [b] ++ (plain ++ back)) (front ++ [b]).length := by
      rw [closing, dif_pos (by simp), if_neg (by simpa using not_quote),
        if_neg (by simpa using not_backslash)]
      simp
    rw [step, ih (fun b mem => each b (List.mem_cons_of_mem _ mem))]
    simp

theorem closing_end (bytes : List UInt8) {i : Nat} (h : bytes.length ≤ i) :
    closing bytes i = none := by
  rw [closing, dif_neg (Nat.not_lt.mpr h)]

theorem closing_backslash (front : List UInt8) : closing (front ++ [0x5c]) front.length = none := by
  rw [closing, dif_pos (by simp), if_neg (by simp), if_pos (by simp), closing_end _ (by simp)]

/-- The bytes of a character that is neither a quote nor a backslash are neither. -/
theorem plain_utf8EncodeChar {c : Char} (notQuote : c ≠ '"') (notBackslash : c ≠ '\\') :
    ∀ b ∈ String.utf8EncodeChar c, b ≠ 0x22 ∧ b ≠ 0x5c := by
  intro b mem
  constructor
  · rintro rfl
    obtain ⟨-, same⟩ := utf8EncodeChar_of_mem mem (by decide)
    exact notQuote (Char.toNat_inj.mp same)
  · rintro rfl
    obtain ⟨-, same⟩ := utf8EncodeChar_of_mem mem (by decide)
    exact notBackslash (Char.toNat_inj.mp same)

/-- Behind its first byte a character has only bytes that are neither quotes nor backslashes. -/
theorem utf8EncodeChar_eq_cons (c : Char) : ∃ b more, String.utf8EncodeChar c = b :: more ∧
    ∀ b ∈ more, b ≠ 0x22 ∧ b ≠ 0x5c := by
  by_cases ascii : c.toNat < 128
  · exact ⟨_, [], utf8EncodeChar_ascii ascii, by simp⟩
  cases shape : String.utf8EncodeChar c with
  | nil => exact absurd shape String.utf8EncodeChar_ne_nil
  | cons b more =>
    refine ⟨b, more, rfl, fun b' mem => ?_⟩
    have large : 128 ≤ b'.toNat :=
      le_of_mem_utf8EncodeChar (Nat.le_of_not_lt ascii) (shape ▸ List.mem_cons_of_mem b mem)
    constructor <;> rintro rfl <;> revert large <;> decide

/-- The search goes over the bytes of a body. -/
theorem Body.closing_eq (body : Body s) (front back : List UInt8) :
    closing (front ++ (utf8 s ++ back)) front.length =
      closing (front ++ utf8 s ++ back) (front ++ utf8 s).length := by
  induction body generalizing front with
  | nil => simp [utf8]
  | @plain c s notQuote notBackslash _ ih =>
    have bytes : utf8 (c :: s) = String.utf8EncodeChar c ++ utf8 s := rfl
    rw [bytes, List.append_assoc, closing_plain (plain_utf8EncodeChar notQuote notBackslash), ih]
    simp only [List.append_assoc]
  | @escaped c s _ ih =>
    obtain ⟨b, more, shape, plain⟩ := utf8EncodeChar_eq_cons c
    -- The search goes on behind `b`, which may be inside of `c`; the bytes `more` are passed over.
    have bytes : utf8 ('\\' :: c :: s) = 0x5c :: b :: (more ++ utf8 s) := by
      rw [← List.cons_append, ← shape]
      rfl
    rw [bytes, List.cons_append, List.cons_append, closing_escape, List.append_assoc more,
      closing_plain plain, ih]
    simp only [List.append_assoc, List.cons_append, List.nil_append]

/-- A text goes on to the first quote that no backslash stands before, or to its end. -/
theorem exists_body (s : List Char) : ∃ body rest, s = body ++ rest ∧ Body body ∧
    ((rest = [] ∨ rest = ['\\']) ∨ ∃ after, rest = '"' :: after) := by
  match s with
  | [] => exact ⟨[], [], rfl, .nil, .inl (.inl rfl)⟩
  | c :: s =>
    by_cases quote : c = '"'
    · exact ⟨[], c :: s, rfl, .nil, .inr ⟨s, by rw [quote]⟩⟩
    by_cases backslash : c = '\\'
    · match s with
      | [] => exact ⟨[], [c], rfl, .nil, .inl (.inr (by rw [backslash]))⟩
      | d :: s =>
        obtain ⟨body, rest, rfl, isBody, ends⟩ := exists_body s
        exact ⟨c :: d :: body, rest, rfl, backslash ▸ .escaped isBody, ends⟩
    · obtain ⟨body, rest, rfl, isBody, ends⟩ := exists_body s
      exact ⟨c :: body, rest, rfl, .plain quote backslash isBody, ends⟩

end

/-! ## Pairs -/

section

variable {key value behind rest : List Char}

theorem cutQuoted_closed (body : Body value) (rest : List Char) :
    cutQuoted ('"' :: (value ++ '"' :: rest)) = .ok (some ('"' :: (value ++ ['"']), rest)) := by
  have bytes : utf8 ('"' :: (value ++ '"' :: rest)) =
      [0x22] ++ (utf8 value ++ 0x22 :: utf8 rest) := by
    rw [← List.singleton_append, utf8_append, utf8_append]
    rfl
  have position : closing (utf8 ('"' :: (value ++ '"' :: rest))) 1 =
      some (byteLength value + 1) := by
    rw [bytes]
    refine (body.closing_eq [0x22] _).trans ((closing_quote _ _).trans ?_)
    simp [length_utf8]
  have divided : divide ('"' :: (value ++ '"' :: rest)) (byteLength value + 1 + 1) =
      .ok ('"' :: (value ++ ['"']), rest) := by
    have quote : '"'.utf8Size = 1 := rfl
    have length : byteLength ('"' :: (value ++ ['"'])) = byteLength value + 1 + 1 := by
      simp [quote]
      omega
    have shape : '"' :: (value ++ '"' :: rest) = '"' :: (value ++ ['"']) ++ rest := by simp
    rw [shape, ← length]
    exact divide_append _ _
  simp only [cutQuoted, position, divided]
  rfl

theorem cutQuoted_open (body : Body value) (ends : rest = [] ∨ rest = ['\\']) :
    cutQuoted ('"' :: (value ++ rest)) = .ok none := by
  have bytes : utf8 ('"' :: (value ++ rest)) = [0x22] ++ (utf8 value ++ utf8 rest) := by
    rw [← List.singleton_append, utf8_append, utf8_append]
    rfl
  have position : closing (utf8 ('"' :: (value ++ rest))) 1 = none := by
    rw [bytes]
    refine (body.closing_eq [0x22] _).trans ?_
    rcases ends with rfl | rfl
    · exact closing_end _ (by simp [utf8])
    · exact closing_backslash _
  rw [cutQuoted, position]
  rfl

/-- A text is divided where a key ends, and the key is one if it is not empty and a colon and a
quote follow it. -/
theorem cutKey_eq (keyed : ∀ c ∈ key, InKey c) (ends : ∀ c ∈ behind.head?, ¬InKey c) :
    cutKey (key ++ behind) =
      .ok (if key ≠ [] ∧ [':', '"'] <+: behind then some (key, behind.tail) else none) := by
  have nonempty : byteLength key ≠ 0 ↔ key ≠ [] := by
    cases key with
    | nil => simp
    | cons c key => simp [Nat.ne_of_gt c.utf8Size_pos]
  have first : divide (key ++ behind) (byteLength key) = .ok (key, behind) := divide_append _ _
  simp only [cutKey, findIdx_endsKey keyed ends, first, bind, Except.bind, nonempty]
  split
  · rename_i paired
    obtain ⟨-, rest, rfl⟩ := paired
    have second : divide (key ++ ([':', '"'] ++ rest)) (byteLength key + 1) =
        .ok (key ++ [':'], '"' :: rest) := by
      have length : byteLength (key ++ [':']) = byteLength key + 1 := byteLength_append key [':']
      rw [← length, ← divide_append]
      simp
    rw [second]
    rfl
  · rfl

theorem nextPair_spaces (n : Nat) (s : List Char) :
    nextPair (List.replicate n ' ' ++ s) = nextPair s := by
  have skipped : (List.replicate n ' ' ++ s).dropWhile (· = ' ') = s.dropWhile (· = ' ') :=
    List.dropWhile_append_of_pos fun c mem => by simp [List.eq_of_mem_replicate mem]
  rw [nextPair, nextPair, skipped]

theorem dropWhile_inKey (isKey : IsKey key) (behind : List Char) :
    (key ++ behind).dropWhile (· = ' ') = key ++ behind := by
  cases key with
  | nil => exact absurd rfl isKey.nonempty
  | cons c key =>
    have keyed : InKey c := isKey.each c List.mem_cons_self
    have not_space : c ≠ ' ' := fun same => absurd (same ▸ keyed.1) (by decide)
    rw [List.cons_append, List.dropWhile_cons_of_neg (by simpa using not_space)]

/-- A pair that is next is cut out. -/
theorem nextPair_pair (isKey : IsKey key) (body : Body value) (rest : List Char) :
    nextPair (key ++ ':' :: '"' :: (value ++ '"' :: rest)) =
      .ok (some (⟨key, '"' :: (value ++ ['"'])⟩, rest)) := by
  have colon : ∀ c ∈ (':' :: '"' :: (value ++ '"' :: rest)).head?, ¬InKey c := by
    rintro _ ⟨⟩
    decide
  have paired : key ≠ [] ∧ [':', '"'] <+: ':' :: '"' :: (value ++ '"' :: rest) :=
    ⟨isKey.nonempty, ⟨_, rfl⟩⟩
  rw [nextPair, dropWhile_inKey isKey, cutKey_eq isKey.each colon, if_pos paired]
  change (cutQuoted ('"' :: (value ++ '"' :: rest)) >>= _) = _
  rw [cutQuoted_closed body]
  rfl

/-- A text starts with spaces and characters of a key, and goes on with none of these. -/
theorem exists_key (s : List Char) : ∃ spaces key behind,
    s = List.replicate spaces ' ' ++ (key ++ behind) ∧ s.dropWhile (· = ' ') = key ++ behind ∧
      (∀ c ∈ key, InKey c) ∧ ∀ c ∈ behind.head?, ¬InKey c := by
  refine ⟨(s.takeWhile (· = ' ')).length, (s.dropWhile (· = ' ')).takeWhile isKeyChar,
    (s.dropWhile (· = ' ')).dropWhile isKeyChar, ?_, ?_, fun c mem => ?_, fun c head => ?_⟩
  · have spaces : List.replicate (s.takeWhile (· = ' ')).length ' ' = s.takeWhile (· = ' ') :=
      (List.eq_replicate_length.mpr fun c mem => by simpa using List.mem_takeWhile_imp mem).symm
    rw [List.takeWhile_append_dropWhile, spaces, List.takeWhile_append_dropWhile]
  · rw [List.takeWhile_append_dropWhile]
  · exact isKeyChar_iff.mp (List.mem_takeWhile_imp mem)
  · have stops := List.head?_dropWhile_not isKeyChar (s.dropWhile (· = ' '))
    rw [Option.mem_def.mp head] at stops
    rw [← isKeyChar_iff]
    simpa using stops

/-- The search never breaks off: no pair is next, or the text starts with one. -/
theorem nextPair_none_or (s : List Char) : nextPair s = .ok none ∨
    ∃ spaces key value rest, IsKey key ∧ Body value ∧
      s = List.replicate spaces ' ' ++ (key ++ ':' :: '"' :: (value ++ '"' :: rest)) := by
  obtain ⟨spaces, key, behind, whole, skipped, keyed, ends⟩ := exists_key s
  by_cases paired : key ≠ [] ∧ [':', '"'] <+: behind
  · obtain ⟨nonempty, s', rfl⟩ := paired
    obtain ⟨value, rest, rfl, body, unclosed | ⟨after, rfl⟩⟩ := exists_body s'
    · left
      rw [nextPair, skipped, cutKey_eq keyed ends, if_pos ⟨nonempty, ⟨_, rfl⟩⟩]
      change (cutQuoted ('"' :: (value ++ rest)) >>= _) = _
      rw [cutQuoted_open body unclosed]
      rfl
    · exact .inr ⟨spaces, key, value, after, ⟨nonempty, keyed⟩, body, whole⟩
  · left
    rw [nextPair, skipped, cutKey_eq keyed ends, if_neg paired]
    rfl

/-- The pair with quotes around its value. -/
def QuotedPair.ofRaw (raw : RawPair) : QuotedPair := ⟨raw.1, '"' :: (raw.2 ++ ['"'])⟩

/-- One round of the search finds what the scan finds next. -/
theorem nextPair_cases (s : List Char) : nextPair s = .ok none ∧ scan s = [] ∨
    ∃ raw rest, nextPair s = .ok (some (.ofRaw raw, rest)) ∧ scan s = raw :: scan rest := by
  rcases nextPair_none_or s with none | ⟨spaces, key, value, rest, isKey, body, rfl⟩
  · refine .inl ⟨none, ?_⟩
    obtain ⟨left, begins⟩ := begins_scan s
    generalize scan s = pairs at begins
    cases begins with
    | nil => rfl
    | pair spaces isKey body others =>
      rw [nextPair_spaces, nextPair_pair isKey body] at none
      cases none
  · refine .inr ⟨(key, value), rest, ?_, ?_⟩
    · rw [nextPair_spaces]
      exact nextPair_pair isKey body rest
    · rw [scan_spaces, scan_pair isKey.nonempty isKey.each body.passes]

/-- Every cut falls between two characters, and what is cut out are the pairs that are found. -/
theorem cutPairs_eq (s : List Char) : cutPairs s = .ok ((scan s).map .ofRaw) := by
  fun_induction cutPairs s with
  | case1 s misplaced next =>
    rcases nextPair_cases s with ⟨none, -⟩ | ⟨raw, rest, found, -⟩
    · cases none.symm.trans next
    · cases found.symm.trans next
  | case2 s next =>
    rcases nextPair_cases s with ⟨-, scanned⟩ | ⟨raw, rest, found, -⟩
    · rw [scanned]
      rfl
    · cases found.symm.trans next
  | case3 s pair rest next ih =>
    rcases nextPair_cases s with ⟨none, -⟩ | ⟨raw, rest', found, scanned⟩
    · cases none.symm.trans next
    · cases found.symm.trans next
      rw [ih, scanned]
      rfl

end

end Stencil.Tag
