import Mathlib.Data.List.Forall2
import Mathlib.Tactic.IntervalCases
import Stencil.Tag.Query

/-
  Tags as they are written. A pair is a key, a colon and a quoted value, and each character of
  the value may be spelled in several ways: as it is, by an escape of its own, by the digits of
  its code point, or byte by byte. The scan for the end of a value does not decode, and the
  decoding does not look for the end; that they agree is shown piece by piece.

  Proved: `entries_of_written`. A written tag holds exactly its pairs, in order, and whatever
  text follows it only adds what that text holds by itself.
-/

namespace Stencil.Tag

open Text

/-! ## Spellings -/

/-- `c` is the digit of value `v`, in either case. -/
def IsDigit (base : Nat) (c : Char) (v : Nat) : Prop :=
  v < base ∧ (c = Nat.digitChar v ∨ c = (Nat.digitChar v).toUpper)

/-- Digits and the number they write, the first one counting most. -/
inductive Numeral (base : Nat) : List Char → Nat → Prop where
  | nil : Numeral base [] 0
  | snoc {ds : List Char} {n v : Nat} {c : Char} :
    Numeral base ds n → IsDigit base c v → Numeral base (ds ++ [c]) (n * base + v)

/-- The characters that have an escape of their own, each behind its letter. -/
def ownEscapes : List (Char × Char) :=
  [('a', '\x07'), ('b', '\x08'), ('f', '\x0c'), ('n', '\n'), ('r', '\r'), ('t', '\t'),
   ('v', '\x0b'), ('\\', '\\'), ('"', '"')]

inductive SpellsByte (b : UInt8) : List Char → Prop where
  | hex {ds : List Char} :
    ds.length = 2 → Numeral 16 ds b.toNat → SpellsByte b ('\\' :: 'x' :: ds)
  | octal {ds : List Char} : ds.length = 3 → Numeral 8 ds b.toNat → SpellsByte b ('\\' :: ds)

inductive Spells (c : Char) : List Char → Prop where
  | raw : c ≠ '\\' → c ≠ '"' → c ≠ '\n' → Spells c [c]
  | own {letter : Char} : (letter, c) ∈ ownEscapes → Spells c ['\\', letter]
  | short {ds : List Char} :
    ds.length = 4 → Numeral 16 ds c.toNat → Spells c ('\\' :: 'u' :: ds)
  | long {ds : List Char} :
    ds.length = 8 → Numeral 16 ds c.toNat → Spells c ('\\' :: 'U' :: ds)
  /-- The bytes of the UTF-8 form, one after another. -/
  | bytes {pieces : List (List Char)} :
    List.Forall₂ SpellsByte (String.utf8EncodeChar c) pieces → Spells c pieces.flatten

/-- A character that may stand in a key. -/
def InKey (c : Char) : Prop := ' ' < c ∧ c ≠ ':' ∧ c ≠ '"' ∧ c ≠ '\x7f'

instance (c : Char) : Decidable (InKey c) := inferInstanceAs (Decidable (_ ∧ _ ∧ _ ∧ _))

/-- Pairs and a text that writes them, with any number of spaces around each. -/
inductive Written : List (String × String) → List Char → Prop where
  | nil (spaces : Nat) : Written [] (List.replicate spaces ' ')
  | pair {key value : String} {pieces : List (List Char)} {pairs : List (String × String)}
    {rest : List Char} (spaces : Nat) :
    key ≠ "" → (∀ c ∈ key.toList, InKey c) → List.Forall₂ Spells value.toList pieces →
    Written pairs rest →
    Written ((key, value) :: pairs)
      (List.replicate spaces ' ' ++ key.toList ++ ':' :: '"' :: (pieces.flatten ++ '"' :: rest))

/-! ## Digits -/

section

variable {base n v : Nat} {c : Char} {ds : List Char}

theorem IsDigit.digitOf_eq (h : IsDigit base c v) (small : base ≤ 16) :
    digitOf base c = some v := by
  obtain ⟨below, either⟩ := h
  have small_v : v < 16 := by omega
  have value : digitOf 16 c = some v := by
    clear below
    interval_cases v <;> rcases either with rfl | rfl <;> rfl
  unfold digitOf at value ⊢
  rw [Option.filter_eq_some_iff] at value ⊢
  exact ⟨value.1, decide_eq_true below⟩

theorem IsDigit.plain (h : IsDigit base c v) (small : base ≤ 16) : c ≠ '"' ∧ c ≠ '\\' := by
  have value := h.digitOf_eq small
  constructor <;> rintro rfl <;> cases value

/-- A backslash and an octal digit begin nothing but the number of a byte. -/
theorem IsDigit.decodeBytes_eq (h : IsDigit 8 c v) (d e : Char) (rest : List Char) :
    decodeBytes ('\\' :: c :: d :: e :: rest) =
      joinBytes (byteOf 8 [c, d, e]) (decodeBytes rest) := by
  obtain ⟨below, either⟩ := h
  interval_cases v <;> rcases either with rfl | rfl <;> rfl

theorem Numeral.ofDigits_eq (h : Numeral base ds n) (small : base ≤ 16) :
    ofDigits base ds = some n := by
  induction h with
  | nil => rfl
  | snoc _ digit ih =>
    unfold ofDigits at ih ⊢
    rw [List.foldlM_append, ih]
    simp [digit.digitOf_eq small]

theorem Numeral.digit_of_mem (h : Numeral base ds n) {c : Char} (mem : c ∈ ds) :
    ∃ v, IsDigit base c v := by
  induction h with
  | nil => cases mem
  | snoc _ digit ih =>
    rcases List.mem_append.mp mem with mem | mem
    · exact ih mem
    · exact ⟨_, List.mem_singleton.mp mem ▸ digit⟩

theorem byteOf_eq {b : UInt8} (h : Numeral base ds b.toNat) (small : base ≤ 16) :
    byteOf base ds = some [b] := by
  have below : b.toNat < 256 := b.toNat_lt
  unfold byteOf
  simp [h.ofDigits_eq small, below]

theorem charOf_toNat (c : Char) : charOf c.toNat = some c := by
  unfold charOf
  rw [if_pos (show c.toNat.isValidChar from c.valid), Char.ofNat_toNat]

theorem charBytesOf_eq (h : Numeral 16 ds c.toNat) :
    charBytesOf ds = some (String.utf8EncodeChar c) := by
  unfold charBytesOf
  rw [h.ofDigits_eq (Nat.le_refl _), Option.bind_some, charOf_toNat, Option.map_some]

end

/-! ## Decoding -/

/-- The text stands for the bytes, whatever follows it. -/
def Decodes (s : List Char) (bytes : List UInt8) : Prop :=
  ∀ rest, decodeBytes (s ++ rest) = (decodeBytes rest).map (bytes ++ ·)

section

variable {s s' ds : List Char} {bytes bytes' : List UInt8} {b : UInt8} {c : Char}

theorem decodes_nil : Decodes [] [] := by
  intro rest
  simp

theorem Decodes.append (h : Decodes s bytes) (h' : Decodes s' bytes') :
    Decodes (s ++ s') (bytes ++ bytes') := by
  intro rest
  rw [List.append_assoc, h, h']
  simp [Function.comp_def]

theorem decodes_flatten {α : Type} {spells : α → List Char → Prop} {form : α → List UInt8}
    {as : List α} {pieces : List (List Char)} (h : List.Forall₂ spells as pieces)
    (each : ∀ a s, spells a s → Decodes s (form a)) :
    Decodes pieces.flatten (as.flatMap form) := by
  induction h with
  | nil => exact decodes_nil
  | cons first _ ih => exact (each _ _ first).append ih

theorem SpellsByte.decodes (h : SpellsByte b s) : Decodes s [b] := by
  intro rest
  cases h with
  | @hex ds length numeral =>
    match ds, length with
    | [x, y], _ =>
      simp only [List.cons_append, List.nil_append, decodeBytes,
        byteOf_eq numeral (Nat.le_refl _)]
      rfl
  | @octal ds length numeral =>
    match ds, length with
    | [x, y, z], _ =>
      obtain ⟨v, digit⟩ := numeral.digit_of_mem List.mem_cons_self
      rw [List.cons_append, List.cons_append, List.cons_append, List.cons_append,
        List.nil_append, digit.decodeBytes_eq, byteOf_eq numeral (by decide)]
      rfl

theorem decodes_own {letter : Char} (h : (letter, c) ∈ ownEscapes) :
    Decodes ['\\', letter] (String.utf8EncodeChar c) := by
  intro rest
  simp only [ownEscapes, List.mem_cons, Prod.mk.injEq, List.not_mem_nil, or_false] at h
  rcases h with h | h | h | h | h | h | h | h | h <;> obtain ⟨rfl, rfl⟩ := h <;> rfl

theorem decodes_raw (not_backslash : c ≠ '\\') (not_quote : c ≠ '"') (not_newline : c ≠ '\n') :
    Decodes [c] (String.utf8EncodeChar c) := by
  intro rest
  rw [List.singleton_append, decodeBytes]
  · rw [if_neg (by simp [not_quote, not_newline])]
    rfl
  all_goals intros; contradiction

theorem Spells.decodes (h : Spells c s) : Decodes s (String.utf8EncodeChar c) := by
  cases h with
  | raw not_backslash not_quote not_newline =>
    exact decodes_raw not_backslash not_quote not_newline
  | own listed => exact decodes_own listed
  | @short ds length numeral =>
    match ds, length with
    | [x, y, z, w], _ =>
      intro rest
      simp only [List.cons_append, List.nil_append, decodeBytes, charBytesOf_eq numeral]
      rfl
  | @long ds length numeral =>
    match ds, length with
    | [x, y, z, w, x', y', z', w'], _ =>
      intro rest
      simp only [List.cons_append, List.nil_append, decodeBytes, charBytesOf_eq numeral]
      rfl
  | bytes each =>
    have decoded := decodes_flatten each fun _ _ => SpellsByte.decodes
    rwa [List.flatMap_singleton'] at decoded

/-- A spelled text decodes to itself. -/
theorem decode_spelled {value : String} {pieces : List (List Char)}
    (h : List.Forall₂ Spells value.toList pieces) : decode pieces.flatten = some value.toList := by
  have decoded := decodes_flatten h (fun _ _ => Spells.decodes) []
  rw [List.append_nil] at decoded
  unfold decode
  rw [decoded, decodeBytes, Option.map_some, Option.bind_some, List.append_nil, ofUtf8]
  have encoded : (value.toList.flatMap String.utf8EncodeChar).toByteArray =
      value.toList.utf8Encode := rfl
  rw [encoded, List.utf8Decode?_utf8Encode]
  rfl

end

/-! ## Scanning -/

/-- The scan goes over the text inside a value, whatever follows it. -/
def Passes (s : List Char) : Prop := ∀ key value rest,
  scanFrom (.inValue key value) (s ++ rest) = scanFrom (.inValue key (s.reverse ++ value)) rest

section

variable {s s' ds : List Char} {b : UInt8} {c : Char}

theorem passes_nil : Passes [] := fun _ _ _ => rfl

theorem Passes.append (h : Passes s) (h' : Passes s') : Passes (s ++ s') := by
  intro key value rest
  rw [List.append_assoc, h, h', List.reverse_append, List.append_assoc]

theorem passes_plain (plain : ∀ c ∈ s, c ≠ '"' ∧ c ≠ '\\') : Passes s := by
  induction s with
  | nil => exact passes_nil
  | cons c s ih =>
    have single : Passes [c] := by
      intro key value rest
      obtain ⟨not_quote, not_backslash⟩ := plain c List.mem_cons_self
      rw [List.singleton_append, scanFrom, if_neg not_quote, if_neg not_backslash]
      rfl
    exact single.append (ih fun d mem => plain d (List.mem_cons_of_mem c mem))

theorem passes_escape (c : Char) : Passes ['\\', c] := fun _ _ _ => rfl

theorem Numeral.passes {base n : Nat} (h : Numeral base ds n) (small : base ≤ 16) :
    Passes ds := by
  refine passes_plain fun c mem => ?_
  obtain ⟨v, digit⟩ := h.digit_of_mem mem
  exact digit.plain small

theorem SpellsByte.passes (h : SpellsByte b s) : Passes s := by
  cases h with
  | hex _ numeral => exact (passes_escape 'x').append (numeral.passes (Nat.le_refl _))
  | @octal ds length numeral =>
    match ds, length with
    | x :: ds, _ =>
      refine (passes_escape x).append (passes_plain fun c mem => ?_)
      obtain ⟨v, digit⟩ := numeral.digit_of_mem (List.mem_cons_of_mem x mem)
      exact digit.plain (by decide)

theorem passes_flatten {α : Type} {spells : α → List Char → Prop} {as : List α}
    {pieces : List (List Char)} (h : List.Forall₂ spells as pieces)
    (each : ∀ a s, spells a s → Passes s) : Passes pieces.flatten := by
  induction h with
  | nil => exact passes_nil
  | cons first _ ih => exact (each _ _ first).append ih

theorem Spells.passes (h : Spells c s) : Passes s := by
  cases h with
  | raw not_backslash not_quote =>
    exact passes_plain (by simp [not_backslash, not_quote])
  | own => exact passes_escape _
  | short _ numeral => exact (passes_escape 'u').append (numeral.passes (Nat.le_refl _))
  | long _ numeral => exact (passes_escape 'U').append (numeral.passes (Nat.le_refl _))
  | bytes each => exact passes_flatten each fun _ _ => SpellsByte.passes

end

/-! ## Pairs -/

theorem scan_spaces (n : Nat) (rest : List Char) :
    scan (List.replicate n ' ' ++ rest) = scan rest := by
  induction n with
  | zero => rfl
  | succ n ih => exact ih

theorem isKeyChar_iff {c : Char} : isKeyChar c = true ↔ InKey c := by
  simp [isKeyChar, InKey, and_assoc]

theorem scanFrom_key {key : List Char} (keyed : ∀ c ∈ key, InKey c) (before rest : List Char) :
    scanFrom (.inKey before) (key ++ ':' :: rest) =
      scanFrom (.atQuote (key.reverse ++ before)) rest := by
  induction key generalizing before with
  | nil => rfl
  | cons c key ih =>
    rw [List.cons_append, scanFrom, if_pos (isKeyChar_iff.mpr (keyed c List.mem_cons_self)),
      ih fun d mem => keyed d (List.mem_cons_of_mem c mem)]
    simp

/-- One pair is scanned, and the scan is before a pair again. -/
theorem scan_pair {key s : List Char} (some_key : key ≠ []) (keyed : ∀ c ∈ key, InKey c)
    (passes : Passes s) (rest : List Char) :
    scan (key ++ ':' :: '"' :: (s ++ '"' :: rest)) = (key, s) :: scan rest := by
  cases key with
  | nil => exact absurd rfl some_key
  | cons c key =>
    have first : InKey c := keyed c List.mem_cons_self
    have not_space : c ≠ ' ' := fun same => absurd (same ▸ first.1) (by decide)
    unfold scan
    rw [List.cons_append, scanFrom, if_neg not_space, if_pos (isKeyChar_iff.mpr first),
      scanFrom_key fun d mem => keyed d (List.mem_cons_of_mem c mem), scanFrom, if_pos rfl,
      passes, scanFrom, if_pos rfl]
    simp

/-- The raw pair decodes to the pair. -/
def StandsFor (raw : RawPair) (pair : String × String) : Prop :=
  raw.1 = pair.1.toList ∧ decode raw.2 = some pair.2.toList

/-- The scan of a written text finds its pairs, and goes on as at the start. -/
theorem Written.scan_append {pairs : List (String × String)} {w : List Char}
    (h : Written pairs w) : ∃ raws, List.Forall₂ StandsFor raws pairs ∧
      ∀ rest, scan (w ++ rest) = raws ++ scan rest := by
  induction h with
  | nil spaces => exact ⟨[], .nil, scan_spaces spaces⟩
  | @pair key value pieces pairs w spaces some_key keyed spelled _ ih =>
    obtain ⟨raws, stand, scanned⟩ := ih
    have some_chars : key.toList ≠ [] := by simpa using some_key
    have passes : Passes pieces.flatten := passes_flatten spelled fun _ _ => Spells.passes
    refine ⟨(key.toList, pieces.flatten) :: raws, .cons ⟨rfl, decode_spelled spelled⟩ stand, ?_⟩
    intro rest
    have shape : List.replicate spaces ' ' ++ key.toList ++
          ':' :: '"' :: (pieces.flatten ++ '"' :: w) ++ rest =
        List.replicate spaces ' ' ++
          (key.toList ++ ':' :: '"' :: (pieces.flatten ++ '"' :: (w ++ rest))) := by simp
    rw [shape, scan_spaces, scan_pair some_chars keyed passes, scanned, List.cons_append]

theorem filterMap_stand {raws : List RawPair} {pairs : List (String × String)}
    (h : List.Forall₂ StandsFor raws pairs) :
    (raws.filterMap fun (key, value) =>
      (decode value).map fun v => (String.ofList key, String.ofList v)) = pairs := by
  induction h with
  | nil => rfl
  | cons first _ ih =>
    rw [List.filterMap_cons, ih]
    simp [first.1, first.2]

theorem find_stand {raws : List RawPair} {pairs : List (String × String)}
    (h : List.Forall₂ StandsFor raws pairs) (key : String) :
    ((raws.find? fun pair => pair.1 = key.toList).bind fun pair =>
      (decode pair.2).map String.ofList) = pairs.lookup key := by
  induction h with
  | nil => rfl
  | @cons raw pair _ _ first _ ih =>
    rw [List.find?_cons, List.lookup_cons]
    by_cases same : key = pair.1
    · simp [first.1, first.2, same]
    · have other : pair.1 ≠ key := Ne.symm same
      simp [first.1, beq_false_of_ne same, String.toList_inj, other, ih]

/-- A tag written from pairs holds them: all in order, and by each key the first value written
for it. What follows it, well formed or not, only adds what it holds by itself. -/
theorem entries_of_written {pairs : List (String × String)} {w : String}
    (written : Written pairs w.toList) :
    (⟨w⟩ : Tag).entries = pairs ∧ (∀ key, (⟨w⟩ : Tag).find? key = pairs.lookup key) ∧
      ∀ tail, (⟨w ++ tail⟩ : Tag).entries = pairs ++ (⟨tail⟩ : Tag).entries := by
  obtain ⟨raws, stand, scanned⟩ := written.scan_append
  have alone : scan w.toList = raws := by simpa [scan, scanFrom] using scanned []
  refine ⟨?_, fun key => ?_, fun tail => ?_⟩
  · unfold entries Tag.pairs
    rw [alone]
    exact filterMap_stand stand
  · rw [← find_stand stand key, find?, Tag.pairs, alone]
    cases raws.find? fun pair => pair.1 = key.toList <;> rfl
  · unfold entries Tag.pairs
    rw [String.toList_append, scanned, List.filterMap_append, filterMap_stand stand]

/-- The two bytes of one character in two bases, and a pair right behind another. -/
def sampleText : String := "a:\"\\xC3\\251\\n\"b:\"x\\U0001f600\" "

/-- A tail that is no tag, but goes on as one. -/
theorem entries_of_written_bytes : Written [("a", "é\n"), ("b", "x😀")] sampleText.toList ∧
    (⟨sampleText ++ "c :\"d\" e:\"f\""⟩ : Tag).entries = [("a", "é\n"), ("b", "x😀")] := by
  have first : Numeral 16 ['C', '3'] 195 :=
    .snoc (.snoc .nil (v := 12) ⟨by decide, by decide⟩) (v := 3) ⟨by decide, by decide⟩
  have second : Numeral 8 ['2', '5', '1'] 169 :=
    .snoc (.snoc (.snoc .nil (v := 2) ⟨by decide, by decide⟩) (v := 5) ⟨by decide, by decide⟩)
      (v := 1) ⟨by decide, by decide⟩
  have zeros : Numeral 16 ['0', '0', '0', '1'] 1 :=
    .snoc (.snoc (.snoc (.snoc .nil (v := 0) ⟨by decide, by decide⟩) (v := 0)
      ⟨by decide, by decide⟩) (v := 0) ⟨by decide, by decide⟩) (v := 1) ⟨by decide, by decide⟩
  have point : Numeral 16 ['0', '0', '0', '1', 'f', '6', '0', '0'] 128512 :=
    .snoc (.snoc (.snoc (.snoc zeros (v := 15) ⟨by decide, by decide⟩) (v := 6)
      ⟨by decide, by decide⟩) (v := 0) ⟨by decide, by decide⟩) (v := 0) ⟨by decide, by decide⟩
  have bytes : List.Forall₂ SpellsByte (String.utf8EncodeChar 'é')
      ['\\' :: 'x' :: ['C', '3'], '\\' :: ['2', '5', '1']] :=
    .cons (.hex rfl first) (.cons (.octal rfl second) .nil)
  have front : List.Forall₂ Spells "é\n".toList
      [['\\', 'x', 'C', '3', '\\', '2', '5', '1'], ['\\', 'n']] :=
    .cons (.bytes bytes) (.cons (.own (by decide)) .nil)
  have back : List.Forall₂ Spells "x😀".toList
      [['x'], '\\' :: 'U' :: ['0', '0', '0', '1', 'f', '6', '0', '0']] :=
    .cons (.raw (by decide) (by decide) (by decide)) (.cons (.long rfl point) .nil)
  have written : Written [("a", "é\n"), ("b", "x😀")] sampleText.toList :=
    Written.pair 0 (by decide) (by simp [InKey]) front
      (Written.pair 0 (by decide) (by simp [InKey]) back (.nil 1))
  exact ⟨written, (entries_of_written written).2.2 "c :\"d\" e:\"f\""⟩

end Stencil.Tag
