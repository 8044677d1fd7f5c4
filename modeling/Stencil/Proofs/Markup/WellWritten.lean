import Mathlib.Data.List.TakeWhile
import Stencil.Markup.Attributes
import Stencil.Proofs.Text.Cut

/-
  Attributes as they should be written: a key that is new in the tag, an equals sign and a value
  in quotes, with any spaces around each. Reading goes on behind whatever is written otherwise,
  and keeps it as malformed.

  Proved: `malformed_mem_attributesOf_iff`. A tag has a malformed attribute exactly if what
  follows its name is not written so.
-/

namespace Stencil.Markup

open Text

/-! ## Attributes as written -/

def AllSpace (s : List Char) : Prop := ∀ c ∈ s, isSpace c = true

/-- A key begins with no space, and neither a space nor an equals sign follows in it. -/
def IsKey : List Char → Prop
  | [] => False
  | first :: rest => isSpace first = false ∧ ∀ c ∈ rest, c ≠ '=' ∧ isSpace c = false

/-- An attribute as it should be written, up to the text behind its value. -/
inductive BeginsWith (key value : List Char) : List Char → List Char → Prop where
  | mk {gap gap' behind : List Char} {quote : Char} (isKey : IsKey key) (before : AllSpace gap)
      (after : AllSpace gap') (isQuote : quote = '"' ∨ quote = '\'') (within : quote ∉ value) :
      BeginsWith key value
        (key ++ (gap ++ '=' :: (gap' ++ quote :: (value ++ quote :: behind)))) behind

/-- The attributes that a text writes, where `seen` are earlier keys. -/
inductive WellWritten : List (List Char) → List Char → List Attribute → Prop where
  | nil {seen : List (List Char)} {s : List Char} (spaces : AllSpace s) : WellWritten seen s []
  | pair {seen : List (List Char)} {lead s behind key value : List Char}
      {others : List Attribute} (spaces : AllSpace lead) (first : BeginsWith key value s behind)
      (fresh : key ∉ seen) (rest : WellWritten (key :: seen) behind others) :
      WellWritten seen (lead ++ s) (.pair key value :: others)

section

variable {seen : List (List Char)} {s lead key value behind : List Char} {c first : Char}
  {items : List Attribute}

theorem WellWritten.no_malformed (h : WellWritten seen s items) : .malformed ∉ items := by
  induction h with
  | nil => exact List.not_mem_nil
  | pair _ _ _ _ ih => simpa using ih

/-! ## Spaces -/

theorem dropWhile_spaces (spaces : AllSpace lead) (ends : isSpace c = false) (s : List Char) :
    (lead ++ c :: s).dropWhile isSpace = c :: s := by
  refine (span_append spaces fun d head => ?_).2
  cases head
  exact ends

/-- Every text is its first spaces and then the rest. -/
theorem exists_spaces (s : List Char) : ∃ lead, AllSpace lead ∧
    s = lead ++ s.dropWhile isSpace :=
  ⟨s.takeWhile isSpace, fun _ mem => List.mem_takeWhile_imp mem,
    List.takeWhile_append_dropWhile.symm⟩

theorem isSpace_of_dropWhile {rest : List Char} (h : s.dropWhile isSpace = c :: rest) :
    isSpace c = false := by
  have head := List.head?_dropWhile_not isSpace s
  rw [h] at head
  simpa using head

/-! ## Well-written attributes -/

/-- A well-written attribute is read as it stands. -/
theorem BeginsWith.readAttribute_eq (h : BeginsWith key value s behind) (fresh : key ∉ seen) :
    ∃ first rest, s = first :: rest ∧ isSpace first = false ∧
      readAttribute seen first rest = ⟨.pair key value, some key, behind⟩ := by
  obtain @⟨gap, gap', _, quote, isKey, before, after, isQuote, within⟩ := h
  cases key with
  | nil => exact isKey.elim
  | cons first key =>
    obtain ⟨firstNoSpace, others⟩ := isKey
    refine ⟨first, _, rfl, firstNoSpace, ?_⟩
    have inKey : ∀ c ∈ key, (c ≠ '=' && !isSpace c) = true := by
      intro c mem
      obtain ⟨notEquals, noSpace⟩ := others c mem
      simp [notEquals, noSpace]
    have keyEnds : ∀ c ∈ (gap ++ '=' :: (gap' ++ quote :: (value ++ quote :: behind))).head?,
        (c ≠ '=' && !isSpace c) = false := by
      intro c head
      cases gap with
      | nil =>
        cases head
        rfl
      | cons d gap =>
        cases head
        simp [before c List.mem_cons_self]
    obtain ⟨taken, dropped⟩ := span_append inKey keyEnds
    have quoteNoSpace : isSpace quote = false := by
      rcases isQuote with rfl | rfl <;> rfl
    have readsValue : readValue (first :: key) (gap' ++ quote :: (value ++ quote :: behind)) =
        ⟨.pair (first :: key) value, some (first :: key), behind⟩ := by
      rw [readValue, dropWhile_spaces after quoteNoSpace]
      dsimp only
      rw [if_pos isQuote, cut_append within]
    unfold readAttribute
    dsimp only [List.append_eq]
    rw [taken, dropped, dropWhile_spaces before (by rfl), ← readsValue]
    exact if_neg fresh

/-- What is read as a value is well written. -/
theorem value_of_readValue (sound : (readValue key s).item ≠ .malformed) :
    ∃ gap quote value behind, s = gap ++ quote :: (value ++ quote :: behind) ∧ AllSpace gap ∧
      (quote = '"' ∨ quote = '\'') ∧ quote ∉ value ∧
      readValue key s = ⟨.pair key value, some key, behind⟩ := by
  obtain ⟨gap, spaces, whole⟩ := exists_spaces s
  unfold readValue at sound ⊢
  cases shape : s.dropWhile isSpace with
  | nil =>
    rw [shape] at sound
    exact absurd rfl sound
  | cons quote rest =>
    rw [shape] at sound whole
    dsimp only at sound ⊢
    by_cases isQuote : quote = '"' ∨ quote = '\''
    · rw [if_pos isQuote] at sound ⊢
      cases found : cut quote rest with
      | none =>
        rw [found] at sound
        exact absurd rfl sound
      | some parts =>
        obtain ⟨value, behind⟩ := parts
        obtain ⟨rfl, within⟩ := append_of_cut found
        exact ⟨gap, quote, value, behind, whole, spaces, isQuote, within, rfl⟩
    · rw [if_neg isQuote] at sound
      exact absurd rfl sound

/-- What is read as an attribute with a value is well written. -/
theorem beginsWith_of_readAttribute {rest : List Char} (noSpace : isSpace first = false)
    (sound : (readAttribute seen first rest).item ≠ .malformed) :
    ∃ key value behind, BeginsWith key value (first :: rest) behind ∧ key ∉ seen ∧
      readAttribute seen first rest = ⟨.pair key value, some key, behind⟩ := by
  let inKey : Char → Bool := fun c => c ≠ '=' && !isSpace c
  let key := first :: rest.takeWhile inKey
  have isKey : IsKey key := by
    refine ⟨noSpace, fun c mem => ?_⟩
    simpa [inKey] using List.mem_takeWhile_imp mem
  obtain ⟨gap, before, behindKey⟩ := exists_spaces (rest.dropWhile inKey)
  have whole : first :: rest = key ++ (gap ++ (rest.dropWhile inKey).dropWhile isSpace) := by
    rw [← behindKey, List.cons_append, List.takeWhile_append_dropWhile]
  unfold readAttribute at sound ⊢
  dsimp only at sound ⊢
  split at sound
  · rename_i valued equals
    by_cases fresh : key ∈ seen
    · rw [if_pos fresh] at sound
      exact absurd rfl sound
    · rw [if_neg fresh] at sound
      obtain ⟨gap', quote, value, behind, rfl, after, isQuote, within, readsValue⟩ :=
        value_of_readValue sound
      refine ⟨key, value, behind, ?_, fresh, ?_⟩
      · rw [whole, equals]
        exact .mk isKey before after isQuote within
      · rw [if_neg fresh]
        exact readsValue
  · exact absurd rfl sound

/-! ## Whole tags -/

theorem length_lt_of_beginsWith (h : BeginsWith key value s behind) : behind.length < s.length := by
  cases h
  simp only [List.length_append, List.length_cons]
  omega

/-- Well-written attributes are read as they stand. -/
theorem WellWritten.readAttributes_eq (h : WellWritten seen s items) {n : Nat}
    (enough : s.length ≤ n) : readAttributes n seen s = items := by
  induction h generalizing n with
  | @nil seen s spaces =>
    cases n with
    | zero => rfl
    | succ n => rw [readAttributes, List.dropWhile_eq_nil_iff.mpr spaces]
  | @pair seen lead s behind key value others spaces first fresh _ ih =>
    have shorter := length_lt_of_beginsWith first
    rw [List.length_append] at enough
    obtain ⟨n, rfl⟩ : ∃ k, n = k + 1 := Nat.exists_eq_succ_of_ne_zero (by omega)
    obtain ⟨c, rest, rfl, noSpace, reads⟩ := first.readAttribute_eq fresh
    rw [readAttributes, dropWhile_spaces spaces noSpace]
    dsimp only
    rw [reads]
    exact congrArg (Attribute.pair key value :: ·) (ih (by omega))

/-- What is read without a malformed attribute is well written. -/
theorem wellWritten_readAttributes {n : Nat} (enough : s.length ≤ n)
    (sound : .malformed ∉ readAttributes n seen s) :
    WellWritten seen s (readAttributes n seen s) := by
  induction n generalizing seen s with
  | zero =>
    obtain rfl : s = [] := List.length_eq_zero_iff.mp (Nat.le_zero.mp enough)
    exact .nil (by simp [AllSpace])
  | succ n ih =>
    obtain ⟨lead, spaces, whole⟩ := exists_spaces s
    rw [readAttributes] at sound ⊢
    cases shape : s.dropWhile isSpace with
    | nil => exact .nil (List.dropWhile_eq_nil_iff.mp shape)
    | cons first rest =>
      rw [shape] at sound whole
      dsimp only at sound ⊢
      obtain ⟨soundFirst, soundRest⟩ := not_or.mp (mt List.mem_cons.mpr sound)
      obtain ⟨key, value, behind, begins, fresh, reads⟩ :=
        beginsWith_of_readAttribute (isSpace_of_dropWhile shape) (Ne.symm soundFirst)
      rw [reads] at soundRest ⊢
      have shorter := length_lt_of_beginsWith begins
      have length := congrArg List.length whole
      rw [List.length_append] at length
      rw [whole]
      exact .pair spaces begins fresh (ih (by omega) soundRest)

end

/-- A tag has a malformed attribute exactly if what follows its name is not a list of attributes
with distinct keys and quoted values; if it is one, these are the attributes. -/
theorem malformed_mem_attributesOf_iff (s : List Char) :
    (.malformed ∈ attributesOf s ↔ ¬ ∃ items, WellWritten [] s items) ∧
      ∀ items, WellWritten [] s items → attributesOf s = items := by
  have reads : ∀ items, WellWritten [] s items → attributesOf s = items :=
    fun items written => written.readAttributes_eq (Nat.le_refl _)
  refine ⟨⟨?_, ?_⟩, reads⟩
  · rintro malformed ⟨items, written⟩
    rw [reads items written] at malformed
    exact written.no_malformed malformed
  · intro ill
    by_contra sound
    exact ill ⟨attributesOf s, wellWritten_readAttributes (Nat.le_refl _) sound⟩

end Stencil.Markup
