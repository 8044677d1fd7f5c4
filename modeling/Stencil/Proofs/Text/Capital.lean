import Stencil.Proofs.Text.UpperCase
import Stencil.Text.Capital

/-
  Capitals at word starts, of a text in parts and of a text that has them. What stands before a text
  counts only by whether a word may begin behind it.

  Proved: `capitalize_append_twice`. Capitals are set on each side of a place between words on its
  own. They are set once and for all unless a word begins with a character whose upper case ends in
  the middle of the word, as that of `ǰ` does with a combining mark: what follows the mark then
  begins a word.
  `capitalize_not_idempotent`: there are such words.
-/

namespace Stencil.Text

variable {start : Bool} {c : Char} {s : List Char}

/-- Whether a word may begin behind a text; `start` tells it of the empty one. -/
def startAfter (start : Bool) (s : List Char) : Bool :=
  (s.getLast?.map fun c => !isWordChar c).getD start

theorem startAfter_cons (start : Bool) (c : Char) (s : List Char) :
    startAfter start (c :: s) = startAfter (!isWordChar c) s := by
  rw [startAfter, List.getLast?_cons, startAfter]
  cases s.getLast? with
  | none => rfl
  | some d => rfl

theorem startAfter_of_ne_nil (h : s ≠ []) (start start' : Bool) :
    startAfter start s = startAfter start' s := by
  cases s with
  | nil => exact absurd rfl h
  | cons c s => rw [startAfter_cons, startAfter_cons]

theorem capitalizeFrom_append (start : Bool) (s s' : List Char) :
    capitalizeFrom start (s ++ s') =
      capitalizeFrom start s ++ capitalizeFrom (startAfter start s) s' := by
  induction s generalizing start with
  | nil => rfl
  | cons c s ih =>
    rw [List.cons_append, startAfter_cons]
    cases start with
    | false => rw [capitalizeFrom, capitalizeFrom, ih, List.cons_append]
    | true => rw [capitalizeFrom, capitalizeFrom, ih, List.append_assoc]

/-! ## Upper case once more -/

theorem capitalizeFrom_of_settled (h : ∀ c ∈ s, upperChar c = [c]) (start : Bool) :
    capitalizeFrom start s = s := by
  induction s generalizing start with
  | nil => rfl
  | cons c s ih =>
    obtain ⟨first, rest⟩ := List.forall_mem_cons.mp h
    cases start with
    | false => rw [capitalizeFrom, ih rest]
    | true => rw [capitalizeFrom, ih rest, first, List.singleton_append]

theorem capitalizeFrom_upperChar_append (start : Bool) (c : Char) (s : List Char) :
    capitalizeFrom start (upperChar c ++ s) =
      upperChar c ++ capitalizeFrom (startAfter false (upperChar c)) s := by
  rw [capitalizeFrom_append, capitalizeFrom_of_settled (fun d => upperChar_of_mem),
    startAfter_of_ne_nil (upperChar_ne_nil c) start false]

/-- Only a character that is its own upper case begins it. -/
theorem upperChar_append_eq_cons_iff {s' : List Char} :
    upperChar c ++ s = c :: s' ↔ upperChar c = [c] ∧ s = s' := by
  constructor
  · intro same
    have first : c ∈ upperChar c := by
      cases shape : upperChar c with
      | nil => exact absurd shape (upperChar_ne_nil c)
      | cons d rest =>
        rw [shape] at same
        rw [(List.cons.inj same).1]
        exact List.mem_cons_self
    have alone := upperChar_of_mem first
    rw [alone] at same
    exact ⟨alone, (List.cons.inj same).2⟩
  · rintro ⟨alone, rfl⟩
    rw [alone, List.singleton_append]

/-- Where a word begins behind capitals in the one pass and not in the other, the first of them
makes the difference. -/
theorem capitalizeFrom_capitalizeFrom_iff (start start' : Bool) (s : List Char) :
    capitalizeFrom start' (capitalizeFrom start s) = capitalizeFrom start s ↔
      (start' = true ∧ start = false → ∀ c ∈ s.head?, upperChar c = [c]) ∧
        capitalizeFrom start (capitalizeFrom start s) = capitalizeFrom start s := by
  cases s with
  | nil => simp [capitalizeFrom]
  | cons c s =>
    cases start with
    | true => simp [capitalizeFrom, capitalizeFrom_upperChar_append]
    | false => cases start' with
      | false => simp
      | true => simp [capitalizeFrom, upperChar_append_eq_cons_iff]

/-! ## Words that break -/

/-- A character of words whose upper case ends in a character that ends a word. -/
def EndsWord (c : Char) : Prop :=
  isWordChar c = true ∧ startAfter false (upperChar c) = true

/-- A word in the text begins with a character whose upper case ends the word, and the character
that follows has another upper case. -/
def BreaksFrom (start : Bool) (s : List Char) : Prop :=
  ∃ before c d after, s = before ++ c :: d :: after ∧ startAfter start before = true ∧
    EndsWord c ∧ upperChar d ≠ [d]

theorem breaksFrom_cons : BreaksFrom start (c :: s) ↔
    (start = true ∧ EndsWord c ∧ ∃ d ∈ s.head?, upperChar d ≠ [d]) ∨
      BreaksFrom (!isWordChar c) s := by
  constructor
  · rintro ⟨before, e, d, after, shape, begins, ends, other⟩
    cases before with
    | nil =>
      obtain ⟨rfl, rfl⟩ := List.cons.inj shape
      exact .inl ⟨begins, ends, d, rfl, other⟩
    | cons e' before =>
      obtain ⟨rfl, rfl⟩ := List.cons.inj shape
      rw [startAfter_cons] at begins
      exact .inr ⟨before, e, d, after, rfl, begins, ends, other⟩
  · rintro (⟨begins, ends, d, head, other⟩ | ⟨before, e, d, after, rfl, begins, ends, other⟩)
    · obtain ⟨after, rfl⟩ := List.head?_eq_some_iff.mp head
      exact ⟨[], c, d, after, rfl, begins, ends, other⟩
    · refine ⟨c :: before, e, d, after, rfl, ?_, ends, other⟩
      rw [startAfter_cons]
      exact begins

theorem capitalizeFrom_twice_iff (start : Bool) (s : List Char) :
    capitalizeFrom start (capitalizeFrom start s) = capitalizeFrom start s ↔
      ¬ BreaksFrom start s := by
  induction s generalizing start with
  | nil => simp [capitalizeFrom, BreaksFrom]
  | cons c s ih =>
    rw [breaksFrom_cons, not_or, ← ih]
    cases start with
    | false => simp [capitalizeFrom]
    | true =>
      rw [capitalizeFrom, capitalizeFrom_upperChar_append, List.append_cancel_left_eq,
        capitalizeFrom_capitalizeFrom_iff]
      simp [EndsWord, and_comm]

/-! ## Capitals -/

/-- Behind a character that ends a word, capitals are set as if nothing stood before. Setting them
twice is setting them once exactly if no word begins with a character whose upper case ends the word
and a character behind it that has another upper case. -/
theorem capitalize_append_twice :
    (∀ a b : String, (∃ c ∈ a.toList.getLast?, isWordChar c = false) →
      capitalize (a ++ b) = capitalize a ++ capitalize b) ∧
    ∀ s : String, capitalize (capitalize s) = capitalize s ↔ ¬ BreaksFrom true s.toList := by
  constructor
  · rintro a b ⟨c, last, ends⟩
    have begins : startAfter true a.toList = true := by
      simp [startAfter, Option.mem_def.mp last, ends]
    rw [capitalize, String.toList_append, capitalizeFrom_append, begins, String.ofList_append]
    rfl
  · intro s
    rw [← capitalizeFrom_twice_iff, ← String.toList_inj]
    simp only [capitalize, String.toList_ofList]

theorem capitalize_append_twice_hyphen :
    (∃ c ∈ "\u01f0-".toList.getLast?, isWordChar c = false) ∧
      capitalize ("\u01f0-" ++ "\u0149a") = capitalize "\u01f0-" ++ capitalize "\u0149a" ∧
      ¬ BreaksFrom true "\u01f0-\u0149a".toList := by
  obtain ⟨parts, twice⟩ := capitalize_append_twice
  have ends : ∃ c ∈ "\u01f0-".toList.getLast?, isWordChar c = false := ⟨'-', rfl, by decide +kernel⟩
  exact ⟨ends, parts _ _ ends, (twice _).mp (by decide +kernel)⟩

/-- The upper case of `ǰ` is a J with a combining mark, behind which the second time sees a word. -/
theorem capitalize_not_idempotent : ¬ ∀ s : String, capitalize (capitalize s) = capitalize s := by
  intro same
  have once := same "\u01f0a"
  revert once
  decide +kernel

end Stencil.Text
