import Stencil.Proofs.Tag.Written

/-
  The pairs of a tag as they stand in its text: spaces, a key, a colon, and a quoted text that
  ends at the first quote no backslash stands before. The scan goes character by character; what
  it has read of the pair at hand is what its place tells.

  Proved: `find?_pairs_iff`. The pair that is found for a key is the first of the key in the
  text, and all before it are pairs.
-/

namespace Stencil.Tag

/-! ## Pairs in a text -/

/-- What may stand between quotes: neither a quote nor a backslash, but anything behind one. -/
inductive Body : List Char → Prop where
  | nil : Body []
  | plain {c : Char} {s : List Char} (notQuote : c ≠ '"') (notBackslash : c ≠ '\\')
      (rest : Body s) : Body (c :: s)
  | escaped {c : Char} {s : List Char} (rest : Body s) : Body ('\\' :: c :: s)

structure IsKey (key : List Char) : Prop where
  nonempty : key ≠ []
  each : ∀ c ∈ key, InKey c

/-- A text begins with some pairs, and something is left. -/
inductive Begins : List RawPair → List Char → List Char → Prop where
  | nil {s : List Char} : Begins [] s s
  | pair {key value rest left : List Char} {pairs : List RawPair} (spaces : Nat)
      (isKey : IsKey key) (body : Body value) (others : Begins pairs rest left) :
      Begins ((key, value) :: pairs)
        (List.replicate spaces ' ' ++ (key ++ ':' :: '"' :: (value ++ '"' :: rest))) left

section

variable {s s' left key value : List Char} {pairs front back : List RawPair} {c : Char}

theorem Body.append (h : Body s) (h' : Body s') : Body (s ++ s') := by
  induction h with
  | nil => exact h'
  | plain notQuote notBackslash _ ih => exact .plain notQuote notBackslash ih
  | escaped _ ih => exact .escaped ih

theorem Body.passes (h : Body s) : Passes s := by
  induction h with
  | nil => exact passes_nil
  | @plain c _ notQuote notBackslash _ ih =>
    have single : Passes [c] := passes_plain (by simp [notQuote, notBackslash])
    exact single.append ih
  | @escaped c _ _ ih => exact (passes_escape c).append ih

/-- The scan gives the pairs, and goes on with what is left. -/
theorem Begins.scan_eq (h : Begins pairs s left) : scan s = pairs ++ scan left := by
  induction h with
  | nil => rfl
  | pair spaces isKey body _ ih =>
    rw [scan_spaces, scan_pair isKey.nonempty isKey.each body.passes, ih]
    rfl

theorem Begins.space (h : Begins pairs s left) : ∃ left, Begins pairs (' ' :: s) left := by
  cases h with
  | nil => exact ⟨_, .nil⟩
  | pair spaces isKey body others => exact ⟨_, .pair (spaces + 1) isKey body others⟩

/-- The first of some pairs come first. -/
theorem Begins.of_append (h : Begins (front ++ back) s left) : ∃ middle, Begins front s middle := by
  induction front generalizing s with
  | nil => exact ⟨s, .nil⟩
  | cons pair front ih =>
    cases h with
    | pair spaces isKey body others =>
      obtain ⟨middle, begins⟩ := ih others
      exact ⟨middle, .pair spaces isKey body begins⟩

/-! ## The scan -/

namespace Place

/-- What has been read of the pair at hand. -/
def prior : Place → List Char
  | gap => []
  | inKey key => key.reverse
  | atQuote key => key.reverse ++ [':']
  | inValue key value => key.reverse ++ ':' :: '"' :: value.reverse
  | escaped key value => key.reverse ++ ':' :: '"' :: value.reverse

/-- Where the scan can stand. -/
def Valid : Place → Prop
  | gap => True
  | inKey key => IsKey key.reverse
  | atQuote key => IsKey key.reverse
  | inValue key value => IsKey key.reverse ∧ Body value.reverse
  | escaped key value => IsKey key.reverse ∧ ∃ before, value = '\\' :: before ∧ Body before.reverse

end Place

/-- The pairs of the scan are those that the text begins with, from the pair at hand on. -/
theorem begins_scanFrom (place : Place) (s : List Char) (valid : place.Valid) :
    ∃ left, Begins (scanFrom place s) (place.prior ++ s) left := by
  induction s generalizing place with
  | nil => exact ⟨_, by rw [scanFrom]; exact .nil⟩
  | cons c s ih =>
    cases place with
    | gap =>
      rw [scanFrom]
      split
      · rename_i space
        subst space
        obtain ⟨left, begins⟩ := ih .gap trivial
        exact begins.space
      split
      · rename_i keyed
        have isKey : IsKey [c] := ⟨by simp, by simpa using isKeyChar_iff.mp keyed⟩
        exact ih (.inKey [c]) isKey
      · exact ⟨_, .nil⟩
    | inKey key =>
      rw [scanFrom]
      split
      · rename_i keyed
        have isKey : IsKey (c :: key).reverse := by
          refine ⟨by simp, fun d mem => ?_⟩
          rw [List.reverse_cons, List.mem_append, List.mem_singleton] at mem
          rcases mem with mem | rfl
          · exact valid.each d mem
          · exact isKeyChar_iff.mp keyed
        obtain ⟨left, begins⟩ := ih (.inKey (c :: key)) isKey
        exact ⟨left, by simpa [Place.prior] using begins⟩
      split
      · rename_i colon
        subst colon
        obtain ⟨left, begins⟩ := ih (.atQuote key) valid
        exact ⟨left, by simpa [Place.prior] using begins⟩
      · exact ⟨_, .nil⟩
    | atQuote key =>
      rw [scanFrom]
      split
      · rename_i quote
        subst quote
        obtain ⟨left, begins⟩ := ih (.inValue key []) ⟨valid, .nil⟩
        exact ⟨left, by simpa [Place.prior] using begins⟩
      · exact ⟨_, .nil⟩
    | inValue key value =>
      obtain ⟨isKey, body⟩ := valid
      rw [scanFrom]
      split
      · rename_i quote
        subst quote
        obtain ⟨left, others⟩ := ih .gap trivial
        exact ⟨left, by simpa [Place.prior] using Begins.pair 0 isKey body others⟩
      split
      · rename_i backslash
        subst backslash
        obtain ⟨left, begins⟩ := ih (.escaped key ('\\' :: value)) ⟨isKey, value, rfl, body⟩
        exact ⟨left, by simpa [Place.prior] using begins⟩
      · rename_i notQuote notBackslash
        have longer : Body (c :: value).reverse := by
          rw [List.reverse_cons]
          exact body.append (.plain notQuote notBackslash .nil)
        obtain ⟨left, begins⟩ := ih (.inValue key (c :: value)) ⟨isKey, longer⟩
        exact ⟨left, by simpa [Place.prior] using begins⟩
    | escaped key value =>
      obtain ⟨isKey, before, rfl, body⟩ := valid
      rw [scanFrom]
      have longer : Body (c :: '\\' :: before).reverse := by
        rw [List.reverse_cons, List.reverse_cons, List.append_assoc]
        exact body.append (.escaped .nil)
      obtain ⟨left, begins⟩ := ih (.inValue key (c :: '\\' :: before)) ⟨isKey, longer⟩
      exact ⟨left, by simpa [Place.prior] using begins⟩

/-- A text begins with the pairs that are found in it. -/
theorem begins_scan (s : List Char) : ∃ left, Begins (scan s) s left :=
  begins_scanFrom .gap s trivial

end

/-! ## First pairs -/

/-- The first pair of a key in a tag. -/
def IsFirst (t : Tag) (key : String) (raw : List Char) : Prop :=
  ∃ before left, Begins (before ++ [(key.toList, raw)]) t.text.toList left ∧
    ∀ pair ∈ before, pair.1 ≠ key.toList

theorem find?_pairs_iff (t : Tag) (key : String) (raw : List Char) :
    t.pairs.find? (fun pair => pair.1 = key.toList) = some (key.toList, raw) ↔
      t.IsFirst key raw := by
  constructor
  · intro found
    obtain ⟨_, before, after, shape, others⟩ := List.find?_eq_some_iff_append.mp found
    obtain ⟨left, begins⟩ := begins_scan t.text.toList
    have whole : scan t.text.toList = (before ++ [(key.toList, raw)]) ++ after := by
      rw [← Tag.pairs, shape]
      simp
    rw [whole] at begins
    obtain ⟨middle, first⟩ := begins.of_append
    exact ⟨before, middle, first, by simpa using others⟩
  · rintro ⟨before, left, begins, others⟩
    refine List.find?_eq_some_iff_append.mpr ⟨by simp, before, scan left, ?_, by simpa using others⟩
    rw [Tag.pairs, begins.scan_eq]
    simp

end Stencil.Tag
