import Stencil.Proofs.Tag.Flags

/-
  The queries of a tag beside each other. A look-up decodes the first raw value of a key; the
  entries have every value of the key that decodes; the other queries go by the look-up.

  Proved: `queries_agree`. Look-ups and entries differ only over a key whose first value does not
  decode and a later one does.
-/

namespace Stencil.Tag

open Text

variable {t : Tag} {key value : String}

/-! ## The values of a key -/

/-- The raw values of a key, in order. -/
def rawsOf (t : Tag) (key : String) : List (List Char) :=
  (t.pairs.filter fun pair => pair.1 = key.toList).map (·.2)

/-- The text of a raw value, if it decodes. -/
def textOf (raw : List Char) : Option String := (decode raw).map String.ofList

theorem find?_eq_first (t : Tag) (key : String) :
    t.find? key = (t.rawsOf key).head?.bind textOf := by
  unfold find? rawsOf
  rw [List.head?_map, List.head?_filter]
  cases t.pairs.find? fun pair => pair.1 = key.toList with
  | none => rfl
  | some pair => rfl

/-- The entries of a key are its values that decode. -/
theorem filter_entries (t : Tag) (key : String) :
    t.entries.filter (fun entry => entry.1 = key) =
      ((t.rawsOf key).filterMap textOf).map (key, ·) := by
  unfold entries rawsOf
  induction t.pairs with
  | nil => rfl
  | cons pair pairs ih =>
    obtain ⟨name, raw⟩ := pair
    have same_key : String.ofList name = key ↔ name = key.toList := by
      rw [← String.toList_inj, String.toList_ofList]
    cases decodes : decode raw with
    | none =>
      by_cases here : name = key.toList <;> simp [decodes, textOf, here, ih]
    | some text =>
      by_cases here : name = key.toList
      · subst here
        simp [decodes, textOf, ih]
      · simp [decodes, same_key, here, ih]

theorem find?_entries (t : Tag) (key : String) :
    (t.entries.find? fun entry => entry.1 = key) =
      ((t.rawsOf key).filterMap textOf).head?.map (key, ·) := by
  rw [← List.head?_filter, filter_entries, List.head?_map]

/-! ## The parts of a value -/

theorem values_of_find? (h : t.find? key = some value) :
    t.values key = (value.toList.splitOn ',').map String.ofList := by
  rw [values, h]

theorem values_ne_nil (h : t.find? key = some value) : t.values key ≠ [] := by
  rw [values_of_find? h]
  simp [List.splitOn_ne_nil]

theorem values_eq_nil_iff : t.values key = [] ↔ t.has key = false := by
  rw [has]
  cases found : t.find? key with
  | none => simp [values, found]
  | some value => simp [values_ne_nil found]

theorem intercalate_values (h : t.find? key = some value) :
    ",".intercalate (t.values key) = value := by
  have undone : String.toList ∘ String.ofList = id := funext fun s => String.toList_ofList
  rw [← String.toList_inj, String.toList_intercalate, values_of_find? h, List.map_map, undone,
    List.map_id]
  exact List.intercalate_splitOn ','

theorem get_of_find? (h : t.find? key = some value) :
    (t.get key).toList = value.toList.takeWhile (· ≠ ',') := by
  rw [get, values_of_find? h, List.headD_eq_head?_getD, List.head?_map, head_splitOn]
  exact String.toList_ofList

theorem hasFlag_iff_values (flag : String) : t.hasFlag key flag = true ↔
    ∃ part ∈ (t.values key).tail, lower part = lower flag := by
  simp [hasFlag, List.drop_one]

/-! ## Look-ups and entries -/

theorem find?_entries_of_find? (h : t.find? key = some value) :
    (t.entries.find? fun entry => entry.1 = key) = some (key, value) := by
  rw [find?_entries]
  rw [find?_eq_first] at h
  cases raws : t.rawsOf key with
  | nil => simp [raws] at h
  | cons raw rest =>
    have text : textOf raw = some value := by simpa [raws] using h
    simp [text]

/-- A look-up tells what the entries have, unless the first value of the key does not decode and a
later one does. -/
theorem find?_eq_entry_iff (t : Tag) (key : String) :
    t.find? key = (t.entries.find? fun entry => entry.1 = key).map (·.2) ↔
      (∀ raw ∈ (t.rawsOf key).head?, (decode raw).isSome = true) ∨
        ∀ raw ∈ t.rawsOf key, decode raw = none := by
  rw [find?_eq_first, find?_entries]
  cases t.rawsOf key with
  | nil => simp
  | cons raw rest =>
    cases decodes : decode raw with
    | none =>
      rw [eq_comm]
      simp [decodes, textOf]
    | some text => simp [decodes, textOf]

/-- A key that is written once at most has the look-up for its only entry. -/
theorem filter_entries_of_once (once : (t.rawsOf key).length ≤ 1) :
    t.entries.filter (fun entry => entry.1 = key) = (t.find? key).toList.map (key, ·) := by
  rw [filter_entries, find?_eq_first]
  cases raws : t.rawsOf key with
  | nil => rfl
  | cons raw rest =>
    obtain rfl : rest = [] := by simpa [raws] using once
    cases text : textOf raw with
    | none => simp [text]
    | some value => simp [text]

/-- The queries of a key go by its look-up: there are values exactly if there is one, they are its
parts between commas, the first of them is what the key gets, and the flags are the others in any
case. The look-up is the first entry of the key. For a key that is written once at most it is all
that the entries have of the key; for any key it tells what they have unless the first value does
not decode and a later one does. -/
theorem queries_agree (t : Tag) (key : String) :
    (t.values key = [] ↔ t.has key = false) ∧
      (t.has key = true → ∃ value, t.find? key = some value ∧
        ",".intercalate (t.values key) = value ∧
        (t.get key).toList = value.toList.takeWhile (· ≠ ',')) ∧
      (∀ flag, t.hasFlag key flag = true ↔
        ∃ part ∈ (t.values key).tail, lower part = lower flag) ∧
      (∀ value, t.find? key = some value →
        (t.entries.find? fun entry => entry.1 = key) = some (key, value)) ∧
      ((t.rawsOf key).length ≤ 1 →
        t.entries.filter (fun entry => entry.1 = key) = (t.find? key).toList.map (key, ·)) ∧
      (t.find? key = (t.entries.find? fun entry => entry.1 = key).map (·.2) ↔
        (∀ raw ∈ (t.rawsOf key).head?, (decode raw).isSome = true) ∨
          ∀ raw ∈ t.rawsOf key, decode raw = none) := by
  refine ⟨values_eq_nil_iff, fun present => ?_, hasFlag_iff_values,
    fun value => find?_entries_of_find?, filter_entries_of_once, find?_eq_entry_iff t key⟩
  obtain ⟨value, found⟩ := Option.isSome_iff_exists.mp present
  exact ⟨value, found, intercalate_values found, get_of_find? found⟩

/-- A key beside one that is written twice, of which the first value does not decode. -/
theorem queries_agree_undecodable :
    let t : Tag := ⟨"doc:\"bad \\q\" gen:\"-,Skip\" doc:\"good\""⟩
    t.find? "gen" = some "-,Skip" ∧ ",".intercalate (t.values "gen") = "-,Skip" ∧
      (t.entries.find? fun entry => entry.1 = "gen") = some ("gen", "-,Skip") ∧
      t.entries.filter (fun entry => entry.1 = "gen") = [("gen", "-,Skip")] ∧
      t.find? "doc" ≠ (t.entries.find? fun entry => entry.1 = "doc").map (·.2) := by
  intro t
  obtain ⟨_, joined, _, first, once, _⟩ := queries_agree t "gen"
  obtain ⟨_, _, _, _, _, differ⟩ := queries_agree t "doc"
  have found : t.find? "gen" = some "-,Skip" := by decide +kernel
  obtain ⟨value, found', whole, _⟩ := joined (by decide +kernel)
  obtain rfl : value = "-,Skip" := Option.some.inj (found'.symm.trans found)
  refine ⟨found, whole, first _ found, ?_, mt differ.mp (by decide +kernel)⟩
  rw [once (by decide +kernel), found]
  rfl

end Stencil.Tag
