import Mathlib.Data.List.TakeWhile
import Mathlib.Data.String.Basic
import Stencil.Proofs.Tag.Pairs
import Stencil.Proofs.Text.Cut

/-
  Flags. The value of a key is a list with commas, and flags stand behind the first of them.

  Proved: `hasFlag_iff`. A tag has a flag exactly if its text shows it so.
-/

namespace Stencil.Text

/-! ## Lists with separators -/

/-- A part of a text behind some separator, up to the next one or to the end. -/
def IsLaterPart (sep : Char) (s part : List Char) : Prop :=
  sep ∉ part ∧ ∃ before after, s = before ++ sep :: (part ++ after) ∧ ∀ c ∈ after.head?, c = sep

section

variable {sep c : Char} {s part : List Char}

/-- The first part goes up to the first separator. -/
theorem head_splitOn (sep : Char) (s : List Char) :
    (s.splitOn sep).head? = some (s.takeWhile (· ≠ sep)) := by
  induction s with
  | nil => simp
  | cons c s ih =>
    rw [List.splitOn_cons_eq_if_modifyHead]
    by_cases same : c = sep
    · simp [same]
    · cases shape : s.splitOn sep with
      | nil => exact absurd shape (List.splitOn_ne_nil _ _)
      | cons first rest =>
        rw [shape] at ih
        simpa [same] using ih

theorem eq_takeWhile_iff : part = s.takeWhile (· ≠ sep) ↔
    sep ∉ part ∧ ∃ after, s = part ++ after ∧ ∀ c ∈ after.head?, c = sep := by
  constructor
  · rintro rfl
    refine ⟨fun mem => ?_, s.dropWhile (· ≠ sep), List.takeWhile_append_dropWhile.symm, ?_⟩
    · simpa using List.mem_takeWhile_imp mem
    · intro c head
      have stops := List.head?_dropWhile_not (fun c => decide (c ≠ sep)) s
      rw [Option.mem_def.mp head] at stops
      simpa using stops
  · rintro ⟨absent, after, rfl, ends⟩
    have inPart : ∀ c ∈ part, decide (c ≠ sep) = true := by
      intro c mem
      simpa using fun same : c = sep => absent (same ▸ mem)
    exact (span_append inPart fun c head => by simp [ends c head]).1.symm

theorem isLaterPart_sep : IsLaterPart sep (sep :: s) part ↔
    part = s.takeWhile (· ≠ sep) ∨ IsLaterPart sep s part := by
  rw [eq_takeWhile_iff]
  constructor
  · rintro ⟨absent, before, after, shape, ends⟩
    cases before with
    | nil => exact .inl ⟨absent, after, (List.cons.inj shape).2, ends⟩
    | cons c before => exact .inr ⟨absent, before, after, (List.cons.inj shape).2, ends⟩
  · rintro (⟨absent, after, rfl, ends⟩ | ⟨absent, before, after, rfl, ends⟩)
    · exact ⟨absent, [], after, rfl, ends⟩
    · exact ⟨absent, sep :: before, after, rfl, ends⟩

theorem isLaterPart_cons (other : c ≠ sep) :
    IsLaterPart sep (c :: s) part ↔ IsLaterPart sep s part := by
  constructor
  · rintro ⟨absent, before, after, shape, ends⟩
    cases before with
    | nil => exact absurd (List.cons.inj shape).1 other
    | cons d before => exact ⟨absent, before, after, (List.cons.inj shape).2, ends⟩
  · rintro ⟨absent, before, after, rfl, ends⟩
    exact ⟨absent, c :: before, after, rfl, ends⟩

/-- The parts after the first are those behind a separator. -/
theorem mem_tail_splitOn : part ∈ (s.splitOn sep).tail ↔ IsLaterPart sep s part := by
  induction s with
  | nil => simp [IsLaterPart]
  | cons c s ih =>
    have first := head_splitOn sep s
    rw [List.splitOn_cons_eq_if_modifyHead]
    cases shape : s.splitOn sep with
    | nil => exact absurd shape (List.splitOn_ne_nil _ _)
    | cons head rest =>
      rw [shape] at ih first
      obtain rfl : head = s.takeWhile (· ≠ sep) := Option.some.inj first
      by_cases same : c = sep
      · subst same
        rw [isLaterPart_sep, ← ih]
        simp
      · rw [isLaterPart_cons same, ← ih]
        simp [same]

end

end Stencil.Text

namespace Stencil.Tag

open Text

/-! ## Flags -/

/-- The first pair of the key has a value, and the lowercase form of a part of it behind a comma
is the flag. -/
def Flagged (t : Tag) (key flag : String) : Prop :=
  ∃ raw value part, t.IsFirst key raw ∧ decode raw = some value ∧ IsLaterPart ',' value part ∧
    lower (String.ofList part) = flag

/-- What is found for a key is the value of its first pair. -/
theorem find?_eq_some_iff (t : Tag) (key value : String) :
    t.find? key = some value ↔ ∃ raw, t.IsFirst key raw ∧ decode raw = some value.toList := by
  have first := find?_pairs_iff t key
  unfold find?
  cases found : t.pairs.find? (fun pair => pair.1 = key.toList) with
  | none =>
    simp only [reduceCtorEq, false_iff]
    rintro ⟨raw, isFirst, _⟩
    rw [(first raw).mpr isFirst] at found
    cases found
  | some pair =>
    obtain ⟨key', raw⟩ := pair
    obtain rfl : key' = key.toList := by simpa using List.find?_some found
    have only : ∀ raw', t.IsFirst key raw' ↔ raw = raw' := by
      intro raw'
      rw [← first, found]
      simp
    simp [only, String.ofList_eq]

theorem hasFlag_eq_true_iff (t : Tag) (key flag : String) :
    t.hasFlag key flag = true ↔ ∃ value, t.find? key = some value ∧
      ∃ part ∈ (value.toList.splitOn ',').tail, lower (String.ofList part) = lower flag := by
  unfold hasFlag values
  cases t.find? key with
  | none => simp
  | some value => simp [List.drop_one, ← List.map_tail]

/-- A tag has a flag under a key, in whatever case it is asked for, exactly if its text shows the
lowercase form. -/
theorem hasFlag_iff (t : Tag) (key flag : String) :
    t.hasFlag key flag = true ↔ t.Flagged key (lower flag) := by
  rw [hasFlag_eq_true_iff]
  constructor
  · rintro ⟨value, found, part, mem, same⟩
    obtain ⟨raw, first, decodes⟩ := (find?_eq_some_iff t key value).mp found
    exact ⟨raw, value.toList, part, first, decodes, mem_tail_splitOn.mp mem, same⟩
  · rintro ⟨raw, value, part, first, decodes, later, same⟩
    have found : t.find? key = some (String.ofList value) :=
      (find?_eq_some_iff t key _).mpr ⟨raw, first, by rw [decodes, String.toList_ofList]⟩
    refine ⟨_, found, part, mem_tail_splitOn.mpr ?_, same⟩
    rwa [String.toList_ofList]

end Stencil.Tag
