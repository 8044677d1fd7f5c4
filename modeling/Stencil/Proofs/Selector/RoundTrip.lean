import Stencil.Proofs.Text.Cut
import Stencil.Proofs.Text.Quoted
import Stencil.Selector

/-
  Selectors and their text. A selector is a bare name or a path between quotes with a name behind
  a dot. A path is displayed with escapes, but none is undone in reading.

  Proved: `selector_round_trip`. What is read is exactly what is written in one of the two ways,
  and it is read back from its display unless there is something to escape in its path.
-/

namespace Stencil.Selector

open Text

/-- The two ways to write a selector. -/
inductive Written : List Char → Selector → Prop where
  /-- A bare name is the whole text. It may hold quotes, but not in front. -/
  | bare {name : List Char} (some_name : name ≠ []) (unquoted : name.head? ≠ some '"') :
    Written name ⟨none, String.ofList name⟩
  | qualified {path name : List Char} (some_path : path ≠ []) (unquoted : '"' ∉ path)
      (some_name : name ≠ []) :
    Written ('"' :: (path ++ '"' :: '.' :: name)) ⟨some (String.ofList path), String.ofList name⟩

section

variable {chars path name : List Char} {text : String} {s : Selector}

theorem readChars_of_written (h : Written chars s) : readChars chars = .ok s := by
  cases h with
  | bare some_name unquoted =>
    unfold readChars
    split
    · exact absurd rfl some_name
    · exact absurd rfl unquoted
    · rfl
  | @qualified path name some_path unquoted some_name =>
    have divided := cut_append unquoted ('.' :: name)
    obtain ⟨p, path, rfl⟩ := List.exists_cons_of_ne_nil some_path
    obtain ⟨c, name, rfl⟩ := List.exists_cons_of_ne_nil some_name
    rw [readChars, divided]
    rfl

theorem written_of_readChars (h : readChars chars = .ok s) : Written chars s := by
  unfold readChars at h
  split at h
  · cases h
  · split at h
    · cases h
    · cases h
    · rename_i rest path c name not_empty divided
      cases h
      obtain ⟨rfl, unquoted⟩ := append_of_cut divided
      refine .qualified ?_ unquoted (List.cons_ne_nil c name)
      rintro rfl
      exact not_empty rfl
    · cases h
  · rename_i name not_empty not_quote
    cases h
    refine .bare not_empty fun quote => ?_
    obtain ⟨rest, rfl⟩ := List.head?_eq_some_iff.mp quote
    exact not_quote rest rfl

theorem read_eq_ok_iff : read text = .ok s ↔ Written text.toList s :=
  ⟨written_of_readChars, readChars_of_written⟩

/-- The path is read back as it was escaped. -/
theorem read_display_qualified (some_path : path ≠ []) (unquoted : '"' ∉ path)
    (some_name : name ≠ []) :
    read (display ⟨some (String.ofList path), String.ofList name⟩) =
      .ok ⟨some (String.ofList (escaped path)), String.ofList name⟩ := by
  have shape : (display ⟨some (String.ofList path), String.ofList name⟩).toList =
      '"' :: (escaped path ++ '"' :: '.' :: name) := by
    simp [display, toList_quoted]
  rw [read_eq_ok_iff, shape]
  exact .qualified (escaped_ne_nil some_path) (quote_not_mem_escaped unquoted) some_name

theorem read_display_iff (h : read text = .ok s) :
    read s.display = .ok s ↔ ∀ path ∈ s.module, escaped path.toList = path.toList := by
  have written := read_eq_ok_iff.mp h
  generalize text.toList = chars at written
  cases written with
  | bare some_name unquoted =>
    have back : read (display ⟨none, String.ofList chars⟩) = .ok ⟨none, String.ofList chars⟩ := by
      rw [read_eq_ok_iff, display, String.toList_ofList]
      exact .bare some_name unquoted
    simp [back]
  | @qualified path name some_path unquoted some_name =>
    rw [read_display_qualified some_path unquoted some_name]
    simp [String.ofList_inj]

/-- A text is read as a selector exactly if it is a name without a quote in front, or a path between
quotes with a name behind a dot. The selector is read back from its display exactly if it has no
path or displaying its path between quotes escapes nothing. -/
theorem selector_round_trip (text : String) :
    (∀ s, read text = .ok s ↔ Written text.toList s) ∧
    ∀ s, read text = .ok s →
      (read s.display = .ok s ↔ ∀ path ∈ s.module, escaped path.toList = path.toList) :=
  ⟨fun _ => read_eq_ok_iff, fun _ => read_display_iff⟩

/-- Quotes and dots in a name change nothing, a backslash in a path is doubled and stays so. -/
theorem selector_round_trip_backslash :
    ∃ s s', read "\"größe x\".\"T\".U" = .ok s ∧ read s.display = .ok s ∧
      read "\"a\\b\".T" = .ok s' ∧ read s'.display ≠ .ok s' := by
  have plain : read "\"größe x\".\"T\".U" = .ok ⟨some "größe x", "\"T\".U"⟩ := by rfl
  have slashed : read "\"a\\b\".T" = .ok ⟨some "a\\b", "T"⟩ := by rfl
  refine ⟨_, _, plain, ((selector_round_trip _).2 _ plain).mpr ?_, slashed, fun back => ?_⟩
  · rintro _ ⟨⟩
    decide +kernel
  · exact absurd (((selector_round_trip _).2 _ slashed).mp back _ rfl) (by decide +kernel)

end

end Stencil.Selector
