import Mathlib.Data.List.Basic
import Stencil.Proofs.TypeExpr.Display

/-
  The forms of written type expressions. A text is a lead of markers and blanks, a leaf, and a
  trail of blanks; the form of the leaf decides what it is read as.

  Proved: `readChars_of_quotes`, a text that quotes a path is read as the name behind it; and
  `quotes_of_owner`, no other text gives a leaf an owner whose path may not stand without quotes.
-/

namespace Stencil.TypeExpr

open Text

variable {s leaf lead trail path name : List Char} {ms : List Marker} {t : TypeExpr} {c : Char}
  {owner : ModuleName}

/-! ## Leads and trails -/

/-- What may stand before a leaf: some markers, and blanks around each. -/
inductive Lead : List Marker → List Char → Prop where
  | nothing : Lead [] []
  | blank {ms : List Marker} {c : Char} {s : List Char} :
    isBlank c = true → Lead ms s → Lead ms (c :: s)
  | marker {ms : List Marker} {s : List Char} (m : Marker) :
    Lead ms s → Lead (m :: ms) (m.text.toList ++ s)

theorem lead_writeMarkers (ms : List Marker) : Lead ms (writeMarkers ms) := by
  induction ms with
  | nil => exact .nothing
  | cons m ms ih => exact .marker m ih

theorem takeMarkers_blank (blank : isBlank c = true) (s : List Char) :
    takeMarkers (c :: s) = takeMarkers s := by
  rw [takeMarkers]
  · rw [if_pos blank]
  · exact ne_of_test blank (by decide +kernel)
  · rintro _ rfl
    exact absurd blank (by decide +kernel)

theorem takeMarkers_lead (h : Lead ms lead) (first : takeMarkers s = ([], s)) :
    takeMarkers (lead ++ s) = (ms, s) := by
  induction h with
  | nothing => exact first
  | blank blank _ ih => rw [List.cons_append, takeMarkers_blank blank, ih]
  | marker m _ ih =>
    rw [List.append_assoc]
    cases m with
    | pointer => exact congrArg (fun found => (Marker.pointer :: found.1, found.2)) ih
    | slice => exact congrArg (fun found => (Marker.slice :: found.1, found.2)) ih

theorem lead_takeMarkers (s : List Char) :
    ∃ lead, Lead (takeMarkers s).1 lead ∧ s = lead ++ (takeMarkers s).2 := by
  fun_induction takeMarkers s with
  | case1 => exact ⟨[], .nothing, rfl⟩
  | case2 rest ms leaf read ih =>
    rw [read] at ih
    obtain ⟨lead, before, rfl⟩ := ih
    exact ⟨_, .marker .pointer before, rfl⟩
  | case3 rest ms leaf read ih =>
    rw [read] at ih
    obtain ⟨lead, before, rfl⟩ := ih
    exact ⟨_, .marker .slice before, rfl⟩
  | case4 c rest _ _ blank ih =>
    obtain ⟨lead, before, whole⟩ := ih
    exact ⟨c :: lead, .blank blank before, congrArg (c :: ·) whole⟩
  | case5 c rest _ _ _ => exact ⟨[], .nothing, rfl⟩

/-- The parts of a text that is read. -/
theorem parts_of_readChars (h : readChars s = some t) :
    ∃ ms lead leaf trail, Lead ms lead ∧ (∀ c ∈ trail, isBlank c = true) ∧
      s = lead ++ leaf ++ trail ∧ t = wrap ms (readLeaf leaf) := by
  unfold readChars at h
  obtain ⟨trail, whole, blank⟩ := exists_trimEnd s
  obtain ⟨lead, before, parts⟩ := lead_takeMarkers (trimEnd s)
  cases read : takeMarkers (trimEnd s) with
  | mk ms leaf =>
    rw [read] at h before parts
    cases leaf with
    | nil => cases h
    | cons c leaf =>
      refine ⟨ms, lead, c :: leaf, trail, before, blank, ?_, (Option.some.inj h).symm⟩
      rw [← parts, ← whole]

/-- A leaf is read the same with a lead before it and a trail behind it. -/
theorem readChars_append (isLeaf : IsLeaf leaf) (before : Lead ms lead)
    (behind : ∀ c ∈ trail, isBlank c = true) :
    readChars (lead ++ leaf ++ trail) = some (wrap ms (readLeaf leaf)) := by
  have last : ∀ c ∈ (lead ++ leaf).getLast?, isBlank c = false := by
    intro c last
    refine isLeaf.last c ?_
    rw [List.getLast?_append_of_ne_nil lead isLeaf.some_left] at last
    exact last
  rw [readChars, trimEnd_append behind, trimEnd_of_last last, takeMarkers_lead before isLeaf.first]
  cases leaf with
  | nil => exact absurd rfl isLeaf.some_left
  | cons c leaf => rfl

/-! ## Leaves -/

/-- A name behind the path of its owner, which is known by the path alone. -/
def qualified (path name : List Char) : TypeExpr :=
  named (some (ModuleName.ofPath (String.ofList path))) (String.ofList name)

/-- The forms of leaves, and what they are read as. -/
inductive Form : List Char → TypeExpr → Prop where
  | identifier {s : List Char} : isIdentifier s = true → Form s (builtin (String.ofList s))
  | quoted {path name : List Char} : path ≠ [] → '"' ∉ path → isIdentifier name = true →
    Form ('"' :: (path ++ '"' :: '.' :: name)) (qualified path name)
  | plain {path name : List Char} : isModulePath path = true → isIdentifier name = true →
    Form (path ++ '.' :: name) (qualified path name)
  | other (s : List Char) : Form s (verbatim (String.ofList s))

theorem form_of_readQuotedPath (h : readQuotedPath s = some t) : Form ('"' :: s) t := by
  unfold readQuotedPath at h
  split at h
  · rename_i path name found
    obtain ⟨rfl, unquoted⟩ := append_of_cut found
    split at h
    · rename_i sound
      cases h
      exact .quoted sound.1 unquoted sound.2
    · cases h
  · cases h

theorem form_of_readPlainPath (h : readPlainPath s = some t) : Form s t := by
  unfold readPlainPath at h
  split at h
  · rename_i path name found
    obtain rfl := append_of_cutLast found
    split at h
    · rename_i sound
      cases h
      obtain ⟨identifier, plain⟩ := Bool.and_eq_true_iff.mp sound
      exact .plain plain identifier
    · cases h
  · cases h

theorem Form.getD {found : Option TypeExpr} (each : ∀ t ∈ found, Form s t) :
    Form s (found.getD (verbatim (String.ofList s))) := by
  cases found with
  | none => exact .other s
  | some t => exact each t rfl

theorem form_readLeaf (s : List Char) : Form s (readLeaf s) := by
  by_cases quoted : ∃ rest, s = '"' :: rest
  · obtain ⟨rest, rfl⟩ := quoted
    exact Form.getD fun t => form_of_readQuotedPath
  have unquoted : ∀ c ∈ s.head?, c ≠ '"' := by
    rintro c first rfl
    obtain ⟨rest, shape⟩ := List.head?_eq_some_iff.mp first
    exact quoted ⟨rest, shape⟩
  rw [readLeaf_unquoted unquoted]
  split
  · rename_i identifier
    exact .identifier identifier
  · exact Form.getD fun t => form_of_readPlainPath

/-- An owner comes from a path, and a path stands in quotes or may stand without. -/
theorem Form.of_owner (h : Form s t) (owned : owner ∈ t.owner) : ∃ path name,
    t = qualified path name ∧ isIdentifier name = true ∧ path ≠ [] ∧ '"' ∉ path ∧
      (isModulePath path = true ∨ s = '"' :: (path ++ '"' :: '.' :: name)) := by
  cases h with
  | identifier _ => cases owned
  | other _ => cases owned
  | quoted some_path unquoted identifier =>
    exact ⟨_, _, rfl, identifier, some_path, unquoted, .inr rfl⟩
  | @plain path name plain identifier =>
    obtain ⟨some_path, chars⟩ := isPathChar_of_isModulePath plain
    have unquoted : '"' ∉ path := fun mem => absurd (chars '"' mem) (by decide +kernel)
    exact ⟨path, name, rfl, identifier, some_path, unquoted, .inl plain⟩

/-! ## Quoted paths -/

/-- The text writes a name behind a path in quotes, with some markers before them. -/
def Quotes (s : List Char) (ms : List Marker) (path name : List Char) : Prop :=
  path ≠ [] ∧ '"' ∉ path ∧ isIdentifier name = true ∧
    ∃ lead trail, Lead ms lead ∧ (∀ c ∈ trail, isBlank c = true) ∧
      s = lead ++ '"' :: (path ++ '"' :: '.' :: name) ++ trail

theorem isLeaf_quoted (path : List Char) (identifier : isIdentifier name = true) :
    IsLeaf ('"' :: (path ++ '"' :: '.' :: name)) := by
  obtain ⟨some_left, word⟩ := isWordChar_of_isIdentifier identifier
  refine ⟨List.cons_ne_nil _ _, ?_, fun c last => ?_⟩
  · exact takeMarkers_of_first (by decide) (fun _ slice => absurd slice (by decide))
      (by decide +kernel)
  · have shape : '"' :: (path ++ '"' :: '.' :: name) = '"' :: (path ++ ['"', '.']) ++ name := by
      simp
    rw [shape, List.getLast?_append_of_ne_nil _ some_left] at last
    exact isBlank_of_isPathChar (isPathChar_of_isWordChar (word c (List.mem_of_getLast? last)))

theorem readLeaf_quoted (some_path : path ≠ []) (unquoted : '"' ∉ path)
    (identifier : isIdentifier name = true) :
    readLeaf ('"' :: (path ++ '"' :: '.' :: name)) = qualified path name := by
  have read : readQuotedPath (path ++ '"' :: '.' :: name) = some (qualified path name) := by
    rw [readQuotedPath, cut_append unquoted]
    exact if_pos ⟨some_path, identifier⟩
  rw [readLeaf, read]
  rfl

theorem readChars_of_quotes (h : Quotes s ms path name) :
    readChars s = some (wrap ms (qualified path name)) := by
  obtain ⟨some_path, unquoted, identifier, lead, trail, before, behind, rfl⟩ := h
  rw [readChars_append (isLeaf_quoted path identifier) before behind,
    readLeaf_quoted some_path unquoted identifier]

theorem owner_wrap (ms : List Marker) (t : TypeExpr) : (wrap ms t).owner = t.owner := by
  rw [owner, leaf_wrap, owner]

/-- The parts of a text whose leaf gets an owner. -/
theorem quotes_of_owner (h : readChars s = some t) (owned : owner ∈ t.owner) :
    ∃ ms path name, t = wrap ms (qualified path name) ∧ isIdentifier name = true ∧ path ≠ [] ∧
      '"' ∉ path ∧ (isModulePath path = true ∨ Quotes s ms path name) := by
  obtain ⟨ms, lead, leaf, trail, before, behind, rfl, rfl⟩ := parts_of_readChars h
  rw [owner_wrap] at owned
  obtain ⟨path, name, same, identifier, some_path, unquoted, either⟩ :=
    (form_readLeaf leaf).of_owner owned
  refine ⟨ms, path, name, congrArg (wrap ms) same, identifier, some_path, unquoted, ?_⟩
  refine either.imp_right fun quoted => ?_
  exact ⟨some_path, unquoted, identifier, lead, trail, before, behind, quoted ▸ rfl⟩

end Stencil.TypeExpr
