import Stencil.TypeExpr.Reading
import Stencil.Proofs.Text.Blank
import Stencil.Proofs.Text.Cut

/-
  The written form of type expressions. Markers come first, and then a leaf that begins with no
  marker, so both are found again; an owner's path is written without quotes, and is found again
  if it may stand so.

  Proved: `read_display`. What is read from the written form has the same markers and the same
  leaf, its owner with the short name that its path gives.
-/

namespace Stencil.TypeExpr

open Text

variable {s leaf name path : List Char} {ms : List Marker} {t : TypeExpr} {c : Char}

/-! ## Markers and leaves -/

theorem wrap_markers (t : TypeExpr) : wrap t.markers t.leaf = t := by
  induction t with
  | pointer t ih => exact congrArg pointer ih
  | slice t ih => exact congrArg slice ih
  | named owner name => rfl
  | verbatim text => rfl

theorem mapLeaf_eq (f : TypeExpr → TypeExpr) (t : TypeExpr) :
    t.mapLeaf f = wrap t.markers (f t.leaf) := by
  induction t with
  | pointer t ih => exact congrArg pointer ih
  | slice t ih => exact congrArg slice ih
  | named owner name => rfl
  | verbatim text => rfl

theorem leaf_leaf (t : TypeExpr) : t.leaf.leaf = t.leaf := by
  induction t with
  | pointer t ih => exact ih
  | slice t ih => exact ih
  | named owner name => rfl
  | verbatim text => rfl

theorem owner_leaf (t : TypeExpr) : t.leaf.owner = t.owner := by
  rw [owner, owner, leaf_leaf]

theorem bareName_leaf (t : TypeExpr) : t.leaf.bareName = t.bareName := by
  rw [bareName, bareName, leaf_leaf]

theorem leaf_wrap (ms : List Marker) (t : TypeExpr) : (wrap ms t).leaf = t.leaf := by
  induction ms with
  | nil => rfl
  | cons m ms ih => cases m <;> exact ih

theorem markers_wrap (ms : List Marker) (t : TypeExpr) :
    (wrap ms t).markers = ms ++ t.markers := by
  induction ms with
  | nil => rfl
  | cons m ms ih => cases m <;> exact congrArg (_ :: ·) ih

theorem mapLeaf_wrap (f : TypeExpr → TypeExpr) (ms : List Marker) (t : TypeExpr) :
    (wrap ms t).mapLeaf f = wrap ms (t.mapLeaf f) := by
  induction ms with
  | nil => rfl
  | cons m ms ih =>
    cases m with
    | pointer => exact congrArg pointer ih
    | slice => exact congrArg slice ih

/-- The written form of some markers. -/
def writeMarkers (ms : List Marker) : List Char := ms.flatMap (·.text.toList)

theorem display_wrap (ms : List Marker) (t : TypeExpr) :
    (wrap ms t).display.toList = writeMarkers ms ++ t.display.toList := by
  induction ms with
  | nil => rfl
  | cons m ms ih =>
    rw [writeMarkers, List.flatMap_cons, List.append_assoc, ← writeMarkers, ← ih]
    cases m <;> exact String.toList_append

theorem takeMarkers_of_first (not_pointer : c ≠ '*')
    (not_slice : ∀ rest, c = '[' → s = ']' :: rest → False) (not_blank : ¬ isBlank c = true) :
    takeMarkers (c :: s) = ([], c :: s) := by
  rw [takeMarkers]
  · rw [if_neg not_blank]
  · exact not_pointer
  · exact not_slice

theorem takeMarkers_write (h : takeMarkers s = ([], s)) (ms : List Marker) :
    takeMarkers (writeMarkers ms ++ s) = (ms, s) := by
  induction ms with
  | nil => exact h
  | cons m ms ih =>
    rw [writeMarkers, List.flatMap_cons, List.append_assoc, ← writeMarkers]
    cases m with
    | pointer => exact congrArg (fun found => (Marker.pointer :: found.1, found.2)) ih
    | slice => exact congrArg (fun found => (Marker.slice :: found.1, found.2)) ih

/-- Behind the markers of a text there are no more, and it ends where the text ends. -/
theorem takeMarkers_leaf (s : List Char) :
    takeMarkers (takeMarkers s).2 = ([], (takeMarkers s).2) ∧ (takeMarkers s).2 <:+ s := by
  fun_induction takeMarkers s with
  | case1 => exact ⟨rfl, List.suffix_refl _⟩
  | case2 rest ms leaf read ih =>
    rw [read] at ih
    exact ⟨ih.1, ih.2.trans (List.suffix_cons _ _)⟩
  | case3 rest ms leaf read ih =>
    rw [read] at ih
    exact ⟨ih.1, ih.2.trans ⟨['[', ']'], rfl⟩⟩
  | case4 c rest _ _ _ ih => exact ⟨ih.1, ih.2.trans (List.suffix_cons _ _)⟩
  | case5 c rest not_pointer not_slice not_blank =>
    exact ⟨takeMarkers_of_first not_pointer not_slice not_blank, List.suffix_refl _⟩

/-- What can stand behind the markers: it has no blanks around it and begins with no marker. -/
structure IsLeaf (s : List Char) : Prop where
  some_left : s ≠ []
  first : takeMarkers s = ([], s)
  last : ∀ c ∈ s.getLast?, isBlank c = false

theorem isLeaf_of_readChars (h : readChars s = some t) :
    ∃ ms leaf, IsLeaf leaf ∧ t = wrap ms (readLeaf leaf) := by
  unfold readChars at h
  obtain ⟨first, suffix⟩ := takeMarkers_leaf (trimEnd s)
  cases read : takeMarkers (trimEnd s) with
  | mk ms leaf =>
    rw [read] at h first suffix
    cases leaf with
    | nil => cases h
    | cons c leaf =>
      refine ⟨ms, c :: leaf, ⟨List.cons_ne_nil c leaf, first, fun d last => ?_⟩, ?_⟩
      · obtain ⟨front, whole⟩ := suffix
        refine last_trimEnd s d ?_
        rw [← whole, List.getLast?_append, Option.mem_def.mp last]
        rfl
      · exact (Option.some.inj h).symm

theorem readChars_write (h : IsLeaf s) (ms : List Marker) :
    readChars (writeMarkers ms ++ s) = some (wrap ms (readLeaf s)) := by
  have last : ∀ c ∈ (writeMarkers ms ++ s).getLast?, isBlank c = false := by
    intro c last
    refine h.last c ?_
    rw [List.getLast?_append] at last
    cases shape : s.getLast? with
    | none => exact absurd (List.getLast?_eq_none_iff.mp shape) h.some_left
    | some d =>
      rw [shape] at last
      exact last
  rw [readChars, trimEnd_of_last last, takeMarkers_write h.first]
  cases s with
  | nil => exact absurd rfl h.some_left
  | cons c s => rfl

/-! ## Names and paths -/

theorem isWordChar_of_isIdentifier (h : isIdentifier name = true) :
    name ≠ [] ∧ ∀ c ∈ name, isWordChar c = true := by
  cases name with
  | nil => cases h
  | cons c rest =>
    obtain ⟨first, others⟩ := Bool.and_eq_true_iff.mp h
    refine ⟨List.cons_ne_nil c rest, fun d mem => ?_⟩
    rcases List.mem_cons.mp mem with rfl | mem
    · rcases Bool.or_eq_true_iff.mp first with letter | line
      · simp [isWordChar, isAlphanumeric, letter]
      · simp [isWordChar, of_decide_eq_true line]
    · exact List.all_eq_true.mp others d mem

theorem isPathChar_of_isModulePath (h : isModulePath path = true) :
    path ≠ [] ∧ ∀ c ∈ path, isPathChar c = true := by
  simp only [isModulePath, Bool.and_eq_true, decide_eq_true_eq, List.all_eq_true] at h
  exact ⟨h.1.1.1, h.2⟩

theorem isLeaf_of_isPathChar (some_left : s ≠ []) (h : ∀ c ∈ s, isPathChar c = true) :
    IsLeaf s := by
  refine ⟨some_left, ?_, fun c last => isBlank_of_isPathChar (h c (List.mem_of_getLast? last))⟩
  cases s with
  | nil => rfl
  | cons c s =>
    have path := h c List.mem_cons_self
    have not_blank : ¬ isBlank c = true := by simp [isBlank_of_isPathChar path]
    exact takeMarkers_of_first (ne_of_test path (by decide +kernel))
      (fun _ slice _ => ne_of_test path (by decide +kernel) slice) not_blank

/-- A leaf without a quote in front is a name, a path with a name, or kept as it is. -/
theorem readLeaf_unquoted (h : ∀ c ∈ s.head?, c ≠ '"') : readLeaf s =
    if isIdentifier s then builtin (String.ofList s)
    else (readPlainPath s).getD (verbatim (String.ofList s)) := by
  rw [readLeaf]
  rintro _ rfl
  exact h '"' rfl rfl

/-! ## The leaf that is read -/

/-- The leaves that reading gives. -/
inductive Leaf : TypeExpr → Prop where
  | builtin {name : String} : isIdentifier name.toList → Leaf (named none name)
  | owned {owner : ModuleName} {name : String} :
    isIdentifier name.toList → Leaf (named (some owner) name)
  | verbatim {text : String} :
    IsLeaf text.toList → readLeaf text.toList = verbatim text → Leaf (verbatim text)

theorem Leaf.leaf_eq (h : Leaf t) : t.leaf = t := by cases h <;> rfl

theorem Leaf.markers_eq (h : Leaf t) : t.markers = [] := by cases h <;> rfl

/-- A leaf whose owner has the short name that the path gives. -/
def derived : TypeExpr → TypeExpr
  | named (some owner) name => named (some (ModuleName.ofPath owner.path)) name
  | t => t

/-- A name with an owner that is known by its path alone. -/
def IsOwned (t : TypeExpr) : Prop := ∃ path name,
  isIdentifier name = true ∧
    t = named (some (ModuleName.ofPath (String.ofList path))) (String.ofList name)

theorem isOwned_of_readQuotedPath (h : readQuotedPath s = some t) : t.IsOwned := by
  unfold readQuotedPath at h
  split at h
  · rename_i path name _
    split at h
    · rename_i sound
      exact ⟨path, name, sound.2, (Option.some.inj h).symm⟩
    · cases h
  · cases h

theorem isOwned_of_readPlainPath (h : readPlainPath s = some t) : t.IsOwned := by
  unfold readPlainPath at h
  split at h
  · rename_i path name _
    split at h
    · rename_i sound
      exact ⟨path, name, (Bool.and_eq_true_iff.mp sound).1, (Option.some.inj h).symm⟩
    · cases h
  · cases h

theorem leaf_of_getD (h : IsLeaf s) {found : Option TypeExpr} (owned : ∀ t ∈ found, t.IsOwned)
    (read : readLeaf s = found.getD (verbatim (String.ofList s))) :
    Leaf (readLeaf s) ∧ (readLeaf s).derived = readLeaf s := by
  cases found with
  | none =>
    have kept : readLeaf s = verbatim (String.ofList s) := read
    rw [kept]
    refine ⟨.verbatim ?_ ?_, rfl⟩
    · rw [String.toList_ofList]
      exact h
    · rw [String.toList_ofList]
      exact kept
  | some t =>
    obtain ⟨path, name, identifier, rfl⟩ := owned t rfl
    rw [read]
    exact ⟨.owned (by rw [String.toList_ofList]; exact identifier), rfl⟩

theorem leaf_readLeaf (h : IsLeaf s) :
    Leaf (readLeaf s) ∧ (readLeaf s).derived = readLeaf s := by
  by_cases quoted : ∃ rest, s = '"' :: rest
  · obtain ⟨rest, rfl⟩ := quoted
    exact leaf_of_getD h (fun t => isOwned_of_readQuotedPath) rfl
  have unquoted : ∀ c ∈ s.head?, c ≠ '"' := by
    rintro c first rfl
    obtain ⟨rest, shape⟩ := List.head?_eq_some_iff.mp first
    exact quoted ⟨rest, shape⟩
  have read := readLeaf_unquoted unquoted
  by_cases identifier : isIdentifier s = true
  · rw [if_pos identifier] at read
    rw [read]
    exact ⟨.builtin (by rw [String.toList_ofList]; exact identifier), rfl⟩
  · rw [if_neg identifier] at read
    exact leaf_of_getD h (fun t => isOwned_of_readPlainPath) read

/-- What is read has a leaf that reading gives. -/
theorem leaf_of_read {text : String} (h : read text = some t) :
    Leaf t.leaf ∧ t.leaf.derived = t.leaf := by
  obtain ⟨ms, leaf, isLeaf, rfl⟩ := isLeaf_of_readChars h
  obtain ⟨kind, same⟩ := leaf_readLeaf isLeaf
  rw [leaf_wrap, kind.leaf_eq]
  exact ⟨kind, same⟩

/-! ## Reading what is written -/

theorem readPlainPath_append (identifier : isIdentifier name = true)
    (plain : isModulePath path = true) : readPlainPath (path ++ '.' :: name) =
      some (named (some (ModuleName.ofPath (String.ofList path))) (String.ofList name)) := by
  have no_dot : '.' ∉ name := fun mem =>
    absurd ((isWordChar_of_isIdentifier identifier).2 '.' mem) (by decide +kernel)
  rw [readPlainPath, cutLast_append path no_dot]
  dsimp only
  rw [identifier, plain]
  rfl

theorem readLeaf_display (leaf : Leaf t)
    (plain : ∀ owner ∈ t.owner, isModulePath owner.path.toList = true) :
    IsLeaf t.display.toList ∧ readLeaf t.display.toList = t.derived := by
  cases leaf with
  | @builtin name identifier =>
    obtain ⟨some_left, word⟩ := isWordChar_of_isIdentifier identifier
    have path := fun c mem => isPathChar_of_isWordChar (word c mem)
    have unquoted : ∀ c ∈ name.toList.head?, c ≠ '"' := fun c first =>
      ne_of_test (path c (List.mem_of_mem_head? first)) (by decide +kernel)
    refine ⟨isLeaf_of_isPathChar some_left path, ?_⟩
    rw [display, readLeaf_unquoted unquoted, if_pos identifier, String.ofList_toList]
    rfl
  | @owned owner name identifier =>
    have path := plain owner rfl
    have shape : (named (some owner) name).display.toList =
        owner.path.toList ++ '.' :: name.toList := by simp [display]
    have chars : ∀ c ∈ owner.path.toList ++ '.' :: name.toList, isPathChar c = true := by
      intro c mem
      rcases List.mem_append.mp mem with mem | mem
      · exact (isPathChar_of_isModulePath path).2 c mem
      · rcases List.mem_cons.mp mem with rfl | mem
        · decide +kernel
        · exact isPathChar_of_isWordChar ((isWordChar_of_isIdentifier identifier).2 c mem)
    have unquoted : ∀ c ∈ (owner.path.toList ++ '.' :: name.toList).head?, c ≠ '"' := fun c first =>
      ne_of_test (chars c (List.mem_of_mem_head? first)) (by decide +kernel)
    have not_identifier : ¬ isIdentifier (owner.path.toList ++ '.' :: name.toList) = true :=
      fun identifier => absurd
        ((isWordChar_of_isIdentifier identifier).2 '.' (by simp)) (by decide +kernel)
    -- the path may hold dots too, but the name holds none, so the last dot divides them
    rw [shape]
    refine ⟨isLeaf_of_isPathChar (by simp) chars, ?_⟩
    rw [readLeaf_unquoted unquoted, if_neg not_identifier, readPlainPath_append identifier path,
      String.ofList_toList, String.ofList_toList]
    rfl
  | verbatim isLeaf kept => exact ⟨isLeaf, kept⟩

/-- An expression is read from its written form, but for its owner's short name. -/
theorem read_display (leaf : Leaf t.leaf)
    (plain : ∀ owner ∈ t.owner, isModulePath owner.path.toList = true) :
    read t.display = some (t.mapLeaf derived) := by
  rw [← owner_leaf] at plain
  obtain ⟨isLeaf, same⟩ := readLeaf_display leaf plain
  have written : t.display.toList = writeMarkers t.markers ++ t.leaf.display.toList := by
    rw [← display_wrap, wrap_markers]
  rw [read, written, readChars_write isLeaf, same, mapLeaf_eq]

end Stencil.TypeExpr
