import Stencil.ImportBlock
import Stencil.Proofs.Text.Quoted
import Stencil.Proofs.TypeExpr.Forms

/-
  Reading back what was written. One written form has the owner's path as it is, the other one
  has it escaped between quotes; reading asks of a path without quotes that it is a plain one,
  and takes a path in quotes as it stands there.

  Proved: `display_round_trip` and `canonical_round_trip`. An expression that was read is read
  back from the first form exactly if its owner's path is plain, if it has an owner, and from
  the second exactly if there is nothing in the path to escape.
-/

namespace Stencil.TypeExpr

open Text

variable {s path name : List Char} {ms : List Marker} {t : TypeExpr}

/-! ## The first form -/

theorem mapLeaf_derived_of_read {text : String} (h : read text = some t) :
    t.mapLeaf derived = t := by
  rw [mapLeaf_eq, (leaf_of_read h).2, wrap_markers]

theorem path_of_owner {owner : ModuleName} (owned : owner ∈ (wrap ms (qualified path name)).owner) :
    owner.path.toList = path := by
  rw [owner_wrap] at owned
  cases owned
  exact String.toList_ofList

/-- Where a text has no quotes, no owner's path needs any. -/
theorem isModulePath_of_read (h : readChars s = some t) (no_quote : '"' ∉ s) :
    ∀ owner ∈ t.owner, isModulePath owner.path.toList = true := by
  intro owner owned
  obtain ⟨ms, path, name, rfl, _, _, _, either⟩ := quotes_of_owner h owned
  rw [path_of_owner owned]
  rcases either with plain | ⟨_, _, _, lead, trail, _, _, rfl⟩
  · exact plain
  · exact absurd (by simp) no_quote

theorem quote_not_mem_writeMarkers (ms : List Marker) : '"' ∉ writeMarkers ms := by
  intro mem
  obtain ⟨m, _, among⟩ := List.mem_flatMap.mp mem
  cases m <;> exact absurd among (by decide +kernel)

theorem quote_not_mem_display (unquoted : '"' ∉ path) (identifier : isIdentifier name = true) :
    '"' ∉ (wrap ms (qualified path name)).display.toList := by
  have shape : (qualified path name).display.toList = path ++ '.' :: name := by
    simp [qualified, display, ModuleName.ofPath]
  have word : '"' ∉ name := fun mem =>
    absurd ((isWordChar_of_isIdentifier identifier).2 '"' mem) (by decide +kernel)
  rw [display_wrap, shape]
  simp [quote_not_mem_writeMarkers, unquoted, word]

theorem read_display_iff {text : String} (h : read text = some t) :
    read t.display = some t ↔ ∀ owner ∈ t.owner, isModulePath owner.path.toList = true := by
  constructor
  · intro again owner owned
    obtain ⟨ms, path, name, rfl, identifier, _, unquoted, _⟩ := quotes_of_owner h owned
    exact isModulePath_of_read again (quote_not_mem_display unquoted identifier) owner owned
  · intro plain
    rw [read_display (leaf_of_read h).1 plain, mapLeaf_derived_of_read h]

/-- An owner whose path may not stand without quotes was written in quotes. -/
theorem quotes_iff {text : String} (h : read text = some t) :
    (∃ ms path name, Quotes text.toList ms path name ∧ isModulePath path = false) ↔
      ¬ ∀ owner ∈ t.owner, isModulePath owner.path.toList = true := by
  constructor
  · rintro ⟨ms, path, name, quotes, rough⟩ plain
    obtain rfl := Option.some.inj (h.symm.trans (readChars_of_quotes quotes))
    have owned : ModuleName.ofPath (String.ofList path) ∈ (wrap ms (qualified path name)).owner := by
      rw [owner_wrap]
      rfl
    have smooth := plain _ owned
    rw [path_of_owner owned, rough] at smooth
    cases smooth
  · intro rough
    push Not at rough
    obtain ⟨owner, owned, rough⟩ := rough
    obtain ⟨ms, path, name, rfl, _, _, _, either⟩ := quotes_of_owner h owned
    rw [path_of_owner owned] at rough
    exact ⟨ms, path, name, either.resolve_left rough, Bool.eq_false_iff.mpr rough⟩

/-- An expression that was read is read back from its written form exactly if its leaf has no
owner or one whose path may stand without quotes. So it is if no path was quoted, and what is not
read back is what was written with a path in quotes that may not stand without them. -/
theorem display_round_trip {text : String} (h : read text = some t) :
    (read t.display = some t ↔ ∀ owner ∈ t.owner, isModulePath owner.path.toList = true) ∧
    ((∀ ms path name, ¬ Quotes text.toList ms path name) → read t.display = some t) ∧
    (read t.display ≠ some t ↔
      ∃ ms path name, Quotes text.toList ms path name ∧ isModulePath path = false) := by
  refine ⟨read_display_iff h, fun none_quoted => ?_, ?_⟩
  · refine (read_display_iff h).mpr (not_not.mp fun rough => ?_)
    obtain ⟨ms, path, name, quotes, _⟩ := (quotes_iff h).mpr rough
    exact none_quoted ms path name quotes
  · rw [quotes_iff h, ← read_display_iff h]

/-- A path with a blank needs its quotes, behind markers too. -/
theorem display_round_trip_blank : read "[] *\"a b/v2\".T" =
      some (.slice (.pointer (.named (some ⟨"a b/v2", "a_b"⟩) "T"))) ∧
    read "[]*a b/v2.T" ≠ some (.slice (.pointer (.named (some ⟨"a b/v2", "a_b"⟩) "T"))) := by
  have before : read "[] *\"a b/v2\".T" =
      some (.slice (.pointer (.named (some ⟨"a b/v2", "a_b"⟩) "T"))) := by decide +kernel
  obtain ⟨exactly, _, _⟩ := display_round_trip before
  refine ⟨before, fun again => ?_⟩
  exact absurd (exactly.mp again _ rfl) (by decide +kernel)

/-! ## The second form -/

theorem markerText_toList (t : TypeExpr) : t.markerText.toList = writeMarkers t.markers := by
  rw [markerText, String.toList_join, List.flatMap_map, writeMarkers]

theorem canonical_of_owner_none (leaf : Leaf t.leaf) (none_owns : t.owner = none) :
    t.canonical = t.display := by
  refine String.toList_injective ?_
  have whole : t.display.toList = writeMarkers t.markers ++ t.leaf.display.toList := by
    rw [← display_wrap, wrap_markers]
  rw [whole, ← markerText_toList, ← String.toList_append]
  generalize shape : t.leaf = l at leaf
  cases leaf with
  | builtin _ => simp only [canonical, bareName, shape, display]
  | owned _ =>
    rw [owner, shape] at none_owns
    cases none_owns
  | verbatim _ _ => simp only [canonical, bareName, shape, display]

theorem canonical_of_leaf {owner : ModuleName} {name : String}
    (leaf : t.leaf = named (some owner) name) : t.canonical.toList =
      writeMarkers t.markers ++ '"' :: (escaped owner.path.toList ++ '"' :: '.' :: name.toList) := by
  simp only [canonical, leaf]
  simp [markerText_toList, quoted]

theorem canonical_qualified (ms : List Marker) (path name : List Char) :
    (wrap ms (qualified path name)).canonical.toList =
      writeMarkers ms ++ '"' :: (escaped path ++ '"' :: '.' :: name) := by
  have markers : (wrap ms (qualified path name)).markers = ms :=
    (markers_wrap ms _).trans (List.append_nil ms)
  rw [canonical_of_leaf (leaf_wrap ms _), markers]
  simp [ModuleName.ofPath]

/-- The path is read back as it was escaped. -/
theorem read_canonical (some_path : path ≠ []) (unquoted : '"' ∉ path)
    (identifier : isIdentifier name = true) : read (wrap ms (qualified path name)).canonical =
      some (wrap ms (qualified (escaped path) name)) := by
  refine readChars_of_quotes ⟨escaped_ne_nil some_path, quote_not_mem_escaped unquoted, identifier,
    writeMarkers ms, [], lead_writeMarkers ms, by simp, ?_⟩
  rw [canonical_qualified, List.append_nil]

theorem path_injective {path' : List Char}
    (h : wrap ms (qualified path name) = wrap ms (qualified path' name)) : path = path' := by
  have owners := congrArg owner h
  rw [owner_wrap, owner_wrap] at owners
  have paths := congrArg ModuleName.path (Option.some.inj owners)
  exact String.ofList_injective paths

theorem read_canonical_iff {text : String} (h : read text = some t) :
    read t.canonical = some t ↔
      ∀ owner ∈ t.owner, escaped owner.path.toList = owner.path.toList := by
  cases owned : t.owner with
  | none =>
    have plain : ∀ owner ∈ t.owner, isModulePath owner.path.toList = true := by simp [owned]
    rw [canonical_of_owner_none (leaf_of_read h).1 owned, (read_display_iff h).mpr plain]
    simp
  | some owner =>
    obtain ⟨ms, path, name, rfl, identifier, some_path, unquoted, _⟩ := quotes_of_owner h owned
    rw [read_canonical some_path unquoted identifier, Option.some.injEq]
    have here : owner.path.toList = path := path_of_owner owned
    constructor
    · rintro same _ ⟨⟩
      rw [here]
      exact path_injective same
    · intro whole
      rw [← here, whole owner rfl]

/-- An expression that was read is read back from its form with a quoted path exactly if its leaf
has no owner or one with nothing to escape in the path. So the text tells such expressions apart,
by their markers, their owners and their names, and takes no import block to do it. -/
theorem canonical_round_trip {text : String} (h : read text = some t) :
    (read t.canonical = some t ↔
      ∀ owner ∈ t.owner, escaped owner.path.toList = owner.path.toList) ∧
    ∀ text' t', read text' = some t' →
      (∀ owner ∈ t.owner, escaped owner.path.toList = owner.path.toList) →
      (∀ owner ∈ t'.owner, escaped owner.path.toList = owner.path.toList) →
      t.canonical = t'.canonical →
      t.markers = t'.markers ∧ t.owner = t'.owner ∧ t.bareName = t'.bareName := by
  refine ⟨read_canonical_iff h, fun text' t' h' plain plain' same => ?_⟩
  have back := (read_canonical_iff h).mpr plain
  have back' := (read_canonical_iff h').mpr plain'
  rw [← same, back] at back'
  cases back'
  exact ⟨rfl, rfl, rfl⟩

/-- A path with letters of any script and blanks is read back, one with a backslash is not. -/
theorem canonical_round_trip_backslash :
    ∃ t t', read "[]\"größe x\".T" = some t ∧ read t.canonical = some t ∧
      read "*\"a\\b\".T" = some t' ∧ t'.canonical = "*\"a\\\\b\".T" ∧
      read t'.canonical ≠ some t' := by
  have before : read "[]\"größe x\".T" =
      some (.slice (.named (some (ModuleName.ofPath "größe x")) "T")) := by decide +kernel
  have before' : read "*\"a\\b\".T" =
      some (.pointer (.named (some (ModuleName.ofPath "a\\b")) "T")) := by decide +kernel
  refine ⟨_, _, before, (canonical_round_trip before).1.mpr ?_, before', by decide +kernel, ?_⟩
  · rintro _ ⟨⟩
    decide +kernel
  · intro again
    exact absurd ((canonical_round_trip before').1.mp again _ rfl) (by decide +kernel)

end Stencil.TypeExpr
