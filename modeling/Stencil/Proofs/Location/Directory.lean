import Stencil.Catalog
import Stencil.Proofs.Text.Cut

/-
  Directories and their keys. A local location names a directory: its components, after those of
  the working directory, are gone through one by one. Normalizing writes that directory as an
  absolute path.

  Proved: `one_key`. A directory has one key, which is its own key, and a catalog finds the same
  manifest for a location and for its key.
-/

namespace Stencil.Location

/-! ## Directories -/

/-- One component of a path: the root starts over, a dot stays, two dots go up where that is
possible, and a name goes down. -/
def enter (at_ : List (List Char)) (component : List Char) : List (List Char) :=
  if component = ['/'] then []
  else if component = ['.'] then at_
  else if component = ['.', '.'] then at_.dropLast
  else at_ ++ [component]

/-- The directory that a local location names, as the names on the way to it. -/
def directory (workingDir : Option String) (location : String) : List (List Char) :=
  (Paths.components (workingDir.getD "").toList ++
    Paths.components location.toList).foldl enter []

/-- What leads down by one directory. -/
structure IsName (part : List Char) : Prop where
  not_empty : part ≠ []
  not_dot : part ≠ ['.']
  not_dots : part ≠ ['.', '.']
  no_slash : '/' ∉ part

section

variable {part path : List Char} {parts at_ : List (List Char)} {location : String}
  {workingDir : Option String}

/-! ## Folding -/

/-- Parts that name nothing may be left out before. -/
theorem foldl_enter_named (no_slash : ∀ part ∈ parts, '/' ∉ part) (at_ : List (List Char)) :
    (parts.filter fun part => part ≠ [] ∧ part ≠ ['.']).foldl enter at_ =
      parts.foldl step at_ := by
  induction parts generalizing at_ with
  | nil => rfl
  | cons part parts ih =>
    have rest := ih fun other mem => no_slash other (List.mem_cons_of_mem part mem)
    by_cases idle : part = [] ∨ part = ['.']
    · have dropped : ¬ (part ≠ [] ∧ part ≠ ['.']) := fun ⟨full, other⟩ => idle.elim full other
      rw [List.filter_cons_of_neg (by simpa using dropped), rest, List.foldl_cons, step,
        if_pos idle]
    · obtain ⟨not_empty, not_dot⟩ := not_or.mp idle
      have not_root : part ≠ ['/'] := by
        rintro rfl
        exact no_slash ['/'] List.mem_cons_self List.mem_cons_self
      have same : enter at_ part = step at_ part := by
        rw [enter, step, if_neg not_root, if_neg not_dot, if_neg idle]
      rw [List.filter_cons_of_pos (by simp [not_empty, not_dot]), List.foldl_cons,
        List.foldl_cons, same, rest]

/-- The components of a path lead where the path leads, from the root if it is absolute. -/
theorem foldl_enter_components (path : List Char) (at_ : List (List Char)) :
    (Paths.components path).foldl enter at_ =
      fold (if Paths.isAbsolute path then [] else at_) path := by
  have named := foldl_enter_named (Text.sep_not_mem_splitOn '/' path)
  unfold Paths.components fold
  dsimp only
  split
  · exact named []
  · split
    · exact named at_
    · exact named at_

/-- Normalizing fails if the location needs a working directory and there is none. -/
theorem normalize_of_isLocal (loc : isLocal location = true) :
    normalize workingDir location =
      if Paths.isAbsolute location.toList = false ∧ workingDir = none then
        .error (.unresolvable location .notFound)
      else .ok (write (directory workingDir location)) := by
  unfold normalize directory
  rw [List.foldl_append, foldl_enter_components, foldl_enter_components, loc]
  cases absolute : Paths.isAbsolute location.toList with
  | true => simp
  | false =>
    cases workingDir with
    | none => simp
    | some dir => simp

/-! ## Names -/

theorem isName_step (names : ∀ part ∈ at_, IsName part) (no_slash : '/' ∉ part) :
    ∀ other ∈ step at_ part, IsName other := by
  unfold step
  split
  · exact names
  · rename_i not_idle
    obtain ⟨not_empty, not_dot⟩ := not_or.mp not_idle
    split
    · exact fun other mem => names other (List.dropLast_subset at_ mem)
    · rename_i not_dots
      intro other mem
      rcases List.mem_append.mp mem with mem | mem
      · exact names other mem
      · rw [List.mem_singleton.mp mem]
        exact ⟨not_empty, not_dot, not_dots, no_slash⟩

theorem isName_foldl (names : ∀ part ∈ at_, IsName part)
    (no_slash : ∀ part ∈ parts, '/' ∉ part) : ∀ part ∈ parts.foldl step at_, IsName part := by
  induction parts generalizing at_ with
  | nil => exact names
  | cons part parts ih =>
    exact ih (isName_step names (no_slash part List.mem_cons_self))
      fun other mem => no_slash other (List.mem_cons_of_mem part mem)

theorem isName_directory (workingDir : Option String) (location : String) :
    ∀ part ∈ directory workingDir location, IsName part := by
  unfold directory
  rw [List.foldl_append, foldl_enter_components, foldl_enter_components]
  refine isName_foldl ?_ (Text.sep_not_mem_splitOn '/' _)
  split
  · simp
  · exact isName_foldl (by simp) (Text.sep_not_mem_splitOn '/' _)

theorem foldl_enter_names (names : ∀ part ∈ parts, IsName part) (at_ : List (List Char)) :
    parts.foldl enter at_ = at_ ++ parts := by
  induction parts generalizing at_ with
  | nil => simp
  | cons part parts ih =>
    obtain ⟨_, not_dot, not_dots, no_slash⟩ := names part List.mem_cons_self
    have not_root : part ≠ ['/'] := by
      rintro rfl
      exact no_slash List.mem_cons_self
    rw [List.foldl_cons, ih fun other mem => names other (List.mem_cons_of_mem part mem), enter,
      if_neg not_root, if_neg not_dot, if_neg not_dots, List.append_assoc,
      List.singleton_append]

/-! ## Written directories -/

theorem toList_write (parts : List (List Char)) :
    (write parts).toList = '/' :: ['/'].intercalate parts :=
  String.toList_ofList

theorem isAbsolute_write (parts : List (List Char)) :
    Paths.isAbsolute (write parts).toList = true := by
  rw [toList_write]
  rfl

theorem isLocal_write (parts : List (List Char)) : isLocal (write parts) = true := by
  rw [isLocal, toList_write]
  rfl

/-- What is written is a slash for the root and then the names, and no other component. -/
theorem components_write (names : ∀ part ∈ parts, IsName part) :
    Paths.components (write parts).toList = ['/'] :: parts := by
  have split : (write parts).toList.splitOn '/' = [] :: (['/'].intercalate parts).splitOn '/' := by
    rw [toList_write, List.splitOn_cons_eq_if_modifyHead]
    rfl
  have named : ((write parts).toList.splitOn '/').filter
      (fun part => part ≠ [] ∧ part ≠ ['.']) = parts := by
    rw [split]
    cases parts with
    | nil => rfl
    | cons first rest =>
      rw [List.splitOn_intercalate '/' (fun part mem => (names part mem).no_slash) (by simp),
        List.filter_cons_of_neg (by simp), List.filter_eq_self]
      intro part mem
      simp [(names part mem).not_empty, (names part mem).not_dot]
  unfold Paths.components
  dsimp only
  rw [isAbsolute_write, named]
  rfl

theorem directory_write (workingDir : Option String) (names : ∀ part ∈ parts, IsName part) :
    directory workingDir (write parts) = parts := by
  rw [directory, components_write names, List.foldl_append, List.foldl_cons]
  exact foldl_enter_names names []

/-- A written directory is its own key. -/
theorem normalize_write (workingDir : Option String) (names : ∀ part ∈ parts, IsName part) :
    normalize workingDir (write parts) = .ok (write parts) := by
  rw [normalize_of_isLocal (isLocal_write parts), directory_write workingDir names,
    if_neg (by simp [isAbsolute_write])]

theorem write_inj {others : List (List Char)} (names : ∀ part ∈ parts, IsName part)
    (names' : ∀ part ∈ others, IsName part) (same : write parts = write others) :
    parts = others := by
  have components := components_write names
  rw [same, components_write names'] at components
  exact (List.cons.inj components).2.symm

theorem normalize_of_not_isLocal (h : isLocal location = false) :
    normalize workingDir location = .ok location := by
  unfold normalize
  rw [h]
  rfl

end

/-! ## Keys -/

section

variable {workingDir : Option String} {location key : String}

theorem key_eq_write (loc : isLocal location = true)
    (normal : normalize workingDir location = .ok key) :
    key = write (directory workingDir location) := by
  rw [normalize_of_isLocal loc] at normal
  split at normal
  · cases normal
  · exact (Except.ok.inj normal).symm

theorem normalize_key (normal : normalize workingDir location = .ok key) :
    normalize workingDir key = .ok key := by
  cases loc : isLocal location with
  | true =>
    rw [key_eq_write loc normal]
    exact normalize_write workingDir (isName_directory workingDir location)
  | false =>
    rw [normalize_of_not_isLocal loc] at normal
    cases normal
    exact normalize_of_not_isLocal loc

/-- The manifest of a directory is the one in it, if that is a file. -/
theorem locate_of_isLocal (catalog : Catalog) (isFile : String → Bool)
    (loc : isLocal location = true) (normal : normalize workingDir location = .ok key) :
    catalog.locate isFile workingDir location =
      if isFile (Paths.join key catalog.manifestName) then
        .ok (Paths.join key catalog.manifestName)
      else .error (.notFound location) := by
  rw [Catalog.locate, if_pos loc, normal]
  rfl

theorem locate_key (catalog : Catalog) (isFile : String → Bool)
    (normal : normalize workingDir location = .ok key) :
    (catalog.locate isFile workingDir key).toOption =
      (catalog.locate isFile workingDir location).toOption := by
  cases loc : isLocal location with
  | false =>
    rw [normalize_of_not_isLocal loc] at normal
    cases normal
    rfl
  | true =>
    have loc' : isLocal key = true := by
      rw [key_eq_write loc normal]
      exact isLocal_write _
    rw [locate_of_isLocal catalog isFile loc normal,
      locate_of_isLocal catalog isFile loc' (normalize_key normal)]
    split <;> rfl

end

/-- Every location has a key, unless it is relative and there is no working directory. A module
path is its own key. The key of a directory is the absolute path of the names that lead to it,
so two local locations have one key exactly if they name one directory. -/
theorem one_key (workingDir : Option String) (location : String) :
    (∀ why, normalize workingDir location = .error why ↔
      isLocal location = true ∧ Paths.isAbsolute location.toList = false ∧ workingDir = none ∧
        why = .unresolvable location .notFound) ∧
    (isLocal location = false → normalize workingDir location = .ok location) ∧
    ∀ key, normalize workingDir location = .ok key →
      normalize workingDir key = .ok key ∧
      (isLocal location = true →
        key = write (directory workingDir location) ∧
        Paths.components key.toList = ['/'] :: directory workingDir location ∧
        (∀ part ∈ directory workingDir location, IsName part) ∧
        ∀ other key', isLocal other = true → normalize workingDir other = .ok key' →
          (key = key' ↔ directory workingDir location = directory workingDir other)) ∧
      ∀ (catalog : Catalog) (isFile : String → Bool),
        (catalog.locate isFile workingDir key).toOption =
          (catalog.locate isFile workingDir location).toOption := by
  refine ⟨fun why => ?_, normalize_of_not_isLocal, fun key normal => ⟨normalize_key normal,
    fun loc => ?_, fun catalog isFile => locate_key catalog isFile normal⟩⟩
  · cases loc : isLocal location with
    | false => simp [normalize_of_not_isLocal loc]
    | true =>
      rw [normalize_of_isLocal loc]
      split
      · rename_i gone
        simp [gone.1, gone.2, eq_comm]
      · rename_i found
        simp only [reduceCtorEq, true_and, false_iff]
        exact fun ⟨relative, gone, _⟩ => found ⟨relative, gone⟩
  · have names := isName_directory workingDir location
    have written := key_eq_write loc normal
    refine ⟨written, written ▸ components_write names, names, fun other key' loc' normal' => ?_⟩
    have written' := key_eq_write loc' normal'
    constructor
    · rintro rfl
      exact write_inj names (isName_directory workingDir other) (written.symm.trans written')
    · intro same
      rw [written, written', same]

end Stencil.Location
