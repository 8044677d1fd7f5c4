import Stencil.Generation
import Stencil.Proofs.Location.Directory

/-
  The directory of an output. A path without its last component is its parent, and the location
  that a generation loads first is the output's parent, spelled so that it is local.

  Proved: `destination_normalized`. Whatever the parent is called, its location is never searched
  for under the roots, and names the directory that all components of the output but the last
  lead to.
-/

namespace Stencil.Paths

/-! ## Components, part by part -/

/-- Whether a part names something. -/
def names (part : List Char) : Bool := part ≠ [] ∧ part ≠ ['.']

/-- What a path begins with, besides the parts that name something. -/
def lead (parts : List (List Char)) : List (List Char) :=
  if parts.head? = some [] ∧ parts ≠ [[]] then [['/']]
  else if parts.head? = some ['.'] then [['.']]
  else []

section

variable {parts kept : List (List Char)} {path dir : List Char}

/-- An absolute path has an empty part in front. -/
theorem isAbsolute_iff (path : List Char) : isAbsolute path = true ↔
    (path.splitOn '/').head? = some [] ∧ path.splitOn '/' ≠ [[]] := by
  cases path with
  | nil => simp [isAbsolute, List.splitOn_nil]
  | cons c path =>
    rw [isAbsolute, List.splitOn_cons_eq_if_modifyHead]
    cases split : path.splitOn '/' with
    | nil => exact absurd split (List.splitOn_ne_nil _ _)
    | cons first rest =>
      by_cases slash : c = '/' <;> simp [slash]

theorem components_eq (path : List Char) :
    components path = lead (path.splitOn '/') ++ (path.splitOn '/').filter names := by
  unfold components lead
  simp only [isAbsolute_iff]
  split
  · rfl
  · split <;> rfl

/-- Only the first part counts, and whether it is the only one. -/
theorem lead_append (some_kept : kept ≠ []) (not_root : kept ≠ [[]]) (more : List (List Char)) :
    lead (kept ++ more) = lead kept := by
  have goes_on : kept ++ more ≠ [[]] := by
    intro root
    rcases List.append_eq_singleton_iff.mp root with ⟨none_kept, _⟩ | ⟨root, _⟩
    · exact some_kept none_kept
    · exact not_root root
  have first : (kept ++ more).head? = kept.head? := by
    rw [List.head?_append, Option.or_of_isSome (List.isSome_head?.mpr some_kept)]
  rw [lead, lead, first]
  simp [goes_on, not_root]

/-! ## Parents -/

/-- Only parts that name nothing are dropped; of what is left, last part first, the last one
names something or is the only one. -/
theorem dropIdle_eq (some_parts : parts ≠ []) :
    ∃ idle last before, parts = idle ++ last :: before ∧ dropIdle parts = last :: before ∧
      (∀ part ∈ idle, names part = false) ∧ (before = [] ∨ names last = true) := by
  fun_induction dropIdle parts with
  | case1 => exact absurd rfl some_parts
  | case2 part before idle ih =>
    obtain ⟨others, last, rest, shape, dropped, all, either⟩ := ih idle.1
    refine ⟨part :: others, last, rest, by rw [shape]; rfl, dropped, fun other mem => ?_, either⟩
    rcases List.mem_cons.mp mem with rfl | mem
    · exact decide_eq_false fun some_name => idle.2.elim some_name.1 some_name.2
    · exact all other mem
  | case3 part before stays =>
    refine ⟨[], part, before, rfl, rfl, by simp, ?_⟩
    by_cases only : before = []
    · exact .inl only
    · exact .inr (decide_eq_true
        ⟨fun empty => stays ⟨only, .inl empty⟩, fun dot => stays ⟨only, .inr dot⟩⟩)

/-- The same of the parts as they stand in the path. -/
theorem dropIdle_reverse (some_parts : parts ≠ []) :
    ∃ front last idle, parts = front ++ last :: idle ∧
      dropIdle parts.reverse = last :: front.reverse ∧ idle.filter names = [] ∧
      (front = [] ∨ names last = true) := by
  obtain ⟨idle, last, before, shape, dropped, all, either⟩ :=
    dropIdle_eq (List.reverse_ne_nil_iff.mpr some_parts)
  refine ⟨before.reverse, last, idle.reverse, ?_, ?_, ?_, ?_⟩
  · rw [← List.reverse_reverse parts, shape]
    simp
  · rw [dropped, List.reverse_reverse]
  · rw [List.filter_eq_nil_iff]
    exact fun part mem => by simpa using all part (List.mem_reverse.mp mem)
  · rwa [List.reverse_eq_nil_iff]

/-- The parent that the parts of a path give. -/
inductive Parting : List (List Char) → Option (List Char) → Prop where
  | root {idle : List (List Char)} (unnamed : idle.filter names = []) :
    Parting ([] :: idle) none
  | single {only : List Char} {idle : List (List Char)} (some_only : only ≠ [])
      (unnamed : idle.filter names = []) : Parting (only :: idle) (some [])
  | below {kept skipped idle : List (List Char)} {last : List Char} (some_kept : kept ≠ [])
      (unnamed : skipped.filter names = []) (named : names last = true)
      (unnamed' : idle.filter names = []) :
    Parting (kept ++ (skipped ++ last :: idle))
      (some (if kept = [[]] then ['/'] else ['/'].intercalate kept))

theorem parting (path : List Char) : Parting (path.splitOn '/') (parent path) := by
  obtain ⟨front, last, idle, parts, dropped, unnamed, either⟩ :=
    dropIdle_reverse (List.splitOn_ne_nil '/' path)
  rw [parent, dropped, parts]
  -- what is left of the path has one part, or more, and then the last is taken off and what
  -- names nothing before it is dropped again
  by_cases only : front = []
  · subst only
    change Parting (last :: idle) (if last = [] then none else some [])
    split
    · rename_i root
      exact root ▸ .root unnamed
    · rename_i some_last
      exact .single some_last unnamed
  · obtain ⟨kept, second, skipped, shape, dropped', unnamed', _⟩ := dropIdle_reverse only
    obtain ⟨next, before, back⟩ :=
      List.exists_cons_of_ne_nil (List.reverse_ne_nil_iff.mpr only)
    have below : Parting ((kept ++ [second]) ++ (skipped ++ last :: idle))
        (some (if kept ++ [second] = [[]] then ['/'] else ['/'].intercalate (kept ++ [second]))) :=
      .below (by simp) unnamed' (either.resolve_left only) unnamed
    rw [back] at dropped' ⊢
    dsimp only
    rw [dropped']
    split
    · rename_i root
      obtain ⟨rfl, none_before⟩ := List.cons.inj root
      obtain rfl := List.reverse_eq_nil_iff.mp none_before
      simpa [shape] using below
    · rename_i not_root
      have other : kept ++ [second] ≠ [[]] := by
        intro root
        have both : kept = [] ∧ second = [] := by
          simpa [List.append_eq_singleton_iff] using root
        exact not_root (by simp [both])
      simpa [shape, other] using below

/-- A path has no component besides the root and no parent, or it has the components of its parent
and one more. -/
theorem components_cases (path : List Char) :
    (parent path = none ∧ (components path = [] ∨ components path = [['/']])) ∨
      ∃ dir last, parent path = some dir ∧ components path = components dir ++ [last] ∧
        last ≠ ['/'] := by
  have cases := parting path
  have no_slash := Text.sep_not_mem_splitOn '/' path
  rw [components_eq path]
  generalize path.splitOn '/' = parts at cases no_slash
  generalize parent path = found at cases
  have not_root : ∀ part ∈ parts, part ≠ ['/'] := by
    rintro part mem rfl
    exact no_slash ['/'] mem List.mem_cons_self
  cases cases with
  | @root idle unnamed =>
    refine .inl ⟨rfl, ?_⟩
    by_cases alone : idle = []
    · simp [alone, lead, names]
    · simp [alone, lead, names, unnamed]
  | @single only idle some_only unnamed =>
    refine .inr ⟨[], only, rfl, ?_, not_root only List.mem_cons_self⟩
    rw [List.filter_cons, unnamed]
    by_cases dot : only = ['.']
    · simp [dot, lead, names, components, isAbsolute]
    · simp [dot, lead, names, components, isAbsolute, some_only]
  | @below kept skipped idle last some_kept unnamed named unnamed' =>
    refine .inr ⟨_, last, rfl, ?_, not_root last (by simp)⟩
    rw [List.filter_append, List.filter_append, unnamed, List.filter_cons_of_pos named, unnamed',
      List.nil_append, ← List.append_assoc]
    split
    -- the slash that is written for the root is split into two parts, so it goes by itself
    · rename_i root
      have begins : lead ([[]] ++ (skipped ++ last :: idle)) = [['/']] := by simp [lead]
      rw [root, begins]
      rfl
    · rename_i not_root
      have again : (['/'].intercalate kept).splitOn '/' = kept :=
        List.splitOn_intercalate '/' (fun part mem =>
          no_slash part (List.mem_append_left _ mem)) some_kept
      rw [lead_append some_kept not_root, components_eq, again]

theorem components_parent (h : parent path = some dir) :
    components dir = (components path).dropLast := by
  rcases components_cases path with ⟨none_there, _⟩ | ⟨dir', last, found, whole, _⟩
  · rw [h] at none_there
    cases none_there
  · rw [h] at found
    cases found
    rw [whole, List.dropLast_concat]

/-- A path without a parent has no component besides the root. -/
theorem parent_eq_none_iff (path : List Char) :
    parent path = none ↔ components path = [] ∨ components path = [['/']] := by
  rcases components_cases path with ⟨none_there, either⟩ | ⟨dir, last, found, whole, not_root⟩
  · exact iff_of_true none_there either
  · rw [found, whole]
    simp [List.append_eq_singleton_iff, not_root]

end

end Stencil.Paths

namespace Stencil

/-! ## The location of an output -/

section

variable {workingDir output : String} {dir : List Char}

theorem isAbsolute_of_not_isLocalChars (h : ¬ Location.isLocalChars dir = true) :
    Paths.isAbsolute dir = false := by
  cases dir with
  | nil => rfl
  | cons c dir =>
    by_cases slash : c = '/'
    · subst slash
      exact absurd rfl h
    · simp [Paths.isAbsolute, slash]

theorem isLocal_destination (output : String) : Location.isLocal (destination output) = true := by
  unfold destination Location.isLocal
  split
  · decide +kernel
  · decide +kernel
  · split
    · rename_i loc
      rwa [String.toList_ofList]
    · rw [String.toList_ofList]
      rfl

theorem toList_destination (h : Paths.parent output.toList = some dir) :
    (destination output).toList =
      if dir = [] then ['.'] else if Location.isLocalChars dir then dir else '.' :: '/' :: dir := by
  rw [destination, h]
  cases dir with
  | nil => rfl
  | cons c dir =>
    by_cases loc : Location.isLocalChars (c :: dir) = true <;> simp [loc]

/-- A dot in front leads nowhere. -/
theorem fold_dot (at_ : List (List Char)) (path : List Char) :
    Location.fold at_ ('.' :: '/' :: path) = Location.fold at_ path := by
  have parts : ('.' :: '/' :: path).splitOn '/' = ['.'] :: path.splitOn '/' := by
    simp [List.splitOn_cons_eq_if_modifyHead]
  rw [Location.fold, parts]
  rfl

/-- Neither the dot for an empty parent nor the dot in front of another one leads elsewhere. -/
theorem directory_destination (h : Paths.parent output.toList = some dir) :
    Location.directory (some workingDir) (destination output) =
      (Paths.components workingDir.toList ++ Paths.components dir).foldl Location.enter [] := by
  rw [Location.directory, List.foldl_append, List.foldl_append, Option.getD_some,
    Location.foldl_enter_components _ (List.foldl _ _ _),
    Location.foldl_enter_components _ (List.foldl _ _ _), toList_destination h]
  split
  · rename_i empty
    rw [empty]
    rfl
  · split
    · rfl
    · rename_i not_local
      rw [fold_dot, isAbsolute_of_not_isLocalChars not_local]
      rfl

/-- The location of an output is local, so it is not searched for under the roots. It names the
directory that the output's components but the last lead to, from the working directory if the
output is not absolute. -/
theorem destination_normalized (workingDir output : String) :
    (Paths.parent output.toList = none ↔
      Paths.components output.toList = [] ∨ Paths.components output.toList = [['/']]) ∧
    ∀ dir, Paths.parent output.toList = some dir →
      Paths.components dir = (Paths.components output.toList).dropLast ∧
      Location.isLocal (destination output) = true ∧
      ∃ key, Location.normalize (some workingDir) (destination output) = .ok key ∧
        key = Location.write ((Paths.components workingDir.toList ++
          Paths.components dir).foldl Location.enter []) ∧
        ∀ (catalog : Catalog) (isFile : String → Bool),
          catalog.locate isFile (some workingDir) (destination output) =
            if isFile (Paths.join key catalog.manifestName) then
              .ok (Paths.join key catalog.manifestName)
            else .error (.notFound (destination output)) := by
  refine ⟨Paths.parent_eq_none_iff _, fun dir h => ?_⟩
  have loc := isLocal_destination output
  have normal : Location.normalize (some workingDir) (destination output) = _ :=
    Location.normalize_of_isLocal loc
  rw [if_neg (by simp), directory_destination h] at normal
  exact ⟨Paths.components_parent h, loc, _, normal, rfl, fun catalog isFile =>
    Location.locate_of_isLocal catalog isFile loc normal⟩

/-- A name that begins with dots stays a name, and one that is left again is gone. -/
theorem destination_normalized_dots :
    Location.normalize (some "/w/d") (destination "..gen/x") = .ok "/w/d/..gen" ∧
    Location.normalize (some "/w/d") (destination "gen/../x") = .ok "/w/d" ∧
    Location.normalize (some "/w/d") (destination "../x") = .ok "/w" ∧
    Location.normalize (some "/w/d") (destination "/.gen/./x/") = .ok "/.gen" := by
  have key (output : String) {dir : List Char} {written : String}
      (h : Paths.parent output.toList = some dir)
      (folded : Location.write (([['/'], ['w'], ['d']] ++
        Paths.components dir).foldl Location.enter []) = written) :
      Location.normalize (some "/w/d") (destination output) = .ok written := by
    obtain ⟨_, _, _, normal, rfl, _⟩ := (destination_normalized "/w/d" output).2 dir h
    exact folded ▸ normal
  have named : Paths.parent "..gen/x".toList = some "..gen".toList := by decide +kernel
  have left : Paths.parent "gen/../x".toList = some "gen/..".toList := by decide +kernel
  have up : Paths.parent "../x".toList = some "..".toList := by decide +kernel
  have hidden : Paths.parent "/.gen/./x/".toList = some "/.gen".toList := by decide +kernel
  exact ⟨key _ named (by decide +kernel), key _ left (by decide +kernel),
    key _ up (by decide +kernel), key _ hidden (by decide +kernel)⟩

end

end Stencil
