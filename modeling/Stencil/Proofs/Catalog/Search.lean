import Mathlib.Data.List.Induction
import Mathlib.Data.List.Nodup
import Stencil.Catalog

/-
  The search for the manifest of a module path. Root by root, it keeps the manifests that exist,
  but none that is already there under another spelling; what is kept in the end decides.

  Proved: `locate_outcome`. No root, one path, or several: which of the three it is does not
  depend on the order of the roots or on how often one is given.
-/

namespace Stencil.Catalog

/-! ## First paths -/

/-- What a path names. -/
abbrev named (path : String) : List (List Char) := Paths.components path.toList

/-- The paths of a list, each but once and where it stands first. Paths that are equal component
by component count as one. -/
structure Firsts (held listed : List String) : Prop where
  mem_iff : ∀ path, path ∈ listed ↔ held.find? (Paths.same path) = some path
  ordered : listed.Pairwise fun path other => held.idxOf path < held.idxOf other

section

variable {held listed : List String} {path other : String}

theorem same_iff : Paths.same path other = true ↔ named path = named other := by
  simp [Paths.same]

/-- A search only asks what the path names. -/
theorem find?_same (h : named path = named other) :
    held.find? (Paths.same path) = held.find? (Paths.same other) := by
  have tests : Paths.same path = Paths.same other := by
    funext third
    simp only [Paths.same]
    rw [show Paths.components path.toList = Paths.components other.toList from h]
  rw [tests]

/-- Every path that is held is listed, as it is written first. -/
theorem Firsts.exists_listed (h : Firsts held listed) (mem : path ∈ held) :
    ∃ first ∈ listed, named first = named path := by
  have found : (held.find? (Paths.same path)).isSome := by
    rw [List.find?_isSome]
    exact ⟨path, mem, same_iff.mpr rfl⟩
  obtain ⟨first, isFirst⟩ := Option.isSome_iff_exists.mp found
  have same : named path = named first := same_iff.mp (List.find?_some isFirst)
  exact ⟨first, (h.mem_iff first).mpr ((find?_same same).symm.trans isFirst), same.symm⟩

theorem Firsts.subset (h : Firsts held listed) : ∀ path ∈ listed, path ∈ held :=
  fun path mem => List.mem_of_find?_eq_some ((h.mem_iff path).mp mem)

theorem Firsts.nodup (h : Firsts held listed) : (listed.map named).Nodup := by
  rw [List.nodup_map_iff_inj_on]
  · intro path mem other mem' same
    have isFirst := (h.mem_iff path).mp mem
    have isFirst' := (h.mem_iff other).mp mem'
    rw [find?_same same, isFirst'] at isFirst
    exact (Option.some.inj isFirst).symm
  · exact h.ordered.imp fun before same => absurd (congrArg held.idxOf same) (Nat.ne_of_lt before)

/-! ## Keeping -/

theorem firsts_nil : Firsts [] [] := ⟨by simp, .nil⟩

/-- In a longer list a path stands where it stood. -/
theorem Firsts.ordered_append (h : Firsts held listed) (more : List String) :
    listed.Pairwise fun path other => (held ++ more).idxOf path < (held ++ more).idxOf other := by
  refine h.ordered.imp_of_mem fun mem mem' before => ?_
  rw [List.idxOf_append_of_mem (h.subset _ mem), List.idxOf_append_of_mem (h.subset _ mem')]
  exact before

/-- A path that is listed already changes nothing. -/
theorem Firsts.again (h : Firsts held listed) (old : other ∈ listed)
    (same : named path = named other) : Firsts (held ++ [path]) listed := by
  refine ⟨fun third => ?_, h.ordered_append [path]⟩
  rw [h.mem_iff, List.find?_append]
  cases found : held.find? (Paths.same third) with
  | some first => simp
  | none =>
    -- what is not held is not equal to the path either, since that one is held
    have apart : Paths.same third path = false := by
      rw [Bool.eq_false_iff]
      intro equal
      have isFirst := (h.mem_iff other).mp old
      rw [find?_same ((same_iff.mp equal).trans same), isFirst] at found
      cases found
    simp [apart]

/-- What nothing listed is equal to, nothing held is equal to. -/
theorem Firsts.find?_eq_none (h : Firsts held listed)
    (new : ∀ other ∈ listed, named path ≠ named other) :
    held.find? (Paths.same path) = none := by
  rw [List.find?_eq_none]
  intro other mem same
  obtain ⟨first, isListed, isFirst⟩ := h.exists_listed mem
  exact new first isListed ((same_iff.mp same).trans isFirst.symm)

/-- A new path comes last. -/
theorem Firsts.concat (h : Firsts held listed)
    (new : ∀ other ∈ listed, named path ≠ named other) :
    Firsts (held ++ [path]) (listed ++ [path]) := by
  have self : Paths.same path path = true := same_iff.mpr rfl
  have noneHeld := h.find?_eq_none new
  have notHeld : path ∉ held := fun mem => List.find?_eq_none.mp noneHeld path mem self
  refine ⟨fun third => ?_, List.pairwise_append.mpr ⟨h.ordered_append [path], by simp, ?_⟩⟩
  · rw [List.mem_append, List.mem_singleton, h.mem_iff, List.find?_append]
    by_cases last : third = path
    · subst last
      simp [noneHeld, self]
    · cases held.find? (Paths.same third) with
      | some first => simp [last]
      | none =>
        have other : [path].find? (Paths.same third) ≠ some third := by
          intro isLast
          exact last (List.mem_singleton.mp (List.mem_of_find?_eq_some isLast))
        simp only [last, or_false, Option.none_or, other, reduceCtorEq]
  · intro first isListed last isLast
    obtain rfl := List.mem_singleton.mp isLast
    have mem := h.subset first isListed
    have before := List.idxOf_lt_length_of_mem mem
    rw [List.idxOf_append_of_mem mem, List.idxOf_append_of_notMem notHeld]
    omega

theorem found_concat (isFile : String → Bool) (paths : List String) (path : String) :
    found isFile (paths ++ [path]) =
      if isFile path && !(found isFile paths).any (Paths.same path) then
        found isFile paths ++ [path]
      else found isFile paths := by
  unfold found
  rw [List.foldl_append]
  rfl

/-- What is kept in the end are the paths that exist, each where it stands first. -/
theorem firsts_found (isFile : String → Bool) (paths : List String) :
    Firsts (paths.filter isFile) (found isFile paths) := by
  induction paths using List.reverseRecOn with
  | nil => exact firsts_nil
  | append_singleton paths path ih =>
    rw [found_concat, List.filter_append]
    cases present : isFile path with
    | false => simpa [present] using ih
    | true =>
      rw [List.filter_cons_of_pos present, List.filter_nil, Bool.true_and]
      cases listed : (found isFile paths).any (Paths.same path) with
      | true =>
        obtain ⟨other, old, same⟩ := List.any_eq_true.mp listed
        exact ih.again old (same_iff.mp same)
      | false =>
        refine ih.concat fun other old same => ?_
        rw [List.any_eq_false] at listed
        exact listed other old (same_iff.mpr same)

/-! ## Outcomes -/

/-- What is found, given the manifests that are kept. -/
def outcomeOf (location : String) : List String → Except LoadError String
  | [] => .error (.notFound location)
  | [manifest] => .ok manifest
  | manifests => .error (.ambiguous location manifests)

/-- The same outcome, up to the spelling of paths and the order of several. -/
inductive SameOutcome : Except LoadError String → Except LoadError String → Prop
  | notFound {location : String} :
    SameOutcome (.error (.notFound location)) (.error (.notFound location))
  | manifest {path other : String} (same : named path = named other) :
    SameOutcome (.ok path) (.ok other)
  | ambiguous {location : String} {paths others : List String}
      (permuted : (paths.map named).Perm (others.map named)) :
      SameOutcome (.error (.ambiguous location paths)) (.error (.ambiguous location others))

theorem sameOutcome_of_perm {paths others : List String}
    (permuted : (paths.map named).Perm (others.map named)) (location : String) :
    SameOutcome (outcomeOf location paths) (outcomeOf location others) := by
  have lengths : paths.length = others.length := by simpa using permuted.length_eq
  match paths, others, lengths with
  | [], [], _ => exact .notFound
  | [path], [other], _ => exact .manifest (by simpa using permuted)
  | path :: second :: paths, other :: third :: others, _ => exact .ambiguous permuted

theorem outcomeOf_eq_notFound_iff {location : String} :
    outcomeOf location listed = .error (.notFound location) ↔ listed = [] := by
  match listed with
  | [] => simp [outcomeOf]
  | [manifest] => simp [outcomeOf]
  | first :: second :: rest => simp [outcomeOf]

theorem outcomeOf_eq_ok_iff {location manifest : String} :
    outcomeOf location listed = .ok manifest ↔ listed = [manifest] := by
  match listed with
  | [] => simp [outcomeOf]
  | [other] => simp [outcomeOf]
  | first :: second :: rest => simp [outcomeOf]

theorem outcomeOf_of_several {location : String} (nonempty : listed ≠ [])
    (several : ∀ manifest, listed ≠ [manifest]) :
    outcomeOf location listed = .error (.ambiguous location listed) := by
  match listed with
  | [] => exact absurd rfl nonempty
  | [manifest] => exact absurd rfl (several manifest)
  | first :: second :: rest => rfl

theorem Firsts.eq_nil_iff (h : Firsts held listed) : listed = [] ↔ held = [] := by
  constructor
  · rintro rfl
    refine List.eq_nil_iff_forall_not_mem.mpr fun path mem => ?_
    obtain ⟨first, isListed, _⟩ := h.exists_listed mem
    exact absurd isListed List.not_mem_nil
  · rintro rfl
    exact List.eq_nil_iff_forall_not_mem.mpr fun path mem => List.not_mem_nil (h.subset path mem)

/-- One path is listed exactly if all that is held is equal to it. -/
theorem Firsts.eq_singleton_iff (h : Firsts held listed) : listed = [path] ↔
    held.head? = some path ∧ ∀ other ∈ held, named other = named path := by
  constructor
  · rintro rfl
    have all : ∀ other ∈ held, named other = named path := by
      intro other mem
      obtain ⟨first, isListed, same⟩ := h.exists_listed mem
      rw [← same, List.mem_singleton.mp isListed]
    have isFirst := (h.mem_iff path).mp List.mem_cons_self
    refine ⟨?_, all⟩
    cases held with
    | nil => cases isFirst
    | cons head rest =>
      have same : Paths.same path head = true := same_iff.mpr (all head List.mem_cons_self).symm
      rw [List.find?_cons_of_pos same] at isFirst
      exact isFirst
  · rintro ⟨head, all⟩
    obtain ⟨rest, rfl⟩ := List.head?_eq_some_iff.mp head
    have only : ∀ first ∈ listed, first = path := by
      intro first isListed
      have same := all first (h.subset first isListed)
      have isFirst := (h.mem_iff first).mp isListed
      rw [List.find?_cons_of_pos (same_iff.mpr same)] at isFirst
      exact (Option.some.inj isFirst).symm
    obtain ⟨first, isListed, _⟩ := h.exists_listed List.mem_cons_self
    match listed, only with
    | [], _ => exact absurd isListed List.not_mem_nil
    | [first], only => rw [only first List.mem_cons_self]
    | first :: second :: rest, only =>
      have before := (List.pairwise_cons.mp h.ordered).1 second List.mem_cons_self
      rw [only first (by simp), only second (by simp)] at before
      exact absurd before (Nat.lt_irrefl _)

/-- Each path that is held is listed exactly once. -/
theorem Firsts.count_eq_one (h : Firsts held listed) (mem : path ∈ held) :
    (listed.map named).count (named path) = 1 := by
  obtain ⟨first, isListed, same⟩ := h.exists_listed mem
  exact List.count_eq_one_of_mem h.nodup (same ▸ List.mem_map_of_mem isListed)

/-- What is listed is the same, up to order and spelling, if the same paths are held. -/
theorem Firsts.perm {held' listed' : List String} (h : Firsts held listed)
    (h' : Firsts held' listed') (same : ∀ path, path ∈ held ↔ path ∈ held') :
    (listed.map named).Perm (listed'.map named) := by
  have heldNames {held listed : List String} (h : Firsts held listed) (name : List (List Char)) :
      name ∈ listed.map named ↔ ∃ path ∈ held, named path = name := by
    constructor
    · intro mem
      obtain ⟨path, isListed, rfl⟩ := List.mem_map.mp mem
      exact ⟨path, h.subset path isListed, rfl⟩
    · rintro ⟨path, mem, rfl⟩
      obtain ⟨first, isListed, named_eq⟩ := h.exists_listed mem
      exact List.mem_map.mpr ⟨first, isListed, named_eq⟩
  rw [List.perm_ext_iff_of_nodup h.nodup h'.nodup]
  intro name
  rw [heldNames h, heldNames h']
  simp only [same]

end

/-! ## The search -/

/-- Where the manifest of a module path would be under a root. -/
def under (c : Catalog) (location root : String) : String :=
  Paths.join (Paths.join root location) c.manifestName

/-- The manifests of a module path that exist, root by root. -/
def held (c : Catalog) (isFile : String → Bool) (location : String) : List String :=
  (c.roots.map (c.under location)).filter isFile

theorem mem_held {c : Catalog} {isFile : String → Bool} {location path : String} :
    path ∈ c.held isFile location ↔
      isFile path = true ∧ ∃ root ∈ c.roots, c.under location root = path := by
  simp [held, and_comm]

theorem locate_of_not_isLocal (c : Catalog) (isFile : String → Bool) (workingDir : Option String)
    {location : String} (h : Location.isLocal location = false) :
    c.locate isFile workingDir location =
      outcomeOf location (found isFile (c.candidates location)) := by
  rw [locate, if_neg (by simp [h])]
  rfl

/-- A module path is not found exactly if no root holds its manifest. It is found exactly if all
roots that hold one give paths that are equal component by component, as the first of them
writes it. Otherwise it is ambiguous, and each path is listed once, in the order of the first
roots. Neither the order of the roots nor how often one is given counts. -/
theorem locate_outcome (c : Catalog) (isFile : String → Bool) (workingDir : Option String)
    {location : String} (h : Location.isLocal location = false) :
    (c.locate isFile workingDir location = .error (.notFound location) ↔
      ∀ root ∈ c.roots, isFile (c.under location root) = false) ∧
    (∀ manifest, c.locate isFile workingDir location = .ok manifest ↔
      (c.held isFile location).head? = some manifest ∧
        ∀ path ∈ c.held isFile location, named path = named manifest) ∧
    (∀ path ∈ c.held isFile location, ∀ other ∈ c.held isFile location, named path ≠ named other →
      ∃ listed, c.locate isFile workingDir location = .error (.ambiguous location listed) ∧
        Firsts (c.held isFile location) listed ∧
        ∀ path ∈ c.held isFile location, (listed.map named).count (named path) = 1) ∧
    ∀ c' : Catalog, c'.manifestName = c.manifestName → (∀ root, root ∈ c'.roots ↔ root ∈ c.roots) →
      SameOutcome (c.locate isFile workingDir location) (c'.locate isFile workingDir location) := by
  have firsts (c : Catalog) :
      Firsts (c.held isFile location) (found isFile (c.candidates location)) :=
    firsts_found isFile _
  rw [locate_of_not_isLocal c isFile workingDir h]
  refine ⟨?_, fun manifest => ?_, fun path mem other mem' apart => ?_, fun c' name roots => ?_⟩
  · rw [outcomeOf_eq_notFound_iff, (firsts c).eq_nil_iff, held, List.filter_eq_nil_iff]
    simp
  · rw [outcomeOf_eq_ok_iff, (firsts c).eq_singleton_iff]
  · refine ⟨found isFile (c.candidates location), ?_, firsts c, fun _ => (firsts c).count_eq_one⟩
    have several : ∀ manifest, found isFile (c.candidates location) ≠ [manifest] := by
      intro manifest one
      obtain ⟨_, all⟩ := (firsts c).eq_singleton_iff.mp one
      exact apart ((all path mem).trans (all other mem').symm)
    have nonempty : found isFile (c.candidates location) ≠ [] := by
      intro empty
      rw [(firsts c).eq_nil_iff] at empty
      rw [empty] at mem
      exact List.not_mem_nil mem
    exact outcomeOf_of_several nonempty several
  · rw [locate_of_not_isLocal c' isFile workingDir h]
    refine sameOutcome_of_perm ((firsts c).perm (firsts c') fun path => ?_) location
    rw [mem_held, mem_held]
    simp only [under, name, roots]

/-- Two directories, one of them given twice in two spellings. -/
def spelledTwice : Catalog := { roots := ["./r", "s", "./r/."] }

/-- Of three files two are listed, and so it is if the roots are given otherwise. -/
theorem locate_outcome_twice :
    Location.isLocal "m" = false ∧
    spelledTwice.held (fun _ => true) "m" =
      ["./r/m/module.xml", "s/m/module.xml", "./r/./m/module.xml"] ∧
    (∃ listed, spelledTwice.locate (fun _ => true) none "m" = .error (.ambiguous "m" listed) ∧
      Firsts ["./r/m/module.xml", "s/m/module.xml", "./r/./m/module.xml"] listed ∧
      (listed.map named).count (named "./r/./m/module.xml") = 1) ∧
    SameOutcome (spelledTwice.locate (fun _ => true) none "m")
      (({ roots := ["s", "./r/.", "./r", "s"] } : Catalog).locate (fun _ => true) none "m") := by
  have modulePath : Location.isLocal "m" = false := by decide +kernel
  have files : spelledTwice.held (fun _ => true) "m" =
      ["./r/m/module.xml", "s/m/module.xml", "./r/./m/module.xml"] := by decide +kernel
  have apart : named "./r/m/module.xml" ≠ named "s/m/module.xml" := by decide +kernel
  obtain ⟨_, _, several, again⟩ := locate_outcome spelledTwice (fun _ => true) none modulePath
  rw [files] at several
  obtain ⟨listed, outcome, firsts, once⟩ :=
    several "./r/m/module.xml" (by simp) "s/m/module.xml" (by simp) apart
  refine ⟨modulePath, files, ⟨listed, outcome, firsts, once _ (by simp)⟩, ?_⟩
  refine again _ rfl fun root => ?_
  simp only [spelledTwice, List.mem_cons, List.not_mem_nil, or_false]
  grind

end Stencil.Catalog
