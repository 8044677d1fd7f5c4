import Mathlib.Data.List.Forall2
import Stencil.Proofs.Manifest.Sound
import Stencil.Proofs.Manifest.Writing
import Stencil.Proofs.Module.Owners

/-
  What owners the types of a module get. A module knows each path by one short name: its own path
  by its own, an imported path by that of its first import, and any other by the one derived from
  the path (`Module.owned`). Every owner in a module that is read is what the module knows the
  owner's path by, and no bare name of a declared type is left.

  Proved: `read_qualified`, for any reader. Nothing but owners differs from what was written, owners
  and bare names are as said, and neither a second time nor another order of the declarations
  changes them.
-/

namespace Stencil

open TypeExpr

namespace Module

variable {m : Module} {w t : TypeExpr} {owner : ModuleName} {name : String}

/-- What a module knows the owner with this path by. -/
def owned (m : Module) (path : String) : ModuleName := m.knownName (ModuleName.ofPath path)

theorem path_owned (m : Module) (path : String) : (m.owned path).path = path :=
  m.path_knownName (ModuleName.ofPath path)

theorem owned_own (m : Module) : m.owned m.path = m.moduleName := if_pos rfl

/-- A module that is known keeps its name. -/
theorem knownName_knownName (m : Module) (owner : ModuleName) :
    m.knownName (m.knownName owner) = m.knownName owner := by
  by_cases own : owner.path = m.path
  · have known : m.knownName owner = m.moduleName := if_pos own
    rw [known]
    exact if_pos rfl
  · cases found : m.imports.find? (·.path = owner.path) with
    | none =>
      have known : m.knownName owner = owner := by simp only [knownName, own, found, if_false]
      rw [known, known]
    | some i =>
      have known : m.knownName owner = ⟨i.path, i.name⟩ := by
        simp only [knownName, own, found, if_false]
      have path : i.path = owner.path := by simpa using List.find?_some found
      rw [known]
      simp only [knownName, path, own, found, if_false]

theorem knownName_owned (m : Module) (path : String) : m.knownName (m.owned path) = m.owned path :=
  m.knownName_knownName (ModuleName.ofPath path)

theorem owned_imported {before after : List Import} {i : Import}
    (imports : m.imports = before ++ i :: after) (other : i.path ≠ m.path)
    (first : ∀ j ∈ before, j.path ≠ i.path) : m.owned i.path = ⟨i.path, i.name⟩ := by
  have found : m.imports.find? (·.path = i.path) = some i := by
    rw [imports, List.find?_append, List.find?_eq_none.mpr (by simpa using first)]
    simp
  have path : (ModuleName.ofPath i.path).path = i.path := rfl
  simp only [owned, knownName, path, other, found, if_false]

theorem owned_other {path : String} (other : path ≠ m.path)
    (imports : ∀ i ∈ m.imports, i.path ≠ path) : m.owned path = ModuleName.ofPath path := by
  have none_found : m.imports.find? (·.path = path) = none :=
    List.find?_eq_none.mpr (by simpa using imports)
  have same : (ModuleName.ofPath path).path = path := rfl
  simp only [owned, knownName, same, other, none_found, if_false]

/-! ## Leaves -/

theorem qualifyLeaf_of_declared (declared : ∃ d ∈ m.types.list, d.name = name) :
    m.qualifyLeaf (.named none name) = .named (some m.moduleName) name := by
  have any : m.types.list.any (·.name = name) = true := by simpa using declared
  simp only [qualifyLeaf, any, if_true]

theorem qualifyLeaf_of_undeclared (undeclared : ∀ d ∈ m.types.list, d.name ≠ name) :
    m.qualifyLeaf (.named none name) = .named none name := by
  have any : m.types.list.any (·.name = name) = false := by simpa using undeclared
  simp only [qualifyLeaf, any]
  rfl

/-- How a leaf is written, and what it becomes. -/
inductive Owns (m : Module) : TypeExpr → TypeExpr → Prop
  | own {name : String} (declared : ∃ d ∈ m.types.list, d.name = name) :
      Owns m (.named none name) (.named (some (m.owned m.path)) name)
  | builtin {name : String} (undeclared : ∀ d ∈ m.types.list, d.name ≠ name) :
      Owns m (.named none name) (.named none name)
  | owned (path name : String) :
      Owns m (.named (some (ModuleName.ofPath path)) name) (.named (some (m.owned path)) name)
  | verbatim (text : String) : Owns m (.verbatim text) (.verbatim text)

theorem owns_qualifyLeaf (h : Leaf t) (fixed : t.derived = t) : m.Owns t (m.qualifyLeaf t) := by
  cases h with
  | @builtin name _ =>
    by_cases declared : ∃ d ∈ m.types.list, d.name = name
    · rw [qualifyLeaf_of_declared declared, ← owned_own]
      exact .own declared
    · have undeclared : ∀ d ∈ m.types.list, d.name ≠ name :=
        fun d mem same => declared ⟨d, mem, same⟩
      rw [qualifyLeaf_of_undeclared undeclared]
      exact .builtin undeclared
  | @owned owner name _ =>
    have known : ModuleName.ofPath owner.path = owner := by simpa [TypeExpr.derived] using fixed
    have owned := Owns.owned (m := m) owner.path name
    rw [Module.owned, known] at owned
    exact owned
  | verbatim _ _ => exact .verbatim _

/-- What was read keeps its markers, and its leaf becomes what the module makes of it. -/
theorem owns_of_read {s : String} (m : Module) (h : TypeExpr.read s = some w) :
    (w.mapLeaf m.qualifyLeaf).markers = w.markers ∧
      m.Owns w.leaf (w.mapLeaf m.qualifyLeaf).leaf := by
  obtain ⟨leaf, fixed⟩ := leaf_of_read h
  have kept : Leaf (m.qualifyLeaf w.leaf) := leaf_qualifyLeaf leaf
  rw [mapLeaf_eq m.qualifyLeaf w, markers_wrap, kept.markers_eq, List.append_nil, leaf_wrap,
    kept.leaf_eq]
  exact ⟨rfl, owns_qualifyLeaf leaf fixed⟩

theorem Owns.qualifyLeaf_eq (h : m.Owns w t) : m.qualifyLeaf t = t := by
  cases h with
  | own _ => rw [qualifyLeaf, knownName_owned]
  | builtin undeclared => exact qualifyLeaf_of_undeclared undeclared
  | owned path name => rw [qualifyLeaf, knownName_owned]
  | verbatim text => rfl

theorem Owns.bareName_eq (h : m.Owns w t) : t.bareName = w.bareName := by cases h <;> rfl

/-- Every owner is what the module knows the owner's path by. -/
theorem Owns.owner_eq (h : m.Owns w t) (mem : owner ∈ t.owner) : owner = m.owned owner.path := by
  cases h with
  | own _ =>
    cases mem
    rw [path_owned]
  | builtin _ => cases mem
  | owned path name =>
    cases mem
    rw [path_owned]
  | verbatim text => cases mem

theorem Owns.exists_owner (h : m.Owns w t) (mem : owner ∈ w.owner) :
    ∃ owner' ∈ t.owner, owner'.path = owner.path := by
  cases h with
  | own _ => cases mem
  | builtin _ => cases mem
  | owned path name =>
    cases mem
    exact ⟨_, rfl, m.path_owned path⟩
  | verbatim text => cases mem

theorem Owns.eq_of_other (h : m.Owns w t) (none_owns : w.owner = none)
    (other : ∀ d ∈ m.types.list, w ≠ .named none d.name) : t = w := by
  cases h with
  | own declared =>
    obtain ⟨d, mem, rfl⟩ := declared
    exact absurd rfl (other d mem)
  | builtin _ => rfl
  | owned path name => cases none_owns
  | verbatim text => rfl

theorem Owns.undeclared (h : m.Owns w (.named none name)) : ∀ d ∈ m.types.list, d.name ≠ name := by
  cases h with
  | builtin undeclared => exact undeclared

theorem Owns.owner_of_declared {d : Declaration} (mem : d ∈ m.types.list)
    (h : m.Owns (.named none d.name) t) : t.owner = some m.moduleName := by
  cases h with
  | own _ => exact congrArg some m.owned_own
  | builtin undeclared => exact absurd rfl (undeclared d mem)

theorem Owns.mapLeaf_eq_self (h : m.Owns w t.leaf) : t.mapLeaf m.qualifyLeaf = t := by
  rw [mapLeaf_eq, h.qualifyLeaf_eq, wrap_markers]

/-! ## Expressions -/

/-- The second expression is the first as the module has it. -/
structure Qualifies (m : Module) (w t : TypeExpr) : Prop where
  markers : t.markers = w.markers
  name : t.bareName = w.bareName
  path : ∀ owner ∈ w.owner, ∃ owner' ∈ t.owner, owner'.path = owner.path
  /-- What has no owner, and is not the bare name of a declared type, stays as it is. -/
  other_leaf : w.owner = none → (∀ d ∈ m.types.list, w.leaf ≠ .named none d.name) → t.leaf = w.leaf
  builtin : ∀ name, t.leaf = .named none name → ∀ d ∈ m.types.list, d.name ≠ name
  declared : ∀ d ∈ m.types.list, w.leaf = .named none d.name → t.owner = some m.moduleName
  own : ∀ owner ∈ t.owner, owner.path = m.path → owner.short = m.name
  imported : ∀ owner ∈ t.owner, owner.path ≠ m.path → ∀ before i after,
    m.imports = before ++ i :: after → i.path = owner.path → (∀ j ∈ before, j.path ≠ owner.path) →
    owner.short = i.name
  other : ∀ owner ∈ t.owner, owner.path ≠ m.path → (∀ i ∈ m.imports, i.path ≠ owner.path) →
    owner.short = defaultShortName owner.path

theorem Owns.qualifies (h : m.Owns w.leaf t.leaf) (markers : t.markers = w.markers) :
    m.Qualifies w t := by
  have known : ∀ owner ∈ t.owner, owner = m.owned owner.path :=
    fun owner mem => h.owner_eq (t.owner_leaf ▸ mem)
  refine ⟨markers, ?_, ?_, ?_, ?_, ?_, ?_, ?_, ?_⟩
  · rw [← bareName_leaf t, ← bareName_leaf w, h.bareName_eq]
  · rw [← owner_leaf w, ← owner_leaf t]
    exact fun owner => h.exists_owner
  · rw [← owner_leaf w]
    exact h.eq_of_other
  · intro name shape
    exact (shape ▸ h).undeclared
  · intro d mem shape
    rw [← owner_leaf t]
    exact Owns.owner_of_declared mem (shape ▸ h)
  · intro owner mem own
    rw [known owner mem, own, owned_own]
    rfl
  · intro owner mem other before i after imports path first
    rw [← path] at other first
    rw [known owner mem, ← path, owned_imported imports other first]
  · intro owner mem other imports
    rw [known owner mem, owned_other other imports]
    rfl

/-! ## Modules -/

/-- The type expressions of a module, in their order. -/
def exprs (m : Module) : List TypeExpr := m.types.list.flatMap (·.shape.exprs)

/-- A module with all type expressions taken out of it. -/
def blank (m : Module) : Module :=
  { m with types := m.types.mapTypes fun _ => .builtin "" }

theorem exprs_qualify (m : Module) : m.qualify.exprs = m.exprs.map (·.mapLeaf m.qualifyLeaf) := by
  simp only [exprs, qualify, Types.mapTypes, List.flatMap_map, List.map_flatMap,
    Declaration.mapTypes, Shape.exprs_mapTypes]

theorem blank_qualify (m : Module) : m.qualify.blank = m.blank := by
  simp only [blank, qualify, Types.mapTypes, List.map_map, Function.comp_def,
    Declaration.mapTypes_mapTypes]

/-- A module with each owner as it should be gets no other owners. -/
theorem qualify_eq_self (h : ∀ t ∈ m.exprs, t.mapLeaf m.qualifyLeaf = t) : m.qualify = m := by
  have same : m.types.list.map (·.mapTypes (·.mapLeaf m.qualifyLeaf)) = m.types.list.map id :=
    List.map_congr_left fun d mem => Declaration.mapTypes_eq_self fun t among =>
      h t (List.mem_flatMap.mpr ⟨d, mem, among⟩)
  rw [qualify, Types.mapTypes, same, List.map_id]

theorem qualifyLeaf_qualify (m : Module) : m.qualify.qualifyLeaf = m.qualifyLeaf := by
  refine qualifyLeaf_types ?_
  rw [Types.mapTypes, List.map_map]
  rfl

/-- A module of the same name and imports, with the same declarations in any order, knows
everything by the same names. -/
theorem qualifyLeaf_of_perm {m' : Module} (path : m'.path = m.path) (name : m'.name = m.name)
    (imports : m'.imports = m.imports) (types : m'.types.list.Perm m.types.list) :
    m'.qualifyLeaf = m.qualifyLeaf := by
  funext t
  simp only [qualifyLeaf, knownName, moduleName, path, name, imports, types.any_eq]

/-- Each declaration with what it becomes. -/
theorem zip_qualify (m : Module) : m.types.list.zip m.qualify.types.list =
    m.types.list.map fun d => (d, d.mapTypes (·.mapLeaf m.qualifyLeaf)) :=
  List.map_prod_left_eq_zip.symm

theorem zip_qualify_of_perm {m' : Module} (path : m'.path = m.path) (name : m'.name = m.name)
    (imports : m'.imports = m.imports) (types : m'.types.list.Perm m.types.list) :
    (m'.types.list.zip m'.qualify.types.list).Perm (m.types.list.zip m.qualify.types.list) := by
  rw [zip_qualify, zip_qualify, qualifyLeaf_of_perm path name imports types]
  exact types.map _

end Module

/-! ## Modules that are read -/

namespace Manifest

open Markup

variable {m u : Module} {events : List Event}

theorem isRead_of_exprs (folded : written events = .ok (some u)) : ∀ w ∈ u.exprs, IsRead w := by
  intro w mem
  obtain ⟨d, among, mem⟩ := List.mem_flatMap.mp mem
  exact ((unowned_of_written folded).types d among).exprs w mem

theorem owns_of_exprs (folded : written events = .ok (some u)) {w : TypeExpr}
    (mem : w ∈ u.exprs) : (w.mapLeaf u.qualifyLeaf).markers = w.markers ∧
      u.qualify.Owns w.leaf (w.mapLeaf u.qualifyLeaf).leaf := by
  obtain ⟨s, known⟩ := isRead_of_exprs folded w mem
  have owns := Module.owns_of_read u.qualify known
  rwa [Module.qualifyLeaf_qualify] at owns

/-- In a module that is read, every expression is as it was written, but that its leaf has the
owner it should have; and nothing else has changed. Two leaves whose owners have one path have one
owner, a second time changes nothing, and each declaration becomes the same whatever the order of
the declarations is. -/
theorem read_qualified {reader : Markup.Reader} {text : String}
    (read : readBy reader text = .ok m) :
    ∃ u, written (reader text).events = .ok (some u) ∧ m.blank = u.blank ∧
      List.Forall₂ m.Qualifies u.exprs m.exprs ∧
      (∀ t ∈ m.exprs, ∀ t' ∈ m.exprs, ∀ owner ∈ t.owner, ∀ owner' ∈ t'.owner,
        owner.path = owner'.path → owner = owner') ∧
      m.qualify = m ∧
      ∀ text' m' u', readBy reader text' = .ok m' →
        written (reader text').events = .ok (some u') →
        u'.path = u.path → u'.name = u.name → u'.imports = u.imports →
        u'.types.list.Perm u.types.list →
        (u'.types.list.zip m'.types.list).Perm (u.types.list.zip m.types.list) := by
  obtain ⟨u, folded, rfl⟩ := written_of_ofEvents read
  refine ⟨u, folded, u.blank_qualify, ?_, ?_, ?_, ?_⟩
  · rw [Module.exprs_qualify, List.forall₂_map_right_iff, List.forall₂_same]
    intro w mem
    obtain ⟨markers, owns⟩ := owns_of_exprs folded mem
    exact owns.qualifies markers
  · -- an owner is a function of its path, so one path has one owner
    have known : ∀ t ∈ u.qualify.exprs, ∀ owner ∈ t.owner, owner = u.qualify.owned owner.path := by
      rw [Module.exprs_qualify]
      intro t mem owner owned
      obtain ⟨w, among, rfl⟩ := List.mem_map.mp mem
      rw [← owner_leaf] at owned
      exact (owns_of_exprs folded among).2.owner_eq owned
    intro t mem t' mem' owner owned owner' owned' same
    rw [known t mem owner owned, known t' mem' owner' owned', same]
  · refine Module.qualify_eq_self fun t mem => ?_
    rw [Module.exprs_qualify] at mem
    obtain ⟨w, among, rfl⟩ := List.mem_map.mp mem
    exact (owns_of_exprs folded among).2.mapLeaf_eq_self
  · intro text' m' u' read' folded' path name imports types
    obtain ⟨u'', folded'', rfl⟩ := written_of_ofEvents read'
    rw [folded'] at folded''
    cases folded''
    exact Module.zip_qualify_of_perm path name imports types

/-- A module that imports its own path, and another path twice. -/
def crossing (types : List Declaration) : Module where
  path := "ex/m"
  name := "m"
  imports := [⟨"ex/m", "self"⟩, ⟨"ex/lib", "l"⟩, ⟨"ex/lib", "k"⟩]
  types := .ofList types

/-- A set of one method, over the name of a type that may be declared behind it. -/
def crossingSet : Declaration :=
  ⟨"S", .capabilities [⟨"F", false, [⟨"", .slice (.pointer (.builtin "R"))⟩],
    [⟨"", .builtin "error"⟩]⟩]⟩

def crossingRecord : Declaration :=
  ⟨"R", .record [⟨"A", .named (some (ModuleName.ofPath "ex/m")) "S", ⟨""⟩⟩,
    ⟨"B", .pointer (.named (some (ModuleName.ofPath "ex/lib")) "T"), ⟨""⟩⟩,
    ⟨"C", .named (some (ModuleName.ofPath "ex/far")) "U", ⟨""⟩⟩,
    ⟨"D", .verbatim "func()", ⟨""⟩⟩]⟩

theorem read_crossing (types : List Declaration)
    (folded : written (crossing types).node.events = .ok (some (crossing types))) :
    written (Markup.read (write (crossing types))).events = .ok (some (crossing types)) ∧
      Manifest.read (write (crossing types)) = .ok (crossing types).qualify := by
  have events : Markup.read (write (crossing types)) = ⟨(crossing types).node.events, none⟩ :=
    Node.read_write (writable_node _)
  refine ⟨events ▸ folded, ?_⟩
  unfold written at folded
  rw [Manifest.read, readBy, events, ofEvents, folded]
  rfl

theorem read_qualified_crossing : ∃ m m',
    Manifest.read (write (crossing [crossingSet, crossingRecord])) = .ok m ∧
    Manifest.read (write (crossing [crossingRecord, crossingSet])) = .ok m' ∧
    m.exprs = [.slice (.pointer (.named (some ⟨"ex/m", "m"⟩) "R")), .named none "error",
      .named (some ⟨"ex/m", "m"⟩) "S", .pointer (.named (some ⟨"ex/lib", "l"⟩) "T"),
      .named (some ⟨"ex/far", "far"⟩) "U", .verbatim "func()"] ∧
    m.qualify = m ∧
    ([crossingRecord, crossingSet].zip m'.types.list).Perm
      ([crossingSet, crossingRecord].zip m.types.list) := by
  obtain ⟨folded, read⟩ := read_crossing [crossingSet, crossingRecord] rfl
  obtain ⟨folded', read'⟩ := read_crossing [crossingRecord, crossingSet] rfl
  obtain ⟨u, there, _, _, _, again, reordered⟩ := read_qualified read
  rw [folded] at there
  cases there
  exact ⟨_, _, read, read', rfl, again,
    reordered _ _ _ read' folded' rfl rfl rfl (List.Perm.swap _ _ _)⟩

end Manifest

end Stencil
