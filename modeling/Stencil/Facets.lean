/-
  The facets of a module that a load may be asked for, as a set.
-/

namespace Stencil

structure Facets where
  name : Bool := false
  files : Bool := false
  imports : Bool := false
  types : Bool := false
  /-- The path of the enclosing root. -/
  root : Bool := false
  deriving DecidableEq, Repr

namespace Facets

def all : Facets := ⟨true, true, true, true, true⟩

/-- What a session needs of its target. -/
def target : Facets := { name := true, imports := true, types := true, root := true }

def union (a b : Facets) : Facets :=
  ⟨a.name || b.name, a.files || b.files, a.imports || b.imports, a.types || b.types,
    a.root || b.root⟩

/-- Whether `a` holds every facet of `b`. -/
def covers (a b : Facets) : Bool := a.union b = a

/-- The facets as the bits of a number. -/
def bits (f : Facets) : Nat :=
  f.name.toNat + 2 * f.files.toNat + 4 * f.imports.toNat + 8 * f.types.toNat + 16 * f.root.toNat

/-- How many facets there are. -/
def count (f : Facets) : Nat :=
  f.name.toNat + f.files.toNat + f.imports.toNat + f.types.toNat + f.root.toNat

theorem empty_union (f : Facets) : ({} : Facets).union f = f := by simp [union]

theorem count_le (f : Facets) : f.count ≤ 5 := by
  have := f.name.toNat_le
  have := f.files.toNat_le
  have := f.imports.toNat_le
  have := f.types.toNat_le
  have := f.root.toNat_le
  unfold count
  omega

theorem covers_iff {a b : Facets} : a.covers b = true ↔ a.union b = a := decide_eq_true_iff

/-- Facets that cover others hold each of them. -/
theorem covers_iff_imp {a b : Facets} : a.covers b = true ↔
    (b.name → a.name) ∧ (b.files → a.files) ∧ (b.imports → a.imports) ∧ (b.types → a.types) ∧
      (b.root → a.root) := by
  rw [covers_iff]
  obtain ⟨name, files, imports, types, root⟩ := a
  simp only [union, Facets.mk.injEq, Bool.or_eq_left_iff_imp]

theorem covers_self (f : Facets) : f.covers f = true := by simp [covers_iff_imp]

theorem union_covers_right (a b : Facets) : (a.union b).covers b = true := by
  simp +contextual [covers_iff_imp, union]

theorem covers_trans {a b c : Facets} (h : a.covers b = true) (h' : b.covers c = true) :
    a.covers c = true := by
  rw [covers_iff_imp] at h h' ⊢
  obtain ⟨name, files, imports, types, root⟩ := h
  obtain ⟨name', files', imports', types', root'⟩ := h'
  exact ⟨name ∘ name', files ∘ files', imports ∘ imports', types ∘ types', root ∘ root'⟩

theorem toNat_le_or (a b : Bool) : a.toNat ≤ (a || b).toNat := by
  cases a <;> cases b <;> decide

theorem or_eq_of_toNat_le {a b : Bool} : (a || b).toNat ≤ a.toNat → (a || b) = a := by
  cases a <;> cases b <;> decide

/-- Facets that are not covered make more. -/
theorem count_lt_of_not_covers {a b : Facets} (h : ¬ a.covers b = true) :
    a.count < (a.union b).count := by
  refine Nat.lt_of_not_le fun few => h (covers_iff.mpr ?_)
  have name := toNat_le_or a.name b.name
  have files := toNat_le_or a.files b.files
  have imports := toNat_le_or a.imports b.imports
  have types := toNat_le_or a.types b.types
  have root := toNat_le_or a.root b.root
  simp only [count, union] at few
  -- each facet of the union counts at least as much as before, so none counts more
  have name' : (a.name || b.name) = a.name := or_eq_of_toNat_le (by omega)
  have files' : (a.files || b.files) = a.files := or_eq_of_toNat_le (by omega)
  have imports' : (a.imports || b.imports) = a.imports := or_eq_of_toNat_le (by omega)
  have types' : (a.types || b.types) = a.types := or_eq_of_toNat_le (by omega)
  have root' : (a.root || b.root) = a.root := or_eq_of_toNat_le (by omega)
  simp only [union, name', files', imports', types', root']

end Facets

end Stencil
