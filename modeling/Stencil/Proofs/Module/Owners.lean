import Stencil.Manifest.Qualify
import Stencil.Proofs.TypeExpr.Display

/-
  Owners of leaves. The name a module knows an owner by depends on the owner's path alone, so a
  leaf that keeps its path and loses the short name gets it back.

  Proved: `requalify`, the same for whole expressions.
-/

namespace Stencil

open TypeExpr

/-! ## Leaves -/

namespace TypeExpr

variable {t : TypeExpr}

theorem Leaf.mapLeaf_eq (h : Leaf t) (f : TypeExpr → TypeExpr) : t.mapLeaf f = f t := by
  cases h <;> rfl

theorem Leaf.derived (h : Leaf t) : Leaf t.derived := by
  cases h with
  | builtin identifier => exact .builtin identifier
  | owned identifier => exact .owned identifier
  | verbatim isLeaf kept => exact .verbatim isLeaf kept

end TypeExpr

namespace Module

variable {m : Module} {t : TypeExpr}

theorem leaf_qualifyLeaf (h : Leaf t) : Leaf (m.qualifyLeaf t) := by
  cases h with
  | builtin identifier =>
    unfold qualifyLeaf
    dsimp only
    split
    · exact .owned identifier
    · exact .builtin identifier
  | owned identifier => exact .owned identifier
  | verbatim isLeaf kept => exact .verbatim isLeaf kept

theorem path_knownName (m : Module) (owner : ModuleName) :
    (m.knownName owner).path = owner.path := by
  unfold knownName
  split
  · rename_i own
    exact own.symm
  · split
    · rename_i found
      simpa using List.find?_some found
    · rfl

/-- A leaf that loses its owner's short name gets it back. -/
theorem qualifyLeaf_derived (fixed : t.derived = t) :
    m.qualifyLeaf (m.qualifyLeaf t).derived = m.qualifyLeaf t := by
  match t with
  | .pointer _ => rfl
  | .slice _ => rfl
  | .verbatim _ => rfl
  | .named (some owner) name =>
    have known : ModuleName.ofPath owner.path = owner := by
      simpa [TypeExpr.derived] using fixed
    simp only [qualifyLeaf, TypeExpr.derived, path_knownName, known]
  | .named none name =>
    by_cases declared : m.types.list.any (·.name = name) = true
    · have own : m.qualifyLeaf (.named none name) = .named (some m.moduleName) name := by
        simp only [qualifyLeaf, declared, if_true]
      have known : m.knownName (ModuleName.ofPath m.path) = m.moduleName := if_pos rfl
      rw [own, TypeExpr.derived, qualifyLeaf]
      exact congrArg (fun owner => TypeExpr.named (some owner) name) known
    · have bare : m.qualifyLeaf (.named none name) = .named none name := by
        simp only [qualifyLeaf, declared]
        rfl
      -- nothing was derived, so the leaf stays undeclared
      rw [bare, TypeExpr.derived, bare]
      exact fun _ _ => nofun

/-- Owners are found by the names that are declared, whatever is declared under them. -/
theorem qualifyLeaf_types {types : Types}
    (names : types.list.map (·.name) = m.types.list.map (·.name)) :
    ({ m with types } : Module).qualifyLeaf = m.qualifyLeaf := by
  have any : ∀ ds : List Declaration, ∀ name,
      (ds.any fun d => d.name = name) = (ds.map (·.name)).any (· = name) := fun ds name => by
    rw [List.any_map]
    rfl
  funext t
  unfold qualifyLeaf
  dsimp only
  simp only [any, names]
  rfl

/-- What is read and gets its owners has a leaf that reading gives; and it is the same again after
the owners' short names were derived from the paths. -/
theorem requalify {s : String} (m : Module) (h : TypeExpr.read s = some t) :
    Leaf (t.mapLeaf m.qualifyLeaf).leaf ∧
      ((t.mapLeaf m.qualifyLeaf).mapLeaf derived).mapLeaf m.qualifyLeaf =
        t.mapLeaf m.qualifyLeaf := by
  obtain ⟨leaf, fixed⟩ := leaf_of_read h
  have owned : Leaf (m.qualifyLeaf t.leaf) := leaf_qualifyLeaf leaf
  rw [mapLeaf_eq m.qualifyLeaf t, leaf_wrap, owned.leaf_eq]
  refine ⟨owned, ?_⟩
  rw [mapLeaf_wrap, owned.mapLeaf_eq, mapLeaf_wrap, owned.derived.mapLeaf_eq,
    qualifyLeaf_derived fixed]

end Module

end Stencil
