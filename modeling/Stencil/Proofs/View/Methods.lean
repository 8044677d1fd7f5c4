import Mathlib.Data.List.Forall2
import Stencil.Proofs.View.Order

/-
  The methods of a capability set as a template sees them.

  Proved: `methods_shown`. All methods stand in order of their names, and each shows what its
  declaration says.
-/

namespace Stencil.View

/-! ## Arguments -/

/-- The parameter or result an argument shows. -/
def Argument.declared (a : Argument) : Param := ⟨a.name, a.type⟩

/-- Each argument shows the parameter at its place, and the last one alone can be variadic. -/
theorem getElem?_argumentsOf (variadic : Bool) (params : List Param) (i : Nat) :
    (argumentsOf variadic params)[i]? =
      params[i]?.map fun p => ⟨p.name, p.type, variadic && decide (i + 1 = params.length)⟩ := by
  induction params using argumentsOf.induct generalizing i with
  | case1 => simp [argumentsOf]
  | case2 last => cases i <;> simp [argumentsOf]
  | case3 p rest nonempty ih =>
    have others : rest ≠ [] := nonempty
    cases i with
    | zero => simp [argumentsOf, others]
    | succ i => simp [argumentsOf, ih]

/-! ## Methods -/

/-- A method as a template sees it shows what is declared. -/
structure Presents (m : Stencil.Method) (shown : Method) : Prop where
  name : shown.name = m.name
  variadic : shown.variadic = m.variadic
  args : shown.args.map Argument.declared = m.params
  returns : shown.returns.map Argument.declared = m.results
  /-- Only the last argument of a variadic method is variadic. -/
  marked : ∀ i arg, shown.args[i]? = some arg →
    (arg.variadic = true ↔ m.variadic = true ∧ i + 1 = m.params.length)
  unmarked : ∀ result ∈ shown.returns, result.variadic = false
  result_of_lt : ∀ i (inRange : i < m.results.length),
    shown.result i = .ok ⟨m.results[i].name, m.results[i].type, false⟩
  noResults : m.results = [] → ∀ i, shown.result i = .error (.noResults m.name)
  outOfRange : m.results ≠ [] → ∀ i, m.results.length ≤ i →
    shown.result i = .error (.resultOutOfRange m.name i m.results.length)

theorem map_declared_argumentsOf (variadic : Bool) (params : List Param) :
    (argumentsOf variadic params).map Argument.declared = params := by
  refine List.ext_getElem? fun i => ?_
  rw [List.getElem?_map, getElem?_argumentsOf]
  cases params[i]? <;> rfl

theorem presents_ofDeclared (m : Stencil.Method) : Presents m (Method.ofDeclared m) where
  name := rfl
  variadic := rfl
  args := map_declared_argumentsOf m.variadic m.params
  returns := by
    rw [Method.ofDeclared, List.map_map]
    exact List.map_id m.results
  marked := by
    intro i arg shown
    rw [Method.ofDeclared, getElem?_argumentsOf, Option.map_eq_some_iff] at shown
    obtain ⟨p, _, rfl⟩ := shown
    simp
  unmarked := by
    intro result mem
    obtain ⟨p, _, rfl⟩ := List.mem_map.mp mem
    rfl
  result_of_lt := by
    intro i inRange
    have nonempty : m.results ≠ [] := List.ne_nil_of_length_pos (Nat.zero_lt_of_lt inRange)
    simp [Method.result, Method.ofDeclared, nonempty, inRange]
  noResults := by
    intro empty i
    simp [Method.result, Method.ofDeclared, empty]
  outOfRange := by
    intro nonempty i beyond
    simp [Method.result, Method.ofDeclared, nonempty, beyond]

/-- A capability set shows its methods in order of their names, each as it is declared. -/
theorem methods_shown (name : String) (methods : List Stencil.Method) :
    ∃ order, Arranged Stencil.Method.name methods order ∧
      List.Forall₂ Presents order (CapabilitySet.ofMethods name methods).methods := by
  refine ⟨sortByName Stencil.Method.name methods, arranged_sortByName _ _, ?_⟩
  have same : ∀ m, (Method.ofDeclared m).name = m.name := fun m => (presents_ofDeclared m).name
  have shown : (CapabilitySet.ofMethods name methods).methods =
      (sortByName Stencil.Method.name methods).map Method.ofDeclared :=
    (map_sortByName same methods).symm
  rw [shown, List.forall₂_map_right_iff, List.forall₂_same]
  exact fun m _ => presents_ofDeclared m

end Stencil.View
