import Mathlib.Data.List.Induction
import Stencil.Module.Types

/-
  The index of a module's types. It is in step with the list if it is the one that building it
  again gives; then a name finds its last declaration, and nothing if it has none.
-/

namespace Stencil.Types

variable {ds : List Declaration} {t : Types} {d : Declaration} {name : String} {i : Nat}

/-- The index is that of the list. -/
def InStep (t : Types) : Prop := t.rebuild = t

theorem ofList_concat (ds : List Declaration) (d : Declaration) :
    ofList (ds ++ [d]) = (ofList ds).add d := by
  unfold ofList
  rw [List.foldl_append]
  rfl

theorem list_ofList (ds : List Declaration) : (ofList ds).list = ds := by
  induction ds using List.reverseRecOn with
  | nil => rfl
  | append_singleton ds d ih =>
    rw [ofList_concat]
    simp only [add, ih]

theorem inStep_ofList (ds : List Declaration) : (ofList ds).InStep := by
  unfold InStep rebuild
  rw [list_ofList]

theorem InStep.add (h : t.InStep) (d : Declaration) : (t.add d).InStep := by
  unfold InStep rebuild at h
  rw [← h, ← ofList_concat]
  exact inStep_ofList _

theorem index_lt (h : (ofList ds).index.find? name = some i) : i < ds.length := by
  induction ds using List.reverseRecOn generalizing i with
  | nil => cases h
  | append_singleton ds d ih =>
    rw [ofList_concat] at h
    simp only [add, Table.find?_put, list_ofList] at h
    rw [List.length_append]
    split at h
    · cases h
      exact Nat.lt_succ_self _
    · exact Nat.lt_succ_of_lt (ih h)

theorem find?_add_ofList (ds : List Declaration) (d : Declaration) (name : String) :
    ((ofList ds).add d).find? name =
      if name = d.name then some d else (ofList ds).find? name := by
  unfold find?
  simp only [add, Table.find?_put, list_ofList]
  split
  · simp
  · cases found : (ofList ds).index.find? name with
    | none => rfl
    | some i =>
      have bound := index_lt found
      simp only [Option.bind_some]
      rw [List.getElem?_append_left bound]

/-- The last declaration of a name is the one that is found. -/
theorem find?_ofList (ds : List Declaration) (name : String) :
    (ofList ds).find? name = (ds.filter (·.name = name)).getLast? := by
  induction ds using List.reverseRecOn with
  | nil => rfl
  | append_singleton ds d ih =>
    rw [ofList_concat, find?_add_ofList, List.filter_append, ih]
    by_cases same : name = d.name
    · simp [same]
    · simp [same, Ne.symm same]

theorem InStep.find?_eq (h : t.InStep) (name : String) :
    t.find? name = (t.list.filter (·.name = name)).getLast? := by
  unfold InStep rebuild at h
  rw [← find?_ofList, h]

theorem InStep.name_of_find? (h : t.InStep) (found : t.find? name = some d) : d.name = name := by
  rw [h.find?_eq] at found
  have mem := List.mem_of_getLast? found
  simpa using (List.mem_filter.mp mem).2

theorem InStep.find?_eq_none_iff (h : t.InStep) :
    t.find? name = none ↔ ∀ d ∈ t.list, d.name ≠ name := by
  rw [h.find?_eq, List.getLast?_eq_none_iff, List.filter_eq_nil_iff]
  simp

end Stencil.Types
