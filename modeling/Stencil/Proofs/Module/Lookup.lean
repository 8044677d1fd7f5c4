import Stencil.Proofs.Module.Index
import Stencil.Snapshot

/-
  Looking types up between changes. Types are added one by one, or the list is edited on its own
  and the index built again before the next look-up.

  Proved: `find?_changed`. Whatever the changes were, a look-up stays within the list and finds the
  last declaration of a name; and so it does in the module as loaded, unless it was loaded without
  its types.
-/

namespace Stencil.Types

/-! ## Changes -/

/-- What is done to the types of a module. An edit changes the list alone. -/
inductive Change where
  | add (d : Declaration)
  | edit (f : List Declaration → List Declaration)
  | rebuild

def change (t : Types) : Change → Types
  | .add d => t.add d
  | .edit f => { t with list := f t.list }
  | .rebuild => t.rebuild

/-- The types after some changes, beginning with none. -/
def changed (changes : List Change) : Types := changes.foldl change {}

/-- What a change makes of the list. -/
def Change.onList (ds : List Declaration) : Change → List Declaration
  | add d => ds ++ [d]
  | edit f => f ds
  | rebuild => ds

/-- Behind every edit the index is built again. -/
def Settled : List Change → Prop
  | [] => True
  | .edit _ :: later => .rebuild ∈ later ∧ Settled later
  | _ :: later => Settled later

/-! ## Looking up -/

/-- The index stays within the list and answers for the last declaration of each name. -/
structure LooksUp (t : Types) : Prop where
  index_lt : ∀ name i, t.index.find? name = some i → i < t.list.length
  find?_eq_some_iff : ∀ name d, t.find? name = some d ↔
    ∃ before later, t.list = before ++ d :: later ∧ d.name = name ∧ ∀ e ∈ later, e.name ≠ name
  find?_eq_none_iff : ∀ name, t.find? name = none ↔ ∀ d ∈ t.list, d.name ≠ name
  has_iff : ∀ name, t.has name = true ↔ ∃ d, t.find? name = some d

section

variable {t : Types} {changes : List Change} {name : String} {d : Declaration}

theorem getLast?_named_iff (ds : List Declaration) :
    (ds.filter (·.name = name)).getLast? = some d ↔
      ∃ before later, ds = before ++ d :: later ∧ d.name = name ∧ ∀ e ∈ later, e.name ≠ name := by
  rw [List.getLast?_eq_some_iff]
  constructor
  · rintro ⟨others, shape⟩
    obtain ⟨before, later, rfl, _, last⟩ := List.filter_eq_append_iff.mp shape
    obtain ⟨skipped, rest, rfl, _, named, none_later⟩ := List.filter_eq_cons_iff.mp last
    refine ⟨before ++ skipped, rest, by simp, by simpa using named, ?_⟩
    intro e mem
    simpa using List.filter_eq_nil_iff.mp none_later e mem
  · rintro ⟨before, later, rfl, named, none_later⟩
    have dropped : later.filter (·.name = name) = [] := by
      rw [List.filter_eq_nil_iff]
      intro e mem
      simpa using none_later e mem
    refine ⟨before.filter (·.name = name), ?_⟩
    rw [List.filter_append, List.filter_cons_of_pos (by simpa using named), dropped]

theorem InStep.index_lt (h : t.InStep) {i : Nat} (found : t.index.find? name = some i) :
    i < t.list.length := by
  unfold InStep rebuild at h
  rw [← h] at found
  exact Types.index_lt found

theorem InStep.looksUp (h : t.InStep) : t.LooksUp where
  index_lt _ _ := h.index_lt
  find?_eq_some_iff name d := by rw [h.find?_eq, getLast?_named_iff]
  find?_eq_none_iff _ := h.find?_eq_none_iff
  has_iff name := by
    unfold has Table.has find?
    cases found : t.index.find? name with
    | none => simp
    | some i =>
      have bound := h.index_lt found
      simp [List.getElem?_eq_getElem bound]

/-! ## Any number of changes -/

theorem inStep_rebuild (t : Types) : t.rebuild.InStep := inStep_ofList t.list

theorem list_change (t : Types) (c : Change) : (t.change c).list = c.onList t.list := by
  cases c with
  | add d => rfl
  | edit f => rfl
  | rebuild => exact list_ofList t.list

theorem list_foldl_change (t : Types) (changes : List Change) :
    (changes.foldl change t).list = changes.foldl Change.onList t.list := by
  induction changes generalizing t with
  | nil => rfl
  | cons c changes ih => rw [List.foldl_cons, ih, list_change, List.foldl_cons]

/-- The index is in step, or there is a rebuild to come: additions keep either, and where an edit
breaks the first it has the second. -/
theorem inStep_foldl_change (changes : List Change) (settled : Settled changes)
    (h : t.InStep ∨ .rebuild ∈ changes) : (changes.foldl change t).InStep := by
  induction changes generalizing t with
  | nil => exact h.resolve_right List.not_mem_nil
  | cons c changes ih =>
    cases c with
    | add d =>
      refine ih settled ?_
      rcases h with inStep | later
      · exact .inl (inStep.add d)
      · exact .inr (by simpa using later)
    | edit f => exact ih settled.2 (.inr settled.1)
    | rebuild => exact ih settled (.inl (inStep_rebuild t))

theorem inStep_changed (settled : Settled changes) : (changed changes).InStep :=
  inStep_foldl_change changes settled (.inl (inStep_ofList []))

/-! ## Modules as loaded -/

theorem types_project (m : Module) (location : String) (facets : Facets) (files : List String)
    (diagnostics : List Diagnostic) :
    (Snapshot.project location facets m files diagnostics).module.types =
      if facets.types then m.types else {} := rfl

theorem InStep.project {m : Module} (h : m.types.InStep) (location : String) (facets : Facets)
    (files : List String) (diagnostics : List Diagnostic) :
    (Snapshot.project location facets m files diagnostics).module.types.InStep := by
  rw [types_project]
  split
  · exact h
  · exact inStep_ofList []

/-- Nothing is found of what a module does not declare or was loaded without. -/
theorem InStep.find?_project_eq_none_iff {m : Module} (h : m.types.InStep) (location : String)
    (facets : Facets) (files : List String) (diagnostics : List Diagnostic) (name : String) :
    (Snapshot.project location facets m files diagnostics).find? name = none ↔
      (∀ d ∈ m.types.list, d.name ≠ name) ∨ facets.types = false := by
  unfold Snapshot.find?
  rw [types_project]
  cases asked : facets.types with
  | false => simp [find?, Table.find?_empty]
  | true => simpa using h.find?_eq_none_iff

end

/-- Changes of a list that is rebuilt behind every edit come to what they make of the plain list,
with an index that is in step; and a module with these types keeps the index in step when it is
loaded, with its types or without. -/
theorem find?_changed (changes : List Change) (settled : Settled changes) :
    (changed changes).list = changes.foldl Change.onList [] ∧
    (changed changes).LooksUp ∧
    ∀ m : Module, m.types = changed changes →
      ∀ (location : String) (facets : Facets) (files : List String)
        (diagnostics : List Diagnostic),
        let s := Snapshot.project location facets m files diagnostics
        s.module.types.LooksUp ∧
        (facets.types = true → s.module.types = m.types) ∧
        ∀ name, s.find? name = none ↔
          (∀ d ∈ (changed changes).list, d.name ≠ name) ∨ facets.types = false := by
  have inStep := inStep_changed settled
  refine ⟨list_foldl_change {} changes, inStep.looksUp, ?_⟩
  intro m types location facets files diagnostics s
  rw [← types] at inStep ⊢
  refine ⟨(inStep.project location facets files diagnostics).looksUp, ?_,
    inStep.find?_project_eq_none_iff location facets files diagnostics⟩
  intro asked
  exact (types_project m location facets files diagnostics).trans (if_pos asked)

/-- A name is declared twice, the first declaration is taken out, and one comes behind. -/
def shifted : List Change :=
  [.add ⟨"A", .record []⟩, .add ⟨"B", .record []⟩, .add ⟨"A", .capabilities []⟩,
    .edit List.tail, .add ⟨"C", .record []⟩, .rebuild, .add ⟨"B", .capabilities []⟩]

theorem settled_shifted : Settled shifted := by simp [Settled, shifted]

theorem find?_changed_shifted : Settled shifted ∧
    (changed shifted).find? "A" = some ⟨"A", .capabilities []⟩ ∧
    (changed shifted).find? "B" = some ⟨"B", .capabilities []⟩ ∧
    (changed shifted).find? "D" = none := by
  obtain ⟨list, looksUp, _⟩ := find?_changed shifted settled_shifted
  refine ⟨settled_shifted, ?_, ?_, ?_⟩
  · rw [looksUp.find?_eq_some_iff, list]
    exact ⟨[⟨"B", .record []⟩], [⟨"C", .record []⟩, ⟨"B", .capabilities []⟩], rfl, rfl, by decide⟩
  · rw [looksUp.find?_eq_some_iff, list]
    exact ⟨[⟨"B", .record []⟩, ⟨"A", .capabilities []⟩, ⟨"C", .record []⟩], [], rfl, rfl, by decide⟩
  · rw [looksUp.find?_eq_none_iff, list]
    decide

end Stencil.Types
