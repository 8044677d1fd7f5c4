import Stencil.Manifest.Reading
import Stencil.Proofs.Outcome

/-
  Reading a manifest, step by step. Every element of an open module adds an import, declares a
  type, or means nothing; a module that is read comes from a bare one by such steps, and gets
  its owners at the end.

  Proved: `adds_of_readMember`, all that one element can do; `foldlM_module`, what stands behind
  the element of a module is read as its content is; and `ofEvents_keeps`, what holds of a bare
  module and is kept by each step holds of what is read.
-/

namespace Stencil.Manifest

open Markup

/-! ## Elements of a module -/

variable {m m' : Module} {node : Node} {nodes : List Node}

/-- The element declares the type. -/
inductive Declares (node : Node) : Declaration → Prop where
  | record {name : String} {fields : List Field} : node.name = "record" →
    required node "name" = .ok name → readFields node.children = .ok fields →
    Declares node ⟨name, .record fields⟩
  | capabilities {name : String} {methods : List Method} : node.name = "capabilities" →
    required node "name" = .ok name → readMethods node.children = .ok methods →
    Declares node ⟨name, .capabilities methods⟩
  | defined {name : String} {base : TypeExpr} : node.name = "type" →
    required node "name" = .ok name → requiredType node "underlying" = .ok base →
    Declares node ⟨name, .defined base⟩

theorem Declares.named {d : Declaration} (h : Declares node d) :
    required node "name" = .ok d.name := by
  cases h <;> assumption

/-- What an element of the module makes of what was read before it. -/
inductive Adds (node : Node) (m : Module) : Module → Prop where
  | imports {i : Import} : node.name = "import" → readImport node = .ok i →
    Adds node m { m with imports := m.imports ++ [i] }
  | declares {d : Declaration} :
    Declares node d → Adds node m { m with types := m.types.add d }
  | nothing : Adds node m m

theorem adds_of_readMember (read : readMember m node = .ok m') : Adds node m m' := by
  unfold readMember at read
  split at read
  · rename_i element
    obtain ⟨i, one, read⟩ := ok_of_bind read
    cases read
    exact .imports element one
  split at read
  · rename_i element
    obtain ⟨name, named, read⟩ := ok_of_bind read
    obtain ⟨fields, all, read⟩ := ok_of_bind read
    cases read
    exact .declares (.record element named all)
  split at read
  · rename_i element
    obtain ⟨name, named, read⟩ := ok_of_bind read
    obtain ⟨methods, all, read⟩ := ok_of_bind read
    cases read
    exact .declares (.capabilities element named all)
  split at read
  · rename_i element
    obtain ⟨name, named, read⟩ := ok_of_bind read
    obtain ⟨base, one, read⟩ := ok_of_bind read
    cases read
    exact .declares (.defined element named one)
  · cases read
    exact .nothing

/-- A module begins bare. -/
theorem bare_of_readHeader (read : readHeader node = .ok m) :
    ∃ path name root, m = { path, name, root } := by
  unfold readHeader at read
  obtain ⟨path, _, read⟩ := ok_of_bind read
  obtain ⟨name, _, read⟩ := ok_of_bind read
  obtain ⟨root, _, read⟩ := ok_of_bind read
  cases path with
  | none => cases read
  | some path =>
    cases read
    exact ⟨path, _, root, rfl⟩

/-! ## Open modules -/

theorem readElement_open (h : node.name ≠ "module") :
    readElement (some m) node = (readMember m node).map some :=
  if_neg h

theorem readElement_second (h : node.name = "module") :
    readElement (some m) node = .error .secondModule :=
  if_pos h

theorem foldlM_open (h : ∀ node ∈ nodes, node.name ≠ "module") (m : Module) :
    nodes.foldlM readElement (some m) = (nodes.foldlM readMember m).map some := by
  induction nodes generalizing m with
  | nil => rfl
  | cons node nodes ih =>
    rw [List.foldlM_cons, List.foldlM_cons, readElement_open (h node List.mem_cons_self)]
    cases readMember m node with
    | error why => rfl
    | ok next => exact ih (fun other mem => h other (List.mem_cons_of_mem node mem)) next

/-- At the top, too, a further module is a fault before anything in it is read. -/
theorem foldlM_members (nodes : List Node) (m : Module) :
    (members nodes).foldlM readElement (some m) = nodes.foldlM readElement (some m) := by
  induction nodes generalizing m with
  | nil => rfl
  | cons node nodes ih =>
    rw [members, List.flatMap_cons, ← members, List.foldlM_append, List.foldlM_cons]
    by_cases second : node.name = "module"
    · rw [if_pos second, List.foldlM_cons, readElement_second second]
      rfl
    · rw [if_neg second, List.foldlM_cons, readElement_open second]
      cases readMember m node with
      | error why => rfl
      | ok next => exact ih next

theorem isSome_of_foldlM {found : Option Module}
    (h : nodes.foldlM readElement (some m) = .ok found) : found.isSome := by
  refine foldlM_keeps (P := fun found : Option Module => found.isSome) ?_ rfl h
  intro node _ found next was_some read
  obtain ⟨m, rfl⟩ := Option.isSome_iff_exists.mp was_some
  by_cases second : node.name = "module"
  · rw [readElement_second second] at read
    cases read
  · rw [readElement_open second] at read
    obtain ⟨m', _, rfl⟩ := ok_of_map read
    rfl

/-- The element of a module, its content, and what stands behind it. -/
theorem foldlM_module (attributes : List Attribute) (children after : List Node) :
    (members (.element "module" attributes children :: after)).foldlM readElement none =
      readHeader (.element "module" attributes []) >>= fun m =>
        (children ++ after).foldlM readElement (some m) := by
  have shape : members (.element "module" attributes children :: after) =
      .element "module" attributes children :: (children ++ members after) := by
    simp [members, Node.name, Node.children]
  have header : readElement none (.element "module" attributes children) =
      (readHeader (.element "module" attributes [])).map some := rfl
  rw [shape, List.foldlM_cons, header]
  cases readHeader (.element "module" attributes []) with
  | error why => rfl
  | ok m =>
    change (children ++ members after).foldlM readElement (some m) =
      (children ++ after).foldlM readElement (some m)
    rw [List.foldlM_append, List.foldlM_append]
    cases content : children.foldlM readElement (some m) with
    | error why => rfl
    | ok found =>
      obtain ⟨m', rfl⟩ := Option.isSome_iff_exists.mp (isSome_of_foldlM content)
      exact foldlM_members after m'

/-! ## Whole manifests -/

theorem readElement_keeps {P : Module → Prop} (bare : ∀ path name root, P { path, name, root })
    (step : ∀ m m', P m → Adds node m m' → P m') {found found' : Option Module}
    (h : ∀ m ∈ found, P m) (read : readElement found node = .ok found') :
    ∀ m ∈ found', P m := by
  unfold readElement at read
  cases found with
  | none =>
    dsimp only at read
    split at read
    · obtain ⟨m, header, rfl⟩ := ok_of_map read
      obtain ⟨path, name, root, rfl⟩ := bare_of_readHeader header
      rintro _ ⟨⟩
      exact bare path name root
    · cases read
  | some m =>
    dsimp only at read
    split at read
    · cases read
    · obtain ⟨m', member, rfl⟩ := ok_of_map read
      rintro _ ⟨⟩
      exact step m _ (h m rfl) (adds_of_readMember member)

/-- What a sequence of events declares, before its types get their owners. -/
def written (events : List Event) : Result (Option Module) :=
  (members (Node.ofEvents events)).foldlM readElement none

variable {events : List Event} {fault : Option Markup.Fault}

theorem written_of_ofEvents (read : ofEvents events fault = .ok m) :
    ∃ unowned, written events = .ok (some unowned) ∧ m = unowned.qualify := by
  unfold ofEvents at read
  obtain ⟨found, folded, read⟩ := ok_of_bind read
  cases fault with
  | some why => cases read
  | none =>
    cases found with
    | none => cases read
    | some unowned =>
      cases read
      exact ⟨unowned, folded, rfl⟩

/-- What holds of a bare module, and is kept by whatever the elements add, holds of the module
that is declared. -/
theorem written_keeps {P : Module → Prop} (bare : ∀ path name root, P { path, name, root })
    (step : ∀ node ∈ members (Node.ofEvents events), ∀ m m', P m → Adds node m m' → P m')
    {unowned : Module} (folded : written events = .ok (some unowned)) : P unowned := by
  have each := foldlM_keeps (P := fun found : Option Module => ∀ m ∈ found, P m)
    (fun node mem _ _ => readElement_keeps bare (step node mem)) (by simp) folded
  exact each unowned rfl

/-- So the module that is read is one of which it holds, with its owners. -/
theorem ofEvents_keeps {P : Module → Prop} (bare : ∀ path name root, P { path, name, root })
    (step : ∀ node ∈ members (Node.ofEvents events), ∀ m m', P m → Adds node m m' → P m')
    (read : ofEvents events fault = .ok m) : ∃ unowned, P unowned ∧ m = unowned.qualify := by
  obtain ⟨unowned, folded, same⟩ := written_of_ofEvents read
  exact ⟨unowned, written_keeps bare step folded, same⟩

end Stencil.Manifest
