import Stencil.Manifest.Reading
import Stencil.Proofs.Markup.Escape
import Stencil.Proofs.Module.Mentions
import Stencil.Proofs.Outcome

/-
  Manifests as they are written. Each declaration has its element, each name and each type
  expression an attribute, and all attributes are written, those with a default too.

  Proved: `writable_node`, the manifest is markup that can be written, and for each element that
  reading it gives what it was written for (`readMember_declaration`, `readMember_import`,
  `readHeader_elementOf`).
-/

namespace Stencil

open Markup

/-! ## Elements -/

def Field.node (f : Field) : Node :=
  elementOf "field" [("name", f.name), ("type", f.type.display), ("tag", f.tag.text)] []

/-- A parameter or a result, as the element says. -/
def Param.node (element : String) (p : Param) : Node :=
  elementOf element [("name", p.name), ("type", p.type.display)] []

def Method.node (m : Method) : Node :=
  elementOf "method" [("name", m.name), ("variadic", if m.variadic then "true" else "false")]
    (m.params.map (·.node "param") ++ m.results.map (·.node "result"))

def Declaration.node (d : Declaration) : Node :=
  match d.shape with
  | .record fields => elementOf "record" [("name", d.name)] (fields.map (·.node))
  | .capabilities methods => elementOf "capabilities" [("name", d.name)] (methods.map (·.node))
  | .defined base => elementOf "type" [("name", d.name), ("underlying", base.display)] []

def Import.node (i : Import) : Node := elementOf "import" [("path", i.path), ("name", i.name)] []

def Module.header (m : Module) : List (String × String) :=
  [("path", m.path), ("name", m.name)] ++ (m.root.map ("root", ·)).toList

def Module.node (m : Module) : Node :=
  elementOf "module" m.header (m.imports.map (·.node) ++ m.types.list.map (·.node))

namespace Manifest

/-- The module as a manifest. -/
def write (m : Module) : String := String.ofList m.node.write

/-! ## Writing -/

theorem writable_map {α : Type} {f : α → Node} (each : ∀ a, (f a).Writable) (as : List α) :
    ∀ child ∈ as.map f, child.Writable := by
  intro child mem
  obtain ⟨a, _, rfl⟩ := List.mem_map.mp mem
  exact each a

theorem writable_field (f : Field) : f.node.Writable :=
  writable_elementOf (show Named "field" ["name", "type", "tag"] by decide) (by simp)

theorem writable_param {element : String} (named : Named element ["name", "type"]) (p : Param) :
    (p.node element).Writable :=
  writable_elementOf named (by simp)

theorem writable_method (m : Method) : m.node.Writable := by
  refine writable_elementOf (show Named "method" ["name", "variadic"] by decide) fun child mem => ?_
  rcases List.mem_append.mp mem with param | result
  · exact writable_map (writable_param (by decide)) _ child param
  · exact writable_map (writable_param (by decide)) _ child result

theorem writable_declaration (d : Declaration) : d.node.Writable := by
  obtain ⟨name, shape⟩ := d
  cases shape with
  | record fields =>
    exact writable_elementOf (show Named "record" ["name"] by decide)
      (writable_map writable_field fields)
  | capabilities methods =>
    exact writable_elementOf (show Named "capabilities" ["name"] by decide)
      (writable_map writable_method methods)
  | defined base =>
    exact writable_elementOf (show Named "type" ["name", "underlying"] by decide) (by simp)

theorem writable_import (i : Import) : i.node.Writable :=
  writable_elementOf (show Named "import" ["path", "name"] by decide) (by simp)

/-- The manifest of a module is markup that can be written. -/
theorem writable_node (m : Module) : m.node.Writable := by
  refine writable_elementOf ?_ fun child mem => ?_
  · unfold Module.header
    cases m.root with
    | none => exact show Named "module" ["path", "name"] by decide
    | some root => exact show Named "module" ["path", "name", "root"] by decide
  · rcases List.mem_append.mp mem with added | declared
    · exact writable_map writable_import _ child added
    · exact writable_map writable_declaration _ child declared

/-! ## Attributes -/

section

variable {name key value : String} {pairs : List (String × String)} {children : List Node}
  {t t' : TypeExpr}

theorem attribute?_elementOf :
    attribute? (elementOf name pairs children) key = .ok (pairs.lookup key) := by
  have decoded : decodeAttributes (elementOf name pairs children).attributes = .ok pairs :=
    decodeAttributes_map pairs
  rw [attribute?, decoded]

theorem required_elementOf (h : pairs.lookup key = some value) (some_left : value ≠ "") :
    required (elementOf name pairs children) key = .ok value := by
  have not_empty : value.isEmpty = false := by simpa using some_left
  rw [required, attribute?_elementOf, h]
  simp only [bind, Except.bind, not_empty]
  rfl

theorem requiredType_elementOf (h : pairs.lookup key = some t.display)
    (read : TypeExpr.read t.display = some t') :
    requiredType (elementOf name pairs children) key = .ok t' := by
  have some_left : t.display ≠ "" := by
    intro empty
    rw [empty] at read
    cases read
  rw [requiredType, required_elementOf h some_left]
  simp only [bind, Except.bind, read]

end

/-! ## Declarations -/

section

-- `g` says what is read where an expression was written
variable {g : TypeExpr → TypeExpr}

theorem readField_node {f : Field} (named : f.name ≠ "")
    (read : TypeExpr.read f.type.display = some (g f.type)) :
    readField f.node = .ok { f with type := g f.type } := by
  have name : required f.node "name" = .ok f.name := required_elementOf rfl named
  have type : requiredType f.node "type" = .ok (g f.type) := requiredType_elementOf rfl read
  have tag : attribute? f.node "tag" = .ok (some f.tag.text) := attribute?_elementOf
  rw [readField, name, type, tag]
  rfl

theorem readParam_node {p : Param} {element : String}
    (read : TypeExpr.read p.type.display = some (g p.type)) :
    readParam (p.node element) = .ok (p.mapType g) := by
  have name : attribute? (p.node element) "name" = .ok (some p.name) := attribute?_elementOf
  have type : requiredType (p.node element) "type" = .ok (g p.type) :=
    requiredType_elementOf rfl read
  rw [readParam, name, type]
  rfl

theorem readVariadic_node (m : Method) : readVariadic m.node = .ok m.variadic := by
  have value : attribute? m.node "variadic" =
      .ok (some (if m.variadic then "true" else "false")) := attribute?_elementOf
  rw [readVariadic, value]
  cases m.variadic <;> rfl

theorem readMethod_node {m : Method} (named : m.name ≠ "")
    (read : ∀ t ∈ m.exprs, TypeExpr.read t.display = some (g t)) :
    readMethod m.node = .ok (m.mapTypes g) := by
  have param : ∀ p ∈ m.params, ∀ m : Method, readSignaturePart m (p.node "param") =
      .ok { m with params := m.params ++ [p.mapType g] } := by
    intro p mem m
    have known := read p.type (List.mem_append_left _ (List.mem_map_of_mem mem))
    have element : (p.node "param").name = "param" := rfl
    rw [readSignaturePart, if_pos element, readParam_node known]
    rfl
  have result : ∀ p ∈ m.results, ∀ m : Method, readSignaturePart m (p.node "result") =
      .ok { m with results := m.results ++ [p.mapType g] } := by
    intro p mem m
    have known := read p.type (List.mem_append_right _ (List.mem_map_of_mem mem))
    have element : (p.node "result").name = "result" := rfl
    rw [readSignaturePart, element, if_neg (by decide), if_pos rfl, readParam_node known]
    rfl
  have params := foldlM_gather (fun (m : Method) ps => { m with params := m.params ++ ps })
    (by simp) (by simp) param
  have results := foldlM_gather (fun (m : Method) ps => { m with results := m.results ++ ps })
    (by simp) (by simp) result
  have name : required m.node "name" = .ok m.name := required_elementOf rfl named
  have content : m.node.children =
      m.params.map (·.node "param") ++ m.results.map (·.node "result") := rfl
  rw [readMethod, name, readVariadic_node, content]
  simp only [bind, Except.bind, List.foldlM_append, params, results]
  rfl

theorem readFields_nodes {fields : List Field} (named : ∀ f ∈ fields, f.name ≠ "")
    (read : ∀ f ∈ fields, TypeExpr.read f.type.display = some (g f.type)) :
    readFields (fields.map (·.node)) =
      .ok (fields.map fun f => { f with type := g f.type }) := by
  have all : (fields.map (·.node)).filter (·.name = "field") = fields.map (·.node) := by
    rw [List.filter_eq_self]
    intro node mem
    obtain ⟨f, _, rfl⟩ := List.mem_map.mp mem
    rfl
  rw [readFields, all]
  exact mapM_map_ok fun f mem => readField_node (named f mem) (read f mem)

theorem readMethods_nodes {methods : List Method} (named : ∀ m ∈ methods, m.name ≠ "")
    (read : ∀ m ∈ methods, ∀ t ∈ m.exprs, TypeExpr.read t.display = some (g t)) :
    readMethods (methods.map (·.node)) = .ok (methods.map (·.mapTypes g)) := by
  have all : (methods.map (·.node)).filter (·.name = "method") = methods.map (·.node) := by
    rw [List.filter_eq_self]
    intro node mem
    obtain ⟨m, _, rfl⟩ := List.mem_map.mp mem
    rfl
  rw [readMethods, all]
  exact mapM_map_ok fun m mem => readMethod_node (named m mem) (read m mem)

theorem readMember_declaration {d : Declaration}
    (h : d.Sound fun t => TypeExpr.read t.display = some (g t)) (m : Module) :
    readMember m d.node = .ok { m with types := m.types.add (d.mapTypes g) } := by
  obtain ⟨named, names, exprs⟩ := h
  obtain ⟨name, shape⟩ := d
  cases shape with
  | record fields =>
    have required : required (Declaration.node ⟨name, .record fields⟩) "name" = .ok name :=
      required_elementOf rfl named
    have content : readFields (Declaration.node ⟨name, .record fields⟩).children = _ :=
      readFields_nodes (fun f mem => names f.name (List.mem_map_of_mem mem))
        (fun f mem => exprs f.type (List.mem_map_of_mem mem))
    have element : (Declaration.node ⟨name, .record fields⟩).name = "record" := rfl
    rw [readMember, element, if_neg (by decide), if_pos rfl, required, content]
    rfl
  | capabilities methods =>
    have required : required (Declaration.node ⟨name, .capabilities methods⟩) "name" = .ok name :=
      required_elementOf rfl named
    have content : readMethods (Declaration.node ⟨name, .capabilities methods⟩).children = _ :=
      readMethods_nodes (fun m mem => names m.name (List.mem_map_of_mem mem))
        (fun m mem t among => exprs t (List.mem_flatMap.mpr ⟨m, mem, among⟩))
    have element : (Declaration.node ⟨name, .capabilities methods⟩).name = "capabilities" := rfl
    rw [readMember, element, if_neg (by decide), if_neg (by decide), if_pos rfl, required, content]
    rfl
  | defined base =>
    have required : required (Declaration.node ⟨name, .defined base⟩) "name" = .ok name :=
      required_elementOf rfl named
    have read : requiredType (Declaration.node ⟨name, .defined base⟩) "underlying" =
        .ok (g base) := requiredType_elementOf rfl (exprs base (List.mem_singleton_self base))
    have element : (Declaration.node ⟨name, .defined base⟩).name = "type" := rfl
    rw [readMember, element, if_neg (by decide), if_neg (by decide), if_neg (by decide), if_pos rfl,
      required, read]
    rfl

theorem readMember_import {i : Import} (some_left : i.path ≠ "") (m : Module) :
    readMember m i.node = .ok { m with imports := m.imports ++ [i] } := by
  have path : required i.node "path" = .ok i.path := required_elementOf rfl some_left
  have name : attribute? i.node "name" = .ok (some i.name) := attribute?_elementOf
  have element : i.node.name = "import" := rfl
  rw [readMember, element, if_pos rfl, readImport, path, name]
  rfl

/-! ## Modules -/

theorem readHeader_elementOf (m : Module) (children : List Node) :
    readHeader (elementOf "module" m.header children) =
      .ok { path := m.path, name := m.name, root := m.root } := by
  have path : attribute? (elementOf "module" m.header children) "path" = .ok (some m.path) :=
    attribute?_elementOf
  have name : attribute? (elementOf "module" m.header children) "name" = .ok (some m.name) :=
    attribute?_elementOf
  have root : attribute? (elementOf "module" m.header children) "root" = .ok m.root := by
    rw [attribute?_elementOf, Module.header]
    cases m.root <;> rfl
  rw [readHeader, path, name, root]
  rfl

/-- No declaration is taken for a module. -/
theorem name_node_ne (d : Declaration) : d.node.name ≠ "module" := by
  obtain ⟨name, shape⟩ := d
  cases shape with
  | record fields => exact show "record" ≠ "module" by decide
  | capabilities methods => exact show "capabilities" ≠ "module" by decide
  | defined base => exact show "type" ≠ "module" by decide

end

end Manifest

end Stencil
