import Stencil.Proofs.Manifest.Index
import Stencil.Proofs.Manifest.Sound
import Stencil.Proofs.Manifest.Writing
import Stencil.Proofs.Module.Owners

/-
  Modules that are written and read again. An owner is written as its path, and gets the short
  name back by which the module knows it; all else is written as it is.

  Proved: `read_write_of_read`, for any reader that gives back what is written. A module that was
  read, and whose types have owners with plain paths, is the module of the manifest it is written
  as.
-/

namespace Stencil.Manifest

open Markup

variable {m : Module}

/-! ## Reading what is written -/

/-- A declaration as its element declares it: owners have the short names of their paths. -/
def derivedOwners (d : Declaration) : Declaration := d.mapTypes (·.mapLeaf TypeExpr.derived)

/-- A module as its manifest declares it, before its types get their owners. -/
def declared (m : Module) : Module :=
  { m with types := .ofList (m.types.list.map derivedOwners) }

theorem ofEvents_node (imports : ∀ i ∈ m.imports, i.path ≠ "")
    (types : ∀ d ∈ m.types.list,
      d.Sound fun t => TypeExpr.read t.display = some (t.mapLeaf TypeExpr.derived)) :
    ofEvents m.node.events none = .ok (declared m).qualify := by
  have one_module : ∀ node ∈ m.imports.map (·.node) ++ m.types.list.map (·.node),
      node.name ≠ "module" := by
    intro node mem
    rcases List.mem_append.mp mem with mem | mem
    · obtain ⟨i, _, rfl⟩ := List.mem_map.mp mem
      exact show "import" ≠ "module" by decide
    · obtain ⟨d, _, rfl⟩ := List.mem_map.mp mem
      exact name_node_ne d
  have added := foldlM_gather (fun (m : Module) is => { m with imports := m.imports ++ is })
    (by simp) (by simp) fun i mem => readMember_import (imports i mem)
  have listed := foldlM_gather
    (fun (m : Module) ds => { m with types := ds.foldl Types.add m.types })
    (by simp) (by simp) fun d mem => readMember_declaration (types d mem)
  have content : (m.imports.map (·.node) ++ m.types.list.map (·.node)).foldlM readMember
      { path := m.path, name := m.name, root := m.root } = .ok (declared m) := by
    rw [List.foldlM_append, added, List.map_id']
    exact listed _
  have found : (members [m.node]).foldlM readElement none = .ok (some (declared m)) := by
    have header := readHeader_elementOf m []
    unfold elementOf at header
    rw [Module.node, elementOf, foldlM_module, header, List.append_nil]
    exact (foldlM_open one_module _).trans (congrArg (Except.map some) content)
  rw [ofEvents, Node.ofEvents_events, found]
  rfl

/-- The declarations get their owners again. -/
theorem qualify_declared (inStep : m.types.InStep)
    (same : ∀ d ∈ m.types.list, ∀ t ∈ d.shape.exprs,
      (t.mapLeaf TypeExpr.derived).mapLeaf m.qualifyLeaf = t) :
    (declared m).qualify = m := by
  have names : (declared m).types.list.map (·.name) = m.types.list.map (·.name) := by
    rw [declared, Types.list_ofList, List.map_map]
    rfl
  have owners : (declared m).qualifyLeaf = m.qualifyLeaf := Module.qualifyLeaf_types names
  have list : (m.types.list.map derivedOwners).map (·.mapTypes (·.mapLeaf m.qualifyLeaf)) =
      m.types.list := by
    rw [List.map_map]
    refine (List.map_congr_left fun d mem => ?_).trans (List.map_id _)
    rw [Function.comp, derivedOwners, Declaration.mapTypes_mapTypes]
    exact Declaration.mapTypes_eq_self (same d mem)
  have types : (declared m).types.mapTypes (·.mapLeaf m.qualifyLeaf) = m.types := by
    have index := Types.ofList_map (g := derivedOwners) (fun _ => rfl) m.types.list
    have rebuilt : Types.ofList m.types.list = m.types := inStep
    rw [declared, index, rebuilt, Types.mapTypes, list]
  rw [Module.qualify, owners, types]
  rfl

/-! ## The round trip -/

/-- Written as a manifest and read again, a module that was read is the same: its imports and
types in their order, all that they contain, and every owner with its short name. -/
theorem read_write_of_read {reader : Reader} (back : reader.ReadsBack) {text : String}
    (read : readBy reader text = .ok m)
    (plain : ∀ d ∈ m.types.list, ∀ t ∈ d.shape.exprs, ∀ owner ∈ t.owner,
      isModulePath owner.path.toList = true) :
    readBy reader (write m) = .ok m := by
  have inStep : m.types.InStep := inStep_read read
  obtain ⟨unowned, sound, rfl⟩ := unowned_of_ofEvents read
  -- the owners have left names and imports alone, so the same owners are found again
  have owners : unowned.qualify.qualifyLeaf = unowned.qualifyLeaf := by
    refine Module.qualifyLeaf_types ?_
    rw [Types.mapTypes, List.map_map]
    rfl
  have owned : ∀ d ∈ unowned.qualify.types.list, d.Sound fun t =>
      ∃ before, IsRead before ∧ t = before.mapLeaf unowned.qualifyLeaf := by
    intro d mem
    obtain ⟨before, among, rfl⟩ := List.mem_map.mp mem
    exact (sound.types before among).mapTypes _ fun t known => ⟨t, known, rfl⟩
  have shown : ∀ d ∈ unowned.qualify.types.list,
      d.Sound fun t => TypeExpr.read t.display = some (t.mapLeaf TypeExpr.derived) := by
    intro d mem
    refine ⟨(owned d mem).named, (owned d mem).names, fun t among => ?_⟩
    obtain ⟨before, ⟨s, known⟩, rfl⟩ := (owned d mem).exprs t among
    exact TypeExpr.read_display (unowned.requalify known).1 (plain d mem _ among)
  have same : ∀ d ∈ unowned.qualify.types.list, ∀ t ∈ d.shape.exprs,
      (t.mapLeaf TypeExpr.derived).mapLeaf unowned.qualify.qualifyLeaf = t := by
    intro d mem t among
    obtain ⟨before, ⟨s, known⟩, rfl⟩ := (owned d mem).exprs t among
    rw [owners]
    exact (unowned.requalify known).2
  rw [readBy, write, back _ (writable_node _),
    ofEvents_node (m := unowned.qualify) sound.imports shown, qualify_declared inStep same]

/-- A manifest with each kind of declaration. The types it mentions are its own, imported, built
in, and outside the grammar. -/
def eachKind : Node :=
  elementOf "module" [("path", "ex/m"), ("root", "ex")] [
    elementOf "import" [("path", "ex/lib"), ("name", "l")] [],
    elementOf "record" [("name", "R")] [
      elementOf "field" [("name", "A"), ("type", "*ex/lib.T"), ("tag", "json:\"a\"")] []],
    elementOf "capabilities" [("name", "S")] [
      elementOf "method" [("name", "F"), ("variadic", "1")] [
        elementOf "param" [("type", " [] R")] [],
        elementOf "result" [("name", "e"), ("type", "error")] []]],
    elementOf "type" [("name", "D"), ("underlying", "func() int")] []]

/-- The module of that manifest. -/
def eachKindModule : Module where
  path := "ex/m"
  name := "m"
  root := some "ex"
  imports := [⟨"ex/lib", "l"⟩]
  types := .ofList [
    ⟨"R", .record [⟨"A", .pointer (.named (some ⟨"ex/lib", "l"⟩) "T"), ⟨"json:\"a\""⟩⟩]⟩,
    ⟨"S", .capabilities [⟨"F", true, [⟨"", .slice (.named (some ⟨"ex/m", "m"⟩) "R")⟩],
      [⟨"e", .named none "error"⟩]⟩]⟩,
    ⟨"D", .defined (.verbatim "func() int")⟩]

theorem writable_eachKind : eachKind.Writable := by
  unfold eachKind
  repeat' first
    | refine writable_elementOf (by decide) ?_
    | refine List.forall_mem_cons.mpr ⟨?_, ?_⟩
    | exact List.forall_mem_nil _

theorem read_write_of_read_each : Reader.ReadsBack Markup.read ∧
    Manifest.read (String.ofList eachKind.write) = .ok eachKindModule ∧
      Manifest.read (write eachKindModule) = .ok eachKindModule := by
  have read : Manifest.read (String.ofList eachKind.write) = .ok eachKindModule := by
    rw [Manifest.read, readBy, readsBack_read _ writable_eachKind]
    rfl
  exact ⟨readsBack_read, read, read_write_of_read readsBack_read read (by decide +kernel)⟩

end Stencil.Manifest
