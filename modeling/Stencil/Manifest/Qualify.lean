import Stencil.Module.Basic

/-
  Owners of the types a module mentions: a bare name that the module declares belongs to it,
  and every owner gets the short name the module knows it by.
-/

namespace Stencil

def Param.mapType (f : TypeExpr → TypeExpr) (p : Param) : Param := { p with type := f p.type }

def Method.mapTypes (f : TypeExpr → TypeExpr) (m : Method) : Method :=
  { m with params := m.params.map (·.mapType f), results := m.results.map (·.mapType f) }

def Shape.mapTypes (f : TypeExpr → TypeExpr) : Shape → Shape
  | record fields => record (fields.map fun field => { field with type := f field.type })
  | capabilities methods => capabilities (methods.map (·.mapTypes f))
  | defined base => defined (f base)

def Declaration.mapTypes (f : TypeExpr → TypeExpr) (d : Declaration) : Declaration :=
  { d with shape := d.shape.mapTypes f }

def Types.mapTypes (f : TypeExpr → TypeExpr) (t : Types) : Types :=
  { t with list := t.list.map (·.mapTypes f) }

namespace Module

/-- The name the module knows an owner by: its own, that of the first import of the path,
or the one it has. -/
def knownName (m : Module) (owner : ModuleName) : ModuleName :=
  if owner.path = m.path then m.moduleName
  else match m.imports.find? (·.path = owner.path) with
    | some i => ⟨i.path, i.name⟩
    | none => owner

def qualifyLeaf (m : Module) : TypeExpr → TypeExpr
  | .named none name =>
    if m.types.list.any (·.name = name) then .named (some m.moduleName) name
    else .named none name
  | .named (some owner) name => .named (some (m.knownName owner)) name
  | t => t

def qualify (m : Module) : Module :=
  { m with types := m.types.mapTypes (·.mapLeaf m.qualifyLeaf) }

end Module

end Stencil
