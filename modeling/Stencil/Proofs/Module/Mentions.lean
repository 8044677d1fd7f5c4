import Stencil.Manifest.Qualify

/-
  What declarations mention: the type expressions in them and the names of their fields and
  methods. A map over the types reaches each expression once, and no name.
-/

namespace Stencil

/-! ## Expressions and names -/

def Method.exprs (m : Method) : List TypeExpr := m.params.map (·.type) ++ m.results.map (·.type)

namespace Shape

/-- The type expressions of fields, parameters, results, or of the type behind a defined one. -/
def exprs : Shape → List TypeExpr
  | record fields => fields.map (·.type)
  | capabilities methods => methods.flatMap (·.exprs)
  | defined base => [base]

/-- The names of fields or methods. -/
def names : Shape → List String
  | record fields => fields.map (·.name)
  | capabilities methods => methods.map (·.name)
  | defined _ => []

end Shape

/-- Nothing in a declaration lacks its name, and each expression has the property. -/
structure Declaration.Sound (P : TypeExpr → Prop) (d : Declaration) : Prop where
  named : d.name ≠ ""
  names : ∀ name ∈ d.shape.names, name ≠ ""
  exprs : ∀ t ∈ d.shape.exprs, P t

/-! ## Maps over the types -/

section

variable (f g : TypeExpr → TypeExpr)

theorem Method.exprs_mapTypes (m : Method) : (m.mapTypes f).exprs = m.exprs.map f := by
  simp only [exprs, mapTypes, List.map_append, List.map_map]
  rfl

theorem Method.mapTypes_mapTypes (m : Method) :
    (m.mapTypes f).mapTypes g = m.mapTypes (g ∘ f) := by
  simp only [mapTypes, List.map_map]
  rfl

theorem Shape.exprs_mapTypes (s : Shape) : (s.mapTypes f).exprs = s.exprs.map f := by
  cases s with
  | record fields =>
    simp only [exprs, mapTypes, List.map_map]
    rfl
  | capabilities methods =>
    simp only [exprs, mapTypes, List.flatMap_map, List.map_flatMap, Method.exprs_mapTypes]
  | defined base => rfl

theorem Shape.names_mapTypes (s : Shape) : (s.mapTypes f).names = s.names := by
  cases s with
  | record fields =>
    simp only [names, mapTypes, List.map_map]
    rfl
  | capabilities methods =>
    simp only [names, mapTypes, List.map_map]
    rfl
  | defined base => rfl

theorem Declaration.Sound.mapTypes {P Q : TypeExpr → Prop} {d : Declaration} (h : d.Sound P)
    (each : ∀ t, P t → Q (f t)) : (d.mapTypes f).Sound Q where
  named := h.named
  names := by
    rw [Declaration.mapTypes, Shape.names_mapTypes]
    exact h.names
  exprs := by
    rw [Declaration.mapTypes, Shape.exprs_mapTypes]
    intro t mem
    obtain ⟨before, among, rfl⟩ := List.mem_map.mp mem
    exact each before (h.exprs before among)

theorem Declaration.mapTypes_mapTypes (d : Declaration) :
    (d.mapTypes f).mapTypes g = d.mapTypes (g ∘ f) := by
  obtain ⟨name, shape⟩ := d
  cases shape with
  | record fields =>
    simp only [mapTypes, Shape.mapTypes, List.map_map]
    rfl
  | capabilities methods =>
    simp only [mapTypes, Shape.mapTypes, List.map_map, Function.comp_def, Method.mapTypes_mapTypes]
  | defined base => rfl

end

section

variable {f : TypeExpr → TypeExpr}

theorem Param.mapType_eq_self {p : Param} (h : f p.type = p.type) : p.mapType f = p := by
  rw [mapType, h]

theorem Method.mapTypes_eq_self {m : Method} (h : ∀ t ∈ m.exprs, f t = t) : m.mapTypes f = m := by
  have params : m.params.map (·.mapType f) = m.params.map id :=
    List.map_congr_left fun p mem =>
      Param.mapType_eq_self (h p.type (List.mem_append_left _ (List.mem_map_of_mem mem)))
  have results : m.results.map (·.mapType f) = m.results.map id :=
    List.map_congr_left fun p mem =>
      Param.mapType_eq_self (h p.type (List.mem_append_right _ (List.mem_map_of_mem mem)))
  rw [mapTypes, params, results, List.map_id, List.map_id]

/-- A map that leaves the expressions of a declaration alone leaves the declaration alone. -/
theorem Declaration.mapTypes_eq_self {d : Declaration} (h : ∀ t ∈ d.shape.exprs, f t = t) :
    d.mapTypes f = d := by
  obtain ⟨name, shape⟩ := d
  cases shape with
  | record fields =>
    have same : fields.map (fun field => { field with type := f field.type }) = fields.map id :=
      List.map_congr_left fun field mem => by
        rw [h field.type (List.mem_map_of_mem mem)]
        rfl
    rw [mapTypes, Shape.mapTypes, same, List.map_id]
  | capabilities methods =>
    have same : methods.map (·.mapTypes f) = methods.map id :=
      List.map_congr_left fun m mem =>
        Method.mapTypes_eq_self fun t among => h t (List.mem_flatMap.mpr ⟨m, mem, among⟩)
    rw [mapTypes, Shape.mapTypes, same, List.map_id]
  | defined base =>
    have same : f base = base := h base (List.mem_singleton_self base)
    rw [mapTypes, Shape.mapTypes, same]

end

end Stencil
