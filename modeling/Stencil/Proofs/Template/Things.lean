import Stencil.Template.Host

/-
  Values with other things in them. What is printed of a value, and what it counts as, is the
  same with other things in place of those in it (`text_map`, `whole?_map`).
-/

namespace Stencil.Template

variable {ω ρ : Type}

def Source.map (g : ω → ρ) : Source ω → Source ρ
  | .thing t => .thing (g t)
  | .own number => .own number

namespace Value

/-! ## Other things -/

mutual

/-- The value with other things in place of its own. -/
def map (g : ω → ρ) : Value ω → Value ρ
  | undefined => undefined
  | none => none
  | bool b => bool b
  | number n => number n
  | str s => str s
  | list items => list (mapItems g items)
  | object source text attributes => object (source.map g) text (mapRows g attributes)
  | function name => function name

def mapItems (g : ω → ρ) : List (Value ω) → List (Value ρ)
  | [] => []
  | v :: rest => v.map g :: mapItems g rest

def mapRows (g : ω → ρ) : List (String × Value ω) → List (String × Value ρ)
  | [] => []
  | (key, v) :: rest => (key, v.map g) :: mapRows g rest

end

theorem mapItems_eq (g : ω → ρ) (items : List (Value ω)) :
    mapItems g items = items.map (map g) := by
  induction items with
  | nil => rfl
  | cons v rest ih => rw [mapItems, ih, List.map_cons]

theorem mapRows_eq (g : ω → ρ) (rows : List (String × Value ω)) :
    mapRows g rows = rows.map fun (key, v) => (key, v.map g) := by
  induction rows with
  | nil => rfl
  | cons row rest ih => rw [mapRows, ih, List.map_cons]

mutual

theorem map_id : ∀ v : Value ω, v.map id = v
  | undefined | none | bool _ | number _ | str _ | function _ => rfl
  | list items => by rw [map, mapItems_id items]
  | object (.thing _) _ attributes => by
      rw [map, mapRows_id attributes]
      rfl
  | object (.own _) _ attributes => by
      rw [map, mapRows_id attributes]
      rfl

theorem mapItems_id : ∀ items : List (Value ω), mapItems id items = items
  | [] => rfl
  | v :: rest => by rw [mapItems, map_id v, mapItems_id rest]

theorem mapRows_id : ∀ rows : List (String × Value ω), mapRows id rows = rows
  | [] => rfl
  | (_, v) :: rest => by rw [mapRows, map_id v, mapRows_id rest]

end

/-! ## Printing -/

section

variable (g : ω → ρ)

mutual

theorem inner_map : ∀ v : Value ω, (v.map g).inner = v.inner
  | undefined | none | bool _ | number _ | str _ | function _ => rfl
  | list items => by rw [map, inner, inner, innerItems_map items]
  | object _ (some _) _ => by rw [map, inner, inner]
  | object _ Option.none attributes => by rw [map, inner, inner, innerRows_map attributes]

theorem innerItems_map : ∀ items : List (Value ω),
    innerItems (mapItems g items) = innerItems items
  | [] => rfl
  | v :: rest => by rw [mapItems, innerItems, innerItems, inner_map v, innerItems_map rest]

theorem innerRows_map : ∀ rows : List (String × Value ω),
    innerRows (mapRows g rows) = innerRows rows
  | [] => rfl
  | (_, v) :: rest => by rw [mapRows, innerRows, innerRows, inner_map v, innerRows_map rest]

end

theorem text_map (v : Value ω) : (v.map g).text = v.text := by
  cases v with
  | undefined | number _ | str _ => rfl
  | _ => exact inner_map g _

theorem isDefined_map (v : Value ω) : (v.map g).isDefined = v.isDefined := by
  cases v <;> rfl

theorem number?_map (v : Value ω) : (v.map g).number? = v.number? := by
  cases v <;> rfl

theorem whole?_map (v : Value ω) : (v.map g).whole? = v.whole? := by
  rw [whole?, number?_map, whole?]

end

/-! ## Values alike -/

section

variable {g : ω → ρ} {v w : Value ω} {args args' : List (Value ω)}

theorem text_eq (same : v.map g = w.map g) : v.text = w.text := by
  rw [← text_map g, same, text_map]

theorem isDefined_eq (same : v.map g = w.map g) : v.isDefined = w.isDefined := by
  rw [← isDefined_map g, same, isDefined_map]

theorem isEmpty_eq (same : mapItems g args = mapItems g args') : args.isEmpty = args'.isEmpty := by
  have empty := congrArg List.isEmpty same
  rwa [mapItems_eq, mapItems_eq, List.isEmpty_map, List.isEmpty_map] at empty

theorem nil_or_cons_of_mapItems_eq (same : mapItems g args = mapItems g args') :
    (args = [] ∧ args' = []) ∨ ∃ v rest w rest', args = v :: rest ∧ args' = w :: rest' ∧
      v.map g = w.map g ∧ mapItems g rest = mapItems g rest' := by
  cases args with
  | nil =>
    cases args' with
    | nil => exact .inl ⟨rfl, rfl⟩
    | cons w rest' => cases same
  | cons v rest =>
    cases args' with
    | nil => cases same
    | cons w rest' =>
      obtain ⟨first, others⟩ := List.cons.inj same
      exact .inr ⟨v, rest, w, rest', rfl, rfl, first, others⟩

end

end Value

def Callee.map (g : ω → ρ) : Callee ω → Callee ρ
  | .function name => .function name
  | .method thing name => .method (g thing) name

theorem Callee.map_id (callee : Callee ω) : callee.map id = callee := by
  cases callee <;> rfl

end Stencil.Template
