import Stencil.Plain.Scope
import Stencil.Plain.Tree
import Stencil.Proofs.Template.Things

/-
  Plain templates and the things in their values. All that a plain template does with a value
  leaves the things in it alone: what is tested or compared is the same with other things in
  place of them (`isTrue_map`, `same_map`, `order_map`), and what is taken out has them in place
  too (`attr_map`, `item_map`, `parts?_map`). So it is with the names of a template and with the
  passes of its loops (`Scope.pass_map`).
-/

namespace Stencil.Template.Value

variable {ω ρ : Type}

theorem lookup_mapRows (g : ω → ρ) (key : String) (rows : List (String × Value ω)) :
    (mapRows g rows).lookup key = (rows.lookup key).map (map g) := by
  induction rows with
  | nil => rfl
  | cons row rest ih =>
    obtain ⟨other, v⟩ := row
    rw [mapRows, List.lookup_cons, List.lookup_cons, ih]
    split
    · rfl
    · rfl

/-! ## Truth -/

section

variable (g : ω → ρ)

theorem joined_map (a b : Value ω) : (a.map g).joined (b.map g) = a.joined b := by
  rw [joined, text_map, text_map, joined]

theorem isTrue_map (v : Value ω) : (v.map g).isTrue = v.isTrue := by
  cases v with
  | list items => rw [map, isTrue, isTrue, mapItems_eq, List.isEmpty_map]
  | object _ _ attributes => rw [map, isTrue, isTrue, mapRows_eq, List.isEmpty_map]
  | _ => rfl

theorem neg?_map (v : Value ω) : (v.map g).neg? = v.neg?.map (map g) := by
  cases v with
  | number n =>
    rw [map, neg?, neg?]
    cases n.neg? with
    | none => rfl
    | some m => rfl
  | _ => rfl

/-! ## Parts -/

theorem attr_map (v : Value ω) (key : String) : (v.map g).attr key = (v.attr key).map g := by
  cases v with
  | object _ _ attributes =>
    rw [map, attr, attr, lookup_mapRows]
    cases attributes.lookup key with
    | none => rfl
    | some v => rfl
  | _ => rfl

theorem member?_map {α β : Type} (f : α → β) (items : List α) (index : Int) :
    member? (items.map f) index = (member? items index).map f := by
  unfold member?
  rw [List.length_map]
  split
  · exact List.getElem?_map
  · split
    · exact List.getElem?_map
    · rfl

theorem item_map (v key : Value ω) : (v.map g).item (key.map g) = (v.item key).map g := by
  cases v with
  | object _ _ attributes =>
    cases key with
    | str key =>
      simp only [map, item, lookup_mapRows]
      cases attributes.lookup key with
      | none => rfl
      | some v => rfl
    | _ => rfl
  | list items =>
    change ((key.map g).whole?.bind (member? (mapItems g items))).getD undefined =
      ((key.whole?.bind (member? items)).getD undefined).map g
    rw [whole?_map, mapItems_eq]
    cases key.whole? with
    | none => rfl
    | some index =>
      rw [Option.bind_some, Option.bind_some, member?_map]
      cases member? items index with
      | none => rfl
      | some v => rfl
  | str s =>
    change (((key.map g).whole?.bind (member? s.toList)).map (str ·.toString)).getD undefined =
      (((key.whole?.bind (member? s.toList)).map (str ·.toString)).getD undefined).map g
    rw [whole?_map]
    cases key.whole?.bind (member? s.toList) with
    | none => rfl
    | some c => rfl
  | _ => rfl

theorem parts?_map (v : Value ω) : (v.map g).parts? = v.parts?.map (mapItems g) := by
  cases v with
  | str s =>
    rw [map, parts?, parts?, Option.map_some, mapItems_eq, List.map_map]
    rfl
  | object _ _ attributes =>
    rw [map, parts?, parts?, Option.map_some, mapItems_eq, mapRows_eq, List.map_map,
      List.map_map]
    rfl
  | _ => rfl

theorem length?_map (v : Value ω) : (v.map g).length? = v.length? := by
  cases v with
  | list items => simp only [map, length?, parts?, Option.map_some, mapItems_eq, List.length_map]
  | str s => simp only [map, length?, parts?, Option.map_some, List.length_map]
  | object _ _ attributes =>
    simp only [map, length?, parts?, Option.map_some, mapRows_eq, List.length_map]
  | _ => rfl

/-! ## Comparing -/

mutual

theorem same_map : ∀ a b : Value ω, (a.map g).same (b.map g) = a.same b
  | list as, b => by
      cases b with
      | list bs => rw [map, map, same, same, sameItems_map as bs]
      | _ => rfl
  | object _ _ as, b => by
      cases b with
      | object _ _ bs =>
        rw [map, map, same, same, sameRows_map as bs, mapRows_eq, mapRows_eq, List.length_map,
          List.length_map]
      | _ => rfl
  | undefined, b | none, b | bool _, b | number _, b | str _, b | function _, b => by
      cases b <;> rfl

theorem sameItems_map : ∀ as bs : List (Value ω),
    sameItems (mapItems g as) (mapItems g bs) = sameItems as bs
  | [], [] => rfl
  | [], _ :: _ => rfl
  | _ :: _, [] => rfl
  | a :: as, b :: bs => by
      rw [mapItems, mapItems, sameItems, sameItems, same_map a b, sameItems_map as bs]

theorem sameRows_map : ∀ as bs : List (String × Value ω),
    sameRows (mapRows g as) (mapRows g bs) = sameRows as bs
  | [], _ => rfl
  | (key, a) :: as, bs => by
      rw [mapRows, sameRows, sameRows, sameRows_map as bs, lookup_mapRows]
      cases bs.lookup key with
      | none => rfl
      | some b =>
        dsimp only [Option.map_some]
        rw [same_map a b]

end

mutual

theorem order_map : ∀ a b : Value ω, (a.map g).order (b.map g) = a.order b
  | list as, b => by
      cases b with
      | list bs => rw [map, map, order, order, orderItems_map as bs]
      | _ => rfl
  | object _ _ as, b => by
      cases b with
      | object _ _ bs => rw [map, map, order, order, orderRows_map as bs]
      | _ => rfl
  | undefined, b | none, b | bool _, b | number _, b | str _, b | function _, b => by
      cases b <;> rfl

theorem orderItems_map : ∀ as bs : List (Value ω),
    orderItems (mapItems g as) (mapItems g bs) = orderItems as bs
  | [], [] => rfl
  | [], _ :: _ => rfl
  | _ :: _, [] => rfl
  | a :: as, b :: bs => by
      rw [mapItems, mapItems, orderItems, orderItems, order_map a b, orderItems_map as bs]

theorem orderRows_map : ∀ as bs : List (String × Value ω),
    orderRows (mapRows g as) (mapRows g bs) = orderRows as bs
  | [], [] => rfl
  | [], _ :: _ => rfl
  | _ :: _, [] => rfl
  | (_, a) :: as, (_, b) :: bs => by
      rw [mapRows, mapRows, orderRows, orderRows, order_map a b, orderRows_map as bs]

end

theorem contains?_map (v part : Value ω) :
    (v.map g).contains? (part.map g) = v.contains? part := by
  cases v with
  | str s => rw [map, contains?, contains?, text_map]
  | list items =>
    rw [map, contains?, contains?, mapItems_eq, List.any_map]
    congr 2
    funext item
    exact same_map g item part
  | object _ _ attributes =>
    cases part with
    | str key =>
      simp only [map, contains?, lookup_mapRows, Option.isSome_map]
    | _ => rfl
  | _ => rfl

/-! ## Kept loops -/

mutual

theorem renew_map (outer : Nat) (now : Value ω) : ∀ v : Value ω,
    (renew outer now v).map g = renew outer (now.map g) (v.map g)
  | list items => by rw [map, renew, renew, map, renewItems_map outer now items]
  | object (.thing _) _ _ => rfl
  | object (.own n) _ _ => by
      rw [map, Source.map, renew, renew]
      split
      · rfl
      · rfl
  | undefined | none | bool _ | number _ | str _ | function _ => rfl

theorem renewItems_map (outer : Nat) (now : Value ω) : ∀ items : List (Value ω),
    mapItems g (renewItems outer now items) = renewItems outer (now.map g) (mapItems g items)
  | [] => rfl
  | v :: rest => by
      rw [renewItems, mapItems, mapItems, renewItems, renew_map outer now v,
        renewItems_map outer now rest]

end

end

end Stencil.Template.Value

namespace Stencil.Plain

open Template

variable {ω ρ : Type} (g : ω → ρ)

theorem Comparison.holds?_map (c : Comparison) (a b : Value ω) :
    c.holds? (a.map g) (b.map g) = c.holds? a b := by
  cases c with
  | equal | notEqual => simp only [holds?, Value.same_map]
  | less | lessEqual | greater | greaterEqual => simp only [holds?, Value.order_map]
  | isIn | isNotIn => simp only [holds?, Value.contains?_map]

/-! ## Names -/

def Frame.map (f : Frame ω) : Frame ρ where
  locals := f.locals.map fun (name, v) => (name, v.map g)
  loop := f.loop.map (·.map g)

def Scope.map (s : Scope ω) : Scope ρ where
  frames := s.frames.map (·.map g)
  root := s.root.map g
  functions := s.functions

def Pass.map (p : Pass ω) : Pass ρ where
  index := p.index
  count := p.count
  previous := p.previous.map g
  current := p.current.map g
  next := p.next.map g

theorem Frame.find?_map (f : Frame ω) (name : String) :
    (f.map g).find? name = (f.find? name).map (·.map g) := by
  have found : (f.locals.map fun (name, v) => (name, v.map g)).lookup name =
      (f.locals.lookup name).map (·.map g) := by
    rw [← Value.mapRows_eq, Value.lookup_mapRows]
  unfold find? Frame.map
  rw [found]
  cases f.locals.lookup name with
  | some v => rfl
  | none =>
    dsimp only [Option.map_none]
    split
    · rfl
    · rfl

theorem Frame.put_map (f : Frame ω) (name : String) (v : Value ω) :
    (f.put name v).map g = (f.map g).put name (v.map g) := by
  unfold put Frame.map
  dsimp only
  rw [List.map_cons, List.filter_map]
  rfl

theorem Scope.put_map (s : Scope ω) (name : String) (v : Value ω) :
    (s.put name v).map g = (s.map g).put name (v.map g) := by
  obtain ⟨frames, root, functions⟩ := s
  cases frames with
  | nil => rfl
  | cons f rest =>
    unfold put Scope.map
    dsimp only
    rw [List.map_cons, List.map_cons, f.put_map]

theorem Scope.frames_find?_map (frames : List (Frame ω)) (name : String) :
    (frames.map (·.map g)).findSome? (·.find? name) =
      (frames.findSome? (·.find? name)).map (·.map g) := by
  induction frames with
  | nil => rfl
  | cons f rest ih =>
    rw [List.map_cons, List.findSome?_cons, List.findSome?_cons, f.find?_map, ih]
    cases f.find? name with
    | some v => rfl
    | none => rfl

theorem Scope.find?_map (s : Scope ω) (name : String) :
    (s.map g).find? name = (s.find? name).map (·.map g) := by
  have frames : (s.map g).frames.findSome? (·.find? name) =
      (s.frames.findSome? (·.find? name)).map (·.map g) := frames_find?_map g s.frames name
  have root : (s.map g).root.attr name = (s.root.attr name).map g := Value.attr_map g s.root name
  unfold find?
  rw [frames, root]
  cases s.frames.findSome? (·.find? name) with
  | some v => rfl
  | none =>
    dsimp only [Option.map_none]
    rw [Value.isDefined_map]
    split
    · rfl
    · change (if name ∈ s.functions then _ else _) = _
      split
      · rfl
      · rfl

theorem Scope.enter_map (s : Scope ω) : s.enter.map g = (s.map g).enter := rfl

theorem Pass.loopValue_map (p : Pass ω) (outer : Nat) :
    (p.loopValue outer).map g = (p.map g).loopValue outer := rfl

theorem Scope.pass_map (s : Scope ω) (name : String) (p : Pass ω) :
    (s.pass name p).map g = (s.map g).pass name (p.map g) := by
  obtain ⟨frames, root, functions⟩ := s
  cases frames with
  | nil => rfl
  | cons f rest =>
    have around : (rest.map (·.map g)).countP (·.loop.isSome) = rest.countP (·.loop.isSome) := by
      rw [List.countP_map]
      congr 1
      funext frame
      exact Option.isSome_map
    unfold pass Scope.map
    dsimp only
    rw [List.map_cons, List.map_cons]
    dsimp only
    rw [around, Frame.put_map]
    simp only [Frame.map, List.map_map, Option.map_some, Pass.loopValue_map, Function.comp_def,
      Value.renew_map]
    rfl

theorem passesFrom_map (index count : Nat) (previous : Value ω) (values : List (Value ω)) :
    (passesFrom index count previous values).map (·.map g) =
      passesFrom index count (previous.map g) (Value.mapItems g values) := by
  induction values generalizing index previous with
  | nil => rfl
  | cons v rest ih =>
    rw [passesFrom, List.map_cons, Value.mapItems, passesFrom, ih]
    congr 1
    cases rest with
    | nil => rfl
    | cons next rest => rfl

theorem passes_map (values : List (Value ω)) :
    (passes values).map (·.map g) = passes (Value.mapItems g values) := by
  unfold passes
  rw [passesFrom_map, Value.mapItems_eq, List.length_map]
  rfl

end Stencil.Plain
