import Stencil.Generation
import Stencil.Proofs.Cache.Direct
import Stencil.Proofs.Template.Hosts

/-
  Kinds and models. A kind is found by one resolution and the model built by another, between
  which more may have been loaded.

  Proved: `model_of_kind`. If the loader is consistent, a type has a record exactly if its kind
  says so, and the same for capability sets; the model has the type's own name and the members
  of the shape that the chain ends in; and no generation fails over a model, whatever the engine.
-/

namespace Stencil

open Template (bind_of_ok bind_of_error)

/-! ## Models of shapes -/

namespace View

/-- The record that a type of some name and shape makes. -/
def recordIn (name : String) : Shape → Except ModelError Record
  | .record fields => .ok (.ofFields name fields)
  | other => .error (.kindMismatch name Kind.record.display other.kind.display)

def capabilitySetIn (name : String) : Shape → Except ModelError CapabilitySet
  | .capabilities methods => .ok (.ofMethods name methods)
  | other => .error (.kindMismatch name Kind.capabilitySet.display other.kind.display)

theorem recordIn_eq_ok_iff {name : String} {shape : Shape} {r : Record} :
    recordIn name shape = .ok r ↔ ∃ fields, shape = .record fields ∧ r = .ofFields name fields := by
  cases shape <;> simp [recordIn, eq_comm]

theorem capabilitySetIn_eq_ok_iff {name : String} {shape : Shape} {m : CapabilitySet} :
    capabilitySetIn name shape = .ok m ↔
      ∃ methods, shape = .capabilities methods ∧ m = .ofMethods name methods := by
  cases shape <;> simp [capabilitySetIn, eq_comm]

theorem exists_recordIn_iff (name : String) (shape : Shape) :
    (∃ r, recordIn name shape = .ok r) ↔ shape.kind = .record := by
  cases shape <;> simp [recordIn, Shape.kind]

theorem exists_capabilitySetIn_iff (name : String) (shape : Shape) :
    (∃ m, capabilitySetIn name shape = .ok m) ↔ shape.kind = .capabilitySet := by
  cases shape <;> simp [capabilitySetIn, Shape.kind]

end View

/-! ## Views -/

namespace View

namespace TypeView

/-- A view, without what its models do not depend on. -/
def bare (v : TypeView) : TypeView := { v with located := v.located.map Located.bare }

/-- The model of a view if it is of the kind wanted, as `build` makes it of the type's own name
and of the shape that its chain ends in. -/
def modelOf {α : Type} (s : Session) (wanted : Kind)
    (build : String → Shape → Except ModelError α) (v : TypeView) :
    StateM Cache (Except ModelError α) :=
  if v.kind = wanted then
    match v.located with
    | some x => build x.declared.name <$> s.shapeOf x
    | none => pure (.error (v.mismatch wanted))
  else pure (.error (v.mismatch wanted))

/-- The model without any cache. -/
def modelAt {α : Type} (s : Session) (modules : String → Except LoadError Module)
    (wanted : Kind) (build : String → Shape → Except ModelError α) (v : TypeView) :
    Except ModelError α :=
  if v.kind = wanted then
    match v.located with
    | some x => build x.declared.name (s.endShape modules x.bare)
    | none => .error (v.mismatch wanted)
  else .error (v.mismatch wanted)

end TypeView

theorem recordOf_eq (s : Session) (x : Located) :
    recordOf s x = recordIn x.declared.name <$> s.shapeOf x := by
  unfold recordOf
  rw [map_eq_pure_bind]
  congr 1
  funext shape
  cases shape with
  | record fields => rfl
  | capabilities methods => rfl
  | defined base => rfl

theorem capabilitySetOf_eq (s : Session) (x : Located) :
    capabilitySetOf s x = capabilitySetIn x.declared.name <$> s.shapeOf x := by
  unfold capabilitySetOf
  rw [map_eq_pure_bind]
  congr 1
  funext shape
  cases shape with
  | record fields => rfl
  | capabilities methods => rfl
  | defined base => rfl

theorem TypeView.record_eq (s : Session) (v : TypeView) :
    v.record s = v.modelOf s .record recordIn := by
  obtain ⟨t, kind, located⟩ := v
  cases kind with
  | record =>
    cases located with
    | none => rfl
    | some x => exact recordOf_eq s x
  | capabilitySet => rfl
  | unsupported why => rfl

theorem TypeView.capabilitySet_eq (s : Session) (v : TypeView) :
    v.capabilitySet s = v.modelOf s .capabilitySet capabilitySetIn := by
  obtain ⟨t, kind, located⟩ := v
  cases kind with
  | record => rfl
  | capabilitySet =>
    cases located with
    | none => rfl
    | some x => exact capabilitySetOf_eq s x
  | unsupported why => rfl

end View

namespace Session

open View

variable {s : Session} {modules : String → Except LoadError Module}

theorem modelOf_answers {α : Type} (consistent : s.library.loader.Consistent modules)
    (wanted : Kind) (build : String → Shape → Except ModelError α) (v : TypeView) :
    s.library.Answers id (v.modelOf s wanted build) (v.modelAt s modules wanted build) := by
  unfold TypeView.modelOf TypeView.modelAt
  split
  · cases v.located with
    | some x => exact (shapeOf_answers consistent x).map _
    | none => exact Library.answers_pure id _
  · exact Library.answers_pure id _

/-- The view of a type, without any cache. -/
def viewOf (s : Session) (modules : String → Except LoadError Module) (t : TypeExpr) :
    TypeView :=
  match t with
  | .named (some owner) name =>
    match s.declared modules owner name with
    | .ok x => ⟨t, (s.endShape modules x).kind, some x⟩
    | .error _ => ⟨t, .unsupported (.unresolved t), none⟩
  | .named none name => ⟨t, .unsupported (.builtin name), none⟩
  | .pointer _ => ⟨t, .unsupported (.pointer t), none⟩
  | .slice _ => ⟨t, .unsupported (.slice t), none⟩
  | .verbatim text => ⟨t, .unsupported (.verbatim text), none⟩

theorem ofType_answers (consistent : s.library.loader.Consistent modules) (t : TypeExpr) :
    s.library.Answers TypeView.bare (ofType s t) (s.viewOf modules t) := by
  cases t with
  | named owner name =>
    cases owner with
    | none => exact Library.answers_pure TypeView.bare _
    | some owner =>
      refine (locate_answers consistent owner name).bind fun answer same => ?_
      unfold viewOf
      dsimp only
      rw [← same]
      cases answer with
      | error e => exact Library.answers_pure TypeView.bare _
      | ok x =>
        refine (shapeOf_answers consistent x).bind fun shape same => ?_
        dsimp only [Except.map]
        rw [← same]
        exact Library.answers_pure TypeView.bare _
  | pointer inner => exact Library.answers_pure TypeView.bare _
  | slice inner => exact Library.answers_pure TypeView.bare _
  | verbatim text => exact Library.answers_pure TypeView.bare _

theorem kind_viewOf (s : Session) (modules : String → Except LoadError Module) (t : TypeExpr) :
    ∃ why, (s.viewOf modules t).kind =
      (s.viewOf modules t).located.elim (.unsupported why) fun x =>
        (s.endShape modules x).kind := by
  unfold viewOf
  split
  · rename_i owner name
    split
    · exact ⟨.builtin name, rfl⟩
    · exact ⟨_, rfl⟩
  · exact ⟨_, rfl⟩
  · exact ⟨_, rfl⟩
  · exact ⟨_, rfl⟩
  · exact ⟨_, rfl⟩

/-- The kind of a view is that of the shape at the end of the chain; without a declaration there
is no model. -/
theorem kind_ofType (consistent : s.library.loader.Consistent modules) {c : Cache}
    (reached : s.library.Reached c) (t : TypeExpr) :
    ∃ why, (ofType s t c).1.kind = (ofType s t c).1.located.elim (.unsupported why) fun x =>
      (s.endShape modules x.bare).kind := by
  obtain ⟨why, kind⟩ := s.kind_viewOf modules t
  rw [← (ofType_answers consistent t c reached).1] at kind
  refine ⟨why, ?_⟩
  cases found : (ofType s t c).1.located with
  | none => simpa [TypeView.bare, found] using kind
  | some x => simpa [TypeView.bare, found] using kind

end Session

/-! ## Models of views -/

namespace View.TypeView

variable {s : Session} {modules : String → Except LoadError Module} {v : TypeView}

theorem modelAt_eq_ok_iff {α : Type} {wanted : Kind}
    {build : String → Shape → Except ModelError α} {m : α} :
    v.modelAt s modules wanted build = .ok m ↔ v.kind = wanted ∧ ∃ x, v.located = some x ∧
      build x.declared.name (s.endShape modules x.bare) = .ok m := by
  unfold modelAt
  by_cases kind : v.kind = wanted
  · rw [if_pos kind]
    cases v.located with
    | none => simp
    | some x => simp [kind]
  · rw [if_neg kind]
    simp [kind]

/-- Where the kind is that of the shape, there is a model if the kind is the one wanted. -/
theorem exists_modelAt_iff {α : Type} {wanted : Kind}
    {build : String → Shape → Except ModelError α}
    (builds : ∀ name shape, (∃ m, build name shape = .ok m) ↔ shape.kind = wanted)
    {why : Unsupported}
    (told : v.kind = v.located.elim (.unsupported why) fun x => (s.endShape modules x.bare).kind)
    (supported : wanted ≠ .unsupported why) :
    (∃ m, v.modelAt s modules wanted build = .ok m) ↔ v.kind = wanted := by
  constructor
  · rintro ⟨m, built⟩
    exact (modelAt_eq_ok_iff.mp built).1
  · intro kind
    rw [kind] at told
    cases located : v.located with
    | none =>
      rw [located] at told
      exact absurd told supported
    | some x =>
      rw [located] at told
      obtain ⟨m, built⟩ := (builds x.declared.name _).mpr told.symm
      exact ⟨m, modelAt_eq_ok_iff.mpr ⟨kind, x, located, built⟩⟩

end View.TypeView

/-! ## Roots -/

/-- The root of a template for a type that ends in some shape. -/
def Render.Value.rootIn (name own : String) : Shape → Except GenerateError Render.Value
  | .record fields => .ok (.ofRecord (.ofFields own fields))
  | .capabilities methods => .ok (.ofCapabilitySet (.ofMethods own methods))
  | .defined base => .error (.unsupported name (.unsupported (.definedOver base)))

namespace Session

variable {s : Session} {modules : String → Except LoadError Module}

theorem resolve_shape (consistent : s.library.loader.Consistent modules) {c : Cache}
    (reached : s.library.Reached c) (x : Located) :
    (s.resolve x c).1.1.shape = s.endShape modules x.bare :=
  (shapeOf_answers consistent x c reached).1

/-- One answer made into another, in a generation. -/
theorem adapt_run {α β ε : Type} (w : StateM Cache (Except ε α)) (wrap : ε → GenerateError)
    (f : α → β) : (do return f (← (ExceptT.mk w).adapt wrap) : GenerateM β).run =
      w >>= fun r => pure ((r.mapError wrap).map f) := by
  funext c
  have left : (do return f (← (ExceptT.mk w).adapt wrap) : GenerateM β).run c =
    (fun p : Except ε α × Cache => (ExceptT.bindCont (m := StateM Cache) (fun a => pure (f a))
      (p.1.mapError wrap) p.2 : Except GenerateError β × Cache)) (w c) := rfl
  have right : (w >>= fun r => pure ((r.mapError wrap).map f)) c =
    (fun p : Except ε α × Cache => ((p.1.mapError wrap).map f, p.2)) (w c) := rfl
  rw [left, right]
  rcases w c with ⟨r, c'⟩
  cases r with
  | ok a => rfl
  | error e => rfl

theorem root_run (s : Session) (name : String) (x : Located) :
    (s.root name x).run = s.shapeOf x >>= fun shape => (match shape.kind with
      | .record => do
        return .ofRecord (← (ExceptT.mk (View.recordOf s x)).adapt .model)
      | .capabilitySet => do
        return .ofCapabilitySet (← (ExceptT.mk (View.capabilitySetOf s x)).adapt .model)
      | kind => throw (.unsupported name kind) : GenerateM Render.Value).run := rfl

theorem root_answers (consistent : s.library.loader.Consistent modules) (name : String)
    (x : Located) :
    s.library.Answers id (s.root name x).run
      (Render.Value.rootIn name x.declared.name (s.endShape modules x.bare)) := by
  rw [root_run]
  refine (shapeOf_answers consistent x).bind fun shape same => ?_
  have shape_eq : shape = s.endShape modules x.bare := same
  cases shape with
  | record fields =>
    dsimp only [Shape.kind]
    rw [adapt_run, View.recordOf_eq]
    refine ((shapeOf_answers consistent x).map _).bind fun r built => ?_
    have r_eq : r = View.recordIn x.declared.name (s.endShape modules x.bare) := built
    rw [r_eq, ← shape_eq]
    exact Library.answers_pure id _
  | capabilities methods =>
    dsimp only [Shape.kind]
    rw [adapt_run, View.capabilitySetOf_eq]
    refine ((shapeOf_answers consistent x).map _).bind fun r built => ?_
    have r_eq : r = View.capabilitySetIn x.declared.name (s.endShape modules x.bare) := built
    rw [r_eq, ← shape_eq]
    exact Library.answers_pure id _
  | defined base =>
    rw [← shape_eq]
    exact Library.answers_pure id _

end Session

/-! ## Errors of a generation -/

/-- From a cache, the work does not fail over a model. -/
def Unblamed {α : Type} (w : GenerateM α) (c : Cache) : Prop :=
  ∀ why, (w c).1 ≠ .error (.model why)

section

variable {α β : Type}

theorem Unblamed.bind {w : GenerateM α} {f : α → GenerateM β} {c : Cache} (h : Unblamed w c)
    (next : ∀ a c', w c = (.ok a, c') → Unblamed (f a) c') : Unblamed (w >>= f) c := by
  intro why
  rcases came : w c with ⟨answer, c'⟩
  cases answer with
  | ok a =>
    rw [bind_of_ok came]
    exact next a c' came why
  | error e =>
    rw [bind_of_error came]
    have kept := h why
    rw [came] at kept
    intro failed
    cases failed
    exact kept rfl

/-- Errors of the library are its own. -/
theorem unblamed_load (w : LoadM α) (c : Cache) : Unblamed (w.adapt GenerateError.load) c := by
  intro why
  change (w c).1.mapError GenerateError.load ≠ _
  cases (w c).1 with
  | ok a => exact nofun
  | error e => exact nofun

theorem unblamed_write (s : Session) (engine : Render.Engine) (token : String)
    (source : Render.Source) (args : Arguments) (root : Render.Value) (c : Cache) :
    Unblamed (s.write engine token source args root) c := by
  intro why
  change ((s.render engine token source args root (s.start c)).1.mapError
    GenerateError.render) ≠ _
  cases (s.render engine token source args root (s.start c)).1 with
  | ok text => exact nofun
  | error e => exact nofun

end

theorem Render.Value.rootIn_ne (name own : String) (shape : Shape) (why : ModelError) :
    rootIn name own shape ≠ .error (.model why) := by
  cases shape with
  | record fields => exact nofun
  | capabilities methods => exact nofun
  | defined base => exact nofun

/-- A load as part of a generation. -/
theorem Library.Reached.of_load {lib : Library} {c c' : Cache} (h : lib.Reached c)
    {location : String} {facets : Facets} {answer : Except GenerateError Loaded}
    (loaded : (lib.load location facets).adapt GenerateError.load c = (answer, c')) :
    lib.Reached c' := by
  have after := h.loaded location facets
  have same : (lib.load location facets c).2 = c' := congrArg Prod.snd loaded
  rwa [same] at after

theorem Session.unblamed_root {s : Session} {modules : String → Except LoadError Module}
    (consistent : s.library.loader.Consistent modules) {c : Cache}
    (reached : s.library.Reached c) (name : String) (x : Located) :
    Unblamed (s.root name x) c := by
  intro why
  have built : (s.root name x c).1 = _ := (root_answers consistent name x c reached).1
  rw [built]
  exact Render.Value.rootIn_ne _ _ _ why

theorem Library.unblamed_generate {lib : Library} {modules : String → Except LoadError Module}
    (consistent : lib.loader.Consistent modules) {c : Cache} (reached : lib.Reached c)
    (engine : Render.Engine) (formatter : Formatter) (token : String) (selector : Selector)
    (source : Render.Source) (output : String) (args : Arguments) :
    Unblamed (lib.generate engine formatter token selector source output args) c := by
  rw [generate_eq_draft]
  refine Unblamed.bind ?_ fun draft c₅ _ why => nofun
  unfold draft
  refine (unblamed_load _ c).bind fun around c₁ loaded => ?_
  have reached₁ := reached.of_load loaded
  refine (unblamed_load _ c₁).bind fun target c₂ loaded => ?_
  have reached₂ := reached₁.of_load loaded
  refine (unblamed_load _ c₂).bind fun x c₃ located => ?_
  have same : c₂ = c₃ := congrArg Prod.snd located
  rw [← same]
  refine (Session.unblamed_root consistent reached₂ selector.name x).bind fun root c₄ _ => ?_
  exact (unblamed_write _ _ _ _ _ _ c₄).bind fun text c₅ _ why => nofun

/-! ## Models follow kinds -/

open View in
/-- Whatever was loaded between, a model can be had exactly where the kind says so. -/
theorem Library.model_of_kind {lib : Library} {modules : String → Except LoadError Module}
    (consistent : lib.loader.Consistent modules) :
    -- models of the types that a template comes to
    (∀ target t c c', lib.Reached c → lib.Reached c' →
      let s : Session := ⟨lib, target⟩
      let v := (ofType s t c).1
      ((∃ r, (v.record s c').1 = .ok r) ↔ v.kind = .record) ∧
      ((∃ m, (v.capabilitySet s c').1 = .ok m) ↔ v.kind = .capabilitySet) ∧
      (∀ r, (v.record s c').1 = .ok r → ∃ x fields, v.located = some x ∧
        (s.resolve x c').1.1.shape = .record fields ∧ r = .ofFields x.declared.name fields) ∧
      ∀ m, (v.capabilitySet s c').1 = .ok m → ∃ x methods, v.located = some x ∧
        (s.resolve x c').1.1.shape = .capabilities methods ∧
        m = .ofMethods x.declared.name methods) ∧
    -- the model of the type that is generated for
    (∀ target name x c, lib.Reached c →
      let s : Session := ⟨lib, target⟩
      ((s.root name x).run c).1 = match (s.resolve x c).1.1.shape with
        | .record fields => .ok (.ofRecord (.ofFields x.declared.name fields))
        | .capabilities methods => .ok (.ofCapabilitySet (.ofMethods x.declared.name methods))
        | .defined base => .error (.unsupported name (.unsupported (.definedOver base)))) ∧
    -- no generation fails over a model
    ∀ engine formatter token selector source output args c, lib.Reached c → ∀ why,
      (lib.generate engine formatter token selector source output args c).1 ≠
        .error (.model why) := by
  refine ⟨?_, ?_, ?_⟩
  · intro target t c c' reached reached' s v
    have record : (v.record s c').1 = v.modelAt s modules .record recordIn := by
      rw [TypeView.record_eq]
      exact (Session.modelOf_answers consistent _ _ v c' reached').1
    have capabilitySet :
        (v.capabilitySet s c').1 = v.modelAt s modules .capabilitySet capabilitySetIn := by
      rw [TypeView.capabilitySet_eq]
      exact (Session.modelOf_answers consistent _ _ v c' reached').1
    have shapes : ∀ x, (s.resolve x c').1.1.shape = s.endShape modules x.bare :=
      Session.resolve_shape consistent reached'
    obtain ⟨why, told⟩ := Session.kind_ofType (s := s) consistent reached t
    simp only [record, capabilitySet, shapes]
    refine ⟨TypeView.exists_modelAt_iff exists_recordIn_iff told nofun,
      TypeView.exists_modelAt_iff exists_capabilitySetIn_iff told nofun, ?_, ?_⟩
    · intro r built
      obtain ⟨_, x, located, made⟩ := TypeView.modelAt_eq_ok_iff.mp built
      obtain ⟨fields, shape, same⟩ := recordIn_eq_ok_iff.mp made
      exact ⟨x, fields, located, shape, same⟩
    · intro m built
      obtain ⟨_, x, located, made⟩ := TypeView.modelAt_eq_ok_iff.mp built
      obtain ⟨methods, shape, same⟩ := capabilitySetIn_eq_ok_iff.mp made
      exact ⟨x, methods, located, shape, same⟩
  · intro target name x c reached s
    have built := (Session.root_answers (s := s) consistent name x c reached).1
    rw [Session.resolve_shape consistent reached]
    exact built
  · intro engine formatter token selector source output args c reached
    exact unblamed_generate consistent reached _ _ _ _ _ _ _

open View in
/-- An item that is a crate has a record of its own name, though it was looked at when nothing
was loaded and its record is asked for later. -/
theorem Library.model_of_kind_item : ∃ modules, Shop.library.loader.Consistent modules ∧
    let s : Session := ⟨Shop.library, Module.bare { path := "/shop", name := "shop" }⟩
    let v := (ofType s (.named (some ⟨"stock", "stock"⟩) "Item") {}).1
    v.kind = .record ∧ ∃ r, (v.record s (Shop.library.after [.load "stock" {}, .clear])).1 = .ok r ∧
      r.name = "Item" := by
  refine ⟨_, Shop.steady.consistent, ?_⟩
  intro s v
  have reached := Library.reached_after Shop.library [.load "stock" {}, .clear]
  obtain ⟨models, _, _⟩ := Library.model_of_kind Shop.steady.consistent
  obtain ⟨record, _, own, _⟩ := models s.target (.named (some ⟨"stock", "stock"⟩) "Item") {} _
    .fresh reached
  have kind : v.kind = .record := by decide +kernel
  obtain ⟨r, built⟩ := record.mpr kind
  obtain ⟨x, fields, located, _, rfl⟩ := own r built
  have name : v.located.map (·.declared.name) = some "Item" := by decide +kernel
  rw [located] at name
  exact ⟨kind, _, built, Option.some.inj name⟩

end Stencil
