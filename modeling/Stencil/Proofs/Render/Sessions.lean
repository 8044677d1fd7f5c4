import Stencil.Proofs.View.Dispatch

/-
  Renderings in two sessions of one library. The loader is consistent, and the targets of the
  sessions have the same path and types; the caches may be any that the library can come to.

  Proved: `render_twin`, for an engine that does not look into models. Both renderings come to the
  same text or to the same error, and leave caches that the library can come to. The views of
  types hold modules as they are found in the cache; of these the template learns nothing but
  what is the same in both.
-/

namespace Stencil

/-- Two caches that the library can come to. -/
abbrev Library.Both (lib : Library) (c c' : Cache) : Prop := lib.Reached c ∧ lib.Reached c'

/-! ## Sessions with like targets -/

namespace Session

variable {lib : Library} {target target' : Snapshot}

theorem declared_congr (like : target.bare = target'.bare)
    (modules : String → Except LoadError Module) :
    declared ⟨lib, target⟩ modules = declared ⟨lib, target'⟩ modules := by
  funext owner name
  have path : target.bare.path = target'.bare.path := congrArg Snapshot.path like
  change target.path = target'.path at path
  unfold declared
  dsimp only
  rw [path, like]

theorem endShape_congr (like : target.bare = target'.bare)
    (modules : String → Except LoadError Module) :
    endShape ⟨lib, target⟩ modules = endShape ⟨lib, target'⟩ modules := by
  funext x
  unfold endShape
  rw [declared_congr like]

theorem viewOf_congr (like : target.bare = target'.bare)
    (modules : String → Except LoadError Module) :
    viewOf ⟨lib, target⟩ modules = viewOf ⟨lib, target'⟩ modules := by
  funext t
  unfold viewOf
  rw [declared_congr like, endShape_congr like]

end Session

namespace View.TypeView

variable {lib : Library} {target target' : Snapshot} {v w : TypeView}
  {modules : String → Except LoadError Module}

theorem modelAt_bare {α : Type} (s : Session) (wanted : Kind)
    (build : String → Shape → Except ModelError α) (v : TypeView) :
    v.bare.modelAt s modules wanted build = v.modelAt s modules wanted build := by
  obtain ⟨t, kind, located⟩ := v
  cases located with
  | none => rfl
  | some x => rfl

theorem modelAt_congr {α : Type} (like : target.bare = target'.bare) (same : v.bare = w.bare)
    (wanted : Kind) (build : String → Shape → Except ModelError α) :
    v.modelAt ⟨lib, target⟩ modules wanted build =
      w.modelAt ⟨lib, target'⟩ modules wanted build := by
  rw [← modelAt_bare, same, modelAt_bare]
  unfold modelAt
  rw [Session.endShape_congr like]

end View.TypeView

namespace Render

open Template (Alike HostsAlike Failure Outcomes)

/-- The model, without what its methods do not depend on. -/
def Model.bare : Model → Model
  | .type v => .type v.bare
  | m => m

/-- The value, without what its methods do not depend on. -/
abbrev bareValue : Value → Value := Template.Value.map Model.bare

abbrev bareValues : List Value → List Value := Template.Value.mapItems Model.bare

/-! ## Steps alike -/

/-- The states of two renderings that have come to the same. -/
structure Beside (lib : Library) (x y : State) : Prop where
  asked : x.importsCalled = y.importsCalled
  imports : x.session.imports = y.session.imports
  left : lib.Reached x.session.cache
  right : lib.Reached y.session.cache

/-- Steps of two renderings with one answer, as far as `view` tells. -/
abbrev Twin {α β : Type} (lib : Library) (view : α → β) (w v : Step α) : Prop :=
  Alike view (Beside lib) (fun _ => Beside lib) w v

section

variable {α β : Type} {lib : Library} {view : α → β} {args args' : List Value}

theorem twin_throw (f : Failure Cause) : Twin lib view (throw f) (throw f) :=
  fun _ _ related => .error f related

theorem twin_complaint :
    Template.Complaint (Beside lib) fun (_ : Failure Cause) => Beside lib :=
  fun _ _ _ related => related

theorem twin_orBlame (r : Except ModelError α) : Twin lib id (orBlame r) (orBlame r) := by
  cases r with
  | ok a => exact .pure rfl
  | error why => exact twin_throw _

theorem twin_onCache {w v : StateM Cache α} {b : β} (h : lib.Answers view w b)
    (h' : lib.Answers view v b) : Twin lib view (onCache w) (onCache v) := by
  intro x y related
  obtain ⟨answer, left⟩ := h x.session.cache related.left
  obtain ⟨answer', right⟩ := h' y.session.cache related.right
  exact .ok (answer.trans answer'.symm) ⟨related.asked, related.imports, left, right⟩

theorem twin_typeString (t : TypeExpr) :
    Twin lib id (onSession (Session.typeString t)) (onSession (Session.typeString t)) := by
  intro x y related
  have typed : x.session.imports.typeString t = y.session.imports.typeString t := by
    rw [related.imports]
  exact .ok (congrArg Prod.fst typed)
    ⟨related.asked, congrArg Prod.snd typed, related.left, related.right⟩

/-! ## Arguments alike -/

theorem twin_takesNone (method : String) (same : bareValues args = bareValues args') :
    Twin lib id (takesNone method args) (takesNone method args') := by
  unfold takesNone
  rw [Template.Value.isEmpty_eq same]
  split
  · exact .pure rfl
  · exact twin_throw _

theorem twin_takeText (same : bareValues args = bareValues args') :
    Twin lib (Prod.map id bareValues) (takeText args) (takeText args') := by
  rcases Template.Value.nil_or_cons_of_mapItems_eq same with
    ⟨rfl, rfl⟩ | ⟨v, rest, w, rest', rfl, rfl, first, others⟩
  · exact twin_throw _
  · cases v with
    | str s =>
      cases w with
      | str s' =>
        cases Template.Value.str.inj first
        exact .pure (Prod.ext rfl others)
      | _ => cases first
    | _ =>
      cases w with
      | str s' => cases first
      | _ => exact twin_throw _

theorem twin_oneText (same : bareValues args = bareValues args') :
    Twin lib id (oneText args) (oneText args') := by
  refine .bind (twin_takeText same) fun (s, rest) (s', rest') taken => ?_
  obtain ⟨texts, others⟩ := Prod.mk.inj taken
  cases show s = s' from texts
  exact .bind_id (twin_complaint.noMore others) fun _ => .pure rfl

theorem twin_twoTexts (same : bareValues args = bareValues args') :
    Twin lib id (twoTexts args) (twoTexts args') := by
  refine .bind (twin_takeText same) fun (s, rest) (s', rest') taken => ?_
  obtain ⟨texts, others⟩ := Prod.mk.inj taken
  cases show s = s' from texts
  refine .bind (twin_takeText others) fun (t, rest) (t', rest') taken => ?_
  obtain ⟨texts, others⟩ := Prod.mk.inj taken
  cases show t = t' from texts
  exact .bind_id (twin_complaint.noMore others) fun _ => .pure rfl

theorem twin_oneIndex (same : bareValues args = bareValues args') :
    Twin lib id (oneIndex args) (oneIndex args') := by
  rcases Template.Value.nil_or_cons_of_mapItems_eq same with
    ⟨rfl, rfl⟩ | ⟨v, rest, w, rest', rfl, rfl, first, others⟩
  · exact twin_throw _
  · have whole : v.whole? = w.whole? := by
      rw [← Template.Value.whole?_map Model.bare, first, Template.Value.whole?_map]
    unfold oneIndex
    dsimp only
    rw [whole]
    split
    · split
      · exact .bind_id (twin_complaint.noMore others) fun _ => .pure rfl
      · exact twin_throw _
    · exact twin_throw _

/-! ## Methods alike -/

theorem twin_methodMethod (m : View.Method) (method : String)
    (same : bareValues args = bareValues args') :
    Twin lib bareValue (methodMethod m method args) (methodMethod m method args') := by
  unfold methodMethod
  split
  · exact .bind_id (twin_takesNone method same) fun _ => .pure rfl
  · split
    · rw [Template.Value.isEmpty_eq same]
      split
      · exact .pure rfl
      · exact .bind_id (twin_oneIndex same) fun index =>
          .bind_id (twin_orBlame _) fun _ => .pure rfl
    · exact twin_throw _

theorem twin_tagMethod (t : Tag) (method : String) (same : bareValues args = bareValues args') :
    Twin lib bareValue (tagMethod t method args) (tagMethod t method args') := by
  unfold tagMethod
  split
  · exact .bind_id (twin_oneText same) fun _ => .pure rfl
  · split
    · exact .bind_id (twin_oneText same) fun _ => .pure rfl
    · split
      · exact .bind_id (twin_oneText same) fun _ => .pure rfl
      · split
        · exact .bind_id (twin_twoTexts same) fun _ => .pure rfl
        · exact twin_throw _

theorem twin_argumentsMethod (a : Arguments) (method : String)
    (same : bareValues args = bareValues args') :
    Twin lib bareValue (argumentsMethod a method args) (argumentsMethod a method args') := by
  unfold argumentsMethod
  split
  · exact .bind_id (twin_oneText same) fun _ => .pure rfl
  · split
    · exact .bind_id (twin_oneText same) fun _ => .pure rfl
    · split
      · exact .bind_id (twin_twoTexts same) fun _ => .pure rfl
      · exact twin_throw _

end

section

variable {lib : Library} {modules : String → Except LoadError Module}
  {target target' : Snapshot} {args args' : List Value}

theorem ofType_bare {v w : View.TypeView} (same : v.bare = w.bare) :
    bareValue (.ofType v) = bareValue (.ofType w) := by
  have type : v.type = w.type := congrArg (·.type) same
  have kind : v.kind = w.kind := congrArg (·.kind) same
  simp only [Value.ofType, Value.ofModel, bareValue, Template.Value.map, Template.Source.map,
    Model.bare, same, kind, View.TypeView.name, type]

theorem twin_typeMethod (consistent : lib.loader.Consistent modules)
    (like : target.bare = target'.bare) (t : TypeExpr) (method : String)
    (same : bareValues args = bareValues args') :
    Twin lib bareValue (typeMethod ⟨lib, target⟩ t method args)
      (typeMethod ⟨lib, target'⟩ t method args') := by
  unfold typeMethod
  split
  · exact .bind_id (twin_takesNone method same) fun _ =>
      .bind_id (twin_typeString t) fun _ => .pure rfl
  · split
    · exact .bind_id (twin_takesNone method same) fun _ => .pure rfl
    · split
      · have left := Session.ofType_answers (s := ⟨lib, target⟩) consistent t
        have right := Session.ofType_answers (s := ⟨lib, target'⟩) consistent t
        rw [← Session.viewOf_congr like] at right
        exact .bind_id (twin_takesNone method same) fun _ =>
          .bind (twin_onCache left right) fun _ _ views => .pure (ofType_bare views)
      · exact twin_throw _

theorem twin_modelOf {α : Type} (consistent : lib.loader.Consistent modules)
    (like : target.bare = target'.bare) {v w : View.TypeView} (views : v.bare = w.bare)
    (wanted : Kind) (build : String → Shape → Except ModelError α) :
    Twin lib id (onCache (v.modelOf ⟨lib, target⟩ wanted build))
      (onCache (w.modelOf ⟨lib, target'⟩ wanted build)) := by
  have left := Session.modelOf_answers (s := ⟨lib, target⟩) consistent wanted build v
  have right := Session.modelOf_answers (s := ⟨lib, target'⟩) consistent wanted build w
  rw [← View.TypeView.modelAt_congr like views] at right
  exact twin_onCache left right

theorem twin_viewMethod (consistent : lib.loader.Consistent modules)
    (like : target.bare = target'.bare) {v w : View.TypeView} (views : v.bare = w.bare)
    (method : String) (same : bareValues args = bareValues args') :
    Twin lib bareValue (viewMethod ⟨lib, target⟩ v method args)
      (viewMethod ⟨lib, target'⟩ w method args') := by
  unfold viewMethod
  rw [View.TypeView.record_eq, View.TypeView.record_eq, View.TypeView.capabilitySet_eq,
    View.TypeView.capabilitySet_eq]
  split
  · exact .bind_id (twin_takesNone method same) fun _ =>
      .bind_id (twin_modelOf consistent like views _ _) fun r =>
        .bind_id (twin_orBlame r) fun _ => .pure rfl
  · split
    · exact .bind_id (twin_takesNone method same) fun _ =>
        .bind_id (twin_modelOf consistent like views _ _) fun r =>
          .bind_id (twin_orBlame r) fun _ => .pure rfl
    · exact twin_throw _

/-- Only views are told apart by more than what their methods depend on. -/
theorem Model.eq_or_views {m m' : Model} (same : m.bare = m'.bare) :
    m = m' ∨ ∃ v w, m = .type v ∧ m' = .type w ∧ v.bare = w.bare := by
  cases m with
  | type v =>
    cases m' with
    | type w => exact .inr ⟨v, w, rfl, rfl, Model.type.inj same⟩
    | _ => cases same
  | _ =>
    cases m' with
    | type w => cases same
    | _ => exact .inl same

theorem twin_call (consistent : lib.loader.Consistent modules)
    (like : target.bare = target'.bare) {m m' : Model} (models : m.bare = m'.bare)
    (method : String) (same : bareValues args = bareValues args') :
    Twin lib bareValue (m.call ⟨lib, target⟩ method args)
      (m'.call ⟨lib, target'⟩ method args') := by
  rcases Model.eq_or_views models with rfl | ⟨v, w, rfl, rfl, views⟩
  · cases m with
    | record r =>
      unfold Model.call
      dsimp only
      split
      · exact .bind_id (twin_takesNone method same) fun _ => .pure rfl
      · exact twin_throw _
    | capabilitySet c =>
      unfold Model.call
      dsimp only
      split
      · exact .bind_id (twin_takesNone method same) fun _ => .pure rfl
      · exact twin_throw _
    | field f => exact twin_typeMethod consistent like f.type method same
    | argument a => exact twin_typeMethod consistent like a.type method same
    | method m => exact twin_methodMethod m method same
    | type v => exact twin_viewMethod consistent like rfl method same
    | tag t => exact twin_tagMethod t method same
    | arguments a => exact twin_argumentsMethod a method same
  · exact twin_viewMethod consistent like views method same

/-! ## Functions alike -/

theorem twin_imports (token : String) (same : bareValues args = bareValues args') :
    Twin lib bareValue (imports token args) (imports token args') := by
  refine .bind_id (twin_complaint.noMore same) fun _ x y related => ?_
  -- whether the template has asked before is the same in both
  change Outcomes bareValue _ _
    ((if x.importsCalled then blame .importsAlreadyCalled else (do
      modify ({ · with importsCalled := true })
      return .str token) : Step Value) x)
    ((if y.importsCalled then blame .importsAlreadyCalled else (do
      modify ({ · with importsCalled := true })
      return .str token) : Step Value) y)
  rw [related.asked]
  split
  · exact .error _ related
  · exact .ok rfl ⟨rfl, related.imports, related.left, related.right⟩

theorem twin_capitalized (same : bareValues args = bareValues args') :
    Twin lib bareValue (capitalized args) (capitalized args') := by
  rcases Template.Value.nil_or_cons_of_mapItems_eq same with
    ⟨rfl, rfl⟩ | ⟨v, rest, w, rest', rfl, rfl, first, others⟩
  · exact twin_throw _
  · exact .bind_id (twin_complaint.textOf first) fun text =>
      .bind_id (twin_complaint.noMore others) fun _ => .pure rfl

theorem twin_always (v : Value) (same : bareValues args = bareValues args') :
    Twin lib bareValue (always v args) (always v args') :=
  .bind_id (twin_complaint.noMore same) fun _ => .pure rfl

theorem twin_function (token : String) (source : Source) (arguments : Arguments) (name : String)
    (same : bareValues args = bareValues args') :
    Twin lib bareValue (function token source arguments name args)
      (function token source arguments name args') := by
  unfold function
  split
  · exact twin_imports token same
  · split
    · exact twin_capitalized same
    · split
      · exact twin_always _ same
      · split
        · exact twin_always _ same
        · exact twin_throw _

theorem hosts_alike (consistent : lib.loader.Consistent modules)
    (like : target.bare = target'.bare) (token : String) (source : Source)
    (arguments : Arguments) :
    HostsAlike Model.bare (Beside lib) (fun _ => Beside lib)
      (host ⟨lib, target⟩ token source arguments)
      (host ⟨lib, target'⟩ token source arguments) where
  complaint := twin_complaint
  functions := rfl
  answer callee callee' args args' callees same := by
    cases callee with
    | function name =>
      cases callee' with
      | function name' =>
        cases Template.Callee.function.inj callees
        exact twin_function token source arguments name same
      | method m' name' => cases callees
    | method m name =>
      cases callee' with
      | function name' => cases callees
      | method m' name' =>
        obtain ⟨models, names⟩ := Template.Callee.method.inj callees
        exact names ▸ twin_call consistent like models name same

/-! ## Renderings -/

theorem finish_congr (token text : String) {x y : State} (h : Beside lib x y) :
    finish token x text = finish token y text := by
  unfold finish
  rw [h.asked, h.imports]

theorem render_twin (consistent : lib.loader.Consistent modules) {engine : Engine}
    (respects : engine.Respects Model.bare) (like : target.bare = target'.bare) (token : String)
    (source : Source) (arguments : Arguments) (root : Value) :
    Alike id lib.Both (fun _ => lib.Both)
      (Session.write ⟨lib, target⟩ engine token source arguments root)
      (Session.write ⟨lib, target'⟩ engine token source arguments root) := by
  intro c c' both
  have path : target.path = target'.path := congrArg (·.module.path) like
  have start : Beside lib { session := Session.start ⟨lib, target⟩ c }
      { session := Session.start ⟨lib, target'⟩ c' } := by
    refine ⟨rfl, ?_, both.1, both.2⟩
    unfold Session.start
    dsimp only
    rw [path]
  unfold Session.write Session.render
  cases read : engine.read source.path source.text with
  | error kind => exact .error _ both
  | ok program =>
    have hosts := hosts_alike consistent like token source arguments
    have outcomes := Template.Run.on_alike hosts
      (respects _ _ _ read functionNames root root rfl) _ _ start
    have functions (target : Snapshot) :
        (host ⟨lib, target⟩ token source arguments).functions = functionNames := rfl
    dsimp only
    rw [functions, functions]
    rcases left : (program functionNames root).on (host ⟨lib, target⟩ token source arguments)
      { session := Session.start ⟨lib, target⟩ c } with ⟨outcome, last⟩
    rcases right : (program functionNames root).on (host ⟨lib, target'⟩ token source arguments)
      { session := Session.start ⟨lib, target'⟩ c' } with ⟨outcome', last'⟩
    rw [left, right] at outcomes
    cases outcomes with
    | @ok pieces pieces' _ _ same related =>
      cases show pieces = pieces' from same
      exact .ok (finish_congr token _ related) ⟨related.left, related.right⟩
    | error fault related => exact .error _ ⟨related.left, related.right⟩

end

end Render
end Stencil
