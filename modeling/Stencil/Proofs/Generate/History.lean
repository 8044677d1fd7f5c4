import Stencil.Proofs.Plain.Alike
import Stencil.Proofs.Render.Sessions

/-
  Generations after others. The cache of a library is shared by all that is done with it, and
  grows with it: a generation may find modules loaded, with more facets than it asks for, or
  find none.

  Proved: `generate_regardless`. If the loader is steady and the engine does not look into models,
  a generation comes to the same from every cache that generations, loads, look-ups, resolutions
  and clearings lead to. What it depends on are the two modules it loads, and whether they are
  one; the rest it learns through its session.
-/

namespace Stencil

open Template (Alike Outcomes bind_of_ok bind_of_error)

/-! ## The two modules of a generation -/

/-- What a generation depends on of the modules around its output and of its target. -/
structure Ground where
  around : List Diagnostic
  target : Module
  diagnostics : List Diagnostic
  one : Bool

def ground (p : Loaded × Loaded) : Ground where
  around := p.1.snapshot.diagnostics
  target := p.2.snapshot.module
  diagnostics := p.2.snapshot.diagnostics
  one := p.1.serial = p.2.serial

namespace Library

variable {lib : Library} {contents : String → Except LoadError Content}

/-- The loads of a generation. -/
def loadBoth (lib : Library) (here there : String) : GenerateM (Loaded × Loaded) := do
  let around ← (lib.load here .all).adapt .load
  let target ← (lib.load there .target).adapt .load
  return (around, target)

/-- What they come to without any cache. -/
def groundAt (lib : Library) (contents : String → Except LoadError Content)
    (here there : String) : Except GenerateError Ground := do
  let around ← (lib.contentAt contents here).mapError .load
  let target ← (lib.contentAt contents there).mapError .load
  return {
    around := around.diagnostics
    target := target.module
    diagnostics := target.diagnostics
    one := Location.normalize lib.workingDir here = Location.normalize lib.workingDir there }

/-- A load as part of a generation. -/
theorem adapt_load {lib : Library} {location : String} {facets : Facets} {c c' : Cache}
    {answer : Except LoadError Loaded} (loaded : lib.load location facets c = (answer, c')) :
    (lib.load location facets).adapt GenerateError.load c = (answer.mapError .load, c') := by
  have applied : (lib.load location facets).adapt GenerateError.load c =
      ((lib.load location facets c).1.mapError .load, (lib.load location facets c).2) := rfl
  rw [applied, loaded]

theorem loadBoth_of_error {here there : String} {c c₁ : Cache} {e : LoadError}
    (first : lib.load here .all c = (.error e, c₁)) :
    (lib.loadBoth here there).run c = (.error (.load e), c₁) :=
  bind_of_error (adapt_load first) _

theorem loadBoth_of_ok_error {here there : String} {c c₁ c₂ : Cache} {around : Loaded}
    {e : LoadError} (first : lib.load here .all c = (.ok around, c₁))
    (second : lib.load there .target c₁ = (.error e, c₂)) :
    (lib.loadBoth here there).run c = (.error (.load e), c₂) := by
  refine (bind_of_ok (adapt_load first) _).trans ?_
  exact bind_of_error (adapt_load second) _

theorem loadBoth_of_ok_ok {here there : String} {c c₁ c₂ : Cache} {around target : Loaded}
    (first : lib.load here .all c = (.ok around, c₁))
    (second : lib.load there .target c₁ = (.ok target, c₂)) :
    (lib.loadBoth here there).run c = (.ok (around, target), c₂) := by
  refine (bind_of_ok (adapt_load first) _).trans ?_
  exact (bind_of_ok (adapt_load second) _).trans rfl

theorem normal_of_contentAt {location : String} {content : Content}
    (there : lib.contentAt contents location = .ok content) :
    ∃ key, Location.normalize lib.workingDir location = .ok key := by
  unfold contentAt at there
  cases normal : Location.normalize lib.workingDir location with
  | ok key => exact ⟨key, rfl⟩
  | error e =>
    rw [normal] at there
    cases there

theorem loadBoth_answers (steady : lib.loader.Steady contents) (here there : String) :
    lib.Answers (Except.map ground) (lib.loadBoth here there).run
      (lib.groundAt contents here there) := by
  intro c reached
  have reached₁ := reached.loaded here .all
  have first := reached.load_cases steady here .all
  unfold groundAt
  rcases loaded : lib.load here .all c with ⟨answer, c₁⟩
  rw [loaded] at reached₁ first
  rcases first with ⟨e, nothing, rfl⟩ | ⟨content, around, place, wide, found, rfl, given, _⟩
  · rw [loadBoth_of_error loaded, nothing]
    exact ⟨rfl, reached₁⟩
  have reached₂ := reached₁.loaded there .target
  have second := reached₁.load_cases steady there .target
  rcases loaded' : lib.load there .target c₁ with ⟨answer', c₂⟩
  rw [loaded'] at reached₂ second
  rcases second with ⟨e, nothing, rfl⟩ |
    ⟨content', target, place', wide', found', rfl, given', covers'⟩
  · rw [loadBoth_of_ok_error loaded loaded', found, nothing]
    exact ⟨rfl, reached₂⟩
  · obtain ⟨key, normal⟩ := normal_of_contentAt found
    obtain ⟨key', normal'⟩ := normal_of_contentAt found'
    have one : around.serial = target.serial ↔ key = key' :=
      reached.serial_eq_iff (show Facets.all.covers .target = true by decide) normal normal'
        (by rw [loaded]) (by rw [loaded, loaded'])
    rw [loadBoth_of_ok_ok loaded loaded', found, found', normal, normal']
    refine ⟨congrArg Except.ok ?_, reached₂⟩
    unfold ground
    dsimp only
    rw [given, given', content'.module_project place' covers']
    simp only [one, Except.ok.injEq]
    rfl

end Library

/-! ## From the modules on -/

section

variable {lib : Library} {α β : Type} {view : α → β}

/-- Work that answers the same from every cache is alike from any two. -/
theorem alike_of_answers {w v : GenerateM α} {b : Except GenerateError β}
    (h : lib.Answers (Except.map view) w.run b) (h' : lib.Answers (Except.map view) v.run b) :
    Alike view lib.Both (fun _ => lib.Both) w v := by
  intro c c' both
  obtain ⟨left, reached⟩ := h c both.1
  obtain ⟨right, reached'⟩ := h' c' both.2
  change Except.map view (w c).1 = b at left
  change Except.map view (v c').1 = b at right
  change lib.Reached (w c).2 at reached
  change lib.Reached (v c').2 at reached'
  rw [← right] at left
  rcases hw : w c with ⟨answer, c₁⟩
  rcases hv : v c' with ⟨answer', c₁'⟩
  rw [hw] at left reached
  rw [hv] at left reached'
  cases answer with
  | error e =>
    cases answer' with
    | error e' =>
      cases left
      exact .error e ⟨reached, reached'⟩
    | ok a' => cases left
  | ok a =>
    cases answer' with
    | error e' => cases left
    | ok a' => exact .ok (Except.ok.inj left) ⟨reached, reached'⟩

/-- A result of the library, whatever the cache. -/
theorem alike_pure {r r' : Except LoadError α} (same : r.map view = r'.map view) :
    Alike view lib.Both (fun _ => lib.Both)
      ((ExceptT.mk (pure r) : LoadM α).adapt GenerateError.load)
      ((ExceptT.mk (pure r') : LoadM α).adapt GenerateError.load) := by
  intro c c' both
  cases r with
  | error e =>
    cases r' with
    | error e' =>
      cases same
      exact .error _ both
    | ok a' => cases same
  | ok a =>
    cases r' with
    | error e' => cases same
    | ok a' => exact .ok (Except.ok.inj same) both

end

theorem Session.root_alike {lib : Library} {modules : String → Except LoadError Module}
    (consistent : lib.loader.Consistent modules) {target target' : Snapshot}
    (like : target.bare = target'.bare) (name : String) {x y : Located}
    (same : x.bare = y.bare) :
    Alike id lib.Both (fun _ => lib.Both) (Session.root ⟨lib, target⟩ name x)
      (Session.root ⟨lib, target'⟩ name y) := by
  have left := root_answers (s := ⟨lib, target⟩) consistent name x
  have right := root_answers (s := ⟨lib, target'⟩) consistent name y
  rw [← endShape_congr like, ← same, ← Located.declared_eq_of_bare_eq same] at right
  rw [← Except.map_id] at left right
  exact alike_of_answers left right

namespace Library

/-- A generation from its two modules on. -/
def generateFrom (lib : Library) (engine : Render.Engine) (formatter : Formatter)
    (token name : String) (source : Render.Source) (args : Arguments) (p : Loaded × Loaded) :
    GenerateM Generated := do
  let located ← (ExceptT.mk (pure (p.2.snapshot.locate name))).adapt .load
  let session : Session := ⟨lib, p.2.snapshot⟩
  let root ← session.root name located
  let text ← session.write engine token source args root
  let (text, warnings) := formatter.apply text p.2.snapshot.localPrefix
  let further := if p.1.serial = p.2.serial then [] else p.2.snapshot.diagnostics
  return ⟨text, warnings, p.1.snapshot.diagnostics ++ further⟩

theorem generate_eq (lib : Library) (engine : Render.Engine) (formatter : Formatter)
    (token : String) (selector : Selector) (source : Render.Source) (output : String)
    (args : Arguments) :
    lib.generate engine formatter token selector source output args =
      lib.loadBoth (destination output) (selector.module.getD (destination output)) >>=
        lib.generateFrom engine formatter token selector.name source args := by
  rw [generate_eq_draft]
  unfold draft loadBoth
  simp only [bind_assoc, pure_bind]
  rfl

theorem generateFrom_alike {lib : Library} {modules : String → Except LoadError Module}
    (consistent : lib.loader.Consistent modules) {engine : Render.Engine}
    (respects : engine.Respects Render.Model.bare) (formatter : Formatter) (token name : String)
    (source : Render.Source) (args : Arguments) {p q : Loaded × Loaded}
    (same : ground p = ground q) :
    Alike id lib.Both (fun _ => lib.Both)
      (lib.generateFrom engine formatter token name source args p)
      (lib.generateFrom engine formatter token name source args q) := by
  have module : p.2.snapshot.module = q.2.snapshot.module := congrArg Ground.target same
  have like : p.2.snapshot.bare = q.2.snapshot.bare := congrArg Module.bare module
  have located : (p.2.snapshot.locate name).map Located.bare =
      (q.2.snapshot.locate name).map Located.bare := by
    rw [← Snapshot.locate_bare, like, Snapshot.locate_bare]
  have around : p.1.snapshot.diagnostics = q.1.snapshot.diagnostics :=
    congrArg Ground.around same
  have diagnostics : p.2.snapshot.diagnostics = q.2.snapshot.diagnostics :=
    congrArg Ground.diagnostics same
  have one : (p.1.serial = p.2.serial) ↔ (q.1.serial = q.2.serial) :=
    decide_eq_decide.mp (congrArg Ground.one same)
  have localPrefix : p.2.snapshot.localPrefix = q.2.snapshot.localPrefix :=
    congrArg (fun m : Module => m.root.getD m.path) module
  unfold generateFrom
  refine .bind (alike_pure located) fun x y found => ?_
  refine .bind_id (Session.root_alike consistent like name found) fun root => ?_
  refine .bind_id (Render.render_twin consistent respects like token source args root)
    fun text => ?_
  refine .pure ?_
  rw [around, diagnostics, localPrefix]
  simp only [one]

theorem generate_alike {lib : Library} {contents : String → Except LoadError Content}
    (steady : lib.loader.Steady contents) {engine : Render.Engine}
    (respects : engine.Respects Render.Model.bare) (formatter : Formatter) (token : String)
    (selector : Selector) (source : Render.Source) (output : String) (args : Arguments) :
    Alike id lib.Both (fun _ => lib.Both)
      (lib.generate engine formatter token selector source output args)
      (lib.generate engine formatter token selector source output args) := by
  have loads := loadBoth_answers steady (destination output)
    (selector.module.getD (destination output))
  rw [generate_eq]
  exact .bind (alike_of_answers loads loads) fun _ _ same =>
    generateFrom_alike steady.consistent respects formatter token selector.name source args same

end Library

/-! ## Histories -/

namespace Library

/-- What a library may be used for. -/
inductive Use where
  | action (action : Action)
  | generate (formatter : Formatter) (token : String) (selector : Selector)
      (source : Render.Source) (output : String) (args : Arguments)

/-- The cache after a use. -/
def use (lib : Library) (engine : Render.Engine) (c : Cache) : Use → Cache
  | .action action => lib.act c action
  | .generate formatter token selector source output args =>
    (lib.generate engine formatter token selector source output args c).2

/-- The cache after some uses, the first of them with an empty cache. -/
def used (lib : Library) (engine : Render.Engine) (uses : List Use) : Cache :=
  uses.foldl (lib.use engine) {}

variable {lib : Library} {contents : String → Except LoadError Content} {engine : Render.Engine}
  {c c' : Cache}

theorem generate_same (steady : lib.loader.Steady contents)
    (respects : engine.Respects Render.Model.bare) (reached : lib.Reached c)
    (reached' : lib.Reached c') (formatter : Formatter) (token : String) (selector : Selector)
    (source : Render.Source) (output : String) (args : Arguments) :
    (lib.generate engine formatter token selector source output args c).1 =
      (lib.generate engine formatter token selector source output args c').1 ∧
    lib.Reached (lib.generate engine formatter token selector source output args c).2 := by
  have outcomes := generate_alike steady respects formatter token selector source output args
    c c' ⟨reached, reached'⟩
  generalize lib.generate engine formatter token selector source output args c = left
    at outcomes ⊢
  generalize lib.generate engine formatter token selector source output args c' = right
    at outcomes ⊢
  cases outcomes with
  | @ok a b _ _ same both => exact ⟨congrArg Except.ok same, both.1⟩
  | error e both => exact ⟨rfl, both.1⟩

theorem Reached.use (h : lib.Reached c) (steady : lib.loader.Steady contents)
    (respects : engine.Respects Render.Model.bare) (u : Use) :
    lib.Reached (lib.use engine c u) := by
  cases u with
  | action action => exact h.act action
  | generate formatter token selector source output args =>
    exact (generate_same steady respects h h formatter token selector source output args).2

theorem reached_used (steady : lib.loader.Steady contents)
    (respects : engine.Respects Render.Model.bare) (uses : List Use) :
    lib.Reached (lib.used engine uses) := by
  have from_any : ∀ c, lib.Reached c → lib.Reached (uses.foldl (lib.use engine) c) := by
    induction uses with
    | nil => exact fun _ h => h
    | cons u uses ih => exact fun c h => ih _ (h.use steady respects u)
  exact from_any _ .fresh

/-- What a generation comes to does not depend on what was done before. -/
theorem generate_regardless (steady : lib.loader.Steady contents)
    (respects : engine.Respects Render.Model.bare) (uses : List Use) :
    -- after any uses it is what it is at first
    (∀ formatter token selector source output args,
      (lib.generate engine formatter token selector source output args
          (lib.used engine uses)).1 =
        (lib.generate engine formatter token selector source output args {}).1) ∧
    -- two generations one after the other come to the same in either order
    ∀ formatter token selector source output args formatter' token' selector' source' output'
        args',
      let first := lib.generate engine formatter token selector source output args
      let second := lib.generate engine formatter' token' selector' source' output' args'
      let c := lib.used engine uses
      ((first c).1, (second (first c).2).1) = ((first (second c).2).1, (second c).1) := by
  have reached : lib.Reached (lib.used engine uses) := reached_used steady respects uses
  refine ⟨fun _ _ _ _ _ _ => (generate_same steady respects reached .fresh ..).1, ?_⟩
  intro formatter token selector source output args formatter' token' selector' source' output'
    args' first second c
  have reached₁ : lib.Reached (first c).2 :=
    (generate_same steady respects reached reached ..).2
  have reached₂ : lib.Reached (second c).2 :=
    (generate_same steady respects reached reached ..).2
  have firsts : (first c).1 = (first (second c).2).1 :=
    (generate_same steady respects reached reached₂ ..).1
  have seconds : (second (first c).2).1 = (second c).1 :=
    (generate_same steady respects reached₁ reached ..).1
  rw [firsts, seconds]

/-- An order is a crate by its fields, also after its modules were loaded for their names and
used for an item. -/
theorem generate_regardless_order : Shop.library.loader.Steady Shop.contents ∧
    (Plain.engine : Render.Engine).Respects Render.Model.bare ∧
    let order := Shop.library.generate Plain.engine .unchanged "token" ⟨none, "Order"⟩
      ⟨"order.txt", "{{ name }}: {{ fields[0].name }}"⟩ "/shop/order.go" {}
    let c := Shop.library.used Plain.engine [.action (.load "/shop" { name := true }),
      .generate .unchanged "token" ⟨some "stock", "Item"⟩ ⟨"item.txt", "{{ name }}"⟩
        "/shop/item.go" {}, .action (.load "stock" {})]
    (order c).1 = (order {}).1 ∧ (order c).1.toOption.map (·.source) = some "Order: Weight" := by
  have respects := Plain.engine_respects Render.Model.bare
  obtain ⟨same, _⟩ := generate_regardless Shop.steady respects
    [.action (.load "/shop" { name := true }),
      .generate .unchanged "token" ⟨some "stock", "Item"⟩ ⟨"item.txt", "{{ name }}"⟩
        "/shop/item.go" {}, .action (.load "stock" {})]
  refine ⟨Shop.steady, respects, same .., ?_⟩
  rw [same]
  decide +kernel

end Library

end Stencil
