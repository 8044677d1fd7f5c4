import Stencil.Proofs.Generate.History
import Stencil.Proofs.Outcome

/-
  Formatting as the last step of a generation. The text is drafted without the formatter; then each
  stage is asked once, and one that fails leaves the text as it was, and a warning.

  Proved: `formatted_last`. Two formatters make no difference but in the text and the warnings. The
  stages may be any kind of work, so it also holds of formatters that take notes or change between
  calls.
-/

namespace Stencil

open Template (bind_of_ok bind_of_error)

/-! ## Stages -/

namespace Formatter

/-- What a stage hands on: its text, or what it was given if it fails. -/
def handedOn (given : String) : Except FormatError String → String
  | .ok text => text
  | .error _ => given

/-- The warning of a stage that fails. -/
def warned (stage : Stage) : Except FormatError String → List Warning
  | .ok _ => []
  | .error why => [⟨stage, why⟩]

theorem settle_eq (stage : Stage) (given : String) (answer : Except FormatError String) :
    settle stage given answer = (handedOn given answer, warned stage answer) := by
  cases answer with
  | ok text => rfl
  | error why => rfl

/-- The first stage is asked, then the second with what the first hands on, and no more. -/
theorem Stages.apply_eq {m : Type → Type} [Monad m] [LawfulMonad m] (stages : Stages m)
    (source localPrefix : String) :
    stages.apply source localPrefix = do
      let laidOut ← stages.layout source
      let organized ← stages.organize (handedOn source laidOut) localPrefix
      return (handedOn (handedOn source laidOut) organized,
        warned .layout laidOut ++ warned .organize organized) := by
  simp only [apply, settle_eq]

end Formatter

/-! ## Drafts -/

/-- The steps of work that succeeded. -/
theorem ok_of_step {α β : Type} {w : GenerateM α} {f : α → GenerateM β} {b : β} {c c' : Cache}
    (h : (w >>= f) c = (.ok b, c')) : ∃ a c₁, w c = (.ok a, c₁) ∧ f a c₁ = (.ok b, c') := by
  rcases came : w c with ⟨answer, c₁⟩
  cases answer with
  | error e =>
    rw [bind_of_error came] at h
    cases h
  | ok a =>
    rw [bind_of_ok came] at h
    exact ⟨a, c₁, rfl, h⟩

namespace Library

variable {lib : Library} {engine : Render.Engine} {token output : String} {selector : Selector}
  {source : Render.Source} {args : Arguments} {draft : Draft} {c c' : Cache}

theorem ok_of_adapt_load {location : String} {facets : Facets} {loaded : Loaded}
    (h : (lib.load location facets).adapt GenerateError.load c = (.ok loaded, c')) :
    lib.load location facets c = (.ok loaded, c') := by
  rcases came : lib.load location facets c with ⟨answer, c₁⟩
  rw [adapt_load came] at h
  obtain ⟨found, rfl⟩ := Prod.mk.inj h
  rw [ok_of_mapError found]

/-- The location of the module that declares the target. -/
def targetLocation (selector : Selector) (output : String) : String :=
  selector.module.getD (destination output)

/-- What a draft has of the two modules it loads. -/
structure DraftOf (lib : Library) (selector : Selector) (output : String) (c : Cache)
    (draft : Draft) (around target : Loaded) : Prop where
  around_loaded : (lib.load (destination output) .all c).1 = .ok around
  target_loaded : (lib.load (targetLocation selector output) .target
    (lib.load (destination output) .all c).2).1 = .ok target
  localPrefix : draft.localPrefix = target.snapshot.module.root.getD target.snapshot.module.path
  diagnostics : draft.diagnostics = around.snapshot.diagnostics ++
    if around.serial = target.serial then [] else target.snapshot.diagnostics

theorem draftOf_of_ok (h : lib.draft engine token selector source output args c = (.ok draft, c')) :
    ∃ around target, DraftOf lib selector output c draft around target := by
  unfold Library.draft at h
  obtain ⟨around, c₁, loaded, h⟩ := ok_of_step h
  obtain ⟨target, c₂, loaded', h⟩ := ok_of_step h
  obtain ⟨located, c₃, _, h⟩ := ok_of_step h
  obtain ⟨root, c₄, _, h⟩ := ok_of_step h
  obtain ⟨text, c₅, _, h⟩ := ok_of_step h
  cases h
  have first := ok_of_adapt_load loaded
  have second := ok_of_adapt_load loaded'
  refine ⟨around, target, by rw [first], ?_, rfl, rfl⟩
  rw [first]
  exact congrArg Prod.fst second

/-! ## Generations -/

theorem generateWith_of_error {m : Type → Type} [Monad m] {e : GenerateError}
    (h : lib.draft engine token selector source output args c = (.error e, c'))
    (stages : Formatter.Stages m) :
    lib.generateWith engine stages token selector source output args c = pure (.error e, c') := by
  unfold generateWith
  rw [h]

theorem generateWith_of_ok {m : Type → Type} [Monad m] [LawfulMonad m]
    (h : lib.draft engine token selector source output args c = (.ok draft, c'))
    (stages : Formatter.Stages m) :
    lib.generateWith engine stages token selector source output args c = do
      let laidOut ← stages.layout draft.text
      let text := Formatter.handedOn draft.text laidOut
      let organized ← stages.organize text draft.localPrefix
      return (.ok ⟨Formatter.handedOn text organized,
        Formatter.warned .layout laidOut ++ Formatter.warned .organize organized,
        draft.diagnostics⟩, c') := by
  unfold generateWith
  rw [h]
  simp only [Formatter.Stages.apply_eq, bind_assoc, pure_bind]

theorem generate_of_error {e : GenerateError}
    (h : lib.draft engine token selector source output args c = (.error e, c')) (f : Formatter) :
    lib.generate engine f token selector source output args c = (.error e, c') :=
  generateWith_of_error h f.stages

theorem generate_of_ok
    (h : lib.draft engine token selector source output args c = (.ok draft, c')) (f : Formatter) :
    lib.generate engine f token selector source output args c =
      let text := Formatter.handedOn draft.text (f.layout draft.text)
      let organized := f.organize text draft.localPrefix
      (.ok ⟨Formatter.handedOn text organized,
        Formatter.warned .layout (f.layout draft.text) ++ Formatter.warned .organize organized,
        draft.diagnostics⟩, c') :=
  generateWith_of_ok h f.stages

theorem draft_of_failed {f : Formatter} {e : GenerateError}
    (h : lib.generate engine f token selector source output args c = (.error e, c')) :
    lib.draft engine token selector source output args c = (.error e, c') := by
  rcases drafted : lib.draft engine token selector source output args c with ⟨answer, c₁⟩
  cases answer with
  | error e' =>
    rw [generate_of_error drafted] at h
    cases h
    rfl
  | ok draft =>
    rw [generate_of_ok drafted] at h
    cases h

theorem draft_of_made {f : Formatter} {made : Generated}
    (h : lib.generate engine f token selector source output args c = (.ok made, c')) :
    ∃ draft, lib.draft engine token selector source output args c = (.ok draft, c') := by
  rcases drafted : lib.draft engine token selector source output args c with ⟨answer, c₁⟩
  cases answer with
  | error e =>
    rw [generate_of_error drafted] at h
    cases h
  | ok draft =>
    rw [generate_of_ok drafted] at h
    cases h
    exact ⟨draft, rfl⟩

/-- The same but for the text and the warnings. -/
inductive UpToFormat :
    Except GenerateError Generated × Cache → Except GenerateError Generated × Cache → Prop
  | failed (e : GenerateError) (c : Cache) : UpToFormat (.error e, c) (.error e, c)
  | made {g g' : Generated} (diagnostics : g.diagnostics = g'.diagnostics) (c : Cache) :
      UpToFormat (.ok g, c) (.ok g', c)

theorem upToFormat_generate (lib : Library) (engine : Render.Engine) (f f' : Formatter)
    (token : String) (selector : Selector) (source : Render.Source) (output : String)
    (args : Arguments) (c : Cache) :
    UpToFormat (lib.generate engine f token selector source output args c)
      (lib.generate engine f' token selector source output args c) := by
  rcases drafted : lib.draft engine token selector source output args c with ⟨answer, c'⟩
  cases answer with
  | error e =>
    rw [generate_of_error drafted, generate_of_error drafted]
    exact .failed e c'
  | ok draft =>
    rw [generate_of_ok drafted, generate_of_ok drafted]
    apply UpToFormat.made
    rfl

end Library

open Formatter (handedOn warned) in
/-- A formatter decides neither whether a generation succeeds nor what is loaded for it. If there
is no text without formatting, no stage is asked. Otherwise the first stage is asked once, with
that text, and then the second once, with what the first hands on and the root of the target's
module, or the module's path if it has none; each stage that fails adds one warning. -/
theorem formatted_last (lib : Library) (engine : Render.Engine) (token : String)
    (selector : Selector) (source : Render.Source) (output : String) (args : Arguments)
    (c : Cache) :
    let run (f : Formatter) := lib.generate engine f token selector source output args c
    -- of two formatters, with the loader called alike
    (∀ f f', Library.UpToFormat (run f) (run f')) ∧
    -- without a text
    (∀ e c', run .unchanged = (.error e, c') →
      ∀ (m : Type → Type) [Monad m] [LawfulMonad m] (stages : Formatter.Stages m),
        lib.generateWith engine stages token selector source output args c = pure (.error e, c')) ∧
    -- with a text
    ∀ plain c', run .unchanged = (.ok plain, c') → plain.warnings = [] ∧
      ∃ target, (lib.load (Library.targetLocation selector output) .target
          (lib.load (destination output) .all c).2).1 = .ok target ∧
        let localPrefix := target.snapshot.module.root.getD target.snapshot.module.path
        (∀ f : Formatter,
          let text := handedOn plain.source (f.layout plain.source)
          run f = (.ok ⟨handedOn text (f.organize text localPrefix),
            warned .layout (f.layout plain.source) ++
              warned .organize (f.organize text localPrefix), plain.diagnostics⟩, c')) ∧
        ∀ (m : Type → Type) [Monad m] [LawfulMonad m] (stages : Formatter.Stages m),
          lib.generateWith engine stages token selector source output args c = do
            let laidOut ← stages.layout plain.source
            let text := handedOn plain.source laidOut
            let organized ← stages.organize text localPrefix
            return (.ok ⟨handedOn text organized,
              warned .layout laidOut ++ warned .organize organized, plain.diagnostics⟩, c') := by
  intro run
  refine ⟨fun f f' => Library.upToFormat_generate lib engine f f' .., ?_, ?_⟩
  · intro e c' failed m _ _ stages
    rcases drafted : lib.draft engine token selector source output args c with ⟨answer, c₁⟩
    cases answer with
    | error e' =>
      cases (Library.generate_of_error drafted .unchanged).symm.trans failed
      exact Library.generateWith_of_error drafted stages
    | ok draft => cases (Library.generate_of_ok drafted .unchanged).symm.trans failed
  · intro plain c' made
    rcases drafted : lib.draft engine token selector source output args c with ⟨answer, c₁⟩
    cases answer with
    | error e => cases (Library.generate_of_error drafted .unchanged).symm.trans made
    | ok draft =>
      cases (Library.generate_of_ok drafted .unchanged).symm.trans made
      obtain ⟨around, target, loads⟩ := Library.draftOf_of_ok drafted
      refine ⟨rfl, target, loads.target_loaded, ?_, ?_⟩
      · intro f text
        rw [← loads.localPrefix]
        exact Library.generate_of_ok drafted f
      · intro m _ _ stages
        rw [← loads.localPrefix]
        exact Library.generateWith_of_ok drafted stages

/-- A first stage that fails and a second that puts a mark behind, both with notes of what they
were told. -/
def noting : Formatter.Stages (StateM (List String)) where
  layout source := do
    modify (· ++ [source])
    return .error (.failed "fmt" "exit status: 2" "")
  organize source localPrefix := do
    modify (· ++ [localPrefix])
    return .ok (source ++ "!")

theorem formatted_last_noted :
    let run := Shop.library.generateWith Plain.engine noting "token" ⟨none, "Order"⟩
      ⟨"order.txt", "{{ name }}"⟩ "/shop/order.go" {} {} []
    run.2 = ["Order", "/shop"] ∧ run.1.1.toOption.map (fun g => (g.source, g.warnings)) =
      some ("Order!", [⟨.layout, .failed "fmt" "exit status: 2" ""⟩]) := by
  intro run
  let plain := Shop.library.generate Plain.engine .unchanged "token" ⟨none, "Order"⟩
    ⟨"order.txt", "{{ name }}"⟩ "/shop/order.go" {} {}
  have text : plain.1.toOption.map (·.source) = some "Order" := by decide +kernel
  have organized : (Shop.library.load "/shop" .target
      (Shop.library.load "/shop" .all {}).2).1.toOption.map
        (fun t => t.snapshot.module.root.getD t.snapshot.module.path) = some "/shop" := by
    decide +kernel
  obtain ⟨_, _, formatted⟩ := formatted_last Shop.library Plain.engine "token" ⟨none, "Order"⟩
    ⟨"order.txt", "{{ name }}"⟩ "/shop/order.go" {} {}
  rcases came : plain with ⟨answer, c'⟩
  rw [came] at text
  cases answer with
  | error e => cases text
  | ok g =>
    obtain ⟨_, target, loaded, _, noted⟩ := formatted g c' came
    have source : g.source = "Order" := Option.some.inj text
    have loaded : (Shop.library.load "/shop" .target
        (Shop.library.load "/shop" .all {}).2).1 = .ok target := loaded
    rw [loaded] at organized
    have localPrefix : target.snapshot.module.root.getD target.snapshot.module.path = "/shop" :=
      Option.some.inj organized
    have ran : run = _ := congrFun (noted (StateM (List String)) noting) []
    rw [ran, source, localPrefix]
    exact ⟨rfl, rfl⟩

end Stencil
