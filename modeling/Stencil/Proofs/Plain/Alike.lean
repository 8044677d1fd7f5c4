import Stencil.Plain.Evaluation
import Stencil.Proofs.Plain.Things
import Stencil.Proofs.Template.Hosts

/-
  Plain templates learn nothing of the things outside but by calls. What an operation makes of
  values with other things in them is what it makes of the values, with these things in it
  (`applyFilter_map`, `parts_map`); so expressions and statements do the same on values that are
  alike, whatever is told of the things (`eval_alike`, `exec_alike`).

  Proved: `engine_respects`, what is assumed of an engine where a result needs it, of the plain one.
-/

namespace Stencil.Plain

open Template Run

variable {ω ρ α β : Type} {g : ω → ρ}

/-! ## Operations -/

section

variable (g) (v a b : Value ω) (args : List (Value ω)) (name : String)

theorem shown_map : shown (v.map g) = shown v := by
  rw [shown, Value.isDefined_map, Value.text_map, shown]

theorem truth_map : truth (v.map g) = truth v := by
  rw [truth, Value.isDefined_map, Value.isTrue_map, truth]

theorem parts_map : parts (v.map g) = (parts v).map (Value.mapItems g) := by
  unfold parts
  rw [Value.isDefined_map, Value.parts?_map]
  split
  · cases v.parts? with
    | some parts => rfl
    | none => rfl
  · rfl

theorem noOthers_map : noOthers (Value.mapItems g args) = noOthers args := by
  rw [noOthers, Value.mapItems_eq, List.isEmpty_map, noOthers]

theorem isLax_map : isLax (Value.mapItems g args) = isLax args := by
  cases args with
  | nil => rfl
  | cons v rest => rw [Value.mapItems, isLax, noOthers_map, truth_map, isLax]

theorem separator_map : separator (Value.mapItems g args) = separator args := by
  cases args with
  | nil => rfl
  | cons v rest =>
    have same : (v.map g).text = v.text := Value.text_map g v
    cases v with
    | none => rfl
    | _ => exact same

theorem join_map : join (v.map g) (Value.mapItems g args) = (join v args).map (Value.map g) := by
  have parts : (if (v.map g).isDefined then (v.map g).parts? else some []) =
      (if v.isDefined then v.parts? else some []).map (Value.mapItems g) := by
    rw [Value.isDefined_map, Value.parts?_map]
    split
    · rfl
    · rfl
  have texts (items : List (Value ω)) :
      (Value.mapItems g items).map Value.text = items.map Value.text := by
    rw [Value.mapItems_eq, List.map_map]
    exact List.map_congr_left fun v _ => Value.text_map g v
  unfold join
  rw [parts, separator_map]
  cases if v.isDefined then v.parts? else some [] with
  | some items =>
    dsimp only [Option.map_some]
    rw [texts]
    rfl
  | none => rfl

theorem applyFilter_map : applyFilter name (v.map g) (Value.mapItems g args) =
    (applyFilter name v args).map (Value.map g) := by
  have rest : (Value.mapItems g args).drop 1 = Value.mapItems g (args.drop 1) := by
    rw [Value.mapItems_eq, Value.mapItems_eq, List.map_drop]
  have other : (Value.mapItems g args).head?.getD (.str "") =
      (args.head?.getD (.str "")).map g := by
    cases args <;> rfl
  unfold applyFilter
  rw [rest, noOthers_map, noOthers_map, isLax_map, shown_map, join_map, Value.length?_map, other,
    Value.isDefined_map, Value.isTrue_map]
  split
  · cases noOthers args with
    | error kind => rfl
    | ok _ => cases v.length? <;> rfl
  · split
    · cases shown v with
      | error kind => rfl
      | ok s => cases noOthers args <;> rfl
    · split
      · cases shown v with
        | error kind => rfl
        | ok s => cases noOthers args <;> rfl
      · split
        · cases noOthers (args.drop 1) <;> rfl
        · split
          · cases isLax (args.drop 1) with
            | error kind => rfl
            | ok lax =>
              change Except.ok _ = Except.ok (Value.map g (if _ then _ else _))
              split
              · rfl
              · rfl
          · rfl

theorem applyTest_map : applyTest name (v.map g) (Value.mapItems g args) =
    (applyTest name v args).map (Value.map g) := by
  unfold applyTest
  rw [noOthers_map, Value.isDefined_map]
  split
  · cases noOthers args <;> rfl
  · split
    · cases noOthers args <;> rfl
    · rfl

theorem comparing_map (c : Comparison) : comparing c (a.map g) (b.map g) = comparing c a b := by
  rw [comparing, Value.isDefined_map, Value.isDefined_map, Comparison.holds?_map, comparing]

theorem concatenate_map :
    concatenate (a.map g) (b.map g) = (concatenate a b).map (Value.map g) := by
  unfold concatenate
  rw [Value.isDefined_map, Value.isDefined_map, Value.joined_map]
  split
  · rfl
  · rfl

theorem negate_map : negate (v.map g) = (negate v).map (Value.map g) := by
  unfold negate
  rw [Value.isDefined_map, Value.neg?_map]
  split
  · cases v.neg? with
    | some v => rfl
    | none => rfl
  · rfl

end

/-! ## Answers and calls -/

section

variable {v w : Value ω} {args args' : List (Value ω)} {view : α → β}

theorem none_or_some_of_map_eq {left right : Option α} (same : left.map view = right.map view) :
    (left = none ∧ right = none) ∨
      ∃ a b, left = some a ∧ right = some b ∧ view a = view b := by
  cases left with
  | none =>
    cases right with
    | none => exact .inl ⟨rfl, rfl⟩
    | some b => cases same
  | some a =>
    cases right with
    | none => cases same
    | some b => exact .inr ⟨a, b, rfl, rfl, Option.some.inj same⟩

/-- An answer that is the same, as far as `view` tells, or the same complaint. -/
theorem orComplain_alike (line : Nat) {x y : Except ErrorKind α} (same : x.map view = y.map view) :
    Alike g view (orComplain line x) (orComplain line y) := by
  cases x with
  | error kind =>
    cases y with
    | error kind' =>
      cases same
      exact .failed line kind
    | ok b => cases same
  | ok a =>
    cases y with
    | error kind => cases same
    | ok b => exact .done (Except.ok.inj same)

theorem truth_alike {line : Nat} (same : v.map g = w.map g) :
    Alike g id (orComplain line (truth v)) (orComplain line (truth w)) :=
  orComplain_alike line (by rw [← truth_map g, same, truth_map])

theorem shown_alike {line : Nat} (same : v.map g = w.map g) :
    Alike g id (orComplain line (shown v)) (orComplain line (shown w)) :=
  orComplain_alike line (by rw [← shown_map g, same, shown_map])

theorem parts_alike {line : Nat} (same : v.map g = w.map g) :
    Alike g (Value.mapItems g) (orComplain line (parts v)) (orComplain line (parts w)) :=
  orComplain_alike line (by rw [← parts_map, same, parts_map])

theorem comparing_alike {line : Nat} (c : Comparison) {a b a' b' : Value ω}
    (left : a.map g = a'.map g) (right : b.map g = b'.map g) :
    Alike g id (orComplain line (comparing c a b)) (orComplain line (comparing c a' b')) :=
  orComplain_alike line (by rw [← comparing_map g, left, right, comparing_map])

theorem callValue_alike (line : Nat) (same : v.map g = w.map g)
    (sames : Value.mapItems g args = Value.mapItems g args') :
    Alike g (Value.map g) (callValue line v args) (callValue line w args') := by
  cases v with
  | function name =>
    cases w with
    | function name' =>
      cases Value.function.inj same
      exact .called line rfl sames fun _ _ answers => .done answers
    | _ => cases same
  | object source text attributes =>
    cases w with
    | object source' text' attributes' =>
      cases source with
      | thing t =>
        cases source' with
        | thing t' => exact .failed line _
        | own number => cases same
      | own number =>
        cases source' with
        | thing t => cases same
        | own number' => exact .failed line _
    | _ => cases same
  | _ =>
    cases w with
    | function _ => cases same
    | object _ _ _ => cases same
    | _ => exact .failed line _

theorem callNamed_alike (line : Nat) (name : String) {callee callee' : Option (Value ω)}
    (same : callee.map (Value.map g) = callee'.map (Value.map g))
    (sames : Value.mapItems g args = Value.mapItems g args') :
    Alike g (Value.map g) (callNamed line name callee args)
      (callNamed line name callee' args') := by
  unfold callNamed
  split
  · exact .failed line _
  · rcases none_or_some_of_map_eq same with ⟨rfl, rfl⟩ | ⟨_, _, rfl, rfl, linked⟩
    · exact .failed line _
    · dsimp only
      split
      · exact .failed line _
      · exact callValue_alike line linked sames

theorem callMethod_alike (line : Nat) (same : v.map g = w.map g) (method : String)
    (sames : Value.mapItems g args = Value.mapItems g args') :
    Alike g (Value.map g) (callMethod line v method args) (callMethod line w method args') := by
  cases v with
  | object source text attributes =>
    cases w with
    | object source' text' attributes' =>
      obtain ⟨sources, _, _⟩ := Value.object.inj same
      cases source with
      | thing t =>
        cases source' with
        | thing t' =>
          have things : g t = g t' := Source.thing.inj sources
          exact .called line (congrArg (Callee.method · method) things) sames
            fun _ _ answers => .done answers
        | own number => cases sources
      | own number =>
        cases source' with
        | thing t => cases sources
        | own number' => exact .failed line _
    | _ => cases same
  | _ =>
    cases w with
    | object _ _ _ => cases same
    | _ => exact .failed line _

theorem find?_eq {scope scope' : Scope ω} (same : scope.map g = scope'.map g) (name : String) :
    (scope.find? name).map (Value.map g) = (scope'.find? name).map (Value.map g) := by
  rw [← Scope.find?_map, same, Scope.find?_map]

end

/-! ## Expressions and statements -/

mutual

theorem eval_alike {scope scope' : Scope ω} (same : scope.map g = scope'.map g) : ∀ e : Expr,
    Alike g (Value.map g) (eval scope e) (eval scope' e)
  | .literal value _ => by
      rw [eval, eval]
      exact .done rfl
  | .known value _ => by
      rw [eval, eval]
      exact .done rfl
  | .name id _ => by
      rw [eval, eval]
      refine .done ?_
      rcases none_or_some_of_map_eq (find?_eq same id) with ⟨left, right⟩ |
        ⟨_, _, left, right, found⟩
      · rw [left, right]
      · rw [left, right]
        exact found
  | .list items => by
      rw [eval, eval]
      exact .bind (evalAll_alike same items) fun _ _ items => .done (congrArg Value.list items)
  | .attr of key => by
      rw [eval, eval]
      refine .bind (eval_alike same of) fun v w linked => ?_
      rw [Value.isDefined_eq linked]
      split
      · exact .done (by rw [← Value.attr_map, linked, Value.attr_map])
      · exact .failed _ _
  | .item of key => by
      rw [eval, eval]
      refine .bind (eval_alike same of) fun v w linked =>
        .bind (eval_alike same key) fun k l keys => ?_
      rw [Value.isDefined_eq linked]
      split
      · exact .done (by rw [← Value.item_map, linked, keys, Value.item_map])
      · exact .failed _ _
  | .filter name of args => by
      rw [eval, eval]
      refine .bind (eval_alike same of) fun v w linked =>
        .bind (evalAll_alike same args) fun as bs args => orComplain_alike _ ?_
      rw [← applyFilter_map, linked, args, applyFilter_map]
  | .test name of args => by
      rw [eval, eval]
      refine .bind (eval_alike same of) fun v w linked =>
        .bind (evalAll_alike same args) fun as bs args => orComplain_alike _ ?_
      rw [← applyTest_map, linked, args, applyTest_map]
  | .negative e => by
      rw [eval, eval]
      refine .bind (eval_alike same e) fun v w linked => orComplain_alike _ ?_
      rw [← negate_map, linked, negate_map]
  | .not e => by
      rw [eval, eval]
      exact .bind (eval_alike same e) fun _ _ linked =>
        .bind_id (truth_alike linked) fun _ => .done rfl
  | .and left right => by
      rw [eval, eval]
      refine .bind (eval_alike same left) fun _ _ linked =>
        .bind_id (truth_alike linked) fun b => ?_
      split
      · exact eval_alike same right
      · exact .done linked
  | .or left right => by
      rw [eval, eval]
      refine .bind (eval_alike same left) fun _ _ linked =>
        .bind_id (truth_alike linked) fun b => ?_
      split
      · exact .done linked
      · exact eval_alike same right
  | .concat left right => by
      rw [eval, eval]
      refine .bind (eval_alike same left) fun a a' lefts =>
        .bind (eval_alike same right) fun b b' rights => orComplain_alike _ ?_
      rw [← concatenate_map, lefts, rights, concatenate_map]
  | .compare first links => by
      rw [eval, eval]
      exact .bind (eval_alike same first) fun _ _ linked =>
        .bind_id (evalLinks_alike same linked links) fun _ => .done rfl
  | .call function args line => by
      rw [eval, eval]
      exact .bind (evalAll_alike same args) fun _ _ args =>
        callNamed_alike _ function (find?_eq same function) args
  | .callMethod of method args => by
      rw [eval, eval]
      exact .bind (eval_alike same of) fun _ _ linked =>
        .bind (evalAll_alike same args) fun _ _ args => callMethod_alike _ linked method args
  | .callValue of args => by
      rw [eval, eval]
      exact .bind (eval_alike same of) fun _ _ linked =>
        .bind (evalAll_alike same args) fun _ _ args => callValue_alike _ linked args

theorem evalLinks_alike {scope scope' : Scope ω} (same : scope.map g = scope'.map g)
    {v w : Value ω} (linked : v.map g = w.map g) : ∀ links : Links,
    Alike g id (evalLinks scope v links) (evalLinks scope' w links)
  | .last c e => by
      rw [evalLinks, evalLinks]
      exact .bind (eval_alike same e) fun _ _ next => comparing_alike c linked next
  | .more c e rest => by
      rw [evalLinks, evalLinks]
      refine .bind (eval_alike same e) fun _ _ next =>
        .bind_id (comparing_alike c linked next) fun holds => ?_
      split
      · exact evalLinks_alike same next rest
      · exact .done rfl

theorem evalAll_alike {scope scope' : Scope ω} (same : scope.map g = scope'.map g) :
    ∀ es : List Expr, Alike g (Value.mapItems g) (evalAll scope es) (evalAll scope' es)
  | [] => by
      rw [evalAll, evalAll]
      exact .done rfl
  | e :: rest => by
      rw [evalAll, evalAll]
      refine .bind (eval_alike same e) fun _ _ linked =>
        .bind (evalAll_alike same rest) fun _ _ others => .done ?_
      rw [Value.mapItems, Value.mapItems, linked, others]

end

/-- The passes of a loop are alike if its body is. -/
theorem runPasses_alike (name : String) {body : Scope ω → Run ω (Scope ω)}
    (h : ∀ scope scope', scope.map g = scope'.map g →
      Alike g (Scope.map g) (body scope) (body scope'))
    {passes passes' : List (Pass ω)} (sames : passes.map (Pass.map g) = passes'.map (Pass.map g))
    {scope scope' : Scope ω} (same : scope.map g = scope'.map g) :
    Alike g id (runPasses name body passes scope) (runPasses name body passes' scope') := by
  induction passes generalizing passes' scope scope' with
  | nil =>
    cases passes' with
    | nil =>
      rw [runPasses, runPasses]
      exact .done rfl
    | cons p' rest' => cases sames
  | cons p rest ih =>
    cases passes' with
    | nil => cases sames
    | cons p' rest' =>
      obtain ⟨first, others⟩ := List.cons.inj sames
      rw [runPasses, runPasses]
      have entered : (scope.pass name p).map g = (scope'.pass name p').map g := by
        rw [Scope.pass_map, same, first, Scope.pass_map]
      exact .bind (h _ _ entered) fun _ _ scopes => ih others scopes

mutual

theorem exec_alike : ∀ (s : Stmt) {scope scope' : Scope ω}, scope.map g = scope'.map g →
    Alike g (Scope.map g) (exec scope s) (exec scope' s)
  | .text s, _, _, same => by
      rw [exec, exec]
      exact .printed s (.done same)
  | .emit e, _, _, same => by
      rw [exec, exec]
      exact .bind (eval_alike same e) fun _ _ linked =>
        .bind_id (shown_alike linked) fun text => .printed text (.done same)
  | .cond test yes no, _, _, same => by
      rw [exec, exec]
      refine .bind (eval_alike same test) fun _ _ linked =>
        .bind_id (truth_alike linked) fun b => ?_
      split
      · exact execAll_alike yes same
      · exact execAll_alike no same
  | .loop name range body otherwise, scope, scope', same => by
      rw [exec, exec]
      refine .bind (eval_alike same range) fun _ _ linked =>
        .bind (parts_alike linked) fun parts parts' sames => ?_
      rw [Value.isEmpty_eq sames]
      split
      · exact execAll_alike otherwise same
      · have rounds : (passes parts).map (Pass.map g) = (passes parts').map (Pass.map g) := by
          rw [passes_map, passes_map, sames]
        have entered : scope.enter.map g = scope'.enter.map g := by
          rw [Scope.enter_map, same, Scope.enter_map]
        exact .bind_id (runPasses_alike name (fun _ _ same => execAll_alike body same) rounds
          entered) fun _ => .done same
  | .set name value, _, _, same => by
      rw [exec, exec]
      refine .bind (eval_alike same value) fun v w linked => .done ?_
      rw [Scope.put_map, same, linked, Scope.put_map]

theorem execAll_alike : ∀ (ss : List Stmt) {scope scope' : Scope ω},
    scope.map g = scope'.map g → Alike g (Scope.map g) (execAll scope ss) (execAll scope' ss)
  | [], _, _, same => by
      rw [execAll, execAll]
      exact .done same
  | s :: rest, _, _, same => by
      rw [execAll, execAll]
      exact .bind (exec_alike s same) fun _ _ scopes => execAll_alike rest scopes

end

/-! ## Templates -/

/-- The plain engine learns nothing of the things outside but what is told of them. -/
theorem engine_respects (g : ω → ρ) : (engine : Engine ω).Respects g := by
  intro path text program read functions root root' same
  change (Plain.read text).map Plain.program = .ok program at read
  cases body : Plain.read text with
  | error kind =>
    rw [body] at read
    cases read
  | ok body' =>
    rw [body] at read
    cases read
    have start : Scope.map g { root, functions } = Scope.map g { root := root', functions } :=
      congrArg (Scope.mk [{}] · functions) same
    exact .bind (execAll_alike body' start) fun _ _ _ => .done rfl

end Stencil.Plain
