import Stencil.Proofs.Generate.Formatting

/-
  Formatting by commands that are empty. An empty command changes nothing, but the command that
  organizes imports is given two more words, and is never empty when it is run: the first of the two
  is then taken for a program.

  Proved: `empty_commands`. The empty commands are no formatting at all exactly if that program
  writes back the text it is given; where it cannot be run, the text is the same, with a warning.
-/

namespace Stencil

namespace Formatter

variable {programs : Programs} {program input text localPrefix : String} {args : List String}

/-! ## Commands -/

/-- A program with some arguments takes an input and writes a text, without complaint. -/
def Writes (programs : Programs) (program : String) (args : List String) (input text : String) :
    Prop :=
  ∃ outcome, programs program args input.toUTF8 = .ok outcome ∧ outcome.status = .exited 0 ∧
    outcome.unread ≤ pipeCapacity ∧ outcome.out = text.toUTF8

theorem fromUTF8?_eq_some_iff {bytes : ByteArray} :
    String.fromUTF8? bytes = some text ↔ bytes = text.toUTF8 := by
  unfold String.fromUTF8?
  constructor
  · intro decoded
    split at decoded
    · cases decoded
      rfl
    · cases decoded
  · rintro rfl
    exact dif_pos text.isValidUTF8

theorem runCommand_of_not_run {why : IoError}
    (h : programs program args input.toUTF8 = .error why) :
    runCommand programs (program :: args) input =
      .error (.notRun (" ".intercalate (program :: args)) why) := by
  simp only [runCommand, h]

theorem runCommand_eq_ok_iff : runCommand programs (program :: args) input = .ok text ↔
    Writes programs program args input text := by
  cases ran : programs program args input.toUTF8 with
  | error why =>
    rw [runCommand_of_not_run ran]
    simp only [Writes, ran, reduceCtorEq, false_and, exists_false]
  | ok outcome =>
    simp only [runCommand, Writes, ran, Except.ok.injEq, exists_eq_left']
    by_cases ended : outcome.status = .exited 0
    · by_cases full : pipeCapacity < outcome.unread
      · simp [ended, full, Nat.not_le.mpr full]
      · simp only [ended, full, ← fromUTF8?_eq_some_iff]
        cases decoded : String.fromUTF8? outcome.out with
        | none => simp
        | some written => simp [Nat.not_lt.mp full]
    · simp [ended]

/-! ## Empty commands -/

/-- What organizing imports by an empty command runs. -/
theorem runCommand_local_of_not_run {why : IoError}
    (h : programs "-local" [localPrefix] text.toUTF8 = .error why) :
    runCommand programs ["-local", localPrefix] text =
      .error (.notRun ("-local " ++ localPrefix) why) := by
  have line : " ".intercalate ["-local", localPrefix] = "-local " ++ localPrefix := by
    rw [← String.toList_inj]
    simp
  rw [runCommand_of_not_run h, line]

/-- A stage changes nothing and warns of nothing exactly if its answer is its input. -/
theorem handedOn_warned_iff (stage : Stage) {answer : Except FormatError String} :
    handedOn text answer = text ∧ warned stage answer = [] ↔ answer = .ok text := by
  cases answer with
  | ok text' => simp [handedOn, warned]
  | error why => simp [warned]

end Formatter

open Formatter

namespace Library

variable {lib : Library} {engine : Render.Engine} {token output : String} {selector : Selector}
  {source : Render.Source} {args : Arguments} {draft : Draft} {c c' : Cache}

theorem generate_unchanged
    (h : lib.draft engine token selector source output args c = (.ok draft, c')) :
    lib.generate engine .unchanged token selector source output args c =
      (.ok ⟨draft.text, [], draft.diagnostics⟩, c') :=
  generate_of_ok h .unchanged

theorem generate_of_nil
    (h : lib.draft engine token selector source output args c = (.ok draft, c'))
    (programs : Programs) :
    lib.generate engine (ofCommands programs ⟨[], []⟩) token selector source output args c =
      let organized := runCommand programs ["-local", draft.localPrefix] draft.text
      (.ok ⟨handedOn draft.text organized, warned .organize organized, draft.diagnostics⟩, c') :=
  generate_of_ok h (ofCommands programs ⟨[], []⟩)

theorem generate_of_nil_eq_iff
    (h : lib.draft engine token selector source output args c = (.ok draft, c'))
    (programs : Programs) :
    lib.generate engine (ofCommands programs ⟨[], []⟩) token selector source output args c =
      lib.generate engine .unchanged token selector source output args c ↔
      Writes programs "-local" [draft.localPrefix] draft.text draft.text := by
  rw [generate_of_nil h, generate_unchanged h, ← runCommand_eq_ok_iff,
    ← handedOn_warned_iff .organize]
  constructor
  · intro same
    have made := Except.ok.inj (Prod.mk.inj same).1
    exact ⟨congrArg Generated.source made, congrArg Generated.warnings made⟩
  · rintro ⟨text, warnings⟩
    dsimp only
    rw [text, warnings]

theorem generate_of_nil_not_run {why : IoError} {programs : Programs}
    (h : lib.draft engine token selector source output args c = (.ok draft, c'))
    (notRun : programs "-local" [draft.localPrefix] draft.text.toUTF8 = .error why) :
    lib.generate engine (ofCommands programs ⟨[], []⟩) token selector source output args c =
      (.ok ⟨draft.text, [⟨.organize, .notRun ("-local " ++ draft.localPrefix) why⟩],
        draft.diagnostics⟩, c') := by
  rw [generate_of_nil h, runCommand_local_of_not_run notRun]
  rfl

end Library

/-- With two empty commands the first stage changes nothing. The second runs a program `-local`, and
changes nothing exactly if that writes back the text. So a generation fails as without formatting;
if there is a text, it is the one without formatting, with no warning, exactly if the program writes
it back; and if the program cannot be run, the text is the same, with a warning. -/
theorem empty_commands (lib : Library) (engine : Render.Engine) (programs : Programs)
    (token : String) (selector : Selector) (source : Render.Source) (output : String)
    (args : Arguments) (c : Cache) :
    let run (f : Formatter) := lib.generate engine f token selector source output args c
    let empty := ofCommands programs ⟨[], []⟩
    -- the stages
    (∀ text, empty.layout text = .ok text) ∧
    (∀ text localPrefix, empty.organize text localPrefix = .ok text ↔
      Writes programs "-local" [localPrefix] text text) ∧
    -- without a text
    (∀ e c', run .unchanged = (.error e, c') → run empty = (.error e, c')) ∧
    -- with a text
    ∀ plain c', run .unchanged = (.ok plain, c') →
      ∃ target, (lib.load (Library.targetLocation selector output) .target
          (lib.load (destination output) .all c).2).1 = .ok target ∧
        let localPrefix := target.snapshot.module.root.getD target.snapshot.module.path
        (run empty = run .unchanged ↔
          Writes programs "-local" [localPrefix] plain.source plain.source) ∧
        ∀ why, programs "-local" [localPrefix] plain.source.toUTF8 = .error why →
          run empty = (.ok ⟨plain.source, [⟨.organize, .notRun ("-local " ++ localPrefix) why⟩],
            plain.diagnostics⟩, c') := by
  intro run empty
  refine ⟨fun text => rfl, fun text localPrefix => runCommand_eq_ok_iff, ?_, ?_⟩
  · intro e c' failed
    exact Library.generate_of_error (Library.draft_of_failed failed) empty
  · intro plain c' made
    obtain ⟨draft, drafted⟩ := Library.draft_of_made made
    cases (Library.generate_unchanged drafted).symm.trans made
    obtain ⟨around, target, loads⟩ := Library.draftOf_of_ok drafted
    refine ⟨target, loads.target_loaded, ?_, ?_⟩
    · rw [← loads.localPrefix]
      exact Library.generate_of_nil_eq_iff drafted programs
    · rw [← loads.localPrefix]
      exact fun why => Library.generate_of_nil_not_run drafted

/-- Where no program can be found, the empty commands give the text with a warning. -/
theorem empty_commands_not_found :
    let programs : Programs := fun _ _ _ => .error .notFound
    let run (f : Formatter) := Shop.library.generate Plain.engine f "token" ⟨none, "Order"⟩
      ⟨"order.txt", "{{ name }}"⟩ "/shop/order.go" {} {}
    run (ofCommands programs ⟨[], []⟩) ≠ run .unchanged ∧
      (run (ofCommands programs ⟨[], []⟩)).1.toOption.map (fun g => (g.source, g.warnings)) =
        some ("Order", [⟨.organize, .notRun "-local /shop" .notFound⟩]) := by
  intro programs run
  have text : (run .unchanged).1.toOption.map (·.source) = some "Order" := by decide +kernel
  have organized : (Shop.library.load "/shop" .target
      (Shop.library.load "/shop" .all {}).2).1.toOption.map
        (fun t => t.snapshot.module.root.getD t.snapshot.module.path) = some "/shop" := by
    decide +kernel
  obtain ⟨_, _, _, formatted⟩ := empty_commands Shop.library Plain.engine programs "token"
    ⟨none, "Order"⟩ ⟨"order.txt", "{{ name }}"⟩ "/shop/order.go" {} {}
  rcases came : run .unchanged with ⟨answer, c'⟩
  rw [came] at text
  cases answer with
  | error e => cases text
  | ok plain =>
    obtain ⟨target, loaded, same, warned⟩ := formatted plain c' came
    have source : plain.source = "Order" := Option.some.inj text
    have loaded : (Shop.library.load "/shop" .target
        (Shop.library.load "/shop" .all {}).2).1 = .ok target := loaded
    rw [loaded] at organized
    have localPrefix : target.snapshot.module.root.getD target.snapshot.module.path = "/shop" :=
      Option.some.inj organized
    refine ⟨fun unchanged => ?_, ?_⟩
    · obtain ⟨outcome, ran, _⟩ := same.mp (unchanged.trans came.symm)
      cases ran
    · have ran : run (ofCommands programs ⟨[], []⟩) = _ := warned .notFound rfl
      rw [ran, source, localPrefix]
      rfl

end Stencil
