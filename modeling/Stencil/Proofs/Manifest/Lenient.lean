import Stencil.Proofs.Manifest.Edits
import Stencil.Proofs.Markup.WellWritten

/-
  Malformed attributes: those without a value in quotes, and those whose key came before in the
  tag. They are no fault. Whatever element has them, they are passed over, and what they would
  have said counts as not said.

  Proved: `malformed_as_absent`, for any reader. A manifest reads as it does without its malformed
  attributes, to the same module or to the same fault.
-/

namespace Stencil.Markup

/-- The attributes that have a value. -/
def soundOnly (attributes : List Attribute) : List Attribute :=
  attributes.filter (· ≠ .malformed)

/-- The event without the malformed attributes of its tag. -/
def Event.sound : Event → Event
  | .opened name attributes => .opened name (soundOnly attributes)
  | .empty name attributes => .empty name (soundOnly attributes)
  | .closed name => .closed name
  | .inert => .inert

theorem decodeAttributes_soundOnly (attributes : List Attribute) :
    decodeAttributes (soundOnly attributes) = decodeAttributes attributes := by
  induction attributes with
  | nil => rfl
  | cons item rest ih =>
    unfold soundOnly at ih ⊢
    cases item with
    | malformed =>
      rw [List.filter_cons_of_neg (by simp), ih]
      rfl
    | pair key raw =>
      rw [List.filter_cons_of_pos (by simp), decodeAttributes, decodeAttributes, ih]

theorem saySame_soundOnly (keys : List String) (attributes : List Attribute) :
    SaySame keys attributes (soundOnly attributes) := by
  intro key _
  rw [decodeAttributes_soundOnly]

/-- A key that no attribute has a value for gets none. -/
theorem lookup_of_no_pair {attributes : List Attribute} {key : String}
    {values : List (String × String)} (absent : ∀ raw, .pair key.toList raw ∉ attributes)
    (decoded : decodeAttributes attributes = .ok values) : values.lookup key = none := by
  induction attributes generalizing values with
  | nil =>
    cases decoded
    rfl
  | cons item rest ih =>
    have absentRest : ∀ raw, .pair key.toList raw ∉ rest :=
      fun raw mem => absent raw (List.mem_cons_of_mem item mem)
    cases item with
    | malformed => exact ih absentRest decoded
    | pair other raw =>
      rw [decodeAttributes] at decoded
      obtain ⟨value, _, decoded⟩ := ok_of_bind decoded
      obtain ⟨others, decodedRest, decoded⟩ := ok_of_bind decoded
      cases decoded
      have differs : (key == String.ofList other) = false := by
        refine beq_eq_false_iff_ne.mpr fun same => ?_
        rw [same, String.toList_ofList] at absent
        exact absent raw List.mem_cons_self
      rw [List.lookup_cons, differs]
      exact ih absentRest decodedRest

end Stencil.Markup

namespace Stencil.Manifest

open Markup

/-- One tag may lose its malformed attributes. -/
theorem ofEvents_sound_event (before : List Event) (event : Event) (after : List Event)
    (fault : Option Markup.Fault) :
    ofEvents (before ++ event :: after) fault =
      ofEvents (before ++ event.sound :: after) fault := by
  cases event with
  | inert => rfl
  | closed name => rfl
  | opened name attributes =>
    exact ofEvents_of_alikeUnder (alikeUnder_tag (.inl rfl) (saySame_soundOnly _ _) _) fault
  | empty name attributes =>
    exact ofEvents_of_alikeUnder (alikeUnder_tag (.inr rfl) (saySame_soundOnly _ _) _) fault

/-- All tags may lose theirs, one after another from the front. -/
theorem ofEvents_sound (before events : List Event) (fault : Option Markup.Fault) :
    ofEvents (before ++ events) fault = ofEvents (before ++ events.map Event.sound) fault := by
  induction events generalizing before with
  | nil => rfl
  | cons event events ih =>
    calc ofEvents (before ++ event :: events) fault
        = ofEvents (before ++ event.sound :: events) fault := ofEvents_sound_event _ _ _ _
      _ = ofEvents ((before ++ [event.sound]) ++ events) fault := by simp
      _ = ofEvents ((before ++ [event.sound]) ++ events.map Event.sound) fault := ih _
      _ = ofEvents (before ++ (event :: events).map Event.sound) fault := by simp

/-- An attribute of which no value can be read counts as absent, and is missing where it must
be there, unless another attribute of the element is at fault. -/
theorem attribute?_of_no_pair {node : Node} {key : String} {values : List (String × String)}
    (absent : ∀ raw, .pair key.toList raw ∉ node.attributes)
    (decoded : decodeAttributes node.attributes = .ok values) :
    attribute? node key = .ok none ∧
      required node key = .error (.missingAttribute node.name key) := by
  have notFound : attribute? node key = .ok none := by
    unfold attribute?
    rw [decoded]
    exact congrArg Except.ok (lookup_of_no_pair absent decoded)
  refine ⟨notFound, ?_⟩
  unfold required
  rw [notFound]
  rfl

/-- A manifest with malformed attributes, of whatever elements, is rejected exactly if it is
without them, and for the same fault; else it is the same module. A tag has such attributes
exactly if what follows its name is not written with distinct keys and quoted values. What is
said only so counts as absent, which is a fault where it must be said. -/
theorem malformed_as_absent (reader : Reader) (text : String) :
    (∀ s, .malformed ∈ attributesOf s ↔ ¬ ∃ items, WellWritten [] s items) ∧
    readBy reader text = ofEvents ((reader text).events.map Event.sound) (reader text).fault ∧
    (∀ text', (reader text').events.map Event.sound = (reader text).events.map Event.sound →
      (reader text').fault = (reader text).fault → readBy reader text' = readBy reader text) ∧
    ∀ node key values, (∀ raw, .pair key.toList raw ∉ node.attributes) →
      decodeAttributes node.attributes = .ok values →
      attribute? node key = .ok none ∧
        required node key = .error (.missingAttribute node.name key) := by
  have dropped (text : String) : readBy reader text =
      ofEvents ((reader text).events.map Event.sound) (reader text).fault :=
    ofEvents_sound [] (reader text).events (reader text).fault
  refine ⟨fun s => (malformed_mem_attributesOf_iff s).1, dropped text, ?_,
    fun _ _ _ => attribute?_of_no_pair⟩
  intro text' events faults
  rw [dropped text', dropped text, events, faults]

/-- A key without a value, a name given twice, and a value without quotes. -/
def sloppy : String := "<module path=\"m\" root><capabilities name=\"C\">" ++
  "<method name=\"M\" name=\"N\" variadic=true/></capabilities></module>"

/-- The same manifest without them. -/
def tidy : String :=
  "<module path=\"m\"><capabilities name=\"C\"><method name=\"M\"/></capabilities></module>"

/-- The module has no root, and its method is not variadic. -/
theorem malformed_as_absent_thrice :
    (¬ ∃ items, WellWritten [] " name=\"M\" name=\"N\" variadic=true".toList items) ∧
    read sloppy = read tidy ∧
    read sloppy = .ok ⟨"m", "m", none, [], .ofList [⟨"C", .capabilities [⟨"M", false, [], []⟩]⟩]⟩ ∧
    attribute? (.element "method" [.pair "name".toList "M".toList, .malformed, .malformed] [])
      "variadic" = .ok none := by
  obtain ⟨sloppyEvents, sloppySound⟩ : (Markup.read sloppy).events =
      [.opened "module" [.pair "path".toList "m".toList, .malformed],
        .opened "capabilities" [.pair "name".toList "C".toList],
        .empty "method" [.pair "name".toList "M".toList, .malformed, .malformed],
        .closed "capabilities", .closed "module"] ∧ (Markup.read sloppy).fault = none := by
    decide +kernel
  obtain ⟨tidyEvents, tidySound⟩ : (Markup.read tidy).events =
      [.opened "module" [.pair "path".toList "m".toList],
        .opened "capabilities" [.pair "name".toList "C".toList],
        .empty "method" [.pair "name".toList "M".toList],
        .closed "capabilities", .closed "module"] ∧ (Markup.read tidy).fault = none := by
    decide +kernel
  obtain ⟨malformed, _, same, absent⟩ := malformed_as_absent Markup.read tidy
  have read_eq : read sloppy = read tidy := by
    refine same sloppy ?_ (sloppySound.trans tidySound.symm)
    rw [sloppyEvents, tidyEvents]
    rfl
  refine ⟨(malformed _).mp (by decide +kernel), read_eq, ?_, (absent _ _ _ ?_ rfl).1⟩
  · rw [read_eq, read, readBy, tidyEvents, tidySound]
    rfl
  · simp [Node.attributes]

end Stencil.Manifest
