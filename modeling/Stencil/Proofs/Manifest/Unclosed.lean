import Stencil.Manifest.Reading
import Stencil.Proofs.Markup.Writing

/-
  Manifests that end early. Elements that are open at the end of the text are no fault: whatever
  the reader is in the middle of, the end of the text counts as the end tags that are missing.

  Proved: `unclosed_as_closed`, for any reader. A text that stops with elements open reads as the
  text that has their end tags, so it is accepted exactly if that text is, and as the same module.
-/

namespace Stencil.Markup

variable {s pre post after : List Char} {names openNames : List String} {events : List Event}
  {c : Char} {name : String} {attributes : List Attribute}

/-! ## Names of open elements -/

/-- What stands inside a tag before its first quote does not hold the end of one. -/
theorem inner_of_readTag (h : readTag none s = .ok (pre ++ post, after))
    (unquoted : '"' ∉ pre ∧ '\'' ∉ pre) : ∀ c ∈ pre, IsInner c := by
  induction pre generalizing s with
  | nil => simp
  | cons d pre ih =>
    obtain ⟨double, doubles⟩ := not_or.mp (mt List.mem_cons.mpr unquoted.1)
    obtain ⟨single, singles⟩ := not_or.mp (mt List.mem_cons.mpr unquoted.2)
    cases s with
    | nil => cases h
    | cons c s =>
      rw [readTag] at h
      split at h
      · cases h
      · rename_i not_end
        obtain ⟨⟨inside, behind⟩, read, same⟩ := ok_of_map h
        cases same
        rw [if_neg (by rintro (rfl | rfl) <;> contradiction)] at read
        intro e mem
        rcases List.mem_cons.mp mem with rfl | mem
        · exact ⟨not_end, Ne.symm double, Ne.symm single⟩
        · exact ih read ⟨doubles, singles⟩ e mem

/-- A name as tags have it: it begins the inside of one, and no space is in it. -/
def BeginsTag (name : List Char) : Prop := (∀ c ∈ name, isSpace c = false) ∧
  ∃ s post after, readTag none s = .ok (name ++ post, after)

theorem beginsTag_of_readEvent {step : Event.Step} (h : readEvent openNames c s = .ok step)
    (opened : step.event = .opened name attributes) : BeginsTag name.toList := by
  cases begins_of_readEvent h with
  | text => cases opened
  | bang => cases opened
  | instruction => cases opened
  | close read closes =>
    unfold closeTag at closes
    cases openNames with
    | nil => cases closes
    | cons expected outer =>
      dsimp only at closes
      split at closes
      · cases closes
        cases opened
      · cases closes
  | @start d s inside after _ _ _ read =>
    unfold startTag at opened
    dsimp only at opened
    split at opened
    · cases opened
    · cases opened
      rw [String.toList_ofList]
      refine ⟨fun c mem => ?_, d :: s, inside.dropWhile (!isSpace ·), after, ?_⟩
      · simpa using List.mem_takeWhile_imp mem
      · rw [List.takeWhile_append_dropWhile]
        exact read

/-- What each event has when it is read, all have. -/
theorem readEvents_all {P : Event → Prop} (each : ∀ names c s (step : Event.Step),
    readEvent names c s = .ok step → P step.event) (n : Nat) (names : List String)
    (s : List Char) : ∀ event ∈ (readEvents n names s).events, P event := by
  induction n generalizing names s with
  | zero => simp [readEvents]
  | succ n ih =>
    cases s with
    | nil => simp [readEvents]
    | cons c s =>
      rw [readEvents]
      cases read : readEvent names c s with
      | error fault => simp
      | ok step =>
        intro event mem
        rcases List.mem_cons.mp mem with rfl | mem
        · exact each names c s step read
        · exact ih step.openNames step.rest event mem

theorem opened_of_mem (mem : name ∈ events.foldl openAfter names) :
    name ∈ names ∨ ∃ attributes, .opened name attributes ∈ events := by
  induction events generalizing names with
  | nil => exact .inl mem
  | cons event events ih =>
    rcases ih mem with before | ⟨attributes, later⟩
    · cases event with
      | opened other attributes =>
        rcases List.mem_cons.mp before with rfl | before
        · exact .inr ⟨attributes, List.mem_cons_self⟩
        · exact .inl before
      | closed _ => exact .inl (List.mem_of_mem_drop before)
      | empty _ _ => exact .inl before
      | inert => exact .inl before
    · exact .inr ⟨attributes, List.mem_cons_of_mem event later⟩

/-- An element that is still open has an end tag, if its name holds no quote. -/
theorem plain_of_stillOpen {text : String} (mem : name ∈ stillOpen (read text).events)
    (unquoted : '"' ∉ name.toList ∧ '\'' ∉ name.toList) : IsPlain name.toList := by
  obtain never | ⟨attributes, opened⟩ := opened_of_mem mem
  · cases never
  have named : ∀ event ∈ (read text).events, ∀ name attributes,
      event = .opened name attributes → BeginsTag name.toList :=
    readEvents_all (fun _ _ _ _ read _ _ => beginsTag_of_readEvent read) _ _ _
  obtain ⟨no_space, s, post, after, tag⟩ := named _ opened name attributes rfl
  exact fun c mem => ⟨inner_of_readTag tag unquoted c mem, no_space c mem⟩

/-! ## Missing end tags -/

/-- A reader that comes to an end tag behind a text it has read to its end takes it for that of
the innermost element that is open. A name with a quote is left out, since the quote may still be
open where the end tag should end. -/
def Reader.TakesEndTag (reader : Reader) : Prop :=
  ∀ text name names, (reader text).fault = none →
    stillOpen (reader text).events = name :: names → '"' ∉ name.toList ∧ '\'' ∉ name.toList →
    reader (text ++ String.ofList (endTag name)) =
      ⟨(reader text).events ++ [.closed name], none⟩

theorem takesEndTag_read : Reader.TakesEndTag read := by
  intro text name names sound opened unquoted
  have mem : name ∈ stillOpen (read text).events := by
    rw [opened]
    exact List.mem_cons_self
  have plain : IsPlain name.toList := plain_of_stillOpen mem unquoted
  have tag : AtTag (String.ofList (endTag name)).toList := by
    rw [String.toList_ofList]
    simp [AtTag, endTag]
  rw [read_append sound tag, opened, String.toList_ofList, (reads_endTag plain).readEvents_eq]

/-- The end tags of the elements that some events leave open. -/
def endTags (events : List Event) : String := String.ofList ((stillOpen events).flatMap endTag)

/-- With its end tags a text reads as before, and then the elements close. -/
theorem read_endTags {reader : Reader} (takes : reader.TakesEndTag) {text : String}
    (sound : (reader text).fault = none)
    (unquoted : ∀ name ∈ stillOpen (reader text).events,
      '"' ∉ name.toList ∧ '\'' ∉ name.toList) :
    reader (text ++ endTags (reader text).events) =
      ⟨(reader text).events ++ (stillOpen (reader text).events).map .closed, none⟩ := by
  unfold endTags
  generalize opened : stillOpen (reader text).events = names at unquoted
  -- one end tag after the other, from the innermost element outwards
  induction names generalizing text with
  | nil =>
    have empty : text ++ String.ofList ([].flatMap endTag) = text := by simp
    rw [empty, List.map_nil, List.append_nil, ← sound]
  | cons name names ih =>
    have first := takes text name names sound opened (unquoted name List.mem_cons_self)
    have sound' : (reader (text ++ String.ofList (endTag name))).fault = none := by rw [first]
    have opened' :
        stillOpen (reader (text ++ String.ofList (endTag name))).events = names := by
      rw [first, stillOpen, List.foldl_append]
      exact congrArg (List.drop 1) opened
    have others := ih sound' opened' fun other mem =>
      unquoted other (List.mem_cons_of_mem name mem)
    rw [List.flatMap_cons, String.ofList_append, ← String.append_assoc, others, first]
    simp

/-- Then no element is open. -/
theorem stillOpen_closed (events : List Event) :
    stillOpen (events ++ (stillOpen events).map .closed) = [] := by
  unfold stillOpen
  rw [List.foldl_append]
  generalize events.foldl openAfter [] = names
  induction names with
  | nil => rfl
  | cons name names ih => exact ih

end Stencil.Markup

namespace Stencil.Manifest

open Markup

/-! ## Manifests -/

/-- A text without a fault that stops with elements open is read as if they closed there: if the
reader knows end tags, theirs change neither whether it is accepted nor the module it gives. -/
theorem unclosed_as_closed {reader : Reader} {text : String}
    (sound : (reader text).fault = none) :
    let events := (reader text).events
    let closed := events ++ (stillOpen events).map .closed
    stillOpen closed = [] ∧ readBy reader text = ofEvents closed none ∧
      (reader.TakesEndTag →
        (∀ name ∈ stillOpen events, '"' ∉ name.toList ∧ '\'' ∉ name.toList) →
          reader (text ++ endTags events) = ⟨closed, none⟩ ∧
            readBy reader (text ++ endTags events) = readBy reader text) := by
  intro events closed
  have same : readBy reader text = ofEvents closed none := by
    rw [readBy, sound, ofEvents, ofEvents, Node.ofEvents_append_closed]
  refine ⟨stillOpen_closed events, same, fun takes unquoted => ?_⟩
  have whole : reader (text ++ endTags events) = ⟨closed, none⟩ :=
    read_endTags takes sound unquoted
  exact ⟨whole, by rw [same, readBy, whole]⟩

/-- A manifest that ends inside a field. -/
def endsInField : String := "<module path=\"m\"><record name=\"R\"><field name=\"A\" type=\"int\">"

theorem unclosed_as_closed_field :
    stillOpen (Markup.read endsInField).events = ["field", "record", "module"] ∧
    read endsInField = .ok ⟨"m", "m", none, [],
      .ofList [⟨"R", .record [⟨"A", .builtin "int", ⟨""⟩⟩]⟩]⟩ ∧
    read (endsInField ++ "</field></record></module>") = read endsInField := by
  have events : (Markup.read endsInField).events =
      [.opened "module" [.pair "path".toList "m".toList],
        .opened "record" [.pair "name".toList "R".toList],
        .opened "field" [.pair "name".toList "A".toList, .pair "type".toList "int".toList]] := by
    decide +kernel
  have sound : (Markup.read endsInField).fault = none := by decide +kernel
  have names : stillOpen (Markup.read endsInField).events = ["field", "record", "module"] := by
    rw [events]
    rfl
  obtain ⟨_, same, completed⟩ := unclosed_as_closed sound
  refine ⟨names, ?_, ?_⟩
  · rw [read, same, events]
    rfl
  · have unquoted : ∀ name ∈ stillOpen (Markup.read endsInField).events,
        '"' ∉ name.toList ∧ '\'' ∉ name.toList := by
      rw [names]
      decide
    have tags : endTags (Markup.read endsInField).events = "</field></record></module>" := by
      rw [endTags, names]
      rfl
    rw [← tags]
    exact (completed takesEndTag_read unquoted).2

end Stencil.Manifest
