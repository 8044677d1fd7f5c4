import Mathlib.Logic.Relation
import Stencil.Proofs.Manifest.Alike
import Stencil.Proofs.Markup.Append

/-
  Edits that a manifest does not show. The events before a place tell which elements are open
  there, and these tell what counts; the events behind it may differ in all that does not count.

  Proved: `ofEvents_of_edits`. A manifest reads the same, to one module or to one fault, when
  elements that mean nothing are put in or taken out, whatever they contain; when text and
  comments are, or anything within elements whose content is not read; when elements that close
  themselves are written with two tags; when attributes are put in another order; and when
  attributes are added that nothing reads.
-/

namespace Stencil.Markup

variable {events : List Event}

/-! ## Balanced events -/

/-- Events that close all that they open. -/
inductive Balanced : List Event → Prop
  | nil : Balanced []
  | inert {behind : List Event} (rest : Balanced behind) : Balanced (.inert :: behind)
  | empty {name : String} {attributes : List Attribute} {behind : List Event}
      (rest : Balanced behind) : Balanced (.empty name attributes :: behind)
  | element {name : String} {attributes : List Attribute} {inside behind : List Event}
      (content : Balanced inside) (rest : Balanced behind) :
      Balanced (.opened name attributes :: inside ++ .closed name :: behind)

namespace Node

/-- The two tags of an element put the element in front of what is behind it. -/
theorem push_element {inside : List Event} {children : List Node}
    (content : ∀ levels, inside.foldr Levels.push levels =
      ⟨children ++ levels.here, levels.outer⟩) (name : String) (attributes : List Attribute)
    (behind : List Event) (levels : Levels) :
    (.opened name attributes :: inside ++ .closed name :: behind).foldr Levels.push levels =
      ⟨element name attributes children :: (behind.foldr Levels.push levels).here,
        (behind.foldr Levels.push levels).outer⟩ := by
  rw [List.cons_append, List.foldr_cons, List.foldr_append, List.foldr_cons, content]
  simp [Levels.push]

/-- Pushed in front of some levels, balanced events put a forest there. -/
theorem push_balanced (h : Balanced events) : ∃ nodes, ∀ levels,
    events.foldr Levels.push levels = ⟨nodes ++ levels.here, levels.outer⟩ := by
  induction h with
  | nil => exact ⟨[], fun levels => rfl⟩
  | inert _ ih =>
    obtain ⟨nodes, put⟩ := ih
    exact ⟨nodes, fun levels => put levels⟩
  | @empty name attributes _ _ ih =>
    obtain ⟨nodes, put⟩ := ih
    refine ⟨element name attributes [] :: nodes, fun levels => ?_⟩
    rw [List.foldr_cons, put]
    rfl
  | @element name attributes _ _ _ _ ihContent ihRest =>
    obtain ⟨children, content⟩ := ihContent
    obtain ⟨nodes, put⟩ := ihRest
    refine ⟨element name attributes children :: nodes, fun levels => ?_⟩
    rw [push_element content, put]
    rfl

/-- The levels around the current one. -/
def Levels.up (levels : Levels) : Levels := ⟨levels.outer.headD [], levels.outer.tail⟩

theorem push_opened (name : String) (attributes : List Attribute) (levels : Levels) :
    levels.push (.opened name attributes) =
      ⟨element name attributes levels.here :: levels.up.here, levels.up.outer⟩ := by
  obtain ⟨here, outer⟩ := levels
  cases outer with
  | nil => rfl
  | cons after outer => rfl

end Node

end Stencil.Markup

namespace Stencil.Manifest

open Markup Markup.Node

variable {names : List String} {levels levels' : Levels} {node node' : Node}
  {events events' before after after' : List Event} {fault : Option Markup.Fault}

/-! ## Levels that are alike -/

/-- Where elements stand in open elements of some names, innermost first. -/
def Place.under (names : List String) : Place := names.foldr (fun name p => p.inner name) .top

/-- Every level is alike at its place. -/
def AlikeUnder : List String → Levels → Levels → Prop
  | [], levels, levels' =>
    Alike .top (levels.here ++ levels.outer.flatten) (levels'.here ++ levels'.outer.flatten)
  | name :: names, levels, levels' =>
    Alike (.under (name :: names)) levels.here levels'.here ∧ AlikeUnder names levels.up levels'.up

theorem alikeUnder_refl (names : List String) (levels : Levels) :
    AlikeUnder names levels levels := by
  induction names generalizing levels with
  | nil => exact alike_refl .top _
  | cons name names ih => exact ⟨alike_refl _ _, ih levels.up⟩

theorem AlikeUnder.cons
    (same : ReadSame (((Place.under names).keys? node.name).getD []) node node')
    (content : Alike ((Place.under names).inner node.name) node.children node'.children)
    (h : AlikeUnder names levels levels') :
    AlikeUnder names ⟨node :: levels.here, levels.outer⟩
      ⟨node' :: levels'.here, levels'.outer⟩ := by
  cases names with
  | nil => exact Alike.cons same content h
  | cons name names => exact ⟨Alike.cons same content h.1, h.2⟩

/-- What an event puts in front of levels that are alike leaves them so. -/
theorem AlikeUnder.push {event : Event} (h : AlikeUnder (openAfter names event) levels levels') :
    AlikeUnder names (levels.push event) (levels'.push event) := by
  cases event with
  | inert => exact h
  | empty name attributes => exact AlikeUnder.cons ⟨rfl, saySame_refl _ _⟩ .nil h
  | opened name attributes =>
    rw [push_opened, push_opened]
    exact AlikeUnder.cons ⟨rfl, saySame_refl _ _⟩ h.1 h.2
  | closed name =>
    cases names with
    | nil => exact h
    | cons innermost names => exact ⟨.nil, h⟩

theorem AlikeUnder.foldr_push
    (h : AlikeUnder (before.foldl openAfter names) levels levels') :
    AlikeUnder names (before.foldr Levels.push levels) (before.foldr Levels.push levels') := by
  induction before generalizing names with
  | nil => exact h
  | cons event before ih => exact (ih h).push

/-- What stands behind some events counts as far as the elements that they leave open tell. -/
theorem ofEvents_of_alikeUnder
    (h : AlikeUnder (stillOpen before) (levelsOf after) (levelsOf after'))
    (fault : Option Markup.Fault) :
    ofEvents (before ++ after) fault = ofEvents (before ++ after') fault := by
  have top : AlikeUnder [] (levelsOf (before ++ after)) (levelsOf (before ++ after')) := by
    unfold levelsOf
    rw [List.foldr_append, List.foldr_append]
    exact AlikeUnder.foldr_push h
  have forests : Alike .top (Node.ofEvents (before ++ after)) (Node.ofEvents (before ++ after')) :=
    top
  unfold ofEvents
  rw [forests.foldlM_members]

theorem alikeUnder_append {nodes : List Node}
    (unknown : ∀ node ∈ nodes, (Place.under names).keys? node.name = none) (levels : Levels) :
    AlikeUnder names levels ⟨nodes ++ levels.here, levels.outer⟩ := by
  cases names with
  | nil =>
    unfold AlikeUnder
    rw [List.append_assoc]
    exact alike_append unknown _
  | cons name names => exact ⟨alike_append unknown _, alikeUnder_refl names _⟩

/-! ## Edits -/

/-- The names of the elements whose content is not read. -/
def leafNames : List String := ["field", "param", "result", "import", "type"]

/-- A change behind some events that means nothing there. A tag is a start tag, or one that
closes itself. -/
inductive Edit : List Event → List Event → Prop
  /-- An element whose name means nothing there, with any content. -/
  | element {before after inside : List Event} {name : String} {attributes : List Attribute}
      (unknown : (Place.under (stillOpen before)).keys? name = none) (balanced : Balanced inside) :
      Edit (before ++ after)
        (before ++ .opened name attributes :: inside ++ .closed name :: after)
  /-- Text, a comment, a character section or an instruction. -/
  | inert {before after : List Event} : Edit (before ++ after) (before ++ .inert :: after)
  /-- Content of an element whose content is not read. -/
  | content {before after inside : List Event} {name : String} (leaf : name ∈ leafNames)
      (within : (stillOpen before).head? = some name) (balanced : Balanced inside) :
      Edit (before ++ after) (before ++ inside ++ after)
  /-- Two tags for one that closes itself. -/
  | tags {before after : List Event} {name : String} {attributes : List Attribute} :
      Edit (before ++ .empty name attributes :: after)
        (before ++ .opened name attributes :: .closed name :: after)
  /-- The sound attributes of a tag in another order. -/
  | order {before after : List Event} {name : String} {attributes attributes' : List Attribute}
      {tag : String → List Attribute → Event} (isTag : tag = .opened ∨ tag = .empty)
      (reordered : Reordered attributes attributes') :
      Edit (before ++ tag name attributes :: after) (before ++ tag name attributes' :: after)
  /-- A further sound attribute of a tag, whose key is not read there. -/
  | further {before after : List Event} {name : String} {front back : List Attribute}
      {tag : String → List Attribute → Event} {key raw value : List Char}
      (isTag : tag = .opened ∨ tag = .empty) (decoded : decodeValue raw = .ok value)
      (unread : String.ofList key ∉ ((Place.under (stillOpen before)).keys? name).getD []) :
      Edit (before ++ tag name (front ++ back) :: after)
        (before ++ tag name (front ++ .pair key raw :: back) :: after)

theorem Place.inner_of_leaf {name : String} (leaf : name ∈ leafNames) (p : Place) :
    p.inner name = .unread := by
  simp only [leafNames, List.mem_cons, List.not_mem_nil, or_false] at leaf
  rcases leaf with rfl | rfl | rfl | rfl | rfl <;> cases p <;> rfl

/-- Content may be put into what is not read. -/
theorem alikeUnder_content {name : String} (leaf : name ∈ leafNames)
    (within : names.head? = some name) (nodes : List Node) (levels : Levels) :
    AlikeUnder names levels ⟨nodes ++ levels.here, levels.outer⟩ := by
  refine alikeUnder_append (fun node _ => ?_) levels
  obtain ⟨outer, rfl⟩ := List.head?_eq_some_iff.mp within
  have unread : Place.under (name :: outer) = .unread := Place.inner_of_leaf leaf _
  rw [unread]
  rfl

/-- The attributes of a tag count as far as they are read. -/
theorem alikeUnder_tag {name : String} {attributes attributes' : List Attribute}
    {tag : String → List Attribute → Event} (isTag : tag = .opened ∨ tag = .empty)
    (same : SaySame (((Place.under names).keys? name).getD []) attributes attributes')
    (levels : Levels) :
    AlikeUnder names (levels.push (tag name attributes)) (levels.push (tag name attributes')) := by
  rcases isTag with rfl | rfl
  · rw [push_opened, push_opened]
    exact AlikeUnder.cons ⟨rfl, same⟩ (alike_refl _ _) (alikeUnder_refl names _)
  · exact AlikeUnder.cons ⟨rfl, same⟩ .nil (alikeUnder_refl names _)

theorem ofEvents_of_edit (h : Edit events events') (fault : Option Markup.Fault) :
    ofEvents events fault = ofEvents events' fault := by
  cases h with
  | @element before after inside name attributes unknown balanced =>
    rw [List.append_assoc]
    refine ofEvents_of_alikeUnder ?_ fault
    obtain ⟨children, content⟩ := push_balanced balanced
    unfold levelsOf
    rw [push_element content]
    have alone : ∀ node ∈ [Node.element name attributes children],
        (Place.under (stillOpen before)).keys? node.name = none :=
      fun node mem => List.mem_singleton.mp mem ▸ unknown
    exact alikeUnder_append alone _
  | inert =>
    refine ofEvents_of_alikeUnder ?_ fault
    exact alikeUnder_refl _ _
  | @content before after inside name leaf within balanced =>
    rw [List.append_assoc]
    refine ofEvents_of_alikeUnder ?_ fault
    obtain ⟨nodes, put⟩ := push_balanced balanced
    unfold levelsOf
    rw [List.foldr_append, put]
    exact alikeUnder_content leaf within nodes _
  | tags =>
    refine ofEvents_of_alikeUnder ?_ fault
    exact alikeUnder_refl _ _
  | order isTag reordered =>
    exact ofEvents_of_alikeUnder (alikeUnder_tag isTag (reordered.saySame _) _) fault
  | further isTag decoded unread =>
    exact ofEvents_of_alikeUnder (alikeUnder_tag isTag (saySame_insert decoded unread) _) fault

/-- Edits do not show, however many are made or undone, and neither do they in texts. -/
theorem ofEvents_of_edits (h : Relation.EqvGen Edit events events') :
    (∀ fault, ofEvents events fault = ofEvents events' fault) ∧
    ∀ (reader : Reader) text text', (reader text).events = events →
      (reader text').events = events' → (reader text).fault = (reader text').fault →
      readBy reader text = readBy reader text' := by
  have same (fault : Option Markup.Fault) : ofEvents events fault = ofEvents events' fault := by
    induction h with
    | rel _ _ edit => exact ofEvents_of_edit edit fault
    | refl _ => rfl
    | symm _ _ _ ih => exact ih.symm
    | trans _ _ _ _ _ first second => exact first.trans second
  refine ⟨same, ?_⟩
  intro reader text text' first second faults
  calc readBy reader text
      = ofEvents events (reader text).fault := by rw [readBy, first]
    _ = ofEvents events' (reader text).fault := same _
    _ = readBy reader text' := by rw [readBy, second, faults]

/-- A note that holds a module, a comment in a field, and more attributes do not show. -/
theorem ofEvents_of_edits_noted :
    let path (value : Char) : Attribute := .pair ['p', 'a', 't', 'h'] [value]
    let name (value : Char) : Attribute := .pair ['n', 'a', 'm', 'e'] [value]
    let int : Attribute := .pair ['t', 'y', 'p', 'e'] ['i', 'n', 't']
    let author : Attribute := .pair ['b', 'y'] ['m', 'e']
    let plain : List Event := [.opened "module" [path 'p'], .opened "record" [name 'R'],
      .empty "field" [name 'A', int], .closed "record", .closed "module"]
    let noted : List Event := [.opened "module" [path 'p'], .opened "record" [author, name 'R'],
      .opened "note" [], .opened "module" [path 'q'], .empty "field" [], .closed "module",
      .closed "note", .opened "field" [int, name 'A'], .inert, .empty "record" [],
      .closed "field", .closed "record", .closed "module"]
    Relation.EqvGen Edit plain noted ∧ ofEvents plain none = ofEvents noted none ∧
      (ofEvents plain none).toOption.map (fun m => m.types.list.map (·.name)) = some ["R"] := by
  intro path name int author plain noted
  let top : Event := .opened "module" [path 'p']
  let note : List Event := [.opened "module" [path 'q'], .empty "field" [], .closed "module"]
  let begins : List Event := [top, .opened "record" [author, name 'R']]
  let opening : List Event := begins ++ .opened "note" [] :: note ++ [.closed "note"]
  let ends : List Event := [.closed "record", .closed "module"]
  have signed : Edit plain (begins ++ .empty "field" [name 'A', int] :: ends) :=
    have edit : Edit ([top] ++ .opened "record" ([] ++ [name 'R']) ::
          .empty "field" [name 'A', int] :: ends)
        ([top] ++ .opened "record" ([] ++ author :: [name 'R']) ::
          .empty "field" [name 'A', int] :: ends) :=
      .further (.inl rfl) rfl (by decide)
    edit
  have holding : Edit (begins ++ .empty "field" [name 'A', int] :: ends)
      (begins ++ .opened "note" [] :: note ++
        .closed "note" :: .empty "field" [name 'A', int] :: ends) :=
    .element rfl (.element (.empty .nil) .nil)
  have twoTags : Edit (opening ++ .empty "field" [name 'A', int] :: ends)
      (opening ++ .opened "field" [name 'A', int] :: .closed "field" :: ends) := .tags
  have swapped : Edit (opening ++ .opened "field" [name 'A', int] :: .closed "field" :: ends)
      (opening ++ .opened "field" [int, name 'A'] :: .closed "field" :: ends) :=
    .order (.inl rfl) ⟨.swap .., rfl, by decide⟩
  have filled : Edit (opening ++ [.opened "field" [int, name 'A']] ++ .closed "field" :: ends)
      (opening ++ [.opened "field" [int, name 'A']] ++ [.inert, .empty "record" []] ++
        .closed "field" :: ends) :=
    .content (by decide) rfl (.inert (.empty .nil))
  have edits : Relation.EqvGen Edit plain noted :=
    .trans _ _ _ (.rel _ _ signed) <| .trans _ _ _ (.rel _ _ holding) <|
      .trans _ _ _ (.rel _ _ twoTags) <| .trans _ _ _ (.rel _ _ swapped) (.rel _ _ filled)
  exact ⟨edits, (ofEvents_of_edits edits).1 none, by decide +kernel⟩

end Stencil.Manifest
