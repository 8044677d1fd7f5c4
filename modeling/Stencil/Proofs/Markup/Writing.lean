import Stencil.Proofs.Markup.Append
import Stencil.Proofs.Markup.Forest
import Stencil.Proofs.Text.Cut

/-
  Writing markup. An element is written as its tags around its content, or as one tag that
  closes itself; an attribute as a key and a text in double quotes.

  Proved: `readsBack_read`. What is written is read as it was: the same elements with the same raw
  attributes, and no fault. This is what manifests need of a reader to be read back
  (`Reader.ReadsBack`).
-/

namespace Stencil.Markup

open Text

/-! ## Insides of tags -/

/-- A text inside a tag: reading the tag goes over it, whatever follows. -/
def Spans (inside : List Char) : Prop := ∀ rest,
  readTag none (inside ++ rest) = (readTag none rest).map fun tag => (inside ++ tag.1, tag.2)

section

variable {inside inside' s raw rest : List Char} {c quote : Char}

theorem spans_nil : Spans [] := by
  intro rest
  rw [List.nil_append]
  cases readTag none rest <;> rfl

theorem Spans.append (h : Spans inside) (h' : Spans inside') : Spans (inside ++ inside') := by
  intro rest
  rw [List.append_assoc, h, h']
  cases readTag none rest with
  | error fault => rfl
  | ok tag => simp [Except.map]

theorem Spans.flatMap {α : Type} {f : α → List Char} {as : List α}
    (h : ∀ a ∈ as, Spans (f a)) : Spans (as.flatMap f) := by
  induction as with
  | nil => exact spans_nil
  | cons a as ih =>
    rw [List.flatMap_cons]
    exact (h a List.mem_cons_self).append (ih fun b mem => h b (List.mem_cons_of_mem a mem))

/-- A character that neither ends a tag nor opens a quote. -/
def IsInner (c : Char) : Prop := c ≠ '>' ∧ c ≠ '"' ∧ c ≠ '\''

instance (c : Char) : Decidable (IsInner c) := inferInstanceAs (Decidable (_ ∧ _ ∧ _))

theorem spans_inner (h : ∀ c ∈ s, IsInner c) : Spans s := by
  induction s with
  | nil => exact spans_nil
  | cons c s ih =>
    have single : Spans [c] := by
      intro rest
      obtain ⟨not_end, not_double, not_single⟩ := h c List.mem_cons_self
      rw [List.singleton_append, readTag, if_neg not_end]
      simp [not_double, not_single]
    exact single.append (ih fun d mem => h d (List.mem_cons_of_mem c mem))

theorem readTag_quoted (h : quote ∉ raw) (rest : List Char) :
    readTag (some quote) (raw ++ quote :: rest) =
      (readTag none rest).map fun tag => (raw ++ quote :: tag.1, tag.2) := by
  induction raw with
  | nil =>
    rw [List.nil_append, readTag, if_pos rfl]
    rfl
  | cons c raw ih =>
    obtain ⟨other, further⟩ := not_or.mp (mt List.mem_cons.mpr h)
    rw [List.cons_append, readTag, if_neg (Ne.symm other), ih further]
    cases readTag none rest <;> rfl

theorem spans_quoted (h : '"' ∉ raw) : Spans ('"' :: (raw ++ ['"'])) := by
  intro rest
  rw [List.cons_append, List.append_assoc, List.singleton_append, readTag, if_neg (by decide)]
  dsimp only
  rw [if_pos (.inl rfl), readTag_quoted h]
  cases readTag none rest <;> simp [Except.map]

theorem Spans.readTag_eq (h : Spans inside) (rest : List Char) :
    readTag none (inside ++ '>' :: rest) = .ok (inside, rest) := by
  rw [h, readTag, if_pos rfl]
  simp [Except.map]

end

/-! ## End tags -/

/-- A name that the end of a tag, a quote or a space does not cut short. -/
def IsPlain (name : List Char) : Prop := ∀ c ∈ name, IsInner c ∧ isSpace c = false

def endTag (name : String) : List Char := '<' :: '/' :: (name.toList ++ ['>'])

theorem trimName_of_plain {name : List Char} (h : IsPlain name) : trimName name = name := by
  unfold trimName
  cases shape : name.reverse with
  | nil => rfl
  | cons c rest =>
    have mem : c ∈ name := by
      rw [← List.mem_reverse, shape]
      exact List.mem_cons_self
    rw [List.dropWhile_cons_of_neg (by simp [(h c mem).2])]
    dsimp only
    rw [← shape, List.reverse_reverse]

theorem readEvent_endTag {name : String} (plain : IsPlain name.toList) (outer : List String)
    (rest : List Char) : readEvent (name :: outer) '<' ('/' :: (name.toList ++ '>' :: rest)) =
      .ok ⟨.closed name, outer, rest⟩ := by
  have slash : ∀ c ∈ ['/'], IsInner c := by simp [IsInner]
  have spans : Spans ('/' :: name.toList) :=
    (spans_inner slash).append (spans_inner fun c mem => (plain c mem).1)
  rw [readEvent_close, ← List.cons_append, spans.readTag_eq]
  change closeTag (name :: outer) name.toList rest = _
  unfold closeTag
  dsimp only
  rw [trimName_of_plain plain, String.ofList_toList, if_pos rfl]

/-! ## Attributes -/

/-- A name of letters only. -/
def IsWord (name : List Char) : Prop := name ≠ [] ∧ name.all Char.isAlpha = true

theorem IsWord.isAlpha {name : List Char} {c : Char} (h : IsWord name) (mem : c ∈ name) :
    c.isAlpha = true :=
  List.all_eq_true.mp h.2 c mem

theorem isSpace_of_isAlpha {c : Char} (h : c.isAlpha = true) : isSpace c = false := by
  have not_blank : c ≠ ' ' := ne_of_test h (by decide)
  have not_tab : c ≠ '\t' := ne_of_test h (by decide)
  have not_return : c ≠ '\r' := ne_of_test h (by decide)
  have not_newline : c ≠ '\n' := ne_of_test h (by decide)
  simp [isSpace, not_blank, not_tab, not_return, not_newline]

theorem IsWord.isPlain {name : List Char} (h : IsWord name) : IsPlain name := by
  intro c mem
  have letter := h.isAlpha mem
  refine ⟨⟨?_, ?_, ?_⟩, isSpace_of_isAlpha letter⟩
  all_goals exact ne_of_test letter (by decide)

namespace Attribute

def key : Attribute → List Char
  | pair key _ => key
  | malformed => []

def write : Attribute → List Char
  | pair key raw => ' ' :: (key ++ '=' :: ('"' :: (raw ++ ['"'])))
  | malformed => []

/-- Written and read, the attribute is the same. -/
def Writable : Attribute → Prop
  | pair key raw => IsWord key ∧ '"' ∉ raw
  | malformed => False

theorem Writable.spans {a : Attribute} (h : a.Writable) : Spans a.write := by
  cases a with
  | malformed => exact spans_nil
  | pair key raw =>
    have front : ∀ c ∈ ' ' :: (key ++ ['=']), IsInner c := by
      intro c mem
      rcases List.mem_cons.mp mem with rfl | mem
      · decide
      · rcases List.mem_append.mp mem with mem | mem
        · exact (h.1.isPlain c mem).1
        · rw [List.mem_singleton.mp mem]
          decide
    have shape : (pair key raw).write = (' ' :: (key ++ ['='])) ++ '"' :: (raw ++ ['"']) := by
      simp [write]
    rw [shape]
    exact (spans_inner front).append (spans_quoted h.2)

/-- One attribute that was written, with its key and what follows it. -/
theorem readAttribute_write {first : Char} {key raw : List Char} {seen : List (List Char)}
    (word : IsWord (first :: key)) (quoted : '"' ∉ raw) (fresh : first :: key ∉ seen)
    (rest : List Char) :
    readAttribute seen first (key ++ '=' :: ('"' :: (raw ++ '"' :: rest))) =
      ⟨pair (first :: key) raw, some (first :: key), rest⟩ := by
  have inKey : ∀ c ∈ key, (c ≠ '=' && !isSpace c) = true := by
    intro c mem
    have letter := word.isAlpha (List.mem_cons_of_mem first mem)
    have not_equals : c ≠ '=' := ne_of_test letter (by decide)
    simp [not_equals, isSpace_of_isAlpha letter]
  have keyEnds : ∀ c ∈ ('=' :: ('"' :: (raw ++ '"' :: rest))).head?,
      (c ≠ '=' && !isSpace c) = false := by simp
  obtain ⟨taken, dropped⟩ := span_append inKey keyEnds
  have value : readValue (first :: key) ('"' :: (raw ++ '"' :: rest)) =
      ⟨pair (first :: key) raw, some (first :: key), rest⟩ := by
    rw [readValue, List.dropWhile_cons_of_neg (by decide)]
    dsimp only
    rw [if_pos (.inl rfl), cut_append quoted]
  unfold readAttribute
  dsimp only
  rw [taken, dropped, List.dropWhile_cons_of_neg (by decide), ← value]
  exact if_neg fresh

theorem readAttributes_write {attributes : List Attribute} (h : ∀ a ∈ attributes, a.Writable)
    (apart : attributes.Pairwise (·.key ≠ ·.key)) {seen : List (List Char)}
    (fresh : ∀ a ∈ attributes, a.key ∉ seen) {n : Nat} (enough : attributes.length ≤ n) :
    readAttributes n seen (attributes.flatMap write) = attributes := by
  induction attributes generalizing n seen with
  | nil => cases n <;> rfl
  | cons a attributes ih =>
    obtain ⟨n, rfl⟩ : ∃ k, n = k + 1 := Nat.exists_eq_succ_of_ne_zero (by
      rw [List.length_cons] at enough; omega)
    have writable := h a List.mem_cons_self
    obtain ⟨apart_first, apart_rest⟩ := List.pairwise_cons.mp apart
    match a, writable with
    | pair (first :: key) raw, ⟨word, quoted⟩ =>
      have not_space : isSpace first = false := isSpace_of_isAlpha (word.isAlpha List.mem_cons_self)
      have fresh_first : first :: key ∉ seen := fresh _ List.mem_cons_self
      have shape : (pair (first :: key) raw :: attributes).flatMap write =
          ' ' :: (first :: (key ++ '=' :: ('"' :: (raw ++ '"' :: attributes.flatMap write)))) := by
        simp [write]
      rw [shape, readAttributes, List.dropWhile_cons_of_pos (by decide),
        List.dropWhile_cons_of_neg (by simp [not_space])]
      dsimp only
      rw [readAttribute_write word quoted fresh_first]
      dsimp only
      rw [ih (fun b mem => h b (List.mem_cons_of_mem _ mem)) apart_rest]
      · intro b mem
        have other : b.key ≠ first :: key := Ne.symm (apart_first b mem)
        have not_seen := fresh b (List.mem_cons_of_mem _ mem)
        simp [other, not_seen]
      · rw [List.length_cons] at enough
        omega
    | pair [] raw, ⟨word, _⟩ => exact absurd rfl word.1

end Attribute

/-! ## Start tags -/

/-- A name and attributes that can be written in one tag. -/
structure TagWritable (name : String) (attributes : List Attribute) : Prop where
  name : IsWord name.toList
  each : ∀ a ∈ attributes, a.Writable
  apart : attributes.Pairwise (·.key ≠ ·.key)

def tagInside (name : String) (attributes : List Attribute) : List Char :=
  name.toList ++ attributes.flatMap Attribute.write

section

variable {name : String} {attributes : List Attribute}

theorem TagWritable.spans (h : TagWritable name attributes) : Spans (tagInside name attributes) :=
  (spans_inner fun c mem => (h.name.isPlain c mem).1).append
    (Spans.flatMap fun a mem => (h.each a mem).spans)

theorem TagWritable.span (h : TagWritable name attributes) :
    (tagInside name attributes).takeWhile (!isSpace ·) = name.toList ∧
      (tagInside name attributes).dropWhile (!isSpace ·) = attributes.flatMap Attribute.write := by
  refine span_append (fun c mem => ?_) (fun c first => ?_)
  · rw [(h.name.isPlain c mem).2]
    rfl
  · match attributes, h.each with
    | .pair key raw :: rest, _ =>
      cases first
      rfl
    | .malformed :: rest, each => exact (each _ List.mem_cons_self).elim

theorem length_le_write (h : ∀ a ∈ attributes, a.Writable) :
    attributes.length ≤ (attributes.flatMap Attribute.write).length := by
  induction attributes with
  | nil => exact Nat.le_refl 0
  | cons a attributes ih =>
    have rest := ih fun b mem => h b (List.mem_cons_of_mem a mem)
    match a, h a List.mem_cons_self with
    | .pair key raw, _ =>
      rw [List.flatMap_cons, List.length_append, List.length_cons, Attribute.write,
        List.length_cons]
      omega

theorem TagWritable.attributesOf_write (h : TagWritable name attributes) :
    attributesOf (attributes.flatMap Attribute.write) = attributes :=
  Attribute.readAttributes_write h.each h.apart (by simp) (length_le_write h.each)

/-- The tag of an element, with or without a slash at its end. -/
theorem TagWritable.readEvent_eq (h : TagWritable name attributes) {slash : List Char}
    (inner : Spans slash) (names : List String) (rest : List Char) :
    readEvent names '<' (tagInside name attributes ++ (slash ++ '>' :: rest)) =
      .ok (startTag names (tagInside name attributes ++ slash) rest) := by
  cases chars : name.toList with
  | nil => exact absurd chars h.name.1
  | cons first others =>
    have letter : first.isAlpha = true := h.name.isAlpha (by simp [chars])
    have inside : tagInside name attributes =
        first :: (others ++ attributes.flatMap Attribute.write) := by simp [tagInside, chars]
    have spans := (h.spans.append inner).readTag_eq rest
    rw [List.append_assoc] at spans
    rw [inside] at spans ⊢
    rw [List.cons_append, readEvent_start (ne_of_test letter (by decide))
      (ne_of_test letter (by decide)) (ne_of_test letter (by decide)), ← List.cons_append,
      spans]
    rfl

/-- The inside of a tag ends with a letter or a quote. -/
theorem TagWritable.last (h : TagWritable name attributes) :
    ∃ body c, tagInside name attributes = body ++ [c] ∧ c ≠ '/' := by
  rcases List.eq_nil_or_concat attributes with rfl | ⟨front, a, rfl⟩
  · rcases List.eq_nil_or_concat name.toList with none_left | ⟨body, c, shape⟩
    · exact absurd none_left h.name.1
    · refine ⟨body, c, by simp [tagInside, shape], ?_⟩
      exact ne_of_test (h.name.isAlpha (by simp [shape] : c ∈ name.toList)) (by decide)
  · match a, h.each a (by simp) with
    | .pair key raw, _ =>
      refine ⟨name.toList ++ front.flatMap Attribute.write ++ ' ' :: (key ++ '=' :: '"' :: raw),
        '"', by simp [tagInside, Attribute.write], by decide⟩

theorem readEvent_startTag (h : TagWritable name attributes) (names : List String)
    (rest : List Char) : readEvent names '<' (tagInside name attributes ++ '>' :: rest) =
      .ok ⟨.opened name attributes, name :: names, rest⟩ := by
  obtain ⟨body, last, shape, not_slash⟩ := h.last
  have read := h.readEvent_eq spans_nil names rest
  rw [List.nil_append, List.append_nil] at read
  rw [read, startTag]
  dsimp only
  rw [h.span.1, h.span.2, h.attributesOf_write, String.ofList_toList]
  split
  · rename_i slash
    rw [shape, List.reverse_append] at slash
    exact absurd (List.cons.inj slash).1 not_slash
  · rfl

theorem startTag_slash (names : List String) (inside rest : List Char) :
    startTag names (inside ++ ['/']) rest =
      ⟨.empty (String.ofList (inside.takeWhile (!isSpace ·)))
        (attributesOf (inside.dropWhile (!isSpace ·))), names, rest⟩ := by
  have back : (inside ++ ['/']).reverse = '/' :: inside.reverse := by simp
  conv => rhs; rw [← List.reverse_reverse inside]
  rw [startTag, back]
  rfl

theorem readEvent_emptyTag (h : TagWritable name attributes) (names : List String)
    (rest : List Char) : readEvent names '<' (tagInside name attributes ++ '/' :: '>' :: rest) =
      .ok ⟨.empty name attributes, names, rest⟩ := by
  have inner : ∀ c ∈ ['/'], IsInner c := by simp [IsInner]
  have read := h.readEvent_eq (spans_inner inner) names rest
  rw [List.singleton_append] at read
  rw [read, startTag_slash, h.span.1, h.span.2, h.attributesOf_write, String.ofList_toList]

end

/-! ## Elements -/

namespace Node

mutual

/-- An element without content is written as one tag. -/
def write : Node → List Char
  | element name attributes children =>
    match children with
    | [] => '<' :: (tagInside name attributes ++ ['/', '>'])
    | child :: rest =>
      '<' :: (tagInside name attributes ++ '>' :: (child.write ++ (writeAll rest ++ endTag name)))

def writeAll : List Node → List Char
  | [] => []
  | node :: rest => node.write ++ writeAll rest

end

/-- An element whose tags, and those within it, can be written. -/
inductive Writable : Node → Prop where
  | element {name : String} {attributes : List Attribute} {children : List Node} :
    TagWritable name attributes → (∀ child ∈ children, Writable child) →
    Writable (.element name attributes children)

end Node

/-- With some elements open, the text gives the events, and reading goes on behind it. -/
def Reads (names : List String) (s : List Char) (events : List Event) : Prop := ∀ k rest,
  readEvents (k + events.length) names (s ++ rest) =
    let later := readEvents k (events.foldl openAfter names) rest
    ⟨events ++ later.events, later.fault⟩

section

variable {names names' : List String} {s s' : List Char} {events events' : List Event} {c : Char}

theorem reads_nil (names : List String) : Reads names [] [] := fun _ _ => rfl

theorem Reads.append (h : Reads names s events) (opens : events.foldl openAfter names = names')
    (h' : Reads names' s' events') : Reads names (s ++ s') (events ++ events') := by
  intro k rest
  subst opens
  rw [List.append_assoc, List.length_append, Nat.add_comm events.length, ← Nat.add_assoc, h, h',
    List.foldl_append]
  dsimp only
  rw [List.append_assoc]

/-- A text that gives the events and nothing more. -/
theorem Reads.readEvents_eq (h : Reads names s events) :
    readEvents s.length names s = ⟨events, none⟩ := by
  have reads := h s.length []
  rw [List.append_nil, readEvents_nil] at reads
  dsimp only at reads
  rw [List.append_nil] at reads
  rw [← reads]
  exact readEvents_enough (Nat.le_refl _) (Nat.le_add_right _ _)

theorem reads_one {event : Event} (h : ∀ rest, readEvent names c (s ++ rest) =
    .ok ⟨event, openAfter names event, rest⟩) : Reads names (c :: s) [event] := by
  intro k rest
  rw [List.cons_append, List.length_singleton, readEvents, h]
  rfl

theorem reads_endTag {name : String} (plain : IsPlain name.toList) :
    Reads (name :: names) (endTag name) [.closed name] := by
  refine reads_one fun rest => ?_
  rw [List.cons_append, List.append_assoc]
  exact readEvent_endTag plain names rest

end

namespace Node

mutual

/-- After an element the same elements are open as before it. -/
theorem openAfter_events (node : Node) (names : List String) :
    node.events.foldl openAfter names = names := by
  match node with
  | element name attributes [] => rfl
  | element name attributes (child :: rest) =>
    rw [events, List.foldl_cons, List.foldl_append, List.foldl_append, openAfter_events child,
      openAfter_allEvents rest]
    rfl

theorem openAfter_allEvents (nodes : List Node) (names : List String) :
    (allEvents nodes).foldl openAfter names = names := by
  match nodes with
  | [] => rfl
  | node :: rest =>
    rw [allEvents, List.foldl_append, openAfter_events node, openAfter_allEvents rest]

end

mutual

theorem reads_write {node : Node} (h : node.Writable) (names : List String) :
    Reads names node.write node.events := by
  match node, h with
  | element name attributes [], .element tag _ =>
    refine reads_one fun rest => ?_
    rw [List.append_assoc]
    exact readEvent_emptyTag tag names rest
  | element name attributes (child :: rest), .element tag each =>
    have start : Reads names ('<' :: (tagInside name attributes ++ ['>']))
        [.opened name attributes] := by
      refine reads_one fun rest => ?_
      rw [List.append_assoc]
      exact readEvent_startTag tag names rest
    have first : Reads (name :: names) child.write child.events :=
      reads_write (each child List.mem_cons_self) _
    have others : Reads (name :: names) (writeAll rest) (allEvents rest) :=
      reads_writeAll (fun node mem => each node (List.mem_cons_of_mem child mem)) _
    have stop : Reads (name :: names) (endTag name) [.closed name] := reads_endTag tag.name.isPlain
    have content := first.append (openAfter_events child _)
      (others.append (openAfter_allEvents rest _) stop)
    simpa [write, events] using start.append rfl content

theorem reads_writeAll {nodes : List Node} (h : ∀ node ∈ nodes, node.Writable)
    (names : List String) : Reads names (writeAll nodes) (allEvents nodes) := by
  match nodes, h with
  | [], _ => exact reads_nil names
  | node :: rest, h =>
    have first := reads_write (h node List.mem_cons_self) names
    have others := reads_writeAll (fun other mem => h other (List.mem_cons_of_mem node mem)) names
    exact first.append (openAfter_events node names) others

end

theorem read_write {node : Node} (h : node.Writable) :
    read (String.ofList node.write) = ⟨node.events, none⟩ := by
  have bracket : ∃ s, node.write = '<' :: s := by
    match node with
    | element _ _ [] => exact ⟨_, rfl⟩
    | element _ _ (_ :: _) => exact ⟨_, rfl⟩
  have no_mark : unmarked node.write = node.write := by
    obtain ⟨s, shape⟩ := bracket
    rw [shape, unmarked_of_ne (by decide)]
  rw [read_eq, String.toList_ofList, no_mark]
  exact (reads_write h []).readEvents_eq

end Node

/-- A reader gives back the elements that are written, with the raw texts of their attributes. -/
def Reader.ReadsBack (reader : Reader) : Prop :=
  ∀ node : Node, node.Writable → reader (String.ofList node.write) = ⟨node.events, none⟩

theorem readsBack_read : Reader.ReadsBack read := fun _ => Node.read_write

end Stencil.Markup
