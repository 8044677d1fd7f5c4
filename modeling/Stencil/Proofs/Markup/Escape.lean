import Stencil.Proofs.Markup.Writing

/-
  Values in markup. A value is written with entities for the characters that markup uses, and
  the entities stand for those characters again.

  Proved: `decodeValue_escape`, what is escaped decodes to itself; and for elements whose values
  are escaped, that they can be written (`writable_elementOf`) and what their attributes decode to.
-/

namespace Stencil.Markup

open Text

variable {c : Char} {name : List Char}

/-! ## Escapes -/

/-- The characters that have an entity, with its name. -/
def entities : List (Char × List Char) :=
  [('&', ['a', 'm', 'p']), ('<', ['l', 't']), ('>', ['g', 't']), ('\'', ['a', 'p', 'o', 's']),
    ('"', ['q', 'u', 'o', 't'])]

def escapeChar (c : Char) : List Char :=
  match entities.lookup c with
  | some name => '&' :: (name ++ [';'])
  | none => [c]

def escape (s : List Char) : List Char := s.flatMap escapeChar

/-- An entity's name is one that is predefined, and stands for the character. -/
theorem entity_sound (h : entities.lookup c = some name) :
    predefined name = some c ∧ name.all Char.isAlpha = true := by
  obtain ⟨front, back, shape, _⟩ := List.lookup_eq_some_iff.mp h
  have all : ∀ e ∈ entities, predefined e.2 = some e.1 ∧ e.2.all Char.isAlpha = true := by decide
  exact all (c, name) (by simp [shape])

theorem ne_of_entity_none (h : entities.lookup c = none) : c ≠ '&' ∧ c ≠ '"' := by
  constructor
  all_goals
    rintro rfl
    cases h

theorem readReference_predefined (h : predefined name = some c) (position : Nat) :
    readReference position name = .ok c := by
  unfold readReference
  split
  · cases h
  · rw [h]

/-- A reference is read up to its semicolon. -/
theorem decodeFrom_name (letters : name.all Char.isAlpha = true) (position start : Nat)
    (read rest : List Char) : decodeFrom position start (some read) (name ++ ';' :: rest) =
      readReference (start + 1) (read.reverse ++ name) >>= fun value =>
        (decodeFrom (position + byteLength name + 1) 0 none rest).map (value :: ·) := by
  induction name generalizing position read with
  | nil =>
    rw [List.nil_append, List.append_nil, decodeFrom]
    rfl
  | cons d name ih =>
    obtain ⟨letter, others⟩ := Bool.and_eq_true_iff.mp letters
    have not_end : d ≠ ';' := ne_of_test letter (by decide)
    have not_start : d ≠ '&' := ne_of_test letter (by decide)
    have later := ih others (position + d.utf8Size) (d :: read)
    rw [List.cons_append, decodeFrom, if_neg not_end, if_neg not_start, later, List.reverse_cons,
      List.append_assoc, Nat.add_assoc position]
    rfl

theorem decodeFrom_escapeChar (c : Char) (position : Nat) (rest : List Char) :
    ∃ position', decodeFrom position 0 none (escapeChar c ++ rest) =
      (decodeFrom position' 0 none rest).map (c :: ·) := by
  unfold escapeChar
  cases entity : entities.lookup c with
  | none =>
    refine ⟨position + c.utf8Size, ?_⟩
    dsimp only
    rw [List.singleton_append, decodeFrom]
    exact if_neg (ne_of_entity_none entity).1
  | some name =>
    obtain ⟨known, letters⟩ := entity_sound entity
    refine ⟨position + 1 + byteLength name + 1, ?_⟩
    dsimp only
    rw [List.cons_append, List.append_assoc, List.singleton_append, decodeFrom, if_pos rfl,
      decodeFrom_name letters, List.reverse_nil, List.nil_append, readReference_predefined known]
    rfl

theorem decodeFrom_escape (s : List Char) (position : Nat) :
    decodeFrom position 0 none (escape s) = .ok s := by
  induction s generalizing position with
  | nil => rfl
  | cons c s ih =>
    obtain ⟨position', same⟩ := decodeFrom_escapeChar c position (escape s)
    rw [escape, List.flatMap_cons, ← escape, same, ih]
    rfl

theorem decodeValue_escape (s : List Char) : decodeValue (escape s) = .ok s :=
  decodeFrom_escape s 0

theorem quote_not_mem_escape (s : List Char) : '"' ∉ escape s := by
  intro mem
  obtain ⟨c, _, mem⟩ := List.mem_flatMap.mp mem
  unfold escapeChar at mem
  cases entity : entities.lookup c with
  | none =>
    rw [entity] at mem
    exact (ne_of_entity_none entity).2 (List.mem_singleton.mp mem).symm
  | some name =>
    rw [entity] at mem
    rcases List.mem_cons.mp mem with never | mem
    · cases never
    rcases List.mem_append.mp mem with letter | never
    · exact absurd (List.all_eq_true.mp (entity_sound entity).2 '"' letter) (by decide)
    · cases List.mem_singleton.mp never

/-! ## Elements -/

def attributeOf (pair : String × String) : Attribute :=
  .pair pair.1.toList (escape pair.2.toList)

/-- An element with values for its attributes. -/
def elementOf (name : String) (pairs : List (String × String)) (children : List Node) : Node :=
  .element name (pairs.map attributeOf) children

theorem decodeAttributes_map (pairs : List (String × String)) :
    decodeAttributes (pairs.map attributeOf) = .ok pairs := by
  induction pairs with
  | nil => rfl
  | cons pair pairs ih =>
    rw [List.map_cons, attributeOf, decodeAttributes, decodeValue_escape, ih]
    simp only [bind, Except.bind, String.ofList_toList]

/-- The names of an element and of its attributes can be written. -/
def Named (name : String) (keys : List String) : Prop :=
  IsWord name.toList ∧ (∀ key ∈ keys, IsWord key.toList) ∧ keys.Nodup

instance (name : List Char) : Decidable (IsWord name) := inferInstanceAs (Decidable (_ ∧ _))

instance (name : String) (keys : List String) : Decidable (Named name keys) :=
  inferInstanceAs (Decidable (_ ∧ _))

theorem writable_elementOf {name : String} {pairs : List (String × String)}
    {children : List Node} (named : Named name (pairs.map (·.1)))
    (content : ∀ child ∈ children, child.Writable) :
    (elementOf name pairs children).Writable := by
  obtain ⟨word, words, apart⟩ := named
  refine .element ⟨word, fun a mem => ?_, ?_⟩ content
  · obtain ⟨pair, among, rfl⟩ := List.mem_map.mp mem
    exact ⟨words pair.1 (List.mem_map_of_mem among), quote_not_mem_escape _⟩
  · rw [List.pairwise_map]
    exact (List.pairwise_map.mp apart).imp fun differ same => differ (String.toList_inj.mp same)

end Stencil.Markup
