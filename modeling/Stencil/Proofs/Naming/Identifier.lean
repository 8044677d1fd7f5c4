import Stencil.Proofs.ImportBlock.History
import Stencil.Proofs.TypeExpr.Display

/-
  Whether short names and aliases are identifiers. The short name of a path is made of word
  characters, which numbers of every script are; an identifier begins with a letter or an
  underscore, and the short name gets an underscore in front of an ASCII digit only.

  Proved: `alias_identifier_iff`. A short name is an identifier unless its text begins with a number
  that is neither an ASCII digit nor a letter, such as `²`. An alias is an identifier exactly if the
  short name is one that its path was first asked for with.
-/

namespace Stencil

open Text

variable {c : Char} {name word : List Char}

/-! ## Identifiers -/

/-- A number that is neither an ASCII digit nor a letter. -/
def isOtherNumber (c : Char) : Bool := isNumeric c && !isAlphabetic c && !c.isDigit

theorem isNumeric_of_isDigit (h : c.isDigit = true) : isNumeric c = true := by
  simp only [Char.isDigit, Bool.and_eq_true, decide_eq_true_eq, UInt32.le_iff_toNat_le] at h
  obtain ⟨lo, hi⟩ : 48 ≤ c.toNat ∧ c.toNat ≤ 57 := h
  change Ranges.has ((48, 57) :: numeric.tail) c.toNat = true
  rw [Ranges.has, if_neg (Nat.not_lt.mpr lo), if_pos hi]

theorem isWordChar_of_isDigit (h : c.isDigit = true) : isWordChar c = true := by
  simp [isWordChar, isAlphanumeric, isNumeric_of_isDigit h]

theorem isIdentifier_iff : isIdentifier name = true ↔
    (∀ c ∈ name, isWordChar c = true) ∧ ∃ c ∈ name.head?, isAlphabetic c = true ∨ c = '_' := by
  constructor
  · intro h
    refine ⟨(TypeExpr.isWordChar_of_isIdentifier h).2, ?_⟩
    cases name with
    | nil => cases h
    | cons c rest =>
      obtain ⟨first, _⟩ := Bool.and_eq_true_iff.mp h
      exact ⟨c, rfl, by simpa using first⟩
  · rintro ⟨words, c, head, first⟩
    cases name with
    | nil => cases head
    | cons d rest =>
      cases head
      refine Bool.and_eq_true_iff.mpr ⟨by simpa using first, List.all_eq_true.mpr ?_⟩
      exact fun d mem => words d (List.mem_cons_of_mem c mem)

/-- Word characters behind an identifier, or behind a text that is none, change nothing. -/
theorem isIdentifier_append (some_left : name ≠ []) (words : ∀ c ∈ word, isWordChar c = true) :
    isIdentifier (name ++ word) = isIdentifier name := by
  cases name with
  | nil => exact absurd rfl some_left
  | cons c rest =>
    have all : word.all isWordChar = true := List.all_eq_true.mpr words
    simp only [List.cons_append, isIdentifier, List.all_append, all, Bool.and_true]

/-! ## Words -/

theorem isWordChar_of_mem_toWord {s : List Char} (mem : c ∈ toWord s) : isWordChar c = true := by
  have line : isWordChar '_' = true := by decide +kernel
  have kept (d : Char) : isWordChar (if isWordChar d then d else '_') = true := by
    split
    · assumption
    · exact line
  have replaced : ∀ d ∈ s.map fun c => if isWordChar c then c else '_', isWordChar d = true := by
    intro d mem
    obtain ⟨e, _, rfl⟩ := List.mem_map.mp mem
    exact kept e
  unfold toWord at mem
  split at mem
  · rw [List.mem_singleton.mp mem]
    exact line
  · rename_i d rest shape
    rw [shape] at replaced
    split at mem
    · rcases List.mem_cons.mp mem with rfl | mem
      · exact line
      · exact replaced c mem
    · exact replaced c mem

/-- What a word begins with. -/
def wordStart : Option Char → Char
  | none => '_'
  | some c => if isWordChar c && !c.isDigit then c else '_'

theorem head?_toWord (s : List Char) : (toWord s).head? = some (wordStart s.head?) := by
  cases s with
  | nil => rfl
  | cons c rest =>
    simp only [toWord, List.map_cons, List.head?_cons, wordStart]
    cases word : isWordChar c with
    | false => rfl
    | true => cases digit : c.isDigit with
      | false => simp [digit]
      | true => simp [digit]

theorem isIdentifier_toWord (s : List Char) :
    isIdentifier (toWord s) = true ↔ ∀ c ∈ s.head?, isOtherNumber c = false := by
  have starts : isIdentifier (toWord s) = true ↔
      isAlphabetic (wordStart s.head?) = true ∨ wordStart s.head? = '_' := by
    rw [isIdentifier_iff, head?_toWord, and_iff_right fun c => isWordChar_of_mem_toWord]
    simp
  rw [starts]
  cases s.head? with
  | none => simp [wordStart]
  | some c =>
    have line : isOtherNumber '_' = false := by decide +kernel
    -- the underscore aside, what matters of a character is whether it is a letter, a number of any
    -- script, and an ASCII digit
    by_cases other : c = '_'
    · subst other
      simp [wordStart, line]
    · cases letter : isAlphabetic c <;> cases number : isNumeric c <;> cases digit : c.isDigit <;>
        simp [wordStart, isOtherNumber, isWordChar, isAlphanumeric, letter, number, digit, other]

/-! ## The module behind an alias -/

namespace ImportBlock

variable {b : ImportBlock} {op : Op} {m : ModuleName} {path : String}

/-- The module that an operation gives an alias to, unless it has one. -/
def Op.asked (target : String) : Op → Option ModuleName
  | .aliasFor m => some m
  | .typeString t => (t.foreign? target).map (·.1)
  | _ => none

/-- The first module with a path that is asked for. -/
def firstAsked (target path : String) (ops : List Op) : Option ModuleName :=
  (ops.filterMap (Op.asked target)).find? (·.path = path)

theorem act_of_asked (h : op.asked b.target = some m) : (b.act op).2 = (b.aliasFor m).2 := by
  cases op with
  | aliasFor n =>
    cases h
    rfl
  | typeString t =>
    obtain ⟨⟨owner, name⟩, foreign, rfl⟩ := Option.map_eq_some_iff.mp h
    simp only [act, typeString_of_some foreign]
  | canonical t => cases h
  | alias? path => cases h
  | emit => cases h

theorem act_of_not_asked (h : op.asked b.target = none) : (b.act op).2 = b := by
  cases op with
  | aliasFor n => cases h
  | typeString t =>
    simp only [act, typeString_of_none (Option.map_eq_none_iff.mp h)]
  | canonical t => rfl
  | alias? path => rfl
  | emit => rfl

/-- A path without an alias gets one with the short name that it is first asked for with. -/
theorem alias?_run_of_none (h : b.alias? path = none) (ops : List Op) :
    match firstAsked b.target path ops with
    | none => (run b ops).alias? path = none
    | some m => ∃ i, (run b ops).alias? path = some (numbered m.short i) := by
  induction ops generalizing b with
  | nil => exact h
  | cons op ops ih =>
    change match firstAsked b.target path (op :: ops) with
      | none => (run (b.act op).2 ops).alias? path = none
      | some m => ∃ i, (run (b.act op).2 ops).alias? path = some (numbered m.short i)
    cases asked : op.asked b.target with
    | none =>
      rw [act_of_not_asked asked, firstAsked, List.filterMap_cons_none asked]
      exact ih h
    | some m =>
      rw [act_of_asked asked, firstAsked, List.filterMap_cons_some asked]
      by_cases same : m.path = path
      · simp only [List.find?_cons, decide_eq_true same]
        -- the operations that follow keep it
        refine ⟨b.index, alias?_run_of_some ?_ ops⟩
        subst same
        rw [alias?_aliasFor_self, aliasFor_of_none h]
      · simp only [List.find?_cons, decide_eq_false same]
        rw [← target_aliasFor b m]
        refine ih ?_
        rw [alias?_aliasFor, if_neg (Ne.symm same), h]

/-- The short name in an alias is that of the module first asked for with its path. -/
theorem aliasFor_after (target : String) (ops : List Op) (m : ModuleName) :
    ∃ i, ((after target ops).aliasFor m).1 =
      numbered ((firstAsked target m.path ops).getD m).short i := by
  have fresh : ({ target } : ImportBlock).alias? m.path = none := rfl
  have given := alias?_run_of_none fresh ops
  rw [← after] at given
  cases first : firstAsked target m.path ops with
  | none =>
    rw [first] at given
    rw [aliasFor_of_none given]
    exact ⟨_, rfl⟩
  | some n =>
    rw [first] at given
    obtain ⟨i, held⟩ := given
    rw [aliasFor_of_some held]
    exact ⟨i, rfl⟩

theorem isIdentifier_numbered (short : String) (i : Nat) :
    isIdentifier (numbered short i).toList = true ↔
      short = "" ∨ isIdentifier short.toList = true := by
  have words : ∀ c ∈ '_' :: Nat.toDigits 10 i, isWordChar c = true := by
    intro c mem
    rcases List.mem_cons.mp mem with rfl | digit
    · decide +kernel
    · exact isWordChar_of_isDigit (Nat.isDigit_of_mem_toDigits (by decide) (by decide) digit)
  rw [toList_numbered]
  by_cases empty : short = ""
  · subst empty
    refine iff_of_true (isIdentifier_iff.mpr ⟨words, '_', rfl, .inr rfl⟩) (.inl rfl)
  · rw [isIdentifier_append (by simpa using empty) words]
    simp [empty]

end ImportBlock

/-- A short name that is derived from a path is not empty, has word characters only, and does not
begin with an ASCII digit. It is an identifier unless the text it is made from begins with a number
that is neither an ASCII digit nor a letter. The alias of the path is an identifier exactly if the
short name is one, or empty, that the path was first asked for with; that is the derived one if
nobody has asked yet. -/
theorem alias_identifier_iff (target path : String) (ops : List ImportBlock.Op) :
    let short := (defaultShortName path).toList
    let owner := (ImportBlock.firstAsked target path ops).getD (.ofPath path)
    short ≠ [] ∧ (∀ c ∈ short, isWordChar c = true) ∧ (∀ c ∈ short.head?, c.isDigit = false) ∧
      (isIdentifier short = true ↔ ∀ c ∈ (dropVersionSuffix (namingSegment path.toList)).head?,
        isOtherNumber c = false) ∧
      (isIdentifier ((ImportBlock.after target ops).aliasFor (.ofPath path)).1.toList = true ↔
        owner.short = "" ∨ isIdentifier owner.short.toList = true) := by
  intro short owner
  have short_eq : short = toWord (dropVersionSuffix (namingSegment path.toList)) := by
    simp only [short, defaultShortName, String.toList_ofList]
  have head := head?_toWord (dropVersionSuffix (namingSegment path.toList))
  rw [short_eq]
  refine ⟨?_, fun c => isWordChar_of_mem_toWord, ?_, isIdentifier_toWord _, ?_⟩
  · intro empty
    rw [empty] at head
    cases head
  · rw [head]
    rintro c ⟨⟩
    unfold wordStart
    split
    · rfl
    · split
      · rename_i first
        simpa using (Bool.and_eq_true_iff.mp first).2
      · rfl
  · obtain ⟨i, named⟩ := ImportBlock.aliasFor_after target ops (.ofPath path)
    rw [named]
    exact ImportBlock.isIdentifier_numbered owner.short i

example : (isIdentifier (defaultShortName "a/3d").toList,
    isIdentifier (defaultShortName "a/²").toList) = (true, false) := by
  decide +kernel

end Stencil
