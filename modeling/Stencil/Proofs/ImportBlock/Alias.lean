import Stencil.ImportBlock

/-
  Aliases of a block. A block in use is `Sound`: its count is the number of its modules, each
  alias carries a number below the count, and no two modules share an alias.

  Proved: a fresh block is sound, and giving an alias or writing a type keeps it sound
  (`sound_aliasFor`, `sound_typeString`), keeps every alias there was (`alias?_aliasFor_of_some`,
  `alias?_typeString_of_some`), and adds the one module in question, if any
  (`isSome_alias?_aliasFor`, `isSome_alias?_typeString`).
-/

namespace Stencil

/-! ## Numbers at the end of aliases -/

/-- Digits hold no underscore, so the last underscore of an alias is the one before its
number. -/
theorem eq_of_append_underscore {a b d e : List Char} (hd : '_' ∉ d) (he : '_' ∉ e)
    (h : a ++ '_' :: d = b ++ '_' :: e) : d = e := by
  rcases List.append_eq_append_iff.mp h with ⟨c, _, hc⟩ | ⟨c, _, hc⟩
  · cases c with
    | nil => simpa using hc
    | cons x c =>
      have : '_' ∈ d := by
        rw [(List.cons.inj hc).2]
        simp
      exact absurd this hd
  · cases c with
    | nil => simpa using hc.symm
    | cons x c =>
      have : '_' ∈ e := by
        rw [(List.cons.inj hc).2]
        simp
      exact absurd this he

theorem toDigits_ten_inj {i j : Nat} (h : Nat.toDigits 10 i = Nat.toDigits 10 j) : i = j := by
  have := congrArg (fun digits => Nat.ofDigitChars 10 digits 0) h
  simpa using this

namespace ImportBlock

theorem toList_numbered (short : String) (i : Nat) :
    (numbered short i).toList = short.toList ++ '_' :: Nat.toDigits 10 i := by
  simp [numbered]

/-- Whatever the short names are, aliases with different numbers differ. -/
theorem numbered_inj {a b : String} {i j : Nat} (h : numbered a i = numbered b j) : i = j := by
  have h' := congrArg String.toList h
  rw [toList_numbered, toList_numbered] at h'
  exact toDigits_ten_inj
    (eq_of_append_underscore Nat.underscore_not_in_toDigits Nat.underscore_not_in_toDigits h')

/-! ## One alias -/

variable {b : ImportBlock}

theorem aliasFor_of_some {m : ModuleName} {name : String} (h : b.alias? m.path = some name) :
    b.aliasFor m = (name, b) := by
  simp only [aliasFor, h]

theorem aliasFor_of_none {m : ModuleName} (h : b.alias? m.path = none) :
    b.aliasFor m = (numbered m.short b.index,
      { b with aliases := b.aliases.put m.path (numbered m.short b.index),
               index := b.index + 1 }) := by
  simp only [aliasFor, h]

theorem target_aliasFor (b : ImportBlock) (m : ModuleName) :
    (b.aliasFor m).2.target = b.target := by
  cases h : b.alias? m.path with
  | none => rw [aliasFor_of_none h]
  | some name => rw [aliasFor_of_some h]

theorem alias?_aliasFor (b : ImportBlock) (m : ModuleName) (path : String) :
    (b.aliasFor m).2.alias? path =
      if path = m.path then some (b.aliasFor m).1 else b.alias? path := by
  cases h : b.alias? m.path with
  | none =>
    rw [aliasFor_of_none h]
    exact Table.find?_put b.aliases m.path path _
  | some name =>
    rw [aliasFor_of_some h]
    split
    · rename_i same
      rw [same, h]
    · rfl

theorem alias?_aliasFor_self (b : ImportBlock) (m : ModuleName) :
    (b.aliasFor m).2.alias? m.path = some (b.aliasFor m).1 := by
  rw [alias?_aliasFor, if_pos rfl]

theorem alias?_aliasFor_of_some {path name : String} (h : b.alias? path = some name)
    (m : ModuleName) : (b.aliasFor m).2.alias? path = some name := by
  rw [alias?_aliasFor]
  split
  · rename_i same
    subst same
    rw [aliasFor_of_some h]
  · exact h

theorem isSome_alias?_aliasFor (b : ImportBlock) (m : ModuleName) (path : String) :
    ((b.aliasFor m).2.alias? path).isSome ↔ (b.alias? path).isSome ∨ m.path = path := by
  rw [alias?_aliasFor]
  split
  · rename_i same
    simp [same]
  · rename_i differ
    simp [Ne.symm differ]

/-! ## Soundness -/

structure Sound (b : ImportBlock) : Prop where
  /-- The count is the number of modules. -/
  counted : b.index = b.aliases.size
  /-- Each alias has a number that was given out. -/
  given : ∀ {path name}, b.alias? path = some name →
    ∃ short i, i < b.index ∧ name = numbered short i
  /-- Two modules have two aliases. -/
  apart : ∀ {p q name}, b.alias? p = some name → b.alias? q = some name → p = q

theorem sound_fresh (target : String) : Sound { target } where
  counted := rfl
  given h := by cases h
  apart h := by cases h

/-- The next alias is nobody's, since all that were given out have smaller numbers. -/
theorem Sound.next_unused (h : Sound b) (short path : String) :
    b.alias? path ≠ some (numbered short b.index) := by
  intro used
  obtain ⟨other, i, lt, same⟩ := h.given used
  have := numbered_inj same
  omega

theorem sound_aliasFor (h : Sound b) (m : ModuleName) : Sound (b.aliasFor m).2 := by
  cases found : b.alias? m.path with
  | some name =>
    rw [aliasFor_of_some found]
    exact h
  | none =>
    have look := alias?_aliasFor b m
    rw [aliasFor_of_none found] at look ⊢
    refine ⟨?_, ?_, ?_⟩
    · rw [Table.size_put found, h.counted]
    · intro path name held
      rw [look] at held
      split at held
      · exact ⟨m.short, b.index, Nat.lt_succ_self _, (Option.some.inj held).symm⟩
      · obtain ⟨short, i, lt, same⟩ := h.given held
        exact ⟨short, i, Nat.lt_succ_of_lt lt, same⟩
    · intro p q name hp hq
      rw [look] at hp hq
      split at hp <;> split at hq
      · rename_i same_p same_q
        rw [same_p, same_q]
      · rw [← hp] at hq
        exact absurd hq (h.next_unused m.short q)
      · rw [← hq] at hp
        exact absurd hp (h.next_unused m.short p)
      · exact h.apart hp hq

end ImportBlock

/-! ## Types as written -/

/-- The owner and the name at the leaf of a type, if the owner is not the module `target`. -/
def TypeExpr.foreign? (t : TypeExpr) (target : String) : Option (ModuleName × String) :=
  match t.leaf with
  | .named (some owner) name => if owner.path = target then none else some (owner, name)
  | _ => none

theorem TypeExpr.foreign?_eq_some_iff {t : TypeExpr} {target : String} {owner : ModuleName}
    {name : String} : t.foreign? target = some (owner, name) ↔
      t.leaf = .named (some owner) name ∧ owner.path ≠ target := by
  unfold foreign?
  split
  · rename_i o n leaf
    rw [leaf]
    constructor
    · intro h
      split at h
      · cases h
      · rename_i differ
        cases h
        exact ⟨rfl, differ⟩
    · rintro ⟨h, differ⟩
      cases h
      exact if_neg differ
  · rename_i other
    constructor
    · intro h
      cases h
    · rintro ⟨h, _⟩
      exact absurd h (other owner name)

namespace ImportBlock

variable {b : ImportBlock}

theorem typeString_of_some {t : TypeExpr} {owner : ModuleName} {name : String}
    (h : t.foreign? b.target = some (owner, name)) :
    b.typeString t =
      (t.markerText ++ (b.aliasFor owner).1 ++ "." ++ name, (b.aliasFor owner).2) := by
  obtain ⟨leaf, differ⟩ := TypeExpr.foreign?_eq_some_iff.mp h
  simp only [typeString, leaf, if_neg differ]

theorem typeString_of_none {t : TypeExpr} (h : t.foreign? b.target = none) :
    b.typeString t = (t.markerText ++ t.bareName, b) := by
  unfold typeString
  split
  · rename_i owner name leaf
    split
    · rw [TypeExpr.bareName, leaf]
    · rename_i differ
      rw [TypeExpr.foreign?_eq_some_iff.mpr ⟨leaf, differ⟩] at h
      cases h
  · rfl

theorem target_typeString (b : ImportBlock) (t : TypeExpr) :
    (b.typeString t).2.target = b.target := by
  cases h : t.foreign? b.target with
  | none => rw [typeString_of_none h]
  | some leaf =>
    rw [typeString_of_some h]
    exact target_aliasFor b leaf.1

theorem sound_typeString (h : Sound b) (t : TypeExpr) : Sound (b.typeString t).2 := by
  cases leaf : t.foreign? b.target with
  | none =>
    rw [typeString_of_none leaf]
    exact h
  | some pair =>
    rw [typeString_of_some leaf]
    exact sound_aliasFor h pair.1

theorem alias?_typeString_of_some {path name : String} (h : b.alias? path = some name)
    (t : TypeExpr) : (b.typeString t).2.alias? path = some name := by
  cases leaf : t.foreign? b.target with
  | none =>
    rw [typeString_of_none leaf]
    exact h
  | some pair =>
    rw [typeString_of_some leaf]
    exact alias?_aliasFor_of_some h pair.1

theorem isSome_alias?_typeString (b : ImportBlock) (t : TypeExpr) (path : String) :
    ((b.typeString t).2.alias? path).isSome ↔
      (b.alias? path).isSome ∨
        ∃ owner name, t.foreign? b.target = some (owner, name) ∧ owner.path = path := by
  cases leaf : t.foreign? b.target with
  | none => simp [typeString_of_none leaf]
  | some pair =>
    obtain ⟨owner, name⟩ := pair
    rw [typeString_of_some leaf, isSome_alias?_aliasFor]
    simp

end ImportBlock

end Stencil
