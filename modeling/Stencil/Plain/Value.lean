import Stencil.Template.Value
import Stencil.Text.Split

/-
  What plain templates do with values: what counts as true, what values are made of, and how they
  compare.
-/

namespace Stencil.Template.Value

variable {ω : Type}

/-! ## Truth, parts -/

def isTrue : Value ω → Bool
  | undefined => false
  | none => false
  | bool b => b
  | number n => !n.isZero
  | str s => !s.isEmpty
  | list items => !items.isEmpty
  | object _ _ attributes => !attributes.isEmpty
  | function _ => true

def attr (v : Value ω) (key : String) : Value ω :=
  match v with
  | object _ _ attributes => (attributes.lookup key).getD undefined
  | _ => undefined

/-- The member at an index, which counts from the end if it is negative. -/
def member? {α : Type} (items : List α) (index : Int) : Option α :=
  if 0 ≤ index then items[index.toNat]?
  else if index.natAbs ≤ items.length then items[items.length - index.natAbs]?
  else Option.none

def item (v key : Value ω) : Value ω :=
  match v, key with
  | object _ _ attributes, str key => (attributes.lookup key).getD undefined
  | list items, key => (key.whole?.bind (member? items)).getD undefined
  | str s, key => ((key.whole?.bind (member? s.toList)).map (str ·.toString)).getD undefined
  | _, _ => undefined

/-- What a loop over the value goes over. -/
def parts? : Value ω → Option (List (Value ω))
  | none => some []
  | list items => some items
  | str s => some (s.toList.map (str ·.toString))
  | object _ _ attributes => some (attributes.map fun (key, _) => str key)
  | _ => Option.none

def length? : Value ω → Option Nat
  | none => Option.none
  | v => v.parts?.map (·.length)

/-! ## Comparing -/

mutual

/-- Numbers are equal by what they count as, objects by their attributes. -/
def same : Value ω → Value ω → Bool
  | undefined, undefined => true
  | none, none => true
  | str a, str b => a = b
  | list as, list bs => sameItems as bs
  | object _ _ as, object _ _ bs => as.length = bs.length && sameRows as bs
  | function a, function b => a = b
  | a, b =>
    match a.number?, b.number? with
    | some m, some n => m.same n
    | _, _ => false

def sameItems : List (Value ω) → List (Value ω) → Bool
  | [], [] => true
  | a :: as, b :: bs => a.same b && sameItems as bs
  | _, _ => false

/-- Whether every row stands among the others. -/
def sameRows : List (String × Value ω) → List (String × Value ω) → Bool
  | [], _ => true
  | (key, a) :: as, bs =>
    (match bs.lookup key with
      | some b => a.same b
      | Option.none => false) && sameRows as bs

end

/-- The place of a kind of value among the others. -/
def rank : Value ω → Nat
  | undefined => 0
  | none => 1
  | bool _ => 2
  | number _ => 3
  | str _ => 4
  | list _ => 5
  | object .. => 6
  | function _ => 7

mutual

/-- Values of one kind in their own order, others by kind. -/
def order : Value ω → Value ω → Ordering
  | str a, str b => compare a b
  | list as, list bs => orderItems as bs
  | object _ _ as, object _ _ bs => orderRows as bs
  | a, b =>
    if a.rank ≠ b.rank then compare a.rank b.rank
    else match a.number?, b.number? with
      | some m, some n => m.order n
      | _, _ => .eq

def orderItems : List (Value ω) → List (Value ω) → Ordering
  | [], [] => .eq
  | [], _ => .lt
  | _, [] => .gt
  | a :: as, b :: bs => (a.order b).then (orderItems as bs)

def orderRows : List (String × Value ω) → List (String × Value ω) → Ordering
  | [], [] => .eq
  | [], _ => .lt
  | _, [] => .gt
  | (j, a) :: as, (k, b) :: bs => ((compare j k).then (a.order b)).then (orderRows as bs)

end

/-- Whether a value holds another one, if it can hold any. -/
def contains? (v part : Value ω) : Option Bool :=
  match v with
  | str s => some (Text.isWithin part.text.toList s.toList)
  | list items => some (items.any (·.same part))
  | object _ _ attributes =>
    match part with
    | str key => some (attributes.lookup key).isSome
    | _ => some false
  | function _ => some false
  | _ => Option.none

/-! ## Loops -/

mutual

/-- A value in which a loop stands as `now`; loops are kept by themselves and in lists. -/
def renew (outer : Nat) (now : Value ω) : Value ω → Value ω
  | object (.own n) text attributes =>
    if n = outer then now else object (.own n) text attributes
  | list items => list (renewItems outer now items)
  | v => v

def renewItems (outer : Nat) (now : Value ω) : List (Value ω) → List (Value ω)
  | [] => []
  | v :: rest => renew outer now v :: renewItems outer now rest

end

/-! ## Joining -/

/-- The texts of two values, one after the other. -/
def joined (a b : Value ω) : String := a.text ++ b.text

/-- The negative of a number. -/
def neg? : Value ω → Option (Value ω)
  | number n => n.neg?.map number
  | _ => Option.none

end Stencil.Template.Value
