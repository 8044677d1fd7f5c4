import Stencil.Plain.Value

/-
  The names a template has given values to. Inside of a loop they are those of the loop, for
  all its passes, and those around it.
-/

namespace Stencil.Plain

open Template

variable {ω : Type}

/-- The names given a value inside a loop, or outside of all loops, the latest first. -/
structure Frame (ω : Type) where
  locals : List (String × Value ω) := []
  /-- What the loop tells about itself. -/
  loop : Option (Value ω) := none

/-- What names are looked up in: the frames, the innermost first, then the root, then the
functions outside. -/
structure Scope (ω : Type) where
  frames : List (Frame ω) := [{}]
  root : Value ω
  functions : List String

namespace Frame

def find? (f : Frame ω) (name : String) : Option (Value ω) :=
  match f.locals.lookup name with
  | some v => some v
  | none => if name = "loop" then f.loop else none

def put (f : Frame ω) (name : String) (v : Value ω) : Frame ω :=
  { f with locals := (name, v) :: f.locals.filter (·.1 ≠ name) }

end Frame

namespace Scope

def put (s : Scope ω) (name : String) (v : Value ω) : Scope ω :=
  match s.frames with
  | [] => s
  | f :: rest => { s with frames := f.put name v :: rest }

/-- The value of a name: from a frame, then from the root, then a function. -/
def find? (s : Scope ω) (name : String) : Option (Value ω) :=
  match s.frames.findSome? (·.find? name) with
  | some v => some v
  | none =>
    let v := s.root.attr name
    if v.isDefined then some v
    else if name ∈ s.functions then some (.function name)
    else none

end Scope

/-! ## Loops -/

/-- A pass of a loop: its number, how many there are, and the values of this pass and its
neighbours. -/
structure Pass (ω : Type) where
  index : Nat
  count : Nat
  previous : Value ω
  current : Value ω
  next : Value ω

/-- What a loop inside of `outer` other loops tells about itself. No loop runs itself again, so
none is deep in itself. -/
def Pass.loopValue (p : Pass ω) (outer : Nat) : Value ω :=
  let int := fun (n : Nat) => Value.number (.natural n)
  .object (.own outer) (some ("<loop " ++ toString p.index ++ "/" ++ toString p.count ++ ">"))
    [("index0", int p.index), ("index", int (p.index + 1)), ("length", int p.count),
     ("revindex", int (p.count - p.index)), ("revindex0", int (p.count - p.index - 1)),
     ("first", .bool (p.index = 0)), ("last", .bool (p.index + 1 = p.count)),
     ("depth", int 1), ("depth0", int 0),
     ("previtem", p.previous), ("nextitem", p.next)]

/-- The passes of a loop over some values, from one pass on. -/
def passesFrom (index count : Nat) (previous : Value ω) : List (Value ω) → List (Pass ω)
  | [] => []
  | v :: rest =>
    ⟨index, count, previous, v, rest.head?.getD .undefined⟩ ::
      passesFrom (index + 1) count v rest

def passes (values : List (Value ω)) : List (Pass ω) :=
  passesFrom 0 values.length .undefined values

/-- Enters a loop, whose names are its own. -/
def Scope.enter (s : Scope ω) : Scope ω := { s with frames := {} :: s.frames }

/-- Enters a pass of the loop whose frame is the innermost. Wherever the loop has been kept in
the frame, it tells of the new pass. -/
def Scope.pass (s : Scope ω) (name : String) (p : Pass ω) : Scope ω :=
  match s.frames with
  | [] => s
  | f :: rest =>
    let outer := rest.countP (·.loop.isSome)
    let now := p.loopValue outer
    let locals := f.locals.map fun (name, v) => (name, Value.renew outer now v)
    let frame : Frame ω := { locals, loop := some now }
    { s with frames := frame.put name p.current :: rest }

end Stencil.Plain
