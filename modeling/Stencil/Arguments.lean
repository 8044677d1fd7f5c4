import Stencil.Table
import Stencil.Text.Split

/-
  Arguments that the caller of a generation passes to the template: texts by key. They are
  written as `key=value` pairs between semicolons; blanks around keys and values do not count.
-/

namespace Stencil

structure Arguments where
  values : Table String := .empty

namespace Arguments

/-- Of several values of one key the last counts. -/
def ofList (pairs : List (String × String)) : Arguments := ⟨Table.ofList pairs⟩

/-- Adds an argument; what the key had before comes with the result. -/
def insert (a : Arguments) (key value : String) : Option String × Arguments :=
  (a.values.find? key, ⟨a.values.put key value⟩)

def has (a : Arguments) (key : String) : Bool := a.values.has key

def getOr (a : Arguments) (key other : String) : String := (a.values.find? key).getD other

def get (a : Arguments) (key : String) : String := a.getOr key ""

def size (a : Arguments) : Nat := a.values.size

def isEmpty (a : Arguments) : Bool := a.values.isEmpty

/-- The arguments in order of their keys. -/
def items (a : Arguments) : List (String × String) := a.values.rows

def display (a : Arguments) : String :=
  ";".intercalate (a.items.map fun (key, value) => key ++ "=" ++ value)

/-- A segment without an equals sign. -/
structure Malformed where
  segment : String
  deriving DecidableEq, Repr

/-- The pair in a segment, divided at its first equals sign. -/
def readPair (segment : List Char) : Except Malformed (String × String) :=
  match Text.cut '=' segment with
  | some (key, value) => .ok (String.ofList (Text.trim key), String.ofList (Text.trim value))
  | none => .error ⟨String.ofList segment⟩

/-- Blank segments count for nothing. -/
def segments (text : String) : List (List Char) :=
  (text.toList.splitOn ';').filter fun segment => !(Text.trim segment).isEmpty

def read (text : String) : Except Malformed Arguments := do
  let pairs ← (segments text).mapM readPair
  .ok (ofList pairs)

end Arguments

end Stencil
