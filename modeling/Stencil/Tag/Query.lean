import Stencil.Tag.Scan
import Stencil.Tag.Escape
import Stencil.Text.Case

/-
  Field tags and what is asked of them. A pair's value is a comma-separated list: a first
  value, then flags. A pair whose value does not decode counts as absent, but still hides
  later pairs of its key.
-/

namespace Stencil

open Text

/-- The raw text attached to a field. -/
structure Tag where
  text : String
  deriving DecidableEq, Repr

namespace Tag

def pairs (t : Tag) : List RawPair := scan t.text.toList

/-- The pairs that decode, in order. -/
def entries (t : Tag) : List (String × String) :=
  t.pairs.filterMap fun (key, value) =>
    (decode value).map fun v => (String.ofList key, String.ofList v)

/-- The value of the first pair with this key, if it decodes. -/
def find? (t : Tag) (key : String) : Option String :=
  match t.pairs.find? (fun pair => pair.1 = key.toList) with
  | some pair => (decode pair.2).map String.ofList
  | none => none

def has (t : Tag) (key : String) : Bool := (t.find? key).isSome

def values (t : Tag) (key : String) : List String :=
  match t.find? key with
  | some value => (value.toList.splitOn ',').map String.ofList
  | none => []

/-- The first value, or the empty text. -/
def get (t : Tag) (key : String) : String := (t.values key).headD ""

/-- Whether `flag`, in any case, stands among the values after the first. -/
def hasFlag (t : Tag) (key flag : String) : Bool :=
  ((t.values key).drop 1).any fun value => lower value = lower flag

end Tag

end Stencil
