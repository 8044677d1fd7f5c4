import Stencil.Module.Declaration
import Stencil.Table

/-
  The declared types of a module with an index of their names. Among declarations of one name
  the last is found. The list may be edited on its own; the index is then built again.
-/

namespace Stencil

structure Types where
  list : List Declaration := []
  /-- Where in the list each name was declared last. -/
  index : Table Nat := .empty

namespace Types

def add (t : Types) (d : Declaration) : Types :=
  ⟨t.list ++ [d], t.index.put d.name t.list.length⟩

def ofList (ds : List Declaration) : Types := ds.foldl add {}

/-- The same list with a fresh index. -/
def rebuild (t : Types) : Types := ofList t.list

def find? (t : Types) (name : String) : Option Declaration :=
  (t.index.find? name).bind fun i => t.list[i]?

def has (t : Types) (name : String) : Bool := t.index.has name

end Types

end Stencil
