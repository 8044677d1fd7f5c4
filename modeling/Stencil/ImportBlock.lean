import Stencil.Table
import Stencil.Text.Quoted
import Stencil.TypeExpr.Basic

/-
  The import block of generated code: every module that the code mentions, other than the one
  it belongs to, has an alias. An alias is the module's short name and a number that grows with
  every module, so no two modules share one.
-/

namespace Stencil

structure ImportBlock where
  /-- The path of the module the code belongs to. -/
  target : String
  /-- Aliases by module path. -/
  aliases : Table String := .empty
  /-- The number of the next alias. -/
  index : Nat := 0

namespace ImportBlock

def alias? (b : ImportBlock) (path : String) : Option String := b.aliases.find? path

/-- An alias with its number. -/
def numbered (short : String) (index : Nat) : String := short ++ "_" ++ toString index

/-- The alias of a module, given to it now if it has none. -/
def aliasFor (b : ImportBlock) (m : ModuleName) : String × ImportBlock :=
  match b.alias? m.path with
  | some name => (name, b)
  | none =>
    let name := numbered m.short b.index
    (name, { b with aliases := b.aliases.put m.path name, index := b.index + 1 })

/-- A type as the code writes it: names of other modules stand behind their alias. -/
def typeString (b : ImportBlock) (t : TypeExpr) : String × ImportBlock :=
  match t.leaf with
  | .named (some owner) name =>
    if owner.path = b.target then (t.markerText ++ name, b)
    else
      let (shown, b) := b.aliasFor owner
      (t.markerText ++ shown ++ "." ++ name, b)
  | _ => (t.markerText ++ t.bareName, b)

/-- The line of a module's path and its alias. -/
def line (row : String × String) : String :=
  "\t" ++ row.2 ++ " " ++ Text.quoted row.1 ++ "\n"

/-- The text of the block, one line for each module in order of the paths. -/
def emit (b : ImportBlock) : String :=
  "import (\n" ++ String.join (b.aliases.rows.map line) ++ ")"

end ImportBlock

/-- A type with the owner's path quoted, which needs no block to be understood. -/
def TypeExpr.canonical (t : TypeExpr) : String :=
  match t.leaf with
  | .named (some owner) name => t.markerText ++ Text.quoted owner.path ++ "." ++ name
  | _ => t.markerText ++ t.bareName

end Stencil
