import Stencil.Text.Quoted
import Stencil.Text.Split

/-
  Selectors of target types: a bare name, which belongs to the module generated into, or a
  name behind the quoted path of its module, as in `"example.com/app".Person`.
-/

namespace Stencil

structure Selector where
  /-- The module that declares the type, if another than the one generated into. -/
  module : Option String
  name : String
  deriving DecidableEq, Repr

namespace Selector

inductive Fault where
  | empty
  | unterminated
  | emptyPath
  | nameless
  deriving DecidableEq, Repr

def Fault.message : Fault → String
  | empty => "empty selector"
  | unterminated => "unterminated module path"
  | emptyPath => "empty module path"
  | nameless => "expected .TypeName after the module path"

/-- A quoted path holds no escapes: it ends at the next quote. -/
def readChars : List Char → Except Fault Selector
  | [] => .error .empty
  | '"' :: rest =>
    match Text.cut '"' rest with
    | none => .error .unterminated
    | some ([], _) => .error .emptyPath
    | some (path, '.' :: c :: name) =>
      .ok ⟨some (String.ofList path), String.ofList (c :: name)⟩
    | some _ => .error .nameless
  | name => .ok ⟨none, String.ofList name⟩

def read (text : String) : Except Fault Selector := readChars text.toList

def display (s : Selector) : String :=
  match s.module with
  | some path => Text.quoted path ++ "." ++ s.name
  | none => s.name

end Selector

end Stencil
