import Stencil.IoError
import Stencil.Location
import Stencil.Table

/-
  A tree of files as seen from a working directory, and what reading a path in it gives.
-/

namespace Stencil

inductive FileTree.Entry where
  | file (content : ByteArray)
  | directory
  /-- Reads as empty, but is no file. -/
  | device

structure FileTree where
  /-- Entries by absolute path. -/
  entries : Table FileTree.Entry := .empty
  /-- The components of the working directory. -/
  here : List (List Char) := []
  /-- Whether the working directory has been removed. It has no path then, and what is left of
  it is the way up. -/
  removed : Bool := false

namespace FileTree

/-- Adds an entry, given the components of its path, with the directories it needs. -/
def add (t : FileTree) (components : List (List Char)) (entry : Entry) : FileTree :=
  let dirs := (List.range components.length).map components.take
  let entries := dirs.foldl (fun e dir => e.put (Location.write dir) .directory) t.entries
  { t with entries := entries.put (Location.write components) entry }

/-- The absolute path of the working directory, if it can be found. -/
def workingDir (t : FileTree) : Option String :=
  if t.removed then none else some (Location.write t.here)

/-- How many bytes a name may have. -/
def nameBound : Nat := 255

/-- How many bytes a path may have. -/
def pathBound : Nat := 4095

/-- Follows the parts of a path from an entry. -/
def walk (t : FileTree) (at_ : List (List Char)) (entry : Entry) :
    List (List Char) → Except IoError Entry
  | [] => .ok entry
  | part :: rest =>
    match entry with
    | .directory =>
      let next := Location.step at_ part
      if next = at_ then walk t at_ entry rest
      else if nameBound < Text.byteLength part then .error .nameTooLong
      else match t.entries.find? (Location.write next) with
        | some entry => walk t next entry rest
        | none => .error .notFound
    | _ => .error .notDirectory

/-- The entry a path leads to. -/
def find (t : FileTree) (path : String) : Except IoError Entry :=
  if path.contains '\x00' then .error .nulInPath
  else if path.isEmpty then .error .notFound
  else if pathBound < path.utf8ByteSize then .error .nameTooLong
  else
    let start := if Paths.isAbsolute path.toList then [] else t.here
    t.walk start .directory (path.toList.splitOn '/')

def isFile (t : FileTree) (path : String) : Bool :=
  match t.find path with
  | .ok (.file _) => true
  | _ => false

/-- The text of the file a path leads to. -/
def readText (t : FileTree) (path : String) : Except IoError String := do
  match ← t.find path with
  | .directory => .error .isDirectory
  | .device => .ok ""
  | .file content =>
    match String.fromUTF8? content with
    | some text => .ok text
    | none => .error .invalidUtf8

end FileTree

end Stencil
