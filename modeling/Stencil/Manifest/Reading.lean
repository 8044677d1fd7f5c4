import Stencil.Manifest.Fault
import Stencil.Manifest.Qualify
import Stencil.Markup.Node
import Stencil.Markup.Reading
import Stencil.TypeExpr.Reading

/-
  Reading a manifest: one module element, and in it imports, records, capability sets and
  defined types. Elements that mean nothing where they stand are passed over with all they
  contain, and so is the content of fields, parameters, results, imports and defined types.
  Of several faults the first in the text counts.
-/

namespace Stencil.Manifest

open Markup

abbrev Result := Except Fault

/-! ## Attributes -/

/-- The value of an attribute; a bad reference in any attribute of the element is a fault. -/
def attribute? (node : Node) (key : String) : Result (Option String) :=
  match decodeAttributes node.attributes with
  | .error why => .error (.reference why)
  | .ok values => .ok (values.lookup key)

/-- The value of an attribute that must be there and not be empty. -/
def required (node : Node) (key : String) : Result String := do
  match ← attribute? node key with
  | some value =>
    if value.isEmpty then .error (.missingAttribute node.name key) else .ok value
  | none => .error (.missingAttribute node.name key)

def requiredType (node : Node) (key : String) : Result TypeExpr := do
  let value ← required node key
  match TypeExpr.read value with
  | some type => .ok type
  | none => .error (.invalidAttribute node.name key value)

/-! ## Declarations -/

def readField (node : Node) : Result Field := do
  let name ← required node "name"
  let type ← requiredType node "type"
  let tag ← attribute? node "tag"
  .ok ⟨name, type, ⟨tag.getD ""⟩⟩

def readParam (node : Node) : Result Param := do
  let name ← attribute? node "name"
  let type ← requiredType node "type"
  .ok ⟨name.getD "", type⟩

/-- Whether a method is variadic, as its attribute says; it need not be there. -/
def readVariadic (node : Node) : Result Bool := do
  match ← attribute? node "variadic" with
  | none => .ok false
  | some value =>
    if value = "true" ∨ value = "1" then .ok true
    else if value = "false" ∨ value = "0" then .ok false
    else .error (.invalidAttribute node.name "variadic" value)

/-- Adds a parameter or a result to a method. -/
def readSignaturePart (m : Method) (node : Node) : Result Method := do
  if node.name = "param" then
    let p ← readParam node
    .ok { m with params := m.params ++ [p] }
  else if node.name = "result" then
    let p ← readParam node
    .ok { m with results := m.results ++ [p] }
  else .ok m

def readMethod (node : Node) : Result Method := do
  let name ← required node "name"
  let variadic ← readVariadic node
  node.children.foldlM readSignaturePart { name, variadic }

def readFields (nodes : List Node) : Result (List Field) :=
  (nodes.filter (·.name = "field")).mapM readField

def readMethods (nodes : List Node) : Result (List Method) :=
  (nodes.filter (·.name = "method")).mapM readMethod

def readImport (node : Node) : Result Import := do
  let path ← required node "path"
  let name ← attribute? node "name"
  .ok ⟨path, name.getD (defaultShortName path)⟩

/-! ## The module -/

def readHeader (node : Node) : Result Module := do
  let path ← attribute? node "path"
  let name ← attribute? node "name"
  let root ← attribute? node "root"
  match path with
  | none => .error (.missingAttribute node.name "path")
  | some path => .ok { path, name := name.getD (defaultShortName path), root }

/-- Adds what an element of the module declares. -/
def readMember (m : Module) (node : Node) : Result Module := do
  if node.name = "import" then
    let i ← readImport node
    .ok { m with imports := m.imports ++ [i] }
  else if node.name = "record" then
    let name ← required node "name"
    let fields ← readFields node.children
    .ok { m with types := m.types.add ⟨name, .record fields⟩ }
  else if node.name = "capabilities" then
    let name ← required node "name"
    let methods ← readMethods node.children
    .ok { m with types := m.types.add ⟨name, .capabilities methods⟩ }
  else if node.name = "type" then
    let name ← required node "name"
    let base ← requiredType node "underlying"
    .ok { m with types := m.types.add ⟨name, .defined base⟩ }
  else .ok m

/-- The elements that count, in order: those at the top and the content of the module. -/
def members (forest : List Node) : List Node :=
  forest.flatMap fun node => if node.name = "module" then node :: node.children else [node]

def readElement (found : Option Module) (node : Node) : Result (Option Module) :=
  match found with
  | none =>
    if node.name = "module" then (readHeader node).map some
    else .error (.outsideModule node.name)
  | some m =>
    if node.name = "module" then .error .secondModule
    else (readMember m node).map some

/-- The module that a sequence of events declares. -/
def ofEvents (events : List Event) (fault : Option Markup.Fault) : Result Module := do
  let found ← (members (Node.ofEvents events)).foldlM readElement none
  match fault, found with
  | some fault, _ => .error (.markup fault)
  | none, none => .error .noModule
  | none, some m => .ok m.qualify

/-- The module that a text declares, as a reader reads it. -/
def readBy (reader : Markup.Reader) (text : String) : Result Module :=
  let reading := reader text
  ofEvents reading.events reading.fault

def read (text : String) : Result Module := readBy Markup.read text

end Stencil.Manifest
