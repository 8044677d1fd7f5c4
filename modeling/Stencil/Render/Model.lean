import Stencil.Arguments
import Stencil.Template.Value
import Stencil.View.Type

/-
  Models as values of templates: their attributes, in the order in which they print.
-/

namespace Stencil.Render

/-- What templates call methods on. -/
inductive Model where
  | record (r : View.Record)
  | capabilitySet (s : View.CapabilitySet)
  | field (f : Field)
  | method (m : View.Method)
  | argument (a : View.Argument)
  | type (v : View.TypeView)
  | tag (t : Tag)
  | arguments (a : Arguments)

abbrev Value := Template.Value Model

namespace Value

def ofModel (m : Model) (attributes : List (String × Value)) : Value :=
  .object (.thing m) none attributes

/-- A tag has no attributes, and prints as its text. -/
def ofTag (t : Tag) : Value := .object (.thing (.tag t)) (some t.text) []

def ofField (f : Field) : Value :=
  ofModel (.field f)
    [("name", .str f.name), ("tag", ofTag f.tag), ("type_name", .str f.type.bareName)]

def ofFields (r : View.Record) : Value := .list (r.fields.map ofField)

def ofRecord (r : View.Record) : Value :=
  ofModel (.record r)
    [("name", .str r.name), ("kind", .str Kind.record.word), ("fields", ofFields r)]

def ofArgument (a : View.Argument) : Value :=
  ofModel (.argument a)
    [("name", .str a.name), ("variadic", .bool a.variadic), ("type_name", .str a.type.bareName)]

def ofSignature (as : List View.Argument) : Value := .list (as.map ofArgument)

def ofMethod (m : View.Method) : Value :=
  ofModel (.method m)
    [("name", .str m.name), ("variadic", .bool m.variadic), ("args", ofSignature m.args),
     ("returns", ofSignature m.returns)]

def ofMethods (s : View.CapabilitySet) : Value := .list (s.methods.map ofMethod)

def ofCapabilitySet (s : View.CapabilitySet) : Value :=
  ofModel (.capabilitySet s)
    [("name", .str s.name), ("kind", .str Kind.capabilitySet.word), ("methods", ofMethods s)]

def ofType (v : View.TypeView) : Value :=
  ofModel (.type v) [("kind", .str v.kind.word), ("name", .str v.name)]

def ofArguments (a : Arguments) : Value :=
  ofModel (.arguments a) (a.items.map fun (key, value) => (key, .str value))

end Value

end Stencil.Render
