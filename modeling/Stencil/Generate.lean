import Stencil.Generation
import Stencil.Plain.Evaluation

/-
  Generation with the plain engine, up to a template in a file and everything else as text.
-/

namespace Stencil

def readSelector (text : String) : Except GenerateError Selector :=
  (Selector.read text).mapError (.badSelector text)

def readArguments (text : String) : Except GenerateError Arguments :=
  (Arguments.read text).mapError .badArgument

/-- A template in a file. -/
def readTemplate (tree : FileTree) (path : String) : Except GenerateError Render.Source :=
  match tree.readText path with
  | .ok text => .ok ⟨path, text⟩
  | .error why => .error (.unreadable path why)

/-- The text of a template for the plain engine. -/
def render (s : Session) (token : String) (source : Render.Source) (args : Arguments)
    (root : Render.Value) : Template.Work RenderError Session.State String :=
  s.render Plain.engine token source args root

structure Generator where
  library : Library
  formatter : Formatter := .unchanged

/-- What a selector, a template, an output and arguments give. -/
def Generator.generate (g : Generator) (token : String) (selector : Selector)
    (source : Render.Source) (output : String) (args : Arguments) : GenerateM Generated :=
  g.library.generate Plain.engine g.formatter token selector source output args

/-- Generation with everything given as text and the template in a file. -/
def generateFromFile (catalog : Catalog) (tree : FileTree)
    (token selector template output args : String) : Except GenerateError Generated := do
  let selector ← readSelector selector
  let args ← readArguments args
  let source ← readTemplate tree template
  let g : Generator := { library := .ofCatalog catalog tree }
  (g.generate token selector source output args).run {} |>.1

end Stencil
