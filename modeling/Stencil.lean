import Stencil.Arguments
import Stencil.Cache
import Stencil.Catalog
import Stencil.Chain
import Stencil.Double.Basic
import Stencil.Double.Shortest
import Stencil.Facets
import Stencil.FileTree
import Stencil.Format.Basic
import Stencil.Format.Program
import Stencil.Generate
import Stencil.Generation
import Stencil.ImportBlock
import Stencil.IoError
import Stencil.Kind
import Stencil.Library
import Stencil.LoadError
import Stencil.Loader
import Stencil.Location
import Stencil.Manifest.Fault
import Stencil.Manifest.Qualify
import Stencil.Manifest.Reading
import Stencil.Markup.Attributes
import Stencil.Markup.Event
import Stencil.Markup.Fault
import Stencil.Markup.Node
import Stencil.Markup.Reading
import Stencil.Module.Basic
import Stencil.Module.Declaration
import Stencil.Module.Problems
import Stencil.Module.Types
import Stencil.ModuleName
import Stencil.Naming
import Stencil.Paths
import Stencil.Plain.Constant
import Stencil.Plain.Evaluation
import Stencil.Plain.Operation
import Stencil.Plain.Reading
import Stencil.Plain.Scope
import Stencil.Plain.Token
import Stencil.Plain.Tree
import Stencil.Plain.Value
import Stencil.Render.Basic
import Stencil.Render.Method
import Stencil.Render.Model
import Stencil.Selector
import Stencil.Session
import Stencil.Shelf
import Stencil.Shell.Arithmetic
import Stencil.Shell.Basic
import Stencil.Shell.Builtin
import Stencil.Shell.ByteSet
import Stencil.Shell.Execution
import Stencil.Shell.Expansion
import Stencil.Shell.Pattern
import Stencil.Shell.Printing
import Stencil.Shell.Run
import Stencil.Shell.Script
import Stencil.Shell.Tool
import Stencil.Shell.Word
import Stencil.Snapshot
import Stencil.Table
import Stencil.Tag.Cutting
import Stencil.Tag.Decoding
import Stencil.Tag.Escape
import Stencil.Tag.Query
import Stencil.Tag.Scan
import Stencil.Template.Engine
import Stencil.Template.Failure
import Stencil.Template.Host
import Stencil.Template.Number
import Stencil.Template.Value
import Stencil.Text.Capital
import Stencil.Text.Case
import Stencil.Text.CaseTables
import Stencil.Text.Digits
import Stencil.Text.Division
import Stencil.Text.Letters
import Stencil.Text.Quoted
import Stencil.Text.Ranges
import Stencil.Text.Split
import Stencil.Text.Unprintable
import Stencil.Text.Utf8
import Stencil.TypeExpr.Basic
import Stencil.TypeExpr.Reading
import Stencil.View.Error
import Stencil.View.Member
import Stencil.View.Type
import Stencil.Proofs.ImportBlock.Alias
import Stencil.Proofs.ImportBlock.History
import Stencil.Proofs.Template.Hosts
import Stencil.Proofs.Template.Watch
import Stencil.Proofs.Plain.Alike
import Stencil.Proofs.Render.Calls
import Stencil.Proofs.Text.Occurrence
import Stencil.Proofs.Render.Placeholder
import Stencil.Proofs.Cache.History
import Stencil.Proofs.Cache.Reached
import Stencil.Proofs.Module.Index
import Stencil.Proofs.Cache.Direct
import Stencil.Proofs.Chain.Endpoint
import Stencil.Proofs.Generate.History
import Stencil.Proofs.Manifest.Index
import Stencil.Proofs.Manifest.Outside
import Stencil.Proofs.Manifest.Steps
import Stencil.Proofs.Outcome
import Stencil.Proofs.Markup.Forest
import Stencil.Proofs.Tag.Written
import Stencil.Proofs.Markup.Append
import Stencil.Proofs.Markup.Writing
import Stencil.Proofs.Text.Cut
import Stencil.Proofs.Manifest.Unclosed
import Stencil.Proofs.Text.Blank
import Stencil.Proofs.Markup.Escape
import Stencil.Proofs.TypeExpr.Display
import Stencil.Proofs.Module.Mentions
import Stencil.Proofs.Module.Owners
import Stencil.Proofs.Manifest.Sound
import Stencil.Proofs.Manifest.Writing
import Stencil.Proofs.Manifest.RoundTrip
import Stencil.Proofs.Location.Directory
import Stencil.Proofs.Session.Imports
import Stencil.Proofs.Chain.Resolution
import Stencil.Proofs.Manifest.Edits
import Stencil.Proofs.TypeExpr.Forms
import Stencil.Proofs.TypeExpr.RoundTrip
import Stencil.Proofs.Chain.Within
import Stencil.Proofs.Manifest.Qualified
import Stencil.Proofs.Markup.WellWritten
import Stencil.Proofs.Manifest.Lenient
import Stencil.Proofs.Catalog.Search
import Stencil.Proofs.Tag.Pairs
import Stencil.Proofs.View.Order
import Stencil.Proofs.Tag.Flags
import Stencil.Proofs.View.Fields
import Stencil.Proofs.View.Methods
import Stencil.Proofs.Arguments.RoundTrip
import Stencil.Proofs.Location.Destination
import Stencil.Proofs.Selector.RoundTrip
import Stencil.Proofs.Module.Problems
import Stencil.Proofs.Module.Lookup
import Stencil.Proofs.Generate.Formatting
import Stencil.Proofs.Generate.Diagnostics
import Stencil.Proofs.Naming.Identifier
import Stencil.Proofs.Naming.Versions
import Stencil.Proofs.Tag.Queries
import Stencil.Proofs.Text.Capital
import Stencil.Proofs.Generate.Commands
import Stencil.Proofs.Text.Bytes
import Stencil.Proofs.Tag.Cutting
import Stencil.Proofs.Tag.Decoding
import Stencil.Proofs.Tag.Whole
