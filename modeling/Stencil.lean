import Stencil.Engine
import Stencil.FileTree
import Stencil.Main
import Stencil.Proofs.Expr.Recognition
import Stencil.Proofs.Expr.Renaming
import Stencil.Proofs.Expr.Offsets
import Stencil.Proofs.Template.Chunks
import Stencil.Proofs.Template.Concatenation
import Stencil.Proofs.Template.Partition
import Stencil.Proofs.Template.Renaming
import Stencil.Proofs.Template.Slices
import Stencil.Proofs.Template.Offsets
import Stencil.Proofs.Template.Lenience
import Stencil.Proofs.Calendar.Clock
import Stencil.Proofs.Calendar.Range
import Stencil.Proofs.Eval.Relational
import Stencil.Proofs.Text.Percent.Decoding
import Stencil.Proofs.Text.Percent.RoundTrip
import Stencil.Proofs.Engine
import Stencil.Proofs.Command.Render
import Stencil.Proofs.Value.Json
import Stencil.Proofs.Expr.Printing
import Stencil.Proofs.Expr.Spacing
import Stencil.Proofs.Value.Numeral
import Stencil.Proofs.Expr.Scanning
import Stencil.Proofs.Expr.Placeless
import Stencil.Proofs.Expr.Printable
import Stencil.Proofs.Value.NumericText
import Stencil.Proofs.Value.Access
import Stencil.Proofs.Value.Enumeration
import Stencil.Proofs.Value.Equality
import Stencil.Proofs.Value.BooleanEquality
import Stencil.Proofs.Text.Markup
import Stencil.Proofs.Eval.NumberMethod
import Stencil.Proofs.Value.NumberText
import Stencil.Proofs.Eval.DateMethod
import Stencil.Proofs.Eval.StringSearch
import Stencil.Proofs.Eval.NumberReading
import Stencil.Proofs.Eval.Slicing
import Stencil.Proofs.Eval.Lengthening
import Stencil.Proofs.Template.Resolution
import Stencil.Proofs.Context
import Stencil.Proofs.Template.Renderer
import Stencil.Proofs.Template.Looping
import Stencil.Proofs.Expr.Lookahead
import Stencil.Proofs.Expr.Reference
import Stencil.Proofs.Template.Naming
import Stencil.Proofs.Command.Check
import Stencil.Proofs.Expr.Parts
import Stencil.Proofs.Template.Scope
import Stencil.Proofs.Expr.Progress
