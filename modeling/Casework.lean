import Casework.Amount
import Casework.Batch
import Casework.Binary64.Basic
import Casework.Binary64.Bits
import Casework.Binary64.Grid
import Casework.Bindings.Basic
import Casework.Bindings.Form
import Casework.Cabinet.Basic
import Casework.Cabinet.Form
import Casework.Cabinet.Template
import Casework.Cache
import Casework.CutList
import Casework.Decimal.Basic
import Casework.Decimal.Layout
import Casework.Decimal.Reading
import Casework.Decimal.Shortest
import Casework.Form.Basic
import Casework.Form.Field
import Casework.Formula.Basic
import Casework.Formula.Complaint
import Casework.Formula.Evaluation
import Casework.Formula.Expression
import Casework.Formula.Form
import Casework.Formula.Grammar
import Casework.Formula.Printing
import Casework.Formula.Problem
import Casework.Formula.Reading
import Casework.Formula.Scan
import Casework.Formula.SyntaxError
import Casework.Formula.Token
import Casework.Formula.Typing
import Casework.Journal
import Casework.OrderedMap
import Casework.Parameter
import Casework.Part
import Casework.Proofs.Batch.Sweep
import Casework.Proofs.Batch.Texts
import Casework.Proofs.Binary64.Finiteness
import Casework.Proofs.Binary64.Order
import Casework.Proofs.Binary64.Rounding
import Casework.Proofs.Bindings.Denotation
import Casework.Proofs.Bindings.Editing
import Casework.Proofs.Bindings.History
import Casework.Proofs.Bindings.Reading
import Casework.Proofs.Bindings.Tagging
import Casework.Proofs.Bindings.Updating
import Casework.Proofs.Cabinet.Parameters
import Casework.Proofs.Cabinet.Resizing
import Casework.Proofs.Cabinet.Safety
import Casework.Proofs.Cabinet.Snapshot
import Casework.Proofs.Cache.Contents
import Casework.Proofs.Cache.History
import Casework.Proofs.Cache.Reads
import Casework.Proofs.CutList.Assembly
import Casework.Proofs.CutList.Growth
import Casework.Proofs.CutList.Range
import Casework.Proofs.CutList.Rows
import Casework.Proofs.Decimal.Numeral
import Casework.Proofs.Decimal.Plain
import Casework.Proofs.Formula.Acceptance
import Casework.Proofs.Formula.Alarms
import Casework.Proofs.Formula.Coverage
import Casework.Proofs.Formula.Derivation
import Casework.Proofs.Formula.Diagnosis
import Casework.Proofs.Formula.Divisors
import Casework.Proofs.Formula.Evaluation
import Casework.Proofs.Formula.Exactness
import Casework.Proofs.Formula.Extension
import Casework.Proofs.Formula.Extent
import Casework.Proofs.Formula.Guards
import Casework.Proofs.Formula.KindSafety
import Casework.Proofs.Formula.Kinds
import Casework.Proofs.Formula.Layering
import Casework.Proofs.Formula.Limits
import Casework.Proofs.Formula.Literals
import Casework.Proofs.Formula.Location
import Casework.Proofs.Formula.Marking
import Casework.Proofs.Formula.Misplacement
import Casework.Proofs.Formula.Refusal
import Casework.Proofs.Formula.Relocation
import Casework.Proofs.Formula.RoundTrip
import Casework.Proofs.Formula.Run
import Casework.Proofs.Formula.Scanning
import Casework.Proofs.Formula.Segmentation
import Casework.Proofs.Formula.Selection
import Casework.Proofs.Formula.Slots
import Casework.Proofs.Formula.Soundness
import Casework.Proofs.Formula.Spacing
import Casework.Proofs.Formula.Spelling
import Casework.Proofs.Formula.Unambiguity
import Casework.Proofs.Stock.Fallback
import Casework.Proofs.Stock.Loading
import Casework.Proofs.Stock.Parts
import Casework.Proofs.Stock.Selection
import Casework.Proofs.Stock.Soundness
import Casework.Proofs.Template.Independence
import Casework.Proofs.Template.Naming
import Casework.Proofs.Template.Outcomes
import Casework.Proofs.Text.Lines
import Casework.Sheet
import Casework.Stock.Basic
import Casework.Stock.Loading
import Casework.Template.Basic
import Casework.Template.Form
import Casework.Text.Blank
import Casework.Text.Digit
import Casework.Text.LineEnd
import Casework.Text.Printable
import Casework.Text.Quoted
import Casework.ToMathlib.Except
import Casework.ToMathlib.List.Basic
import Casework.ToMathlib.List.Lookup
import Casework.Toml.Moment
import Casework.Toml.Number
import Casework.Toml.Reading
import Casework.Toml.Text
import Casework.Toml.Value
import Casework.Value
