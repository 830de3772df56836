import ModelSchema.Catalog.Basic
import ModelSchema.Catalog.Expansion
import ModelSchema.Compilation
import ModelSchema.Document.Annotation
import ModelSchema.Document.Basic
import ModelSchema.Document.Encode
import ModelSchema.Document.Reader
import ModelSchema.Error
import ModelSchema.Form
import ModelSchema.Instant
import ModelSchema.Json.Basic
import ModelSchema.Json.Numeral
import ModelSchema.Json.Printer
import ModelSchema.Json.Quoted
import ModelSchema.Json.Real
import ModelSchema.Json.Record
import ModelSchema.Json.Token
import ModelSchema.Json.Tree
import ModelSchema.Number.Binary64
import ModelSchema.Outputs
import ModelSchema.Proofs.Agreement
import ModelSchema.Proofs.Annotation
import ModelSchema.Proofs.Calendar
import ModelSchema.Proofs.Canonical
import ModelSchema.Proofs.Coverage
import ModelSchema.Proofs.Cycles
import ModelSchema.Proofs.Declarations
import ModelSchema.Proofs.Decoding
import ModelSchema.Proofs.Depth
import ModelSchema.Proofs.Draws
import ModelSchema.Proofs.EventLog
import ModelSchema.Proofs.Expansion
import ModelSchema.Proofs.FirstOffence
import ModelSchema.Proofs.Fitting
import ModelSchema.Proofs.FormTree
import ModelSchema.Proofs.Grammar
import ModelSchema.Proofs.Indentation
import ModelSchema.Proofs.Inside
import ModelSchema.Proofs.Joining
import ModelSchema.Proofs.JsonReading
import ModelSchema.Proofs.Layout
import ModelSchema.Proofs.Lexing
import ModelSchema.Proofs.Occurrences
import ModelSchema.Proofs.Offences
import ModelSchema.Proofs.Outcome
import ModelSchema.Proofs.Pieces
import ModelSchema.Proofs.Placement
import ModelSchema.Proofs.Presence
import ModelSchema.Proofs.Presentation
import ModelSchema.Proofs.ReadBack
import ModelSchema.Proofs.ReaderSteps
import ModelSchema.Proofs.Reading
import ModelSchema.Proofs.Records
import ModelSchema.Proofs.Redecoration
import ModelSchema.Proofs.Refusals
import ModelSchema.Proofs.Rejection
import ModelSchema.Proofs.Relocation
import ModelSchema.Proofs.Scanning
import ModelSchema.Proofs.SchemaReading
import ModelSchema.Proofs.ScriptStrings
import ModelSchema.Proofs.Scripts
import ModelSchema.Proofs.Shape
import ModelSchema.Proofs.Spelling
import ModelSchema.Proofs.Stuck
import ModelSchema.Proofs.Substitution
import ModelSchema.Proofs.Tiling
import ModelSchema.Proofs.TypeMeaning
import ModelSchema.Proofs.TypeMembers
import ModelSchema.Proofs.TypeReading
import ModelSchema.Proofs.TypeSyntax
import ModelSchema.Proofs.Validity
import ModelSchema.Proofs.WholeDocument
import ModelSchema.Proofs.WrittenStrings
import ModelSchema.Sample.Draw
import ModelSchema.Sample.Options
import ModelSchema.Sample.Values
import ModelSchema.Sample.Words
import ModelSchema.Schema.Basic
import ModelSchema.Schema.Decode
import ModelSchema.Schema.Encode
import ModelSchema.Schema.Entries
import ModelSchema.Schema.Kind
import ModelSchema.Schema.Literal
import ModelSchema.Source.Lexer
import ModelSchema.Source.Piece
import ModelSchema.Source.Token
import ModelSchema.Text.Blank
import ModelSchema.Text.Casing
import ModelSchema.Text.CodeRange
import ModelSchema.Text.Decimal
import ModelSchema.Text.GraphemeExtend
import ModelSchema.Text.Inspect
import ModelSchema.Text.Lowercase
import ModelSchema.Text.Position
import ModelSchema.Text.Unprintable
import ModelSchema.Trace
import ModelSchema.TypeScript.Basic
import ModelSchema.TypeScript.Printer
