import CqlGateway.Catalog.Basic
import CqlGateway.Catalog.Field
import CqlGateway.Catalog.Standard
import CqlGateway.CommandLine.Invocation
import CqlGateway.CommandLine.Run
import CqlGateway.CommandLine.Switch
import CqlGateway.CommandLine.Usage
import CqlGateway.CommandLine.Words
import CqlGateway.Compilation.Clause
import CqlGateway.Compilation.Error
import CqlGateway.Compilation.Modifier
import CqlGateway.Compilation.Proximity
import CqlGateway.Compilation.Query
import CqlGateway.Compilation.Value
import CqlGateway.EngineQuery.Basic
import CqlGateway.EngineQuery.Measure
import CqlGateway.EngineQuery.Text
import CqlGateway.Error
import CqlGateway.Index.Endpoint
import CqlGateway.Index.Engine
import CqlGateway.Index.Hit
import CqlGateway.Index.Memory
import CqlGateway.Index.Response
import CqlGateway.Json.Basic
import CqlGateway.Json.Cursor
import CqlGateway.Json.Fault
import CqlGateway.Json.Numeral
import CqlGateway.Json.Reader
import CqlGateway.Json.Record
import CqlGateway.Json.Shape
import CqlGateway.Json.Token
import CqlGateway.Json.Writer
import CqlGateway.Main
import CqlGateway.Numeral.Binary64
import CqlGateway.Numeral.Count
import CqlGateway.Numeral.Decimal
import CqlGateway.Numeral.Shortest
import CqlGateway.Numeral.Unsigned
import CqlGateway.Ordered.NameMap
import CqlGateway.Ordered.NameSet
import CqlGateway.Profile.Basic
import CqlGateway.Profile.Declaration
import CqlGateway.Profile.Registry
import CqlGateway.Proofs.Catalog.Entries
import CqlGateway.Proofs.Compilation.AcceptedValues
import CqlGateway.Proofs.Compilation.AccessFilter
import CqlGateway.Proofs.Compilation.Bracketing
import CqlGateway.Proofs.Compilation.Failure
import CqlGateway.Proofs.Compilation.FailureOrder
import CqlGateway.Proofs.Compilation.KeptWords
import CqlGateway.Proofs.Compilation.KindDetection
import CqlGateway.Proofs.Compilation.Meaning
import CqlGateway.Proofs.Compilation.NormalForm
import CqlGateway.Proofs.Compilation.Preservation
import CqlGateway.Proofs.Compilation.Proximity
import CqlGateway.Proofs.Compilation.Subtrees
import CqlGateway.Proofs.Display.Form
import CqlGateway.Proofs.Display.MaskedQuotes
import CqlGateway.Proofs.Display.Places
import CqlGateway.Proofs.Display.ReadBack
import CqlGateway.Proofs.Display.Redisplay
import CqlGateway.Proofs.Display.RoundTrip
import CqlGateway.Proofs.Display.Tokens
import CqlGateway.Proofs.EngineQuery.FieldPattern
import CqlGateway.Proofs.EngineQuery.Nesting
import CqlGateway.Proofs.EngineQuery.NormalForm
import CqlGateway.Proofs.EngineQuery.Pattern
import CqlGateway.Proofs.EngineQuery.Reader
import CqlGateway.Proofs.EngineQuery.TextMeaning
import CqlGateway.Proofs.EngineQuery.Truth
import CqlGateway.Proofs.EngineQuery.Word
import CqlGateway.Proofs.Index.Decoding
import CqlGateway.Proofs.Index.FieldForms
import CqlGateway.Proofs.Index.FieldValues
import CqlGateway.Proofs.Json.Leaves
import CqlGateway.Proofs.Json.ReadBack
import CqlGateway.Proofs.Json.Record
import CqlGateway.Proofs.Json.Scanning
import CqlGateway.Proofs.Ordered.NameMap
import CqlGateway.Proofs.Ordered.NameSet
import CqlGateway.Proofs.Outcome
import CqlGateway.Proofs.Profile.Declared
import CqlGateway.Proofs.Profile.Enforcement
import CqlGateway.Proofs.Profile.Registry
import CqlGateway.Proofs.Query.Acceptance
import CqlGateway.Proofs.Query.Completeness
import CqlGateway.Proofs.Query.Cursor
import CqlGateway.Proofs.Query.CursorAgreement
import CqlGateway.Proofs.Query.CursorParser
import CqlGateway.Proofs.Query.FirstMisfit
import CqlGateway.Proofs.Query.Grammar
import CqlGateway.Proofs.Query.Layout
import CqlGateway.Proofs.Query.Parsing
import CqlGateway.Proofs.Query.Place
import CqlGateway.Proofs.Query.PlaceByPlace
import CqlGateway.Proofs.Query.Run
import CqlGateway.Proofs.Query.ScanFaults
import CqlGateway.Proofs.Query.Scanning
import CqlGateway.Proofs.Query.ScanState
import CqlGateway.Proofs.Query.Separation
import CqlGateway.Proofs.Query.Soundness
import CqlGateway.Proofs.Query.Unambiguity
import CqlGateway.Proofs.Report.Caret
import CqlGateway.Proofs.Settings.ReadBack
import CqlGateway.Proofs.Settings.Usability
import CqlGateway.Proofs.Term.Escape
import CqlGateway.Proofs.Term.Idempotence
import CqlGateway.Proofs.Term.Pieces
import CqlGateway.Proofs.Term.Split
import CqlGateway.Proofs.Term.Words
import CqlGateway.Proofs.Text.Lowercase
import CqlGateway.Proofs.Works.Batch
import CqlGateway.Proofs.Works.FirstSeen
import CqlGateway.Proofs.Works.Interruption
import CqlGateway.Proofs.Works.Observed
import CqlGateway.Proofs.Works.Page
import CqlGateway.Proofs.Works.Requests
import CqlGateway.Proofs.Works.Tables
import CqlGateway.Query.Display
import CqlGateway.Query.Keyword
import CqlGateway.Query.Parse
import CqlGateway.Query.Scan
import CqlGateway.Query.Token
import CqlGateway.Query.TokenCursor
import CqlGateway.Query.Tree
import CqlGateway.Report.Basic
import CqlGateway.Report.Diagnostic
import CqlGateway.Report.Profiles
import CqlGateway.Report.Query
import CqlGateway.Report.Works
import CqlGateway.Settings.Basic
import CqlGateway.Settings.Decode
import CqlGateway.Settings.Encode
import CqlGateway.Settings.Shape
import CqlGateway.Settings.Use
import CqlGateway.Term.Escape
import CqlGateway.Term.Piece
import CqlGateway.Term.Words
import CqlGateway.Text.CaseTables
import CqlGateway.Text.CharRange
import CqlGateway.Text.DecimalDigit
import CqlGateway.Text.HiddenTable
import CqlGateway.Text.Lowercase
import CqlGateway.Text.LowercaseTable
import CqlGateway.Text.Padding
import CqlGateway.Text.Quoted
import CqlGateway.Text.WhiteSpace
import CqlGateway.Works.Batch
import CqlGateway.Works.Grouping
import CqlGateway.Works.Page
import CqlGateway.Works.Tables
