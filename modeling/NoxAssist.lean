import NoxAssist.Analysis
import NoxAssist.Buffer.Basic
import NoxAssist.Buffer.Line
import NoxAssist.Buffer.Position
import NoxAssist.Builtin.Basic
import NoxAssist.Builtin.Catalogue
import NoxAssist.Builtin.Registry
import NoxAssist.Builtin.Table
import NoxAssist.Call
import NoxAssist.CommandLine
import NoxAssist.Decimal.Scale
import NoxAssist.Decimal.Shortest
import NoxAssist.Declaration.Basic
import NoxAssist.Declaration.Parameters
import NoxAssist.Declaration.Scan
import NoxAssist.Directory
import NoxAssist.Domain.Basic
import NoxAssist.Domain.Composition
import NoxAssist.Domain.Direction
import NoxAssist.Domain.Joining
import NoxAssist.Domain.Mapping
import NoxAssist.Domain.MappingTable
import NoxAssist.Domain.Punycode
import NoxAssist.Json.Basic
import NoxAssist.Json.Found
import NoxAssist.Json.Lexeme
import NoxAssist.Json.Printer
import NoxAssist.Json.Reader
import NoxAssist.Main
import NoxAssist.Offline
import NoxAssist.Path
import NoxAssist.Program
import NoxAssist.Report
import NoxAssist.Server.Answer
import NoxAssist.Server.Basic
import NoxAssist.Server.Conversation
import NoxAssist.Server.Frame
import NoxAssist.Server.Method
import NoxAssist.Server.Schema
import NoxAssist.Server.Shape.Basic
import NoxAssist.Server.Shape.Client
import NoxAssist.Server.Shape.Params
import NoxAssist.Settings
import NoxAssist.Text.Blank
import NoxAssist.Text.Hex
import NoxAssist.Text.Identifier
import NoxAssist.Text.Literal
import NoxAssist.Text.Printable
import NoxAssist.Text.Quoted
import NoxAssist.Text.Table
import NoxAssist.Text.Utf8
import NoxAssist.Uri.Address
import NoxAssist.Uri.Basic
import NoxAssist.Uri.Fault
import NoxAssist.Uri.Host
import NoxAssist.Uri.Percent
import NoxAssist.Uri.Route
import NoxAssist.Proofs.Call.Walk
import NoxAssist.Proofs.Call.Arguments
import NoxAssist.Proofs.Call.Parity
import NoxAssist.Proofs.Declaration.Header
import NoxAssist.Proofs.Declaration.Search
import NoxAssist.Proofs.Declaration.Pieces
import NoxAssist.Proofs.Declaration.Quotation
import NoxAssist.Proofs.Declaration.Rendering
import NoxAssist.Proofs.Declaration.Placement
import NoxAssist.Proofs.Call.Boundary
import NoxAssist.Proofs.Call.Header
import NoxAssist.Proofs.Buffer.Offset
import NoxAssist.Proofs.Buffer.Encoding
import NoxAssist.Proofs.Buffer.Column
import NoxAssist.Proofs.Buffer.Ending
import NoxAssist.Proofs.Buffer.Place
import NoxAssist.Proofs.Server.Synchronisation
import NoxAssist.Proofs.Builtin.Registry
import NoxAssist.Proofs.Text.Identifier
import NoxAssist.Proofs.Analysis.Resolution
import NoxAssist.Proofs.Settings
import NoxAssist.Proofs.Server.Conduct
import NoxAssist.Proofs.Server.Isolation
import NoxAssist.Proofs.Server.Message
import NoxAssist.Proofs.Server.Agreement
import NoxAssist.Proofs.Call.Nesting
import NoxAssist.Proofs.Declaration.Coverage
import NoxAssist.Proofs.Analysis.Hover
import NoxAssist.Proofs.Text.Tokens
import NoxAssist.Proofs.Text.LastWord
import NoxAssist.Proofs.Analysis.Cursor
import NoxAssist.Proofs.Builtin.Naming
import NoxAssist.Proofs.Path
import NoxAssist.Proofs.Json.Grammar
import NoxAssist.Proofs.Json.Lexeme
import NoxAssist.Proofs.Json.Passage
import NoxAssist.Proofs.Builtin.Spelling
import NoxAssist.Proofs.Access.Basic
import NoxAssist.Proofs.Access.Scanners
import NoxAssist.Proofs.Access.Answers
