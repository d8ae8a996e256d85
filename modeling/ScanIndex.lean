import ScanIndex.Block
import ScanIndex.Block.Codec
import ScanIndex.Buckets
import ScanIndex.Change.Batch
import ScanIndex.Change.Event
import ScanIndex.Command.Arguments
import ScanIndex.Command.Run
import ScanIndex.Config.Reader
import ScanIndex.Config.Settings
import ScanIndex.Decimal.Notation
import ScanIndex.Decimal.Shortest
import ScanIndex.Digest.Hmac
import ScanIndex.Digest.Sha256
import ScanIndex.Disk.Database
import ScanIndex.Disk.Location
import ScanIndex.Disk.Path
import ScanIndex.Disk.Tree
import ScanIndex.Document
import ScanIndex.Document.Codec
import ScanIndex.Filter
import ScanIndex.Formula
import ScanIndex.Geometry
import ScanIndex.Http.Access
import ScanIndex.Http.Domain
import ScanIndex.Http.Domain.Charts
import ScanIndex.Http.Host
import ScanIndex.Http.Message
import ScanIndex.Http.Service
import ScanIndex.Http.Status
import ScanIndex.Http.Target
import ScanIndex.Http.Url
import ScanIndex.Identifier
import ScanIndex.Indexing.Engine
import ScanIndex.Indexing.Process
import ScanIndex.Indexing.Provider
import ScanIndex.Indexing.World
import ScanIndex.Internet.Address
import ScanIndex.Internet.Endpoint
import ScanIndex.Json.Decode
import ScanIndex.Json.Equal
import ScanIndex.Json.Numeral
import ScanIndex.Json.Printer
import ScanIndex.Json.Reader
import ScanIndex.Json.Value
import ScanIndex.Main
import ScanIndex.Proofs.Buckets
import ScanIndex.Proofs.Change.Notification
import ScanIndex.Proofs.Change.Partition
import ScanIndex.Proofs.Change.Routing
import ScanIndex.Proofs.Digest.Key
import ScanIndex.Proofs.Flattening
import ScanIndex.Proofs.FloatOrder
import ScanIndex.Proofs.FloatValue
import ScanIndex.Proofs.Formula
import ScanIndex.Proofs.Geometry
import ScanIndex.Proofs.Http.Access
import ScanIndex.Proofs.Http.Scope
import ScanIndex.Proofs.Http.Service
import ScanIndex.Proofs.Indexing.Batch
import ScanIndex.Proofs.Indexing.Chunking
import ScanIndex.Proofs.Indexing.Drawing
import ScanIndex.Proofs.Indexing.Failure
import ScanIndex.Proofs.Indexing.Leftover
import ScanIndex.Proofs.Indexing.Recognition
import ScanIndex.Proofs.Indexing.Redelivery
import ScanIndex.Proofs.Indexing.Removal
import ScanIndex.Proofs.Indexing.Resolution
import ScanIndex.Proofs.Indexing.Run
import ScanIndex.Proofs.Indexing.Safety
import ScanIndex.Proofs.Indexing.Stages
import ScanIndex.Proofs.Json.Decode
import ScanIndex.Proofs.Json.Required
import ScanIndex.Proofs.Outcome
import ScanIndex.Proofs.Redrawing
import ScanIndex.Proofs.Search.Extent
import ScanIndex.Proofs.Search.Grammar
import ScanIndex.Proofs.Search.Grouping
import ScanIndex.Proofs.Search.Meeting
import ScanIndex.Proofs.Search.Monotone
import ScanIndex.Proofs.Search.Scope
import ScanIndex.Proofs.Search.Service
import ScanIndex.Proofs.Search.Validation
import ScanIndex.Proofs.Search.Writing
import ScanIndex.Proofs.Signing.Authorization
import ScanIndex.Proofs.Signing.Presentation
import ScanIndex.Proofs.Sql.Clause
import ScanIndex.Proofs.Sql.Lexing
import ScanIndex.Proofs.Sql.Meaning
import ScanIndex.Proofs.Sql.Reading
import ScanIndex.Proofs.Sql.Shape
import ScanIndex.Proofs.Store.Cascade
import ScanIndex.Proofs.Store.Damage
import ScanIndex.Proofs.Store.Deletion
import ScanIndex.Proofs.Store.Encoding
import ScanIndex.Proofs.Store.Insertion
import ScanIndex.Proofs.Store.Interchange
import ScanIndex.Proofs.Store.Interruption
import ScanIndex.Proofs.Store.Joining
import ScanIndex.Proofs.Store.Lawful
import ScanIndex.Proofs.Store.Layout
import ScanIndex.Proofs.Store.Refusal
import ScanIndex.Proofs.Store.Relational
import ScanIndex.Proofs.Store.Removal
import ScanIndex.Proofs.Store.Replacement
import ScanIndex.Proofs.Store.Upsert
import ScanIndex.Proofs.Text.ByteOrder
import ScanIndex.Proofs.Text.Percent
import ScanIndex.Proofs.Text.Pieces
import ScanIndex.Proofs.Text.Utf8
import ScanIndex.Proofs.Textract.Document
import ScanIndex.Proofs.Transcript
import ScanIndex.Proofs.Upright
import ScanIndex.Search.Region
import ScanIndex.Search.Service
import ScanIndex.Search.Syntax
import ScanIndex.Signing.Authorization
import ScanIndex.Signing.Credentials
import ScanIndex.Signing.Date
import ScanIndex.Sql.Depth
import ScanIndex.Sql.Eval
import ScanIndex.Sql.Expr
import ScanIndex.Sql.Reader
import ScanIndex.Sql.Statement
import ScanIndex.Sql.Tables
import ScanIndex.Sql.Token
import ScanIndex.Store.Archive
import ScanIndex.Store.Chunk
import ScanIndex.Store.Error
import ScanIndex.Store.Faulty
import ScanIndex.Store.Interface
import ScanIndex.Store.Memory
import ScanIndex.Store.Relational
import ScanIndex.Store.Rows
import ScanIndex.Text.Bidi
import ScanIndex.Text.Blank
import ScanIndex.Text.Case
import ScanIndex.Text.Chart
import ScanIndex.Text.Digit
import ScanIndex.Text.Form
import ScanIndex.Text.Invisible
import ScanIndex.Text.Joining
import ScanIndex.Text.Mark
import ScanIndex.Text.Normal
import ScanIndex.Text.Normal.Charts
import ScanIndex.Text.Percent
import ScanIndex.Text.Pieces
import ScanIndex.Text.Punycode
import ScanIndex.Text.Quoted
import ScanIndex.Text.Utf8
import ScanIndex.Textract.Client
import ScanIndex.Textract.Response
import ScanIndex.Toml.Lexical
import ScanIndex.Toml.Reader
import ScanIndex.Toml.Scalar
import ScanIndex.Toml.Value
import ScanIndex.Transcript
import ScanIndex.Version
