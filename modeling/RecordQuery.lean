import RecordQuery.Declaration.Record
import RecordQuery.Dialect.ColumnType
import RecordQuery.Executor.Connection
import RecordQuery.Executor.Script
import RecordQuery.Instance.Load
import RecordQuery.Postgres.Binary
import RecordQuery.Settings
import RecordQuery.Sqlite.Storage
import RecordQuery.Value.Tagged
import RecordQuery.Proofs.Fragment.Items
import RecordQuery.Proofs.Fragment.Places
import RecordQuery.Proofs.Query.Alternatives
import RecordQuery.Proofs.Query.Restriction
import RecordQuery.Proofs.Instance.Fetched
import RecordQuery.Proofs.Instance.Index
import RecordQuery.Proofs.Loading.Batch
import RecordQuery.Proofs.Loading.EagerPaths
import RecordQuery.Proofs.Model.Filters
import RecordQuery.Proofs.Loading.Batched
import RecordQuery.Proofs.Loading.History
import RecordQuery.Proofs.Loading.Failing
import RecordQuery.Proofs.Loading.Missing
import RecordQuery.Proofs.Loading.Issued
import RecordQuery.Proofs.Model.ContextOrder
import RecordQuery.Proofs.Model.Correlation
import RecordQuery.Proofs.Query.Counting
import RecordQuery.Proofs.Instant.Calendar
import RecordQuery.Proofs.Instant.Letters
import RecordQuery.Proofs.Instant.Reading
import RecordQuery.Proofs.Text.Utf8
import RecordQuery.Proofs.Number.Logarithm
import RecordQuery.Proofs.Number.Shortest
import RecordQuery.Proofs.Number.Rounding
import RecordQuery.Proofs.Number.Double
import RecordQuery.Proofs.Number.BigEndian
import RecordQuery.Proofs.Number.Positional
import RecordQuery.Proofs.Json.Numeral
import RecordQuery.Proofs.Json.Quoted
import RecordQuery.Proofs.Json.Text
import RecordQuery.Proofs.Json.Letters
import RecordQuery.Proofs.Json.Reading
import RecordQuery.Proofs.Uuid
import RecordQuery.Proofs.Value.Keys
import RecordQuery.Proofs.Value.FloatKey
import RecordQuery.Proofs.Value.Scalar
import RecordQuery.Proofs.Value.TextKeys
import RecordQuery.Proofs.Postgres.Numbers
import RecordQuery.Proofs.Postgres.Reading
import RecordQuery.Proofs.Postgres.Foreign
import RecordQuery.Proofs.Sqlite.Storage
import RecordQuery.Proofs.Model.OtherValues
import RecordQuery.Proofs.Fragment.Supply
import RecordQuery.Proofs.Grammar.RoundTrip
import RecordQuery.Proofs.Ident.Grammar
import RecordQuery.Proofs.Model.Failures
import RecordQuery.Proofs.Model.ScopePlacement
import RecordQuery.Proofs.Json.Shape
import RecordQuery.Proofs.Json.RoundTrip
import RecordQuery.Proofs.Postgres.OwnTypes
import RecordQuery.Proofs.Ident.Lexing
import RecordQuery.Proofs.Model.Inverse
import RecordQuery.Proofs.Model.RelatedRows
import RecordQuery.Proofs.Declaration.Instances
import RecordQuery.Proofs.Value.Spellings
import RecordQuery.Proofs.Query.TableReference
import RecordQuery.Proofs.Query.Phrases
import RecordQuery.Proofs.Dialect.Literals
import RecordQuery.Proofs.Text.Pieces
import RecordQuery.Proofs.Dialect.ColumnTypes
import RecordQuery.Proofs.Instance.Groups
import RecordQuery.Proofs.Settings.Log
