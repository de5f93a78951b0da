import PortableSql.Text.Case
import PortableSql.Text.Blank
import PortableSql.Text.Digraph
import PortableSql.Text.WordChar
import PortableSql.Number.Binary64
import PortableSql.Number.Rounding
import PortableSql.ColumnType.Size
import PortableSql.Event
import PortableSql.Failure
import PortableSql.ColumnType.NameTable
import PortableSql.Lexical.KeywordSet
import PortableSql.Lexical.QuoteStyle
import PortableSql.Expression.CastMatrix
import PortableSql.Expression.FunctionTable
import PortableSql.Expression.StandardFunctions
import PortableSql.ColumnType.StandardNames
import PortableSql.Locking.RowLock
import PortableSql.Lexical.Literal
import PortableSql.Lexical.Comment
import PortableSql.InList
import PortableSql.Json.Reader
import PortableSql.Dialect.ConfigDump
import PortableSql.Dialect.ResolutionInfo
import PortableSql.Dialect.TypeNaming
import PortableSql.Dialect.Phrase
import PortableSql.Schema.Table
import PortableSql.Schema.Sequence
import PortableSql.Schema.Index
import PortableSql.Schema.ForeignKey
import PortableSql.Schema.Namespace
import PortableSql.Backend
import PortableSql.Main
import PortableSql.Proofs.ColumnType.OpenPlace
import PortableSql.Proofs.ColumnType.NameTable
import PortableSql.Proofs.ColumnType.Survivor
import PortableSql.Proofs.ColumnType.ColumnName
import PortableSql.Proofs.ColumnType.OnePass
import PortableSql.Proofs.ColumnType.DefinitionName
import PortableSql.Proofs.ColumnType.SizeSource
import PortableSql.Proofs.ColumnType.BinaryPrecision
import PortableSql.Proofs.Expression.Reading
import PortableSql.Proofs.MarkerList
import PortableSql.Proofs.Outcome
import PortableSql.Proofs.Schema.Uniqueness
import PortableSql.Proofs.Schema.PortableNames
import PortableSql.Proofs.Schema.IndexName
import PortableSql.Proofs.Locking.Coexistence
import PortableSql.Proofs.Lexical.BlockComment
import PortableSql.Proofs.Lexical.HintComment
import PortableSql.Proofs.Lexical.SpanLiteral
import PortableSql.Proofs.Lexical.StringLiteral
import PortableSql.Proofs.Lexical.MomentReading
import PortableSql.Proofs.Lexical.OffsetInstant
import PortableSql.Proofs.Lexical.TimestampReading
import PortableSql.Proofs.Text.Doubled
import PortableSql.Proofs.Lexical.QuotedName
import PortableSql.Proofs.Schema.QualifiedName
import PortableSql.Proofs.Schema.QuotedTwice
import PortableSql.Proofs.Schema.TableStatement
import PortableSql.Proofs.Schema.NextValue
import PortableSql.Proofs.Expression.CastChain
import PortableSql.Proofs.Expression.FunctionHistory
import PortableSql.Proofs.Expression.TrimFrame
import PortableSql.Proofs.Lexical.KeywordHistory
import PortableSql.Proofs.Dialect.VersionGate
import PortableSql.Proofs.ColumnType.CastTarget
import PortableSql.Proofs.Locking.AliasModes
import PortableSql.Proofs.Locking.NamedTargets
import PortableSql.Proofs.Locking.WaitingTime
import PortableSql.Proofs.Locking.RowRestriction
import PortableSql.Proofs.Json.StringSpelling
import PortableSql.Proofs.Json.TokenText
import PortableSql.Proofs.Json.DocumentText
import PortableSql.Proofs.Json.DocumentReading
import PortableSql.Proofs.Json.OmittedField
import PortableSql.Proofs.Dialect.StoredReport
