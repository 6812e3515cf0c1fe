import ColumnScan.Text.Blank
import ColumnScan.Text.CaseMap
import ColumnScan.Text.Quoted
import ColumnScan.Decimal.Order
import ColumnScan.Decimal.Text
import ColumnScan.Ieee.Order
import ColumnScan.Ieee.Text
import ColumnScan.Calendar.DateTime
import ColumnScan.Schema.StructType
import ColumnScan.Json.Reader
import ColumnScan.Json.Numeric
import ColumnScan.Schema.Codec
import ColumnScan.Convert.Factory
import ColumnScan.Predicate.Builder
import ColumnScan.Predicate.Visitor
import ColumnScan.Predicate.Codec
import ColumnScan.Row
import ColumnScan.Filter.RowFilter
import ColumnScan.Columnar.Batch
import ColumnScan.Storage.RowSource
import ColumnScan.Storage.RowSink
import ColumnScan.Scan.Draft
import ColumnScan.Scan.Writer
import ColumnScan.Proofs.Outcome
import ColumnScan.Proofs.Predicate.Clauses
import ColumnScan.Proofs.Predicate.LeafTable
import ColumnScan.Proofs.Calendar.Days
import ColumnScan.Proofs.Convert.Lossless
import ColumnScan.Proofs.Convert.Settled
import ColumnScan.Proofs.Scan.Columns
import ColumnScan.Proofs.Scan.Judging
import ColumnScan.Proofs.Scan.Run
import ColumnScan.Proofs.Convert.Soundness
import ColumnScan.Proofs.Columnar.Places
import ColumnScan.Proofs.Columnar.Fitting
import ColumnScan.Proofs.Columnar.Returning
import ColumnScan.Proofs.Columnar.RoundTrip
import ColumnScan.Proofs.Columnar.Rows
import ColumnScan.Proofs.Row.Calls
import ColumnScan.Proofs.Scan.Filtering
import ColumnScan.Proofs.Scan.Envelopes
import ColumnScan.Proofs.Columnar.Layouts
import ColumnScan.Proofs.Columnar.Schemas
import ColumnScan.Proofs.Columnar.Cutting
import ColumnScan.Proofs.Row.Filling
import ColumnScan.Proofs.Storage.Keeping
import ColumnScan.Proofs.Storage.Sinks
import ColumnScan.Proofs.Storage.Sources
import ColumnScan.Proofs.Storage.Files
import ColumnScan.Proofs.Scan.Files
import ColumnScan.Proofs.Scan.WriteRead
import ColumnScan.Proofs.Value.Hashing
import ColumnScan.Proofs.Json.Words
import ColumnScan.Proofs.Json.Values
import ColumnScan.Proofs.Json.Records
import ColumnScan.Proofs.Predicate.Blobs
import ColumnScan.Proofs.Schema.Coding
import ColumnScan.Proofs.Scan.Describing
import ColumnScan.Proofs.Scan.ReadSet
import ColumnScan.Proofs.Convert.Rewriting
import ColumnScan.Proofs.Decimal.Rational
import ColumnScan.Proofs.Decimal.Rounding
import ColumnScan.Proofs.Filter.Integers
import ColumnScan.Proofs.Decimal.Numerals
import ColumnScan.Proofs.Decimal.RoundTrip
import ColumnScan.Proofs.Decimal.Digits
import ColumnScan.Proofs.Convert.Amounts
import ColumnScan.Proofs.Predicate.Information
import ColumnScan.Proofs.Row.Sound
import ColumnScan.Proofs.Filter.Locality
import ColumnScan.Proofs.Filter.Expansions
import ColumnScan.Proofs.Scan.Counting
import ColumnScan.Proofs.Calendar.Order
import ColumnScan.Proofs.Calendar.Elapsed
import ColumnScan.Proofs.Convert.Times
import ColumnScan.Proofs.Scan.Settings
import ColumnScan.Proofs.Columnar.Accepting
import ColumnScan.Proofs.Scan.WrongSettings
import ColumnScan.Proofs.Predicate.Faults
import ColumnScan.Proofs.Scan.Projections
import ColumnScan.Proofs.Convert.Overriding
import ColumnScan.Proofs.Schema.Naming
