import RecordSql.Db.Text
import RecordSql.Hook.Builtin
import RecordSql.Json.Reader
import RecordSql.Proofs.Arguments
import RecordSql.Proofs.Assembling
import RecordSql.Proofs.Binding
import RecordSql.Proofs.Coercion
import RecordSql.Proofs.Coherence
import RecordSql.Proofs.Cursor
import RecordSql.Proofs.Denial
import RecordSql.Proofs.Dialects
import RecordSql.Proofs.Fetching
import RecordSql.Proofs.Filling
import RecordSql.Proofs.Landing
import RecordSql.Proofs.Lifecycle
import RecordSql.Proofs.Naming
import RecordSql.Proofs.Plain
import RecordSql.Proofs.Quoting
import RecordSql.Proofs.Ranges
import RecordSql.Proofs.Reading
import RecordSql.Proofs.Requirements
import RecordSql.Proofs.Sentences
import RecordSql.Proofs.Storing
import RecordSql.Proofs.Tailoring
import RecordSql.Proofs.Truncation
import RecordSql.Proofs.Untouched
import RecordSql.Record.RoundTrip
