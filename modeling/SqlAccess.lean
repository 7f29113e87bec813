import SqlAccess.Client
import SqlAccess.Engine.Script
import SqlAccess.Metadata.Capability
import SqlAccess.Proofs.Calendar.Literal
import SqlAccess.Proofs.Catalog.EscapedName
import SqlAccess.Proofs.Catalog.Literals
import SqlAccess.Proofs.Catalog.NameCondition
import SqlAccess.Proofs.Catalog.SchemaArgument
import SqlAccess.Proofs.Client.Lifecycle
import SqlAccess.Proofs.Config.DisplayText
import SqlAccess.Proofs.Config.Password
import SqlAccess.Proofs.Config.TimeZone
import SqlAccess.Proofs.Escape.Braces
import SqlAccess.Proofs.Escape.Comment
import SqlAccess.Proofs.Escape.Marker
import SqlAccess.Proofs.Escape.Tree
import SqlAccess.Proofs.Interval.DisplayText
import SqlAccess.Proofs.Interval.Order
import SqlAccess.Proofs.Interval.YearMonth
import SqlAccess.Proofs.Lob.Ascii
import SqlAccess.Proofs.Lob.Content
import SqlAccess.Proofs.Lob.Search
import SqlAccess.Proofs.Metadata.DefaultSchema
import SqlAccess.Proofs.Number.DecimalText
import SqlAccess.Proofs.Result.Cursor
import SqlAccess.Proofs.Result.ForwardOnly
import SqlAccess.Proofs.Result.RelativeMove
import SqlAccess.Proofs.Statement.Binding
import SqlAccess.Proofs.Statement.Columns
import SqlAccess.Proofs.Statement.Kind
import SqlAccess.Proofs.Statement.LastRead
import SqlAccess.Proofs.Statement.LocalTime
import SqlAccess.Proofs.Statement.Naming
import SqlAccess.Proofs.Statement.Output
import SqlAccess.Proofs.Statement.Results
import SqlAccess.Proofs.Text.Trim
import SqlAccess.Proofs.Value.CanonicalText
import SqlAccess.Proofs.Value.Convertible
import SqlAccess.Proofs.Value.DateTimeText
import SqlAccess.Proofs.Value.Integral
import SqlAccess.Proofs.Value.Projection
import SqlAccess.Proofs.Value.TextBinding
import SqlAccess.Proofs.Calendar.OffsetTime
import SqlAccess.Proofs.Value.ZoneRoundTrip
