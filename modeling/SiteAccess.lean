import SiteAccess.Collections
import SiteAccess.Decimal.Literal
import SiteAccess.Decimal.Number
import SiteAccess.Decision
import SiteAccess.EncryptionKey
import SiteAccess.Fault
import SiteAccess.Json.Doc
import SiteAccess.Json.Reader
import SiteAccess.Json.Value
import SiteAccess.Log.Event
import SiteAccess.Log.Filter
import SiteAccess.Log.Pattern
import SiteAccess.Log.Pattern.Brackets
import SiteAccess.Log.Tracing
import SiteAccess.Operator
import SiteAccess.Operator.Session
import SiteAccess.Proofs.AccessList
import SiteAccess.Proofs.AccessList.Equality
import SiteAccess.Proofs.AccessList.Reader
import SiteAccess.Proofs.Decimal
import SiteAccess.Proofs.EncryptionKey
import SiteAccess.Proofs.Json.Fields
import SiteAccess.Proofs.Json.Quoted
import SiteAccess.Proofs.Json.Text
import SiteAccess.Proofs.Log.Tracing
import SiteAccess.Proofs.Names
import SiteAccess.Proofs.Names.Language
import SiteAccess.Proofs.Operator.History
import SiteAccess.Proofs.Operator.Identity
import SiteAccess.Proofs.Operator.Isolation
import SiteAccess.Proofs.Operator.Storage
import SiteAccess.Proofs.Publisher
import SiteAccess.Proofs.Record.Content
import SiteAccess.Proofs.Record.Fields
import SiteAccess.Proofs.Record.Grammar
import SiteAccess.Proofs.RoleSet.Builders
import SiteAccess.Proofs.RoleSet.Reader
import SiteAccess.Proofs.Service.Account
import SiteAccess.Proofs.Service.Trail
import SiteAccess.Proofs.Settings
import SiteAccess.Proofs.Settings.Environment
import SiteAccess.Proofs.Snapshot.Change
import SiteAccess.Proofs.Snapshot.Decision
import SiteAccess.Proofs.Snapshot.Entries
import SiteAccess.Proofs.Storage
import SiteAccess.Proofs.Text.Style
import SiteAccess.Proofs.Text.Word
import SiteAccess.Proofs.Time.Instant
import SiteAccess.Proofs.Time.Timestamp
import SiteAccess.Publisher
import SiteAccess.Record.Defect
import SiteAccess.Record.Loader
import SiteAccess.Role
import SiteAccess.Service
import SiteAccess.Settings
import SiteAccess.Snapshot
import SiteAccess.Text
import SiteAccess.Text.Letter
import SiteAccess.Time.Date
import SiteAccess.Time.Timestamp
