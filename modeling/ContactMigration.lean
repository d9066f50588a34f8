import ContactMigration.Json.Value
import ContactMigration.Json.Writer
import ContactMigration.Json.Reader
import ContactMigration.Json.Decode
import ContactMigration.Decimal.Shortest
import ContactMigration.Decimal.Nearest
import ContactMigration.Decimal.Layout
import ContactMigration.Text.Escapes
import ContactMigration.Text.Quoted
import ContactMigration.Text.Blank
import ContactMigration.Text.Truncate
import ContactMigration.Calendar.Date
import ContactMigration.Calendar.Parse
import ContactMigration.Record.Basic
import ContactMigration.Record.Form
import ContactMigration.Record.Decode
import ContactMigration.Record.Encode
import ContactMigration.Record.SourceIds
import ContactMigration.MigrationError
import ContactMigration.Migration.IdSpace
import ContactMigration.Store.Row
import ContactMigration.Store.Basic
import ContactMigration.Store.Encode
import ContactMigration.Store.Aggregate
import ContactMigration.Migration.Work
import ContactMigration.Migration.Extract
import ContactMigration.Migration.Guard
import ContactMigration.Migration.Report
import ContactMigration.Migration.Migrator
import ContactMigration.Migration.Encode
import ContactMigration.Yaml.Token
import ContactMigration.Yaml.Token.Scalar
import ContactMigration.Yaml.Token.Stream
import ContactMigration.Yaml.Node
import ContactMigration.Yaml.Document
import ContactMigration.Yaml.Scalar
import ContactMigration.Yaml.Decode
import ContactMigration.Settings.Path
import ContactMigration.Settings.Config
import ContactMigration.Shell.Similarity
import ContactMigration.Shell.Grammar
import ContactMigration.Shell.Complaint
import ContactMigration.Shell.Reading
import ContactMigration.Shell.Tool
import ContactMigration.Shell.Output
import ContactMigration.Shell.Files
import ContactMigration.Shell.Workspace
import ContactMigration.Shell.Run
import ContactMigration.Store.Snapshot
import ContactMigration.Main
import ContactMigration.Proofs.Work
import ContactMigration.Proofs.Transaction
import ContactMigration.Proofs.AllOrNothing
import ContactMigration.Proofs.Table
import ContactMigration.Proofs.Guard
import ContactMigration.Proofs.Saving
import ContactMigration.Proofs.Readback
import ContactMigration.Proofs.Reachable
import ContactMigration.Proofs.Agreement
import ContactMigration.Proofs.Correlation
import ContactMigration.Proofs.Replacement
import ContactMigration.Proofs.Integrity
import ContactMigration.Proofs.Exhaustion
import ContactMigration.Proofs.Sequences
import ContactMigration.Proofs.Independence
import ContactMigration.Proofs.IdSpace
import ContactMigration.Proofs.Removal
import ContactMigration.Proofs.Locks
import ContactMigration.Proofs.Reading
import ContactMigration.Proofs.CalendarText
import ContactMigration.Proofs.Documents
import ContactMigration.Proofs.Forms
import ContactMigration.Proofs.Records
import ContactMigration.Proofs.JsonText
import ContactMigration.Proofs.Decoded
import ContactMigration.Proofs.RoundTrip
import ContactMigration.Proofs.Truncation
import ContactMigration.Proofs.Loops
import ContactMigration.Proofs.NestedStages
import ContactMigration.Proofs.Layering
import ContactMigration.Proofs.Opening
import ContactMigration.Proofs.Seeding
