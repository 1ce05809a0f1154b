import SqlBridge.Log.Configuration
import SqlBridge.Main
import SqlBridge.Proofs.Adapter.Answering
import SqlBridge.Proofs.Adapter.Batch
import SqlBridge.Proofs.Adapter.Conforms
import SqlBridge.Proofs.Adapter.Course
import SqlBridge.Proofs.Adapter.Discipline
import SqlBridge.Proofs.Adapter.Event
import SqlBridge.Proofs.Adapter.Image
import SqlBridge.Proofs.Adapter.Insertion
import SqlBridge.Proofs.Adapter.Key
import SqlBridge.Proofs.Adapter.Provisioning
import SqlBridge.Proofs.Adapter.ReadBack
import SqlBridge.Proofs.Adapter.Refusal
import SqlBridge.Proofs.Adapter.Report
import SqlBridge.Proofs.Adapter.SameCalls
import SqlBridge.Proofs.Adapter.SeedFailure
import SqlBridge.Proofs.Adapter.SeedRace
import SqlBridge.Proofs.Adapter.Sending
import SqlBridge.Proofs.Adapter.Setting
import SqlBridge.Proofs.Adapter.Stage
import SqlBridge.Proofs.Adapter.Statements
import SqlBridge.Proofs.Adapter.Stored
import SqlBridge.Proofs.Adapter.Unprovisioned
import SqlBridge.Proofs.CommandLine.Documents
import SqlBridge.Proofs.CommandLine.Provisioning
import SqlBridge.Proofs.CommandLine.Reading
import SqlBridge.Proofs.CommandLine.Secrecy
import SqlBridge.Proofs.Document.Ascii
import SqlBridge.Proofs.Document.Kept
import SqlBridge.Proofs.Document.Number
import SqlBridge.Proofs.Document.RoundTrip
import SqlBridge.Proofs.Document.Text
import SqlBridge.Proofs.Log.Line
import SqlBridge.Proofs.Outcome
import SqlBridge.Proofs.Query.Aggregate
import SqlBridge.Proofs.Query.Alignment
import SqlBridge.Proofs.Query.Change
import SqlBridge.Proofs.Query.Condition
import SqlBridge.Proofs.Query.Fold
import SqlBridge.Proofs.Query.Levels
import SqlBridge.Proofs.Query.Removal
import SqlBridge.Proofs.Query.Restriction
import SqlBridge.Proofs.Query.Rewording
import SqlBridge.Proofs.Query.Rows
import SqlBridge.Proofs.Query.SameShape
import SqlBridge.Proofs.Registry.Calls
import SqlBridge.Proofs.Registry.Confluence
import SqlBridge.Proofs.Registry.Knowledge
import SqlBridge.Proofs.Remote.Catalog
import SqlBridge.Proofs.Remote.Exchange
import SqlBridge.Proofs.Remote.Secrecy
import SqlBridge.Proofs.Remote.Standalone
import SqlBridge.Proofs.Remote.Trace
import SqlBridge.Proofs.Report
import SqlBridge.Proofs.Schema.Column
import SqlBridge.Proofs.Schema.Declaration
import SqlBridge.Proofs.Schema.SnakeCase
import SqlBridge.Proofs.Settings.Token
import SqlBridge.Proofs.Sql.Binding
import SqlBridge.Proofs.Sql.Clause
import SqlBridge.Proofs.Sql.Engine
import SqlBridge.Proofs.Sql.Injection
import SqlBridge.Proofs.Sql.Insertion
import SqlBridge.Proofs.Sql.Name
import SqlBridge.Proofs.Sql.Parameter
import SqlBridge.Proofs.Sql.Placeholder
import SqlBridge.Proofs.Sql.SameText
import SqlBridge.Proofs.Sql.Token
import SqlBridge.Proofs.Sql.Verb
import SqlBridge.Proofs.TableSet
import SqlBridge.Proofs.Task.History
import SqlBridge.Proofs.Task.Pair
import SqlBridge.Proofs.Task.Reach
import SqlBridge.Proofs.Task.Run
import SqlBridge.Proofs.Text.Lower
import SqlBridge.Registry.Session
import SqlBridge.Timing
