import QueryGate.Access.Stored
import QueryGate.Config
import QueryGate.Database.Canned
import QueryGate.Query.Compiled
import QueryGate.Schema.Payload
import QueryGate.Proofs.Schema.Tree
import QueryGate.Proofs.Database.Answers
import QueryGate.Proofs.Query.Related
import QueryGate.Proofs.Query.Keys
import QueryGate.Proofs.Database.Tables
import QueryGate.Proofs.Query.Batch
import QueryGate.Proofs.Query.Visibility
import QueryGate.Proofs.Schema.View
import QueryGate.Proofs.Query.HiddenSchema
import QueryGate.Proofs.Sql.Injection
import QueryGate.Proofs.Filter.Screening
import QueryGate.Proofs.Query.Gate
import QueryGate.Proofs.Query.Matching
import QueryGate.Proofs.Sql.Literal
import QueryGate.Proofs.Sql.Phrase
import QueryGate.Proofs.Sql.Legible
import QueryGate.Proofs.Text.Form
import QueryGate.Proofs.Filter.Key
import QueryGate.Proofs.Filter.Params
import QueryGate.Proofs.Filter.Written
import QueryGate.Proofs.Filter.Origin
import QueryGate.Proofs.Filter.Ranking
import QueryGate.Proofs.Filter.Ordering
import QueryGate.Proofs.Filter.Asking
import QueryGate.Proofs.Named
import QueryGate.Proofs.Query.Frame
import QueryGate.Proofs.Query.Independence
import QueryGate.Proofs.Database.Outage
import QueryGate.Proofs.Query.Isolation
import QueryGate.Proofs.Filter.Fitting
import QueryGate.Proofs.Schema.Kind
import QueryGate.Proofs.Query.Typing
import QueryGate.Proofs.Query.Traceless
import QueryGate.Proofs.Query.Reordering
import QueryGate.Proofs.Query.Window
import QueryGate.Proofs.Query.Grouping
import QueryGate.Proofs.Query.Bounded
import QueryGate.Proofs.Schema.WriteGate
import QueryGate.Proofs.Filter.Admission
import QueryGate.Proofs.Filter.Narrowing
import QueryGate.Proofs.Json.Numeral
import QueryGate.Proofs.Schema.Outcome
import QueryGate.Proofs.Schema.Spelling
import QueryGate.Proofs.Sql.Restriction
import QueryGate.Proofs.Query.Turn
import QueryGate.Proofs.Query.Owners
import QueryGate.Proofs.Query.Alternatives
import QueryGate.Proofs.Query.Signedness
import QueryGate.Proofs.Sql.Agreement
import QueryGate.Proofs.Filter.Reporting
import QueryGate.Proofs.Filter.Grammar
import QueryGate.Proofs.Filter.Encoding
import QueryGate.Proofs.Filter.Recording
import QueryGate.Proofs.Number.FirstFault
import QueryGate.Proofs.Schema.Integral
import QueryGate.Proofs.Calendar.Echo
import QueryGate.Proofs.Calendar.Proper
import QueryGate.Proofs.Calendar.Canonical
import QueryGate.Proofs.Schema.Instant
