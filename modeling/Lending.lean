import Lending.Policy.Catalogue
import Lending.Service.Exchange
import Lending.Json.Body
import Lending.Proofs.Rules.Declaration
import Lending.Proofs.Rules.Selection
import Lending.Proofs.Text.Splitting
import Lending.Proofs.Result
import Lending.Proofs.Rules.Grammar
import Lending.Proofs.Rules.Acceptance
import Lending.Proofs.Rules.RoundTrip
import Lending.Proofs.Reading
import Lending.Proofs.Reply
import Lending.Proofs.Storage
import Lending.Proofs.FirstOrder
import Lending.Proofs.Rules.Existence
import Lending.Proofs.Policy.Lookup
import Lending.Proofs.Calendar.Span
import Lending.Proofs.Calendar.FixedOffset
import Lending.Proofs.Calendar.Days
import Lending.Proofs.Number.Decimal
import Lending.Proofs.Number.Exact
import Lending.Proofs.Overdue
import Lending.Proofs.Fine
import Lending.Proofs.FineAmount
import Lending.Proofs.Policy.Cache
import Lending.Proofs.Policy.SideBySide
import Lending.Proofs.Policy.DueDate
import Lending.Proofs.Period
import Lending.Proofs.Schedule
import Lending.Proofs.Policy.Page
import Lending.Proofs.Storage.Item
import Lending.Proofs.Service.Exchange
import Lending.Proofs.Service.Routes
import Lending.Proofs.Service.Endpoint
import Lending.Proofs.Rules.References
import Lending.Proofs.Rules.FirstFault
import Lending.Proofs.Rules.Meaning
import Lending.Proofs.Rules.Wildcards
import Lending.Proofs.Rules.Comments
import Lending.Proofs.Rules.Splitting
import Lending.Proofs.Addition
import Lending.Proofs.Opening
import Lending.Proofs.Calendar.Timestamp
import Lending.Proofs.Storage.Window
import Lending.Proofs.WrittenSchedule
import Lending.Proofs.FineLimit
import Lending.Proofs.Rules.Priority
import Lending.Proofs.Storage.Counting
import Lending.Proofs.Storage.Outcomes
import Lending.Proofs.Interval
