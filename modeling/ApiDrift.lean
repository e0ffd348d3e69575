import ApiDrift.Text.Blank
import ApiDrift.Text.Case
import ApiDrift.Text.Quoted
import ApiDrift.Text.Pattern
import ApiDrift.Number.Numeral
import ApiDrift.Json.Failure
import ApiDrift.Json.Tree
import ApiDrift.Json.Record
import ApiDrift.Json.Writer
import ApiDrift.Tag.Literal
import ApiDrift.Tag.Counted
import ApiDrift.Tag
import ApiDrift.Request
import ApiDrift.Anomaly
import ApiDrift.Detection.Deviation
import ApiDrift.Suggestion.Closest
import ApiDrift.Settings.Environment
import ApiDrift.Report.ModelRules
import ApiDrift.Report.RequestRules
import ApiDrift.Ingestion
import ApiDrift.Detection
import ApiDrift.Wire.Model
import ApiDrift.Wire.Request
import ApiDrift.Wire.Anomaly
import ApiDrift.Wire.Report
import ApiDrift.Wire.Settings
import ApiDrift.Wire.Health
import ApiDrift.Session
import ApiDrift.Http.Service
import ApiDrift.Proofs.Cache.Views
import ApiDrift.Proofs.Store.Batch
import ApiDrift.Proofs.Traffic
import ApiDrift.Proofs.Traffic.Flights
import ApiDrift.Proofs.Traffic.Intakes
import ApiDrift.Proofs.Traffic.Coherence
import ApiDrift.Proofs.Traffic.Views
import ApiDrift.Proofs.Traffic.Freshness
import ApiDrift.Proofs.System.History
import ApiDrift.Proofs.Report.Accepted
import ApiDrift.Proofs.Report.Breaches
import ApiDrift.Proofs.Report.Errors
import ApiDrift.Proofs.Endpoint.Identity
import ApiDrift.Proofs.Tag.Nesting
import ApiDrift.Proofs.Text.Cut
import ApiDrift.Proofs.Text.Pattern
import ApiDrift.Proofs.Tag.Address
import ApiDrift.Proofs.Tag.Grammar
import ApiDrift.Proofs.Tag.Parts
import ApiDrift.Proofs.Tag.Traversal
import ApiDrift.Proofs.Tag.Exactness
import ApiDrift.Proofs.Tag.Calendar
import ApiDrift.Proofs.Tag.Partition
import ApiDrift.Proofs.Traffic.Serial
import ApiDrift.Proofs.Cache.Recency
import ApiDrift.Proofs.Cache.Presence
import ApiDrift.Proofs.Traffic.SingleFlight
import ApiDrift.Proofs.Cache.Tally
import ApiDrift.Proofs.Cache.Fresh
import ApiDrift.Proofs.System.Visits
import ApiDrift.Proofs.System.Stored
import ApiDrift.Proofs.Traffic.Tally
import ApiDrift.Proofs.Traffic.Coalescing
import ApiDrift.Proofs.Traffic.Landing
import ApiDrift.Proofs.Cache.Stock
import ApiDrift.Proofs.Traffic.Trace
import ApiDrift.Proofs.Traffic.Ledger
import ApiDrift.Proofs.Cache.Loading
import ApiDrift.Proofs.Traffic.LoneLoad
import ApiDrift.Proofs.Traffic.Abandoned
import ApiDrift.Proofs.Number.Text
import ApiDrift.Proofs.Number.ReadBack
import ApiDrift.Proofs.Number.Distinct
import ApiDrift.Proofs.Tag.Refusal
import ApiDrift.Proofs.Detection.Rendering
import ApiDrift.Proofs.Detection.Agreement
import ApiDrift.Proofs.Detection.Unambiguous
import ApiDrift.Proofs.Detection.Deviations
import ApiDrift.Proofs.Json.Record
import ApiDrift.Proofs.Json.Nesting
import ApiDrift.Proofs.Wire.RoundTrip
import ApiDrift.Proofs.Wire.Spelling
import ApiDrift.Proofs.Report.Duplicates
import ApiDrift.Proofs.Ingestion.Effect
import ApiDrift.Proofs.Ingestion.Refusal
import ApiDrift.Proofs.Http.Failures
import ApiDrift.Proofs.Http.Exchanges
import ApiDrift.Proofs.Text.Case
import ApiDrift.Proofs.Suggestion.Edits
import ApiDrift.Proofs.Suggestion.Table
import ApiDrift.Proofs.Suggestion.Choice
import ApiDrift.Proofs.Suggestion.Threshold
import ApiDrift.Proofs.Tag.Segments
import ApiDrift.Proofs.Tag.Counting
import ApiDrift.Proofs.Tag.Balance
import ApiDrift.Proofs.Tag.Depth
import ApiDrift.Proofs.Tag.Spelling
import ApiDrift.Proofs.Settings.Resolution
import ApiDrift.Proofs.Settings.Isolation
