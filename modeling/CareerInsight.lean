import CareerInsight.Binary64.Basic
import CareerInsight.Binary64.Shortest
import CareerInsight.Binary64.Text
import CareerInsight.Keyed
import CareerInsight.Json.Value
import CareerInsight.Json.Print
import CareerInsight.Json.Read
import CareerInsight.Text.CodeRanges
import CareerInsight.Text.Blank
import CareerInsight.Text.Word
import CareerInsight.Domain
import CareerInsight.Field.Spec
import CareerInsight.Field.Value
import CareerInsight.Validation.Field
import CareerInsight.Validation.Record
import CareerInsight.Composite.Formula
import CareerInsight.Gateway.Request
import CareerInsight.Policy.Prompt
import CareerInsight.Policy.Basic
import CareerInsight.Policy.Builtin
import CareerInsight.Insight.Scored
import CareerInsight.Insight.Invariant
import CareerInsight.Text.Uuid
import CareerInsight.Insight.Persistable
import CareerInsight.Text.Pattern
import CareerInsight.Context.Sanitize
import CareerInsight.Context.Render
import CareerInsight.Text.Escaped
import CareerInsight.Text.Header
import CareerInsight.Json.Expect
import CareerInsight.Gateway.Reply
import CareerInsight.Service.Config
import CareerInsight.Gateway.Client
import CareerInsight.Service.Error
import CareerInsight.Json.Skip
import CareerInsight.Service.Request
import CareerInsight.Service.Handler
import CareerInsight.Service.Target
import CareerInsight.Service.Router
import CareerInsight.Proofs.Binary64.Order
import CareerInsight.Proofs.Binary64.Integer
import CareerInsight.Proofs.Validation.Repair
import CareerInsight.Proofs.Validation.Ordering
import CareerInsight.Proofs.Composite.Score
import CareerInsight.Proofs.Policy.WellFormed
import CareerInsight.Proofs.Insight.Check
import CareerInsight.Proofs.Service.Generate
import CareerInsight.Proofs.Context.Markers
import CareerInsight.Proofs.Validation.Reads
import CareerInsight.Proofs.Binary64.Exact
import CareerInsight.Proofs.Insight.Shape
import CareerInsight.Proofs.Validation.Changes
import CareerInsight.Proofs.Validation.Revalidate
import CareerInsight.Proofs.Keyed.Ordered
import CareerInsight.Proofs.Binary64.Extended
import CareerInsight.Proofs.Validation.Groups
import CareerInsight.Proofs.Context.Passes
import CareerInsight.Proofs.Validation.Floor
import CareerInsight.Proofs.Context.Clean
import CareerInsight.Proofs.Binary64.Rounding
import CareerInsight.Proofs.Composite.Monotone
import CareerInsight.Proofs.Validation.TextList
import CareerInsight.Proofs.Binary64.Convert
import CareerInsight.Proofs.Validation.Clamp
import CareerInsight.Proofs.Gateway.Fences
import CareerInsight.Proofs.Context.Emptiness
import CareerInsight.Proofs.Gateway.Retry
import CareerInsight.Proofs.Context.Report
import CareerInsight.Proofs.Validation.Nested
