import CardService.Audit
import CardService.Backend.Document
import CardService.Backend.Field
import CardService.Backend.Listing
import CardService.Backend.Operation
import CardService.Backend.Resource
import CardService.Backend.Response
import CardService.Card.Basic
import CardService.Card.Record
import CardService.Card.Request
import CardService.Client
import CardService.Config.Basic
import CardService.Config.Fault
import CardService.Config.File
import CardService.Config.OfToml
import CardService.Config.Validity
import CardService.CurrencyAmount
import CardService.Failure
import CardService.FundingSource.Basic
import CardService.FundingSource.Record
import CardService.FundingSource.Request
import CardService.Identifier
import CardService.Json.Basic
import CardService.Json.Reader
import CardService.Json.Scan
import CardService.Json.Skip
import CardService.Json.Writer
import CardService.Keyword
import CardService.Number.Binary64
import CardService.Number.Decimal
import CardService.Number.Double
import CardService.Number.DoubleText
import CardService.Page
import CardService.Payload.ClientConfiguration
import CardService.Payload.Envelope
import CardService.Payload.Interaction
import CardService.Payload.Provider
import CardService.Payload.Provisioning
import CardService.Payload.Schema
import CardService.Payload.Submission
import CardService.Proofs.Json.Reading
import CardService.Proofs.Json.Tokens
import CardService.Proofs.Number.Rounding
import CardService.Proofs.Payload.Classification
import CardService.Proofs.Payload.Opening
import CardService.Proofs.Payload.Resolving
import CardService.Proofs.Payload.RoundTrip
import CardService.Proofs.Subscription.Cancellation
import CardService.Proofs.Subscription.Course
import CardService.Proofs.Subscription.Delivery
import CardService.Proofs.Subscription.Errand
import CardService.Proofs.Subscription.Isolation
import CardService.Proofs.Subscription.Operations
import CardService.Proofs.Subscription.Refusal
import CardService.Proofs.Subscription.Registration
import CardService.Proofs.Subscription.Roster
import CardService.Proofs.Text.Base64Reading
import CardService.Proofs.Text.Utf8Decoding
import CardService.Proofs.Text.Utf8Order
import CardService.Record.Mismatch
import CardService.Record.OfJson
import CardService.Record.OfText
import CardService.Record.Shape
import CardService.ServiceConfig.Basic
import CardService.ServiceConfig.Record
import CardService.Subscription.Channel
import CardService.Subscription.Hub
import CardService.Subscription.Roster
import CardService.Subscription.Update
import CardService.Text.Base64
import CardService.Text.Blank
import CardService.Text.CodeTable
import CardService.Text.Hex
import CardService.Text.Quoted
import CardService.Text.Runs
import CardService.Text.Split
import CardService.Text.Unprintable
import CardService.Text.Utf8
import CardService.Timestamp
import CardService.Toml.Reader
import CardService.Toml.Scalar
import CardService.Toml.Scan
import CardService.Toml.Value
import CardService.Transaction.Basic
import CardService.Transaction.Record
import CardService.Transaction.Request
import CardService.Url.Address
import CardService.Url.Basic
import CardService.Url.CompositeTable
import CardService.Url.Composition
import CardService.Url.Domain
import CardService.Url.Punycode
import CardService.Url.ReplacementTable
import CardService.Url.SignTable
import CardService.Url.Symbol
import CardService.View.Basic
import CardService.View.Config
import CardService.View.Entity
import CardService.View.Notice
import CardService.View.Payload
import CardService.Proofs.Payload.Interaction
import CardService.Proofs.Backend.Answers
import CardService.Proofs.Client.Fetching
import CardService.Proofs.Client.Gate
import CardService.Proofs.Backend.Failures
import CardService.Proofs.Subscription.Disclosure
import CardService.Proofs.Outcome
import CardService.Proofs.Subscription.Agreement
import CardService.Proofs.Record.ReadingBack
import CardService.Proofs.Record.Stability
import CardService.Proofs.Backend.NormalForm
import CardService.Proofs.Backend.Field
import CardService.Proofs.Backend.Components
import CardService.Proofs.Backend.Faithfulness
import CardService.Proofs.Number.Operations
import CardService.Proofs.Timestamp.WholeMilliseconds
import CardService.Proofs.Json.Members
import CardService.Proofs.Json.Sameness
import CardService.Proofs.Payload.ClientConfiguration
import CardService.Proofs.Payload.Versions
import CardService.Proofs.Payload.Submission
import CardService.Proofs.Backend.Requests
import CardService.Proofs.Payload.Acceptance
import CardService.Proofs.Payload.Precedence
import CardService.Proofs.Subscription.Connection
import CardService.Proofs.Subscription.Queueing
import CardService.Proofs.Payload.Reports
import CardService.Proofs.Payload.NamedFields
import CardService.Proofs.Backend.ErrorTypes
import CardService.Proofs.Json.Printable
import CardService.Proofs.Text.Lines
import CardService.Proofs.Audit.Lines
import CardService.Proofs.Number.Order
import CardService.Proofs.Timestamp.RoundTrip
import CardService.Proofs.Timestamp.Order
import CardService.Proofs.Text.Trimming
import CardService.Proofs.Config.Validity
import CardService.Proofs.Client.Paging
import CardService.Proofs.Payload.Discriminants
import CardService.Proofs.Payload.Tags
