import MailReconciler.Account.Basic
import MailReconciler.Address.Internet
import MailReconciler.Address.Socket
import MailReconciler.Breaker.Basic
import MailReconciler.Breaker.Failure
import MailReconciler.Breaker.Session
import MailReconciler.Client.Call
import MailReconciler.Client.Guarded
import MailReconciler.CommandLine.Basic
import MailReconciler.CommandLine.Reading
import MailReconciler.Config.Basic
import MailReconciler.Config.Check
import MailReconciler.Config.Credentials
import MailReconciler.Config.Document
import MailReconciler.Config.Environment
import MailReconciler.Config.Loading
import MailReconciler.Decimal.Binary
import MailReconciler.Decimal.Bounded
import MailReconciler.Decimal.Layout
import MailReconciler.Decimal.Reading
import MailReconciler.Decimal.Shortest
import MailReconciler.Duration
import MailReconciler.Failure.Api
import MailReconciler.Failure.Call
import MailReconciler.Failure.Plain
import MailReconciler.Failure.Report
import MailReconciler.Failure.Setup
import MailReconciler.Http.Carrier
import MailReconciler.Http.Endpoint
import MailReconciler.Http.Exchange
import MailReconciler.Http.Status
import MailReconciler.Http.Transport
import MailReconciler.Json.Basic
import MailReconciler.Json.Complaint
import MailReconciler.Json.Decoding
import MailReconciler.Json.Number
import MailReconciler.Json.Reading
import MailReconciler.Json.Writing
import MailReconciler.Lifecycle.Basic
import MailReconciler.Lifecycle.Desired
import MailReconciler.Main
import MailReconciler.Metrics.Exposition
import MailReconciler.Metrics.Recording
import MailReconciler.Metrics.Sample
import MailReconciler.Provider.Basic
import MailReconciler.Provider.Page
import MailReconciler.Provider.Sighting
import MailReconciler.Random
import MailReconciler.Resource.Credential
import MailReconciler.Resource.Domain
import MailReconciler.Resource.Form
import MailReconciler.Resource.MailingList
import MailReconciler.Resource.Route
import MailReconciler.Resource.Suppression
import MailReconciler.Resource.Template
import MailReconciler.Resource.Vocabulary
import MailReconciler.Resource.Webhook
import MailReconciler.Retry.Classification
import MailReconciler.Retry.Failure
import MailReconciler.Retry.Policy
import MailReconciler.Retry.Run
import MailReconciler.Scope.Basic
import MailReconciler.Scope.Tree
import MailReconciler.Table
import MailReconciler.Text.Base64
import MailReconciler.Text.Blank
import MailReconciler.Text.CaseTable
import MailReconciler.Text.Lowercase
import MailReconciler.Text.Percent
import MailReconciler.Text.Phrase
import MailReconciler.Text.Quoted
import MailReconciler.Text.Split
import MailReconciler.Text.Utf8
import MailReconciler.Toml.Quoted
import MailReconciler.Toml.Reading
import MailReconciler.Toml.Scalar
import MailReconciler.Toml.Table
import MailReconciler.Url.Basic
import MailReconciler.Url.Domain
import MailReconciler.Url.International
import MailReconciler.Word
import MailReconciler.Work.Basic
import MailReconciler.Work.Order
import MailReconciler.Work.Pool
import MailReconciler.Work.Scoped
import MailReconciler.Proofs.Breaker.Invariant
import MailReconciler.Proofs.Breaker.History
import MailReconciler.Proofs.Breaker.Probation
import MailReconciler.Proofs.Breaker.Call
import MailReconciler.Proofs.Breaker.Window
import MailReconciler.Proofs.Breaker.Crowd
import MailReconciler.Proofs.Work.Ending
import MailReconciler.Proofs.Work.Running
import MailReconciler.Proofs.Retry.Steps
import MailReconciler.Proofs.Retry.Plan
import MailReconciler.Proofs.Retry.Passing
import MailReconciler.Proofs.Client.Deadline
import MailReconciler.Proofs.Breaker.Ledger
import MailReconciler.Proofs.Breaker.Log
import MailReconciler.Proofs.Breaker.Chronicle
import MailReconciler.Proofs.Client.Rejection
import MailReconciler.Proofs.Work.Amid
import MailReconciler.Proofs.Client.Outage
import MailReconciler.Proofs.Client.Exhaustion
import MailReconciler.Proofs.Account.Answer
import MailReconciler.Proofs.Account.Place
import MailReconciler.Proofs.Account.Contents
import MailReconciler.Proofs.Account.Carrying
import MailReconciler.Proofs.Account.Order
import MailReconciler.Proofs.Work.Turns
import MailReconciler.Proofs.Client.Effect
import MailReconciler.Proofs.Lifecycle.Calls
import MailReconciler.Proofs.Lifecycle.Verdict
import MailReconciler.Proofs.Lifecycle.Visit
import MailReconciler.Proofs.Lifecycle.Absence
import MailReconciler.Proofs.Lifecycle.Making
import MailReconciler.Proofs.Lifecycle.Changing
import MailReconciler.Proofs.Client.Refusal
import MailReconciler.Proofs.Work.Spending
import MailReconciler.Proofs.Client.Spending
import MailReconciler.Proofs.Http.Requests
import MailReconciler.Proofs.Client.LastReply
import MailReconciler.Proofs.Http.Gateway
import MailReconciler.Proofs.Json.Grammar
import MailReconciler.Proofs.Json.Strings
import MailReconciler.Proofs.Json.Numerals
import MailReconciler.Proofs.Json.Values
import MailReconciler.Proofs.Http.Acknowledgement
import MailReconciler.Proofs.Text.Encoding
import MailReconciler.Proofs.Text.Segments
import MailReconciler.Proofs.Http.Targets
import MailReconciler.Proofs.Http.Carrying
import MailReconciler.Proofs.Http.Deletions
import MailReconciler.Proofs.Retry.Backoff
import MailReconciler.Proofs.Retry.Waiting
import MailReconciler.Proofs.Retry.Samples
import MailReconciler.Proofs.Scope.Lineage
import MailReconciler.Proofs.Scope.Waiting
import MailReconciler.Proofs.Lifecycle.Validation
import MailReconciler.Proofs.Json.Writing
import MailReconciler.Proofs.Resource.Vocabulary
import MailReconciler.Proofs.Resource.Wire
import MailReconciler.Proofs.Resource.Forms
import MailReconciler.Proofs.Text.Letters
import MailReconciler.Proofs.Config.Precedence
import MailReconciler.Proofs.Text.Phrases
import MailReconciler.Proofs.Config.Wiring
import MailReconciler.Proofs.Address.Internet
import MailReconciler.Proofs.Address.Socket
import MailReconciler.Proofs.Json.Doubles
import MailReconciler.Proofs.Config.RoundTrip
import MailReconciler.Proofs.Work.Pooling
import MailReconciler.Proofs.Lifecycle.Sightings
import MailReconciler.Proofs.Retry.Building
import MailReconciler.Proofs.Resource.Logins
import MailReconciler.Proofs.Account.InPlace
import MailReconciler.Proofs.Account.Counting
import MailReconciler.Proofs.Http.Listing
import MailReconciler.Proofs.Account.Naming
import MailReconciler.Proofs.Metrics.Agreement
import MailReconciler.Proofs.Metrics.Emissions
import MailReconciler.Proofs.Work.Images
import MailReconciler.Proofs.Client.Images
import MailReconciler.Proofs.Account.Secrets
import MailReconciler.Proofs.Lifecycle.Secrets
