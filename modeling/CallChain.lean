import CallChain.Call.Body
import CallChain.Call.Context
import CallChain.Call.Options
import CallChain.Call.Pool
import CallChain.Call.Reply
import CallChain.Call.Skipper
import CallChain.Chain.Catalog
import CallChain.Chain.Exchange
import CallChain.Chain.Invocation
import CallChain.Chain.Stage
import CallChain.Client.Basic
import CallChain.Client.Builder
import CallChain.Client.Request
import CallChain.Client.Session
import CallChain.Config.Client
import CallChain.Config.Error
import CallChain.Config.Telemetry
import CallChain.Data.MapPool
import CallChain.Data.SortedMap
import CallChain.Data.ValueMap
import CallChain.Decimal.Binary64
import CallChain.Decimal.Nearest
import CallChain.Decimal.Shortest
import CallChain.Duration
import CallChain.Fault.Aggregate
import CallChain.Fault.Code
import CallChain.Fault.Frame
import CallChain.Fault.History
import CallChain.Fault.Registration
import CallChain.Fault.Registry
import CallChain.Json.Access
import CallChain.Json.Decode
import CallChain.Json.Document
import CallChain.Json.Numeral
import CallChain.Json.Printer
import CallChain.Json.Value
import CallChain.Stages.AccessLog
import CallChain.Stages.CallSpan
import CallChain.Stages.CertificateGuard
import CallChain.Stages.Recovery
import CallChain.Stages.RequestId
import CallChain.Stages.Scripted
import CallChain.Stages.StatusCodeGate
import CallChain.Stages.StatusVerdict
import CallChain.Status.CallStatus
import CallChain.Text.AsciiCase
import CallChain.Text.Blank
import CallChain.Text.Bytes
import CallChain.Text.Path
import CallChain.Text.Quoted
import CallChain.Text.Split
import CallChain.Text.Unprintable
import CallChain.Tls.Base64
import CallChain.Tls.Certificate
import CallChain.Tls.Curve
import CallChain.Tls.Der
import CallChain.Tls.Digest
import CallChain.Tls.Edwards
import CallChain.Tls.Identity
import CallChain.Tls.Modular
import CallChain.Tls.Pem
import CallChain.Tls.PrivateKey
import CallChain.Tls.Settings
import CallChain.Toml.Document
import CallChain.Toml.Quoted
import CallChain.Toml.Record
import CallChain.Toml.Scalar
import CallChain.Toml.Scanner
import CallChain.Toml.Value
import CallChain.Transport.Connection
import CallChain.Transport.Http
import CallChain.Transport.Message
import CallChain.Transport.Scripted
import CallChain.Unicode.CombiningClass
import CallChain.Unicode.Composition
import CallChain.Unicode.Direction
import CallChain.Unicode.Joining
import CallChain.Unicode.Mark
import CallChain.Unicode.Normalization
import CallChain.Unicode.RunTable
import CallChain.Url.Basic
import CallChain.Url.Domain
import CallChain.Url.DomainMapping
import CallChain.Url.Form
import CallChain.Url.Host
import CallChain.Url.Percent
import CallChain.Url.Punycode
import CallChain.Url.Reading
import CallChain.Work.Attempt
import CallChain.Work.Basic
import CallChain.Work.Lock
import CallChain.Work.Run
import CallChain.Work.World
import CallChain.Proofs.Call.Bulk
import CallChain.Proofs.Call.CutOff
import CallChain.Proofs.Call.Ends
import CallChain.Proofs.Call.Options
import CallChain.Proofs.Call.Place
import CallChain.Proofs.Call.Pool
import CallChain.Proofs.Call.Repetition
import CallChain.Proofs.Call.Stop
import CallChain.Proofs.Chain.Builtin
import CallChain.Proofs.Chain.Composition
import CallChain.Proofs.Chain.Course
import CallChain.Proofs.Chain.Entering
import CallChain.Proofs.Chain.FailureHistory
import CallChain.Proofs.Chain.Fitted
import CallChain.Proofs.Chain.Guarded
import CallChain.Proofs.Chain.Leaving
import CallChain.Proofs.Chain.Override
import CallChain.Proofs.Chain.Panic
import CallChain.Proofs.Chain.Passage
import CallChain.Proofs.Chain.Place
import CallChain.Proofs.Chain.Reordering
import CallChain.Proofs.Chain.Reply
import CallChain.Proofs.Chain.RequestId
import CallChain.Proofs.Client.BodyStatus
import CallChain.Proofs.Client.Building
import CallChain.Proofs.Client.Description
import CallChain.Proofs.Client.EmptyQuery
import CallChain.Proofs.Client.Guard
import CallChain.Proofs.Client.Handler
import CallChain.Proofs.Client.Invoke
import CallChain.Proofs.Client.Limits
import CallChain.Proofs.Client.Panic
import CallChain.Proofs.Client.Query
import CallChain.Proofs.Client.Recasing
import CallChain.Proofs.Client.Reordering
import CallChain.Proofs.Client.Reply
import CallChain.Proofs.Client.RequestId
import CallChain.Proofs.Client.Resolved
import CallChain.Proofs.Client.Response
import CallChain.Proofs.Client.SendLimit
import CallChain.Proofs.Client.Session
import CallChain.Proofs.Client.Skipping
import CallChain.Proofs.Client.Timing
import CallChain.Proofs.Client.Verdict
import CallChain.Proofs.Client.Views
import CallChain.Proofs.Config.Client
import CallChain.Proofs.Config.Credentials
import CallChain.Proofs.Config.Securing
import CallChain.Proofs.Connection.Interleaving
import CallChain.Proofs.Connection.Invariant
import CallChain.Proofs.Connection.Position
import CallChain.Proofs.Connection.Reachable
import CallChain.Proofs.Connection.Safety
import CallChain.Proofs.Connection.Step
import CallChain.Proofs.Connection.Taking
import CallChain.Proofs.Connection.Timing
import CallChain.Proofs.Connection.Undisturbed
import CallChain.Proofs.Data.MapPool
import CallChain.Proofs.Data.SortedMap
import CallChain.Proofs.Data.ValueChange
import CallChain.Proofs.Data.ValueMap
import CallChain.Proofs.Decimal.Rounding
import CallChain.Proofs.Decimal.Shortest
import CallChain.Proofs.Exchange.Alike
import CallChain.Proofs.Exchange.Course
import CallChain.Proofs.Exchange.Draws
import CallChain.Proofs.Exchange.Fetch
import CallChain.Proofs.Exchange.Handed
import CallChain.Proofs.Exchange.Outcome
import CallChain.Proofs.Exchange.Panic
import CallChain.Proofs.Exchange.Step
import CallChain.Proofs.Exchange.Timing
import CallChain.Proofs.Fault.Aggregate
import CallChain.Proofs.Fault.Detail
import CallChain.Proofs.Fault.Frame
import CallChain.Proofs.Fault.History
import CallChain.Proofs.Fault.Registration
import CallChain.Proofs.Fault.Registry
import CallChain.Proofs.Json.Agreement
import CallChain.Proofs.Json.Decoding
import CallChain.Proofs.Json.Numerals
import CallChain.Proofs.Json.Printed
import CallChain.Proofs.Json.RoundTrip
import CallChain.Proofs.Json.Text
import CallChain.Proofs.Status.Agreement
import CallChain.Proofs.Status.Relay
import CallChain.Proofs.Status.Shape
import CallChain.Proofs.Status.WireForm
import CallChain.Proofs.Text.ByteOrder
import CallChain.Proofs.Text.Path
import CallChain.Proofs.Tls.Settings
import CallChain.Proofs.Url.Form
import CallChain.Proofs.Url.Host
import CallChain.Proofs.Url.Percent
import CallChain.Proofs.Url.Query
import CallChain.Proofs.Url.Reading
import CallChain.Proofs.Url.Rereading
import CallChain.Proofs.Work.Alike
import CallChain.Proofs.Work.Clock
import CallChain.Proofs.Work.Drop
import CallChain.Proofs.Work.Ends
import CallChain.Proofs.Work.Handed
import CallChain.Proofs.Work.Lock
import CallChain.Proofs.Work.Quiet
import CallChain.Proofs.Work.Race
import CallChain.Proofs.Work.Trace
