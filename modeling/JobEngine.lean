import JobEngine.Api.Invocation
import JobEngine.Catalog.Load
import JobEngine.Catalog.Script
import JobEngine.Catalog.Store
import JobEngine.Clock.Civil
import JobEngine.Clock.Duration
import JobEngine.Clock.Stamp
import JobEngine.Codec.Base64
import JobEngine.Codec.Hex
import JobEngine.Config.Env
import JobEngine.Crypto.Sha256
import JobEngine.Decimal.Layout
import JobEngine.Decimal.Shortest
import JobEngine.Dispatch.Config
import JobEngine.Fault
import JobEngine.Health.Checker
import JobEngine.Http.Cors
import JobEngine.Http.Limiter
import JobEngine.Http.MediaType
import JobEngine.Http.Message
import JobEngine.Http.Route
import JobEngine.Job.Basic
import JobEngine.Job.Event
import JobEngine.Job.Id
import JobEngine.Job.Record
import JobEngine.Job.Session
import JobEngine.Job.Settlement
import JobEngine.Job.Status
import JobEngine.Job.Wire
import JobEngine.Net.Address
import JobEngine.Net.Url
import JobEngine.Operation.Metadata
import JobEngine.Orchestrate.Plan
import JobEngine.Orchestrate.Progress
import JobEngine.Orchestrate.Spec
import JobEngine.Proofs.Job.Lifecycle
import JobEngine.Proofs.Job.WellFormed
import JobEngine.Proofs.Job.IdOrder
import JobEngine.Proofs.Job.IdText
import JobEngine.Proofs.Job.Settlement
import JobEngine.Proofs.Remote.Fetch
import JobEngine.Proofs.Remote.Following
import JobEngine.Proofs.World.Frame
import JobEngine.Remote.Venue
import JobEngine.Resilience.Backoff
import JobEngine.Resilience.Breaker
import JobEngine.Session.Basic
import JobEngine.Session.Setup
import JobEngine.Session.Step
import JobEngine.Text.Blank
import JobEngine.Text.Case
import JobEngine.Text.Numbers
import JobEngine.Text.Quoted
import JobEngine.Text.Utf8
import JobEngine.Value
import JobEngine.Value.Bind
import JobEngine.Value.Print
import JobEngine.Value.Read
import JobEngine.Value.Write
import JobEngine.Webhook.CloudEvent
import JobEngine.World.Api
import JobEngine.World.Basic
import JobEngine.World.Chore
import JobEngine.World.Conduct
import JobEngine.World.Core
import JobEngine.World.Courier
import JobEngine.World.Engine
import JobEngine.World.Remote
import JobEngine.World.RunQueue
import JobEngine.World.Schedule
import JobEngine.World.Scope
import JobEngine.World.Work
import JobEngine.Yaml.Datum
import JobEngine.Yaml.Decode
import JobEngine.Yaml.Lexer
import JobEngine.Yaml.Lexer.Basic
import JobEngine.Yaml.Lexer.Property
import JobEngine.Yaml.Lexer.Scalar
import JobEngine.Yaml.Node
import JobEngine.Yaml.Resolve
import JobEngine.Yaml.Token
import JobEngine.Proofs.Engine.Coherence
import JobEngine.Proofs.Engine.Table
import JobEngine.Proofs.Engine.Agreement
import JobEngine.Proofs.Engine.Finishing
import JobEngine.Proofs.Orchestrate.Schedule
import JobEngine.Proofs.Orchestrate.Conductor
import JobEngine.Proofs.Orchestrate.Sequential
import JobEngine.Proofs.Orchestrate.Refinement
import JobEngine.Proofs.Engine.Apart
import JobEngine.Proofs.Orchestrate.Ending
import JobEngine.Proofs.Orchestrate.Failure
import JobEngine.Proofs.Resilience.BreakerStates
import JobEngine.Proofs.Remote.Mirror
import JobEngine.Proofs.Remote.Relay
import JobEngine.Proofs.Remote.Settling
import JobEngine.Proofs.Remote.Forwarding
import JobEngine.Proofs.Dispatch.Holdings
import JobEngine.Proofs.Dispatch.Soundness
import JobEngine.Proofs.Api.Checks
import JobEngine.Proofs.Api.Admission
import JobEngine.Proofs.Engine.Shutdown
import JobEngine.Proofs.Orchestrate.Expressions
import JobEngine.Proofs.Orchestrate.Acceptance
import JobEngine.Proofs.Engine.Invocation
import JobEngine.Proofs.Remote.VenueNames
import JobEngine.Proofs.Health.Readiness
import JobEngine.Proofs.Engine.Handlers
import JobEngine.Proofs.Dispatch.Closing
import JobEngine.Proofs.Dispatch.Retries
import JobEngine.Proofs.Dispatch.Runs
import JobEngine.Proofs.Dispatch.Calls
import JobEngine.Proofs.Dispatch.Conservation
import JobEngine.Proofs.Dispatch.Draining
import JobEngine.Proofs.Engine.Metrics
import JobEngine.Proofs.Engine.Atomicity
import JobEngine.Proofs.Codec.HexCase
import JobEngine.Proofs.Webhook.Signature
import JobEngine.Proofs.Catalog.Ascending
import JobEngine.Proofs.Catalog.Addressing
import JobEngine.Proofs.Job.Events
import JobEngine.Proofs.Engine.Hearing
import JobEngine.Proofs.Engine.Callbacks
