import ConfigDelivery.Basic.Failure
import ConfigDelivery.Basic.Table
import ConfigDelivery.Basic.Time
import ConfigDelivery.Cache.Programs
import ConfigDelivery.Cache.Records
import ConfigDelivery.Decimal.Binary64
import ConfigDelivery.Decimal.Fixed
import ConfigDelivery.Decimal.Shortest
import ConfigDelivery.Delivery.Components
import ConfigDelivery.Delivery.Error
import ConfigDelivery.Delivery.Playground
import ConfigDelivery.Delivery.Preparation
import ConfigDelivery.Delivery.Records
import ConfigDelivery.Delivery.Report
import ConfigDelivery.Delivery.Serve
import ConfigDelivery.Delivery.UnitTest
import ConfigDelivery.Engine.Basic
import ConfigDelivery.Engine.Installed
import ConfigDelivery.Engine.Interface
import ConfigDelivery.Engine.Interpreter
import ConfigDelivery.Http.Address
import ConfigDelivery.Http.Request
import ConfigDelivery.Http.Response
import ConfigDelivery.Http.Route
import ConfigDelivery.Http.Server
import ConfigDelivery.Json.Complaint
import ConfigDelivery.Json.Decode
import ConfigDelivery.Json.Document
import ConfigDelivery.Json.Reader
import ConfigDelivery.Json.Value
import ConfigDelivery.Main
import ConfigDelivery.Params.Kind
import ConfigDelivery.Params.Schema
import ConfigDelivery.Pool.Basic
import ConfigDelivery.Pool.Guest
import ConfigDelivery.Pool.Interrupt
import ConfigDelivery.Pool.Schedule
import ConfigDelivery.Pool.Scripted
import ConfigDelivery.Proofs.Basic.Simulation
import ConfigDelivery.Proofs.Cache.Expiry
import ConfigDelivery.Proofs.Cache.Footprint
import ConfigDelivery.Proofs.Cache.Interleaving
import ConfigDelivery.Proofs.Cache.Programs
import ConfigDelivery.Proofs.Cache.Queue
import ConfigDelivery.Proofs.Cache.Records
import ConfigDelivery.Proofs.Decimal.Truncation
import ConfigDelivery.Proofs.Delivery.Agreement
import ConfigDelivery.Proofs.Delivery.Breaker
import ConfigDelivery.Proofs.Delivery.Changes
import ConfigDelivery.Proofs.Delivery.Decision
import ConfigDelivery.Proofs.Delivery.Discretion
import ConfigDelivery.Proofs.Delivery.Fallback
import ConfigDelivery.Proofs.Delivery.Footprint
import ConfigDelivery.Proofs.Delivery.Judgement
import ConfigDelivery.Proofs.Delivery.Keeping
import ConfigDelivery.Proofs.Delivery.Loading
import ConfigDelivery.Proofs.Delivery.Preservation
import ConfigDelivery.Proofs.Delivery.Preview
import ConfigDelivery.Proofs.Delivery.Programs
import ConfigDelivery.Proofs.Delivery.Reportable
import ConfigDelivery.Proofs.Delivery.Reporting
import ConfigDelivery.Proofs.Delivery.Rollout
import ConfigDelivery.Proofs.Delivery.Runs
import ConfigDelivery.Proofs.Delivery.Secrets
import ConfigDelivery.Proofs.Delivery.Sight
import ConfigDelivery.Proofs.Delivery.Staleness
import ConfigDelivery.Proofs.Delivery.Testing
import ConfigDelivery.Proofs.Delivery.Touching
import ConfigDelivery.Proofs.Delivery.Transparency
import ConfigDelivery.Proofs.Delivery.Tripping
import ConfigDelivery.Proofs.Delivery.Upkeep
import ConfigDelivery.Proofs.Engine.Identity
import ConfigDelivery.Proofs.Engine.Running
import ConfigDelivery.Proofs.Engine.Touching
import ConfigDelivery.Proofs.Http.Arrival
import ConfigDelivery.Proofs.Http.Discretion
import ConfigDelivery.Proofs.Http.HeaderLimit
import ConfigDelivery.Proofs.Http.Heads
import ConfigDelivery.Proofs.Http.Reception
import ConfigDelivery.Proofs.Http.RoundTrip
import ConfigDelivery.Proofs.Http.Routing
import ConfigDelivery.Proofs.Http.TestAccess
import ConfigDelivery.Proofs.Json.Bytes
import ConfigDelivery.Proofs.Json.Decoding
import ConfigDelivery.Proofs.Json.Equality
import ConfigDelivery.Proofs.Json.Forms
import ConfigDelivery.Proofs.Json.Grammar
import ConfigDelivery.Proofs.Json.Members
import ConfigDelivery.Proofs.Json.Printing
import ConfigDelivery.Proofs.Json.Reading
import ConfigDelivery.Proofs.Json.Recognition
import ConfigDelivery.Proofs.Json.Values
import ConfigDelivery.Proofs.Params.Acceptance
import ConfigDelivery.Proofs.Params.Validation
import ConfigDelivery.Proofs.Pool.Accounting
import ConfigDelivery.Proofs.Pool.Following
import ConfigDelivery.Proofs.Pool.Isolation
import ConfigDelivery.Proofs.Pool.Lineage
import ConfigDelivery.Proofs.Pool.Outcomes
import ConfigDelivery.Proofs.Pool.Progress
import ConfigDelivery.Proofs.Pool.Reached
import ConfigDelivery.Proofs.Pool.Roster
import ConfigDelivery.Proofs.Pool.Runs
import ConfigDelivery.Proofs.Pool.Sequential
import ConfigDelivery.Proofs.Pool.Sharing
import ConfigDelivery.Proofs.Pool.Showing
import ConfigDelivery.Proofs.Pool.Slots
import ConfigDelivery.Proofs.Pool.Stopping
import ConfigDelivery.Proofs.Pool.Verdict
import ConfigDelivery.Proofs.Pool.Workers
import ConfigDelivery.Proofs.Record.Forms
import ConfigDelivery.Proofs.Record.RoundTrip
import ConfigDelivery.Proofs.Script.Building
import ConfigDelivery.Proofs.Script.Returning
import ConfigDelivery.Proofs.Script.Wrapping
import ConfigDelivery.Proofs.Service.Lifetimes
import ConfigDelivery.Proofs.Service.Merging
import ConfigDelivery.Proofs.Store.Backends
import ConfigDelivery.Proofs.Store.Equivalence
import ConfigDelivery.Proofs.Store.Laws
import ConfigDelivery.Proofs.Store.Reliability
import ConfigDelivery.Proofs.Store.Tracking
import ConfigDelivery.Proofs.Store.Transactions
import ConfigDelivery.Proofs.Targeting.Choice
import ConfigDelivery.Proofs.Targeting.Eligibility
import ConfigDelivery.Proofs.Targeting.Hashing
import ConfigDelivery.Proofs.Targeting.Meaning
import ConfigDelivery.Proofs.Text.Blank
import ConfigDelivery.Proofs.Text.Integer
import ConfigDelivery.Proofs.Text.Pieces
import ConfigDelivery.Proofs.Text.Utf8
import ConfigDelivery.Record.Basic
import ConfigDelivery.Record.Codec
import ConfigDelivery.Record.Id
import ConfigDelivery.Script.Error
import ConfigDelivery.Script.Finished
import ConfigDelivery.Script.JavaScript.Conversion
import ConfigDelivery.Script.JavaScript.Evaluation
import ConfigDelivery.Script.JavaScript.Function
import ConfigDelivery.Script.JavaScript.Grammar
import ConfigDelivery.Script.JavaScript.Library
import ConfigDelivery.Script.JavaScript.Library.Arrays
import ConfigDelivery.Script.JavaScript.Library.Collections
import ConfigDelivery.Script.JavaScript.Library.Json
import ConfigDelivery.Script.JavaScript.Library.JsonText
import ConfigDelivery.Script.JavaScript.Library.Numbers
import ConfigDelivery.Script.JavaScript.Library.Objects
import ConfigDelivery.Script.JavaScript.Library.Texts
import ConfigDelivery.Script.JavaScript.Number
import ConfigDelivery.Script.JavaScript.Parse
import ConfigDelivery.Script.JavaScript.Program
import ConfigDelivery.Script.JavaScript.Property
import ConfigDelivery.Script.JavaScript.Realm
import ConfigDelivery.Script.JavaScript.Token
import ConfigDelivery.Script.JavaScript.Tree
import ConfigDelivery.Script.JavaScript.Value
import ConfigDelivery.Script.Language
import ConfigDelivery.Script.Starlark.Builtins
import ConfigDelivery.Script.Starlark.Evaluation
import ConfigDelivery.Script.Starlark.Grammar
import ConfigDelivery.Script.Starlark.Methods
import ConfigDelivery.Script.Starlark.Operators
import ConfigDelivery.Script.Starlark.Program
import ConfigDelivery.Script.Starlark.Token
import ConfigDelivery.Script.Starlark.Tree
import ConfigDelivery.Script.Starlark.Value
import ConfigDelivery.Script.Starlark.Writing
import ConfigDelivery.Service.CommandLine
import ConfigDelivery.Service.Daemon
import ConfigDelivery.Service.ScriptCommand
import ConfigDelivery.Service.Settings
import ConfigDelivery.Store.Interface
import ConfigDelivery.Store.Location
import ConfigDelivery.Store.Memory
import ConfigDelivery.Store.Relational
import ConfigDelivery.Targeting.Comparison
import ConfigDelivery.Targeting.Eligibility
import ConfigDelivery.Targeting.Rollout
import ConfigDelivery.Text.Blank
import ConfigDelivery.Text.Integer
import ConfigDelivery.Text.Letter
import ConfigDelivery.Text.Units
import ConfigDelivery.Text.Utf8
import ConfigDelivery.Toml.Reader
import ConfigDelivery.Toml.Scalar
