import CloudGrant.Dict
import CloudGrant.Duration
import CloudGrant.Text.Utf8
import CloudGrant.Text.Visible
import CloudGrant.Text.Uppercase
import CloudGrant.Text.Quoted
import CloudGrant.Text.Replace
import CloudGrant.Number.Binary64
import CloudGrant.Number.Decimal
import CloudGrant.Json.Error
import CloudGrant.Json.Lexical
import CloudGrant.Json.Decoder
import CloudGrant.Substitution
import CloudGrant.Naming
import CloudGrant.Error
import CloudGrant.Wire
import CloudGrant.Run.Deadline
import CloudGrant.Run.Fleet
import CloudGrant.Provider
import CloudGrant.Service
import CloudGrant.Intake.Queue
import CloudGrant.Intake.Dispatcher
import CloudGrant.Intake.Consumer
import CloudGrant.Text.Base64
import CloudGrant.Inventory.Identity
import CloudGrant.Simulation.World
import CloudGrant.Simulation.Schedule
import CloudGrant.Inventory.Body
import CloudGrant.Azure.Session
import CloudGrant.Http.Url
import CloudGrant.Http.Client
import CloudGrant.Inventory.Client
import CloudGrant.Azure.Template
import CloudGrant.Amazon.Account
import CloudGrant.Amazon.Message
import CloudGrant.Guid
import CloudGrant.Gateway
import CloudGrant.Worker.Options
import CloudGrant.Worker.Intake
import CloudGrant.Worker.Basic
import CloudGrant.Simulation.Script
import CloudGrant.Worker.Channel
import CloudGrant.Main
import CloudGrant.Proofs.Run.History
import CloudGrant.Proofs.Run.Deadline
import CloudGrant.Proofs.Run.Timeline
import CloudGrant.Proofs.Run.Alike
import CloudGrant.Proofs.Run.Fleet
import CloudGrant.Proofs.Run.Sharing
import CloudGrant.Proofs.Run.Handled
import CloudGrant.Proofs.Run.Ignoring
import CloudGrant.Proofs.Run.Throughout
import CloudGrant.Proofs.Naming
import CloudGrant.Proofs.Text.Utf8
import CloudGrant.Proofs.Text.Cutting
import CloudGrant.Proofs.Files
import CloudGrant.Proofs.Http.Client
import CloudGrant.Proofs.Http.Url
import CloudGrant.Proofs.Json.Text
import CloudGrant.Proofs.Json.Reading
import CloudGrant.Proofs.Wire
import CloudGrant.Proofs.Intake.Consumer
import CloudGrant.Proofs.Gateway
import CloudGrant.Proofs.Cloud.Calls
import CloudGrant.Proofs.Cloud.Holdings
import CloudGrant.Proofs.Cloud.Zone
import CloudGrant.Proofs.Cloud.Blame
import CloudGrant.Proofs.Cloud.Guarded
import CloudGrant.Proofs.Amazon.Course
import CloudGrant.Proofs.Amazon.Undoing
import CloudGrant.Proofs.Amazon.Teardown
import CloudGrant.Proofs.Amazon.Ledger
import CloudGrant.Proofs.Amazon.Order
import CloudGrant.Proofs.Amazon.Repetition
import CloudGrant.Proofs.Amazon.Reversal
import CloudGrant.Proofs.Azure.Course
import CloudGrant.Proofs.Service.Course
import CloudGrant.Proofs.Service.Outcome
import CloudGrant.Proofs.Service.Unwinding
import CloudGrant.Proofs.Service.Replay
import CloudGrant.Proofs.Service.Handover
import CloudGrant.Proofs.Service.Deadline
import CloudGrant.Proofs.Service.Zone
import CloudGrant.Proofs.Service.Concurrency
import CloudGrant.Proofs.Service.Convergence
import CloudGrant.Proofs.Service.Access
import CloudGrant.Proofs.Service.Order
import CloudGrant.Proofs.Service.Omission
import CloudGrant.Proofs.Service.Discipline
import CloudGrant.Proofs.Service.Caller
import CloudGrant.Proofs.Inventory.Identity
import CloudGrant.Proofs.Intake.Identity
import CloudGrant.Proofs.Run.Coupled
import CloudGrant.Proofs.Service.Exposure
import CloudGrant.Proofs.Intake.Acceptance
import CloudGrant.Proofs.Amazon.Progress
import CloudGrant.Proofs.Inventory.Address
import CloudGrant.Proofs.Inventory.Attempts
import CloudGrant.Proofs.Inventory.Document
import CloudGrant.Proofs.Azure.Status
import CloudGrant.Proofs.Azure.Polling
import CloudGrant.Proofs.Azure.Bracket
import CloudGrant.Proofs.Azure.Template
import CloudGrant.Proofs.Service.Deployment
import CloudGrant.Proofs.Service.Recognition
import CloudGrant.Proofs.Text.Replace
import CloudGrant.Proofs.Substitution
import CloudGrant.Proofs.Azure.Subscription
import CloudGrant.Proofs.Amazon.Emptying
import CloudGrant.Proofs.Amazon.Absence
import CloudGrant.Proofs.Service.Naming
