import PromptGateway.Client.Exchange
import PromptGateway.Main
import PromptGateway.Registry.Call
import PromptGateway.Proofs.Text.Blank
import PromptGateway.Proofs.Platform
import PromptGateway.Proofs.Registry.Row
import PromptGateway.Proofs.Registry.Table
import PromptGateway.Proofs.Program
import PromptGateway.Proofs.Service
import PromptGateway.Proofs.Moment
import PromptGateway.Proofs.Operation
import PromptGateway.Proofs.Concurrency.Effect
import PromptGateway.Proofs.Concurrency.System
import PromptGateway.Proofs.Concurrency.Linearization
import PromptGateway.Proofs.Outcome
import PromptGateway.Proofs.Concurrency.Invariant
import PromptGateway.Proofs.Concurrency.Linearizability
import PromptGateway.Proofs.History
import PromptGateway.Proofs.Encoding.Base64Url
import PromptGateway.Proofs.Json.Cursor
import PromptGateway.Proofs.Json.Shape
import PromptGateway.Proofs.Page
import PromptGateway.Proofs.Registry.Listing
import PromptGateway.Proofs.Walk
import PromptGateway.Proofs.Except
import PromptGateway.Proofs.Text.Search
import PromptGateway.Proofs.Encoding.Percent
import PromptGateway.Proofs.Api.Request
import PromptGateway.Proofs.Api.View
import PromptGateway.Proofs.Api.Answer
import PromptGateway.Proofs.Cli.Arguments
import PromptGateway.Proofs.Token
import PromptGateway.Proofs.Registry.Keys
import PromptGateway.Proofs.Concurrency.Calls
import PromptGateway.Proofs.Concurrency.Walk
import PromptGateway.Proofs.Secrecy.Registry
import PromptGateway.Proofs.Secrecy.Program
import PromptGateway.Proofs.Secrecy.Service
import PromptGateway.Proofs.Secrecy.Front
import PromptGateway.Proofs.Secrecy.Session
import PromptGateway.Proofs.Text.Integer
import PromptGateway.Proofs.Reference
import PromptGateway.Proofs.Reply
import PromptGateway.Proofs.Decision
import PromptGateway.Proofs.Creation
import PromptGateway.Proofs.Disk
import PromptGateway.Proofs.Reopening
import PromptGateway.Proofs.Agreement
import PromptGateway.Proofs.SendingBack
import PromptGateway.Proofs.Text.Pattern
import PromptGateway.Proofs.Think
import PromptGateway.Proofs.Think.Torn
import PromptGateway.Proofs.PageSize
import PromptGateway.Proofs.Mask
import PromptGateway.Proofs.Update
import PromptGateway.Proofs.Failure
import PromptGateway.Proofs.Chat
import PromptGateway.Proofs.Payload
import PromptGateway.Proofs.Encoding.Canonical
import PromptGateway.Proofs.Json.Grammar
import PromptGateway.Proofs.Json.Clean
import PromptGateway.Proofs.Json.Soundness.Scalar
import PromptGateway.Proofs.Json.Soundness.Parts
import PromptGateway.Proofs.Json.Soundness.Skip
import PromptGateway.Proofs.Json.Spelled
import PromptGateway.Proofs.Json.Soundness.Shape
import PromptGateway.Proofs.Json.Completeness.Scalar
import PromptGateway.Proofs.Json.Completeness.Parts
import PromptGateway.Proofs.Json.Completeness.Skip
import PromptGateway.Proofs.Json.Completeness.Shape
import PromptGateway.Proofs.Json.Written
import PromptGateway.Proofs.Registry.Kinds
import PromptGateway.Proofs.Cli.Listing
import PromptGateway.Proofs.Json.Value
import PromptGateway.Proofs.Api.Failure
import PromptGateway.Proofs.Moment.Calendar
import PromptGateway.Proofs.Moment.Reader
import PromptGateway.Proofs.Api.Resource
import PromptGateway.Proofs.Api.Origins
import PromptGateway.Proofs.Cli.Emptiness
import PromptGateway.Proofs.Database.Target
