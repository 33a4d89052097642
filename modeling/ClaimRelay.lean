import ClaimRelay.Bus.Basic
import ClaimRelay.Bus.Channel
import ClaimRelay.Bus.Error
import ClaimRelay.Bus.Options
import ClaimRelay.Bus.Registry
import ClaimRelay.Cache
import ClaimRelay.Claim.Basic
import ClaimRelay.Claim.HashId
import ClaimRelay.Daemon.Assembly
import ClaimRelay.Daemon.Failure
import ClaimRelay.Daemon.Run
import ClaimRelay.Daemon.Settings
import ClaimRelay.Decimal.Binary64
import ClaimRelay.Decimal.Layout
import ClaimRelay.Decimal.Shortest
import ClaimRelay.Digest.Hex
import ClaimRelay.Digest.Sha256
import ClaimRelay.Encoding.Base32
import ClaimRelay.Encoding.Base64Url
import ClaimRelay.Federation
import ClaimRelay.FileSystem
import ClaimRelay.Ingest
import ClaimRelay.Json.Basic
import ClaimRelay.Json.Error
import ClaimRelay.Json.Printer
import ClaimRelay.Json.Reader
import ClaimRelay.Json.Record
import ClaimRelay.Json.Value
import ClaimRelay.Main
import ClaimRelay.Manager.Basic
import ClaimRelay.Manager.Connect
import ClaimRelay.Manager.Serve
import ClaimRelay.Nats.Address
import ClaimRelay.Nats.Client
import ClaimRelay.Nats.Connection
import ClaimRelay.Nats.Credentials
import ClaimRelay.Network.Basic
import ClaimRelay.Network.Schedule
import ClaimRelay.Notice
import ClaimRelay.Notice.Filter
import ClaimRelay.Notification
import ClaimRelay.Settings.Basic
import ClaimRelay.Settings.Document
import ClaimRelay.Settings.Override
import ClaimRelay.Store
import ClaimRelay.Store.Basic
import ClaimRelay.Store.Directory
import ClaimRelay.Store.Memory
import ClaimRelay.Subject
import ClaimRelay.Table
import ClaimRelay.Text.Blank
import ClaimRelay.Text.Extending
import ClaimRelay.Text.Numeral
import ClaimRelay.Text.Quoted
import ClaimRelay.Text.Split
import ClaimRelay.Text.Unprintable
import ClaimRelay.Text.Utf8
import ClaimRelay.Token
import ClaimRelay.Proofs.Bus.Registry
import ClaimRelay.Proofs.Bus.Channel
import ClaimRelay.Proofs.Bus.Messages
import ClaimRelay.Proofs.Bus.Exchange
import ClaimRelay.Proofs.Bus.Delivery
import ClaimRelay.Proofs.Notification
import ClaimRelay.Proofs.Store.Save
import ClaimRelay.Proofs.Store.Interleaving
import ClaimRelay.Proofs.Store.Directory
import ClaimRelay.Proofs.Store.Agreement
import ClaimRelay.Proofs.Manager.Link
import ClaimRelay.Proofs.Manager.Inversion
import ClaimRelay.Proofs.Manager.Steps
import ClaimRelay.Proofs.Manager.Sound
import ClaimRelay.Proofs.Manager.Registered
import ClaimRelay.Proofs.Manager.Reception
import ClaimRelay.Proofs.Manager.Tuned
import ClaimRelay.Proofs.Manager.TakenIn
import ClaimRelay.Proofs.Network.Run
import ClaimRelay.Proofs.Network.Sound
import ClaimRelay.Proofs.Network.Provision
import ClaimRelay.Proofs.Network.OneConnection
import ClaimRelay.Proofs.Network.Loss
import ClaimRelay.Proofs.Network.Shutdown
import ClaimRelay.Proofs.Network.RetryLoop
import ClaimRelay.Proofs.Network.Termination
import ClaimRelay.Proofs.Ingest.Handling
import ClaimRelay.Proofs.Ingest.Outcomes
import ClaimRelay.Proofs.Network.Tuned
import ClaimRelay.Proofs.Network.Delivery
import ClaimRelay.Proofs.Network.Convergence
import ClaimRelay.Proofs.Manager.Holdings
import ClaimRelay.Proofs.Daemon.ReadOnly
import ClaimRelay.Proofs.Encoding.Base64Url
import ClaimRelay.Proofs.Text.Utf8
import ClaimRelay.Proofs.Json.Nesting
import ClaimRelay.Proofs.Json.Reads
import ClaimRelay.Proofs.Json.RoundTrip
import ClaimRelay.Proofs.Json.Record
import ClaimRelay.Proofs.Json.Found
import ClaimRelay.Proofs.Claim.Document
import ClaimRelay.Proofs.Token.RoundTrip
import ClaimRelay.Proofs.Network.Acceptance
import ClaimRelay.Proofs.Bus.Closing
import ClaimRelay.Proofs.Manager.Balanced
import ClaimRelay.Proofs.Network.Kept
import ClaimRelay.Proofs.Network.Quiet
import ClaimRelay.Proofs.Json.Skipping
import ClaimRelay.Proofs.Json.Agreement
import ClaimRelay.Proofs.Token.Kinds
import ClaimRelay.Proofs.Nats.Lifecycle
import ClaimRelay.Proofs.Manager.Effects
import ClaimRelay.Proofs.Network.Clock
import ClaimRelay.Proofs.Network.Attempts
import ClaimRelay.Proofs.Network.Pacing
import ClaimRelay.Proofs.Network.Replacement
import ClaimRelay.Proofs.Subject
import ClaimRelay.Proofs.Manager.Attempt
import ClaimRelay.Proofs.Network.Prompt
import ClaimRelay.Proofs.Network.Solo
import ClaimRelay.Proofs.Network.Trial
import ClaimRelay.Proofs.Token.Envelope
import ClaimRelay.Proofs.Encoding.Base32
import ClaimRelay.Proofs.Claim.HashId
import ClaimRelay.Proofs.Cache
import ClaimRelay.Proofs.Settings.Override
import ClaimRelay.Proofs.Bus.Lateness
