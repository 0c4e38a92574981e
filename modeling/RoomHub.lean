import RoomHub.Calendar.Civil
import RoomHub.Calendar.Instant
import RoomHub.CommandLine.Basic
import RoomHub.CommandLine.Fault
import RoomHub.CommandLine.Switch
import RoomHub.Connection.Basic
import RoomHub.Connection.Config
import RoomHub.Connection.End
import RoomHub.Connection.ReadPump
import RoomHub.Connection.Transport
import RoomHub.Connection.WritePump
import RoomHub.ConnectionId
import RoomHub.Credentials
import RoomHub.Decimal.Extended
import RoomHub.Decimal.Power
import RoomHub.Decimal.Shortest
import RoomHub.Digest.Sha1
import RoomHub.Digest.Sha256
import RoomHub.Exchange
import RoomHub.Http.Cors
import RoomHub.Http.Head
import RoomHub.Http.Header
import RoomHub.Http.Request
import RoomHub.Http.Response
import RoomHub.Http.Route
import RoomHub.Http.Site
import RoomHub.Http.Target
import RoomHub.Http.Upgrade
import RoomHub.Hub.Basic
import RoomHub.Hub.Outbox
import RoomHub.Identity
import RoomHub.Json.Number
import RoomHub.Json.Record
import RoomHub.Json.Skip
import RoomHub.Json.Text
import RoomHub.Launch
import RoomHub.Log.Directive
import RoomHub.Log.Entry
import RoomHub.Log.Field
import RoomHub.Log.Filter
import RoomHub.Log.Level
import RoomHub.Log.Pattern
import RoomHub.Main
import RoomHub.Message
import RoomHub.Notice
import RoomHub.Proofs.Calendar.Civil
import RoomHub.Proofs.Calendar.Order
import RoomHub.Proofs.ChatLog
import RoomHub.Proofs.Connection.Cleanup
import RoomHub.Proofs.Connection.Coupling
import RoomHub.Proofs.Connection.Course
import RoomHub.Proofs.Connection.Liveness
import RoomHub.Proofs.Connection.Moves
import RoomHub.Proofs.Connection.Pacing
import RoomHub.Proofs.Connection.Pings
import RoomHub.Proofs.Connection.Reading
import RoomHub.Proofs.Connection.Service
import RoomHub.Proofs.Connection.Speaking
import RoomHub.Proofs.Connection.Writing
import RoomHub.Proofs.Credentials
import RoomHub.Proofs.Except
import RoomHub.Proofs.Http.Answers
import RoomHub.Proofs.Http.Coupling
import RoomHub.Proofs.Http.Presenting
import RoomHub.Proofs.Http.Refusals
import RoomHub.Proofs.Http.Routing
import RoomHub.Proofs.Hub.Delivery
import RoomHub.Proofs.Hub.Invariant
import RoomHub.Proofs.Hub.Isolation
import RoomHub.Proofs.Hub.Joining
import RoomHub.Proofs.Hub.Membership
import RoomHub.Proofs.Identity
import RoomHub.Proofs.Json.Grammar
import RoomHub.Proofs.Json.Inversion
import RoomHub.Proofs.Json.Landing.Scalars
import RoomHub.Proofs.Json.Landing.Values
import RoomHub.Proofs.Json.Passing
import RoomHub.Proofs.Json.Scalars
import RoomHub.Proofs.Json.Scan
import RoomHub.Proofs.Json.Spelled
import RoomHub.Proofs.Json.Understood
import RoomHub.Proofs.Json.Written
import RoomHub.Proofs.Sample
import RoomHub.Proofs.Server.Changes
import RoomHub.Proofs.Server.Coupling
import RoomHub.Proofs.Server.Keeping
import RoomHub.Proofs.Server.Listing
import RoomHub.Proofs.Server.Obeying
import RoomHub.Proofs.Server.OneRoom
import RoomHub.Proofs.Server.Rooms
import RoomHub.Proofs.Text.Base64
import RoomHub.Proofs.Text.Blank
import RoomHub.Proofs.Text.Digits
import RoomHub.Proofs.Text.Utf8
import RoomHub.Proofs.Text.Words
import RoomHub.Proofs.Token.Acceptance
import RoomHub.Proofs.Token.Claims
import RoomHub.Proofs.Token.Issued
import RoomHub.Proofs.Token.Parts
import RoomHub.Proofs.Token.Readings
import RoomHub.Proofs.Wire.Inbound
import RoomHub.Proofs.Wire.RoundTrip
import RoomHub.Proofs.Wire.Timestamps
import RoomHub.Proofs.World.ChatHistory
import RoomHub.Proofs.World.Coupling
import RoomHub.Proofs.World.Course
import RoomHub.Proofs.World.Happening
import RoomHub.Proofs.World.Naming
import RoomHub.Proofs.World.OneRoom
import RoomHub.Proofs.World.Presenting
import RoomHub.Proofs.World.Provenance
import RoomHub.Proofs.World.Refusals
import RoomHub.Proofs.World.Registry
import RoomHub.Proofs.World.Steps
import RoomHub.Proofs.World.Stores
import RoomHub.Schedule
import RoomHub.Server.Basic
import RoomHub.Text.Alphanumeric
import RoomHub.Text.Ascii
import RoomHub.Text.Base64
import RoomHub.Text.Blank
import RoomHub.Text.Digits
import RoomHub.Text.Integer
import RoomHub.Text.Percent
import RoomHub.Text.Quoted
import RoomHub.Text.Similarity
import RoomHub.Text.Terminal
import RoomHub.Text.Utf8
import RoomHub.Token.Verifier
import RoomHub.Wire.Http
import RoomHub.Wire.Identity
import RoomHub.Wire.Socket
import RoomHub.World
import RoomHub.Proofs.World.Listing
import RoomHub.Proofs.Http.Origins
import RoomHub.Proofs.Launch
