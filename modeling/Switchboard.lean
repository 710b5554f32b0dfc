import Switchboard.Cli.Options
import Switchboard.Cli.Parse
import Switchboard.Cli.Run
import Switchboard.Cli.Suggest
import Switchboard.Decimal.Nearest
import Switchboard.Decimal.Shortest
import Switchboard.Domain.ConnectionKey
import Switchboard.Domain.Ids
import Switchboard.Domain.Message
import Switchboard.Domain.Records
import Switchboard.Handlers.Direct
import Switchboard.Handlers.Group
import Switchboard.Handlers.Router
import Switchboard.Handlers.Typing
import Switchboard.Http.Form
import Switchboard.Http.Origin
import Switchboard.Json.Cursor
import Switchboard.Json.Decode
import Switchboard.Json.Reader
import Switchboard.Json.Unexpected
import Switchboard.Json.Value
import Switchboard.Json.Writer
import Switchboard.Live.Clock
import Switchboard.Live.Control
import Switchboard.Live.Http
import Switchboard.Live.Link
import Switchboard.Live.Peer
import Switchboard.Live.World
import Switchboard.Main
import Switchboard.Realtime.Config
import Switchboard.Realtime.Connection
import Switchboard.Realtime.Error
import Switchboard.Realtime.Hub
import Switchboard.Realtime.Presence
import Switchboard.Realtime.Registry
import Switchboard.Store.Access
import Switchboard.Store.Basic
import Switchboard.Text.Blank
import Switchboard.Text.Debug
import Switchboard.Text.Integer
import Switchboard.Text.Encoding
import Switchboard.Text.Printable
import Switchboard.Text.Utf8
import Switchboard.Time.Duration
import Switchboard.Time.Instant
import Switchboard.Time.Monotonic
import Switchboard.Wire.Event
import Switchboard.Wire.Inbound
import Switchboard.Proofs.HubFrame
import Switchboard.Proofs.HandlerRuns
import Switchboard.Proofs.WorldFrame
import Switchboard.Proofs.Teardown
import Switchboard.Proofs.Timers
import Switchboard.Proofs.Egress
import Switchboard.Proofs.PresenceTick
import Switchboard.Proofs.PresenceDiff
import Switchboard.Proofs.PresenceViews
import Switchboard.Proofs.ConversationRace
import Switchboard.Proofs.Lifecycle
import Switchboard.Proofs.DirectMessage
import Switchboard.Proofs.PresenceFanout
import Switchboard.Proofs.GroupMessage
import Switchboard.Proofs.CloseRace
import Switchboard.Proofs.Heartbeat
import Switchboard.Proofs.RegistryCalls
import Switchboard.Proofs.StoreCalls
import Switchboard.Proofs.Dispatch
import Switchboard.Proofs.TimerPeriods
import Switchboard.Proofs.UpgradeGate
import Switchboard.Proofs.FieldValidation
