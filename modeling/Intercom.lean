import Intercom.Steps
import Intercom.Gate
import Intercom.Ownership
import Intercom.Records
import Intercom.Session
import Intercom.Viewers
import Intercom.Fanout
import Intercom.Strays
import Intercom.Latency
import Intercom.Continuity
import Intercom.Rtsp.Replay
import Intercom.Rtsp.Binding
import Intercom.Routing
import Intercom.Relay.Client
import Intercom.Relay.Reconnect
import Intercom.Android.Downstream
import Intercom.Android.Loss
import Intercom.Android.Negotiation
import Intercom.Relay.Registry
import Intercom.Relay.Exclusive
import Intercom.Injection
import Intercom.Android.Upstream
import Intercom.Android.Challenge
import Intercom.Relay.Identity
import Intercom.Relay.Roles
import Intercom.Relay.Takings
import Intercom.Relay.Wires
import Intercom.Relay.Speech
import Intercom.Relay.Streams
import Intercom.Android.RelayConnection
import Intercom.Relay.Tunnel
import Intercom.Relay.Conformance
import Intercom.Android.Disconnect
import Intercom.Packets
import Intercom.Android.AudioCapture
import Intercom.Reception
import Intercom.Android.Depacketiser
import Intercom.Lib.Lines
import Intercom.Rtsp.HeaderLines
import Intercom.Lib.Search
import Intercom.Rtsp.Tracks
import Intercom.Rtsp.DigestFields
import Intercom.Rtsp.TransportNumbers
import Intercom.Lib.Decimal
import Intercom.Android.RoundTrip
import Intercom.Media.NalUnits
import Intercom.Http.Server
import Intercom.Http.StaticFiles
import Intercom.Lib.History
import Intercom.Http.Doorbell
import Intercom.Android.DoorbellService
import Intercom.Android.Rings
import Intercom.Nat.Stun
import Intercom.Nat.Transactions
import Intercom.Nat.Info
import Intercom.Media.Speaker
import Intercom.Android.CodecInput
import Intercom.Android.Decoder
import Intercom.Android.MainActivity
import Intercom.Android.ActivityRuns
import Intercom.Media.G711
import Intercom.Android.AudioPlayer
import Intercom.Android.Keepalive
import Intercom.Http.CallAddress
import Intercom.CallStream
import Intercom.Relay.Relayed
import Intercom.Relay.Backoff
import Intercom.Http.Regex
import Intercom.Http.Message
import Intercom.Http.Connections
import Intercom.Http.RequestText
import Intercom.Tcp
import Intercom.Http.ReplySent
import Intercom.Android.SlowLink
import Intercom.Android.SlowLink
