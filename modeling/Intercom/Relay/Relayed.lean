import Intercom.Relay.Client
import Intercom.Relay.Tunnel
import Intercom.Rtsp.Chunking

set_option autoImplicit false

/- An app behind the relay against an app on the LAN: RelayConnection.kt, relay_server.c, relay_client.c and the
   receive handler of rtsp_server.c one behind the other. -/
namespace Intercom.Relay

open ByteText

end Intercom.Relay
