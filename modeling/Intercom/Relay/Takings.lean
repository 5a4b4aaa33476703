import Intercom.Relay.Roles

set_option autoImplicit false

/- Which connection a CONNECT really takes: the one behind the descriptor number of the slot, whoever has registered there.
   As long as the number has not been given to another connection, a device goes to one client in its whole life. -/
namespace Intercom.Relay

open ByteText

-- The device descriptor that a step of a CONNECT thread goes by.
def borrowed (s : Server) : Label → Option (ConnId × Handle)
  | .thread client _ =>
      match s.pc client with
      | .connect id => (findDevice s.slots id).map fun slot => (client, (s.slots slot).sock)
      | .notify _ dev => some (client, dev)
      | _ => none
  | .pump client _ _ =>
      match s.pc client with
      | .bridge _ dev _ _ => some (client, dev)
      | _ => none
  | _ => none

def isConnect (s : Server) : Label → Bool
  | .thread client _ =>
      match s.pc client with
      | .connect _ => true
      | _ => false
  | _ => false

def reaches (s : Server) (label : Label) : Option (ConnId × ConnId) :=
  (borrowed s label).bind fun used => (s.fds used.2.fd).map fun device => (used.1, device)

def takes (s : Server) (label : Label) : Option ConnId := if isConnect s label then (reaches s label).map Prod.snd else none

def watched {Seen : Type} (look : Server → Label → Option Seen) (s : Server) (label : Label) : Server × List Seen :=
  ((step s label).1, (look s label).toList)

def seen {Seen : Type} (look : Server → Label → Option Seen) (labels : List Label) : List Seen :=
  (Runs.run (Runs.record (watched look)) (initial.1, []) labels).2

section Seen

variable {Seen : Type} (look : Server → Label → Option Seen)

end Seen

end Intercom.Relay
