import Mathlib.Logic.Function.Basic
import Intercom.Lib.Bytes
import Intercom.Lib.Runs

set_option autoImplicit false

/- relay_server.c: the accept loop, the handle_connection threads and the two bridge_one_dir threads of each
   bridge. Every LOCK..UNLOCK section and every socket call is one step; the label of a step says who moves and
   what the environment answers. -/
namespace Intercom.Relay

open ByteText

abbrev ConnId := Nat

def maxDevices : Nat := 64
def maxLine : Nat := 256
def bridgeBufSize : Nat := 16384
def authToken : Bytes := ascii "smartlock2026"

-- A descriptor number, with the accepted connection it was obtained for. No code reads the connection.
structure Handle where
  fd : Nat
  conn : ConnId
deriving DecidableEq, Repr

structure Slot where
  inUse : Bool := false
  bridging : Bool := false
  deviceId : Bytes := []
  sock : Handle := ⟨0, 0⟩
deriving DecidableEq, Repr

inductive Pump where
  | receiving
  | sending (left : Bytes)
  | stopping
  | done
deriving DecidableEq, Repr

-- Where a handle_connection thread stands: in front of the socket call or the locked section it names.
inductive Pc where
  | reading (line : Bytes)
  | refuse (message : Bytes)
  | register (id : Bytes)
  | answer (slot : Fin maxDevices)
  | watching (slot : Fin maxDevices)
  | releasing (slot : Fin maxDevices)
  | connect (id : Bytes)
  | accepted (slot : Fin maxDevices) (dev : Handle)
  | notify (slot : Fin maxDevices) (dev : Handle)
  | bridge (slot : Fin maxDevices) (dev : Handle) (up down : Pump)
  | release (slot : Fin maxDevices) (dev : Handle)
  | closeOwn (dev : Handle)
  | closeDev (dev : Handle)
  | closing
  | finished
deriving DecidableEq, Repr

-- rx: bytes of the peer that are still to be received; tx: bytes the relay has written; gone: the peer has
-- closed or reset the connection; shut: shutdown has been called on it.
structure Server where
  slots : Fin maxDevices → Slot := fun _ => {}
  fds : Nat → Option ConnId := fun _ => none
  nextConn : ConnId := 0
  fd : ConnId → Nat := fun _ => 0
  pc : ConnId → Pc := fun _ => .finished
  rx : ConnId → Bytes := fun _ => []
  tx : ConnId → Bytes := fun _ => []
  gone : ConnId → Bool := fun _ => false
  shut : ConnId → Bool := fun _ => false

inductive Call where
  | recv
  | send (bytes : Bytes)
  | shutdown
  | close
deriving DecidableEq, Repr

inductive Event where
  | accepted (conn : ConnId)
  | hungUp (conn : ConnId)
  | call (handle : Handle) (call : Call)
  | registered (conn : ConnId) (slot : Fin maxDevices) (id : Bytes)
  | took (client : ConnId) (slot : Fin maxDevices) (device : ConnId)
deriving DecidableEq, Repr

inductive Answer where
  | fails
  | gives (count : Nat)
deriving DecidableEq, Repr

inductive Side where
  | up
  | down
deriving DecidableEq, Repr

inductive Label where
  | accept (fd : Nat)
  | deliver (conn : ConnId) (bytes : Bytes)
  | hangUp (conn : ConnId)
  | thread (conn : ConnId) (answer : Answer)
  | pump (conn : ConnId) (side : Side) (answer : Answer)
deriving DecidableEq, Repr

def Server.goto (s : Server) (conn : ConnId) (pc : Pc) : Server := { s with pc := Function.update s.pc conn pc }

def Server.own (s : Server) (conn : ConnId) : Handle := ⟨s.fd conn, conn⟩

def findDevice (slots : Fin maxDevices → Slot) (id : Bytes) : Option (Fin maxDevices) :=
  (List.finRange maxDevices).find? fun index =>
    (slots index).inUse && !(slots index).bridging && (slots index).deviceId == id

def allocDeviceSlot (slots : Fin maxDevices → Slot) : Option (Fin maxDevices) :=
  (List.finRange maxDevices).find? fun index => !(slots index).inUse

inductive Received where
  | failed
  | data (target : ConnId) (bytes : Bytes)
deriving DecidableEq, Repr

def Server.ended (s : Server) (conn : ConnId) : Bool := s.gone conn || s.shut conn

def recv (s : Server) (fd size : Nat) (answer : Answer) : Option Received :=
  match s.fds fd with
  | none => some .failed
  | some target =>
      match answer with
      | .fails => if s.ended target then some .failed else none
      | .gives count =>
          if s.rx target = [] then
            if s.ended target then some .failed else none
          else some (.data target ((s.rx target).take (count % min size (s.rx target).length + 1)))

def Server.consume (s : Server) (target : ConnId) (bytes : Bytes) : Server :=
  { s with rx := Function.update s.rx target ((s.rx target).drop bytes.length) }

-- What a send ends with: the number of bytes taken, 0 for an error; none while it blocks.
def send (s : Server) (fd : Nat) (bytes : Bytes) (answer : Answer) : Option (Server × Nat) :=
  match s.fds fd with
  | none => some (s, 0)
  | some target =>
      if s.shut target then some (s, 0)
      else
        match answer with
        | .fails => if s.gone target then some (s, 0) else none
        | .gives count =>
            let taken := count % bytes.length + 1
            some ({ s with tx := Function.update s.tx target (s.tx target ++ bytes.take taken) }, taken)

-- The control lines go out whole or not at all; their result is not looked at.
def whole (line : Bytes) : Answer → Answer
  | .fails => .fails
  | .gives _ => .gives (line.length - 1)

def sendLine (s : Server) (fd : Nat) (line : Bytes) (answer : Answer) : Option Server :=
  (send s fd line (whole line answer)).map Prod.fst

def shutdownFd (s : Server) (fd : Nat) : Server :=
  match s.fds fd with
  | none => s
  | some target => { s with shut := Function.update s.shut target true }

def closeFd (s : Server) (fd : Nat) : Server := { s with fds := Function.update s.fds fd none }

def validIdChar (byte : UInt8) : Bool :=
  (97 ≤ byte && byte ≤ 122) || (65 ≤ byte && byte ≤ 90) || (48 ≤ byte && byte ≤ 57) || byte == 45 || byte == 95

def invalidId : Bytes := ascii "ERROR invalid_id\r\n"

def parseRegister (rest : Bytes) : Pc :=
  match memchr 32 rest with
  | none => .refuse (ascii "ERROR auth_failed\r\n")
  | some space =>
      if rest.drop (space + 1) ≠ authToken then .refuse (ascii "ERROR auth_failed\r\n")
      else if (rest.take space).all validIdChar then .register (rest.take space)
      else .refuse invalidId

-- The length of the last message is one too small.
def parseLine (line : Bytes) : Pc :=
  let text := cstr line
  if (ascii "REGISTER ").isPrefixOf text then parseRegister (text.drop 9)
  else if (ascii "CONNECT ").isPrefixOf text then
    if (text.drop 8).all validIdChar then .connect (text.drop 8) else .refuse invalidId
  else .refuse ((ascii "ERROR unknown_command\r\n").take 22)

def stripReturn (line : Bytes) : Bytes := if line.getLast? = some 13 then line.dropLast else line

def readByte (line : Bytes) (byte : UInt8) : Pc :=
  if byte = 10 then
    if stripReturn line = [] then .closing else parseLine (stripReturn line)
  else if (line ++ [byte]).length < maxLine - 1 then .reading (line ++ [byte])
  else parseLine (line ++ [byte])

def readStep (s : Server) (conn : ConnId) (line : Bytes) (answer : Answer) : Server × List Event :=
  match recv s (s.fd conn) 1 answer with
  | none => (s, [])
  | some .failed => (s.goto conn .closing, [.call (s.own conn) .recv])
  | some (.data target bytes) =>
      ((s.consume target bytes).goto conn (readByte line (bytes.headD 0)), [.call (s.own conn) .recv])

def sayStep (s : Server) (conn : ConnId) (handle : Handle) (line : Bytes) (next : Pc) (answer : Answer) :
    Server × List Event :=
  match sendLine s handle.fd line answer with
  | none => (s, [])
  | some sent => (sent.goto conn next, [.call handle (.send line)])

def clearDevice (s : Server) (id : Bytes) : Server × List Event :=
  match findDevice s.slots id with
  | none => (s, [])
  | some existing =>
      ({ closeFd s (s.slots existing).sock.fd with
          slots := Function.update s.slots existing { s.slots existing with inUse := false } },
        [.call (s.slots existing).sock .close])

def registerStep (s : Server) (conn : ConnId) (id : Bytes) : Server × List Event :=
  let cleared := clearDevice s id
  match allocDeviceSlot cleared.1.slots with
  | none => (cleared.1.goto conn (.refuse (ascii "ERROR server_full\r\n")), cleared.2)
  | some slot =>
      let taken : Slot := { cleared.1.slots slot with inUse := true, deviceId := id.take 63, sock := s.own conn }
      ({ cleared.1 with slots := Function.update cleared.1.slots slot taken }.goto conn (.answer slot),
        cleared.2 ++ [.registered conn slot id])

-- The peek leaves the byte where it is.
def watchStep (s : Server) (conn : ConnId) (slot : Fin maxDevices) (answer : Answer) : Server × List Event :=
  match recv s (s.fd conn) 1 answer with
  | none => (s, [])
  | some .failed => (s.goto conn (.releasing slot), [.call (s.own conn) .recv])
  | some (.data _ _) => (s, [.call (s.own conn) .recv])

-- The slot is recognised by the descriptor number alone.
def releasingStep (s : Server) (conn : ConnId) (slot : Fin maxDevices) : Server × List Event :=
  if (s.slots slot).inUse && (s.slots slot).sock.fd == s.fd conn then
    ({ s with slots := Function.update s.slots slot { s.slots slot with inUse := false } }.goto conn .closing, [])
  else (s.goto conn .closing, [])

def connectStep (s : Server) (conn : ConnId) (id : Bytes) : Server × List Event :=
  match findDevice s.slots id with
  | none => (s.goto conn (.refuse (ascii "ERROR device_not_found\r\n")), [])
  | some slot =>
      ({ s with slots := Function.update s.slots slot { s.slots slot with bridging := true } }.goto conn
          (.accepted slot (s.slots slot).sock),
        [.took conn slot (s.slots slot).sock.conn])

def releaseStep (s : Server) (conn : ConnId) (slot : Fin maxDevices) (dev : Handle) : Server × List Event :=
  ({ s with slots := Function.update s.slots slot { s.slots slot with inUse := false, bridging := false } }.goto conn
    (.closeOwn dev), [])

def closeStep (s : Server) (conn : ConnId) (handle : Handle) (next : Pc) : Server × List Event :=
  ((closeFd s handle.fd).goto conn next, [.call handle .close])

-- handle_connection. A bridge is left when both of its threads have ended.
def threadStep (s : Server) (conn : ConnId) (answer : Answer) : Server × List Event :=
  match s.pc conn with
  | .reading line => readStep s conn line answer
  | .refuse message => sayStep s conn (s.own conn) message .closing answer
  | .register id => registerStep s conn id
  | .answer slot => sayStep s conn (s.own conn) (ascii "OK\r\n") (.watching slot) answer
  | .watching slot => watchStep s conn slot answer
  | .releasing slot => releasingStep s conn slot
  | .connect id => connectStep s conn id
  | .accepted slot dev => sayStep s conn (s.own conn) (ascii "OK\r\n") (.notify slot dev) answer
  | .notify slot dev => sayStep s conn dev (ascii "BRIDGE\r\n") (.bridge slot dev .receiving .receiving) answer
  | .bridge slot dev .done .done => (s.goto conn (.release slot dev), [])
  | .bridge _ _ _ _ => (s, [])
  | .release slot dev => releaseStep s conn slot dev
  | .closeOwn dev => closeStep s conn (s.own conn) (.closeDev dev)
  | .closeDev dev => closeStep s conn dev .finished
  | .closing => closeStep s conn (s.own conn) .finished
  | .finished => (s, [])

-- bridge_one_dir from one handle to the other; back says where the pump stands afterwards.
def pumpStep (s : Server) (conn : ConnId) (source target : Handle) (pump : Pump) (back : Pump → Pc) (answer : Answer) :
    Server × List Event :=
  match pump with
  | .receiving =>
      match recv s source.fd bridgeBufSize answer with
      | none => (s, [])
      | some .failed => (s.goto conn (back .stopping), [.call source .recv])
      | some (.data origin bytes) => ((s.consume origin bytes).goto conn (back (.sending bytes)), [.call source .recv])
  | .sending left =>
      match send s target.fd left answer with
      | none => (s, [])
      | some (sent, count) =>
          if count = 0 then (sent.goto conn (back .stopping), [.call target (.send left)])
          else
            (sent.goto conn (back (if (left.drop count) = [] then .receiving else .sending (left.drop count))),
              [.call target (.send left)])
  | .stopping => ((shutdownFd s target.fd).goto conn (back .done), [.call target .shutdown])
  | .done => (s, [])

def bridgeStep (s : Server) (conn : ConnId) (side : Side) (answer : Answer) : Server × List Event :=
  match s.pc conn with
  | .bridge slot dev up down =>
      match side with
      | .up => pumpStep s conn (s.own conn) dev up (fun next => .bridge slot dev next down) answer
      | .down => pumpStep s conn dev (s.own conn) down (fun next => .bridge slot dev up next) answer
  | _ => (s, [])

-- accept returns a number that is not open.
def acceptStep (s : Server) (fd : Nat) : Server × List Event :=
  if (s.fds fd).isSome then (s, [])
  else
    ({ s with
        fds := Function.update s.fds fd (some s.nextConn), fd := Function.update s.fd s.nextConn fd
        pc := Function.update s.pc s.nextConn (.reading []), nextConn := s.nextConn + 1 },
      [.accepted s.nextConn])

-- Only an accepted peer can send or leave.
def step (s : Server) : Label → Server × List Event
  | .accept fd => acceptStep s fd
  | .deliver conn bytes =>
      if conn < s.nextConn then ({ s with rx := Function.update s.rx conn (s.rx conn ++ bytes) }, []) else (s, [])
  | .hangUp conn =>
      if conn < s.nextConn then ({ s with gone := Function.update s.gone conn true }, [.hungUp conn]) else (s, [])
  | .thread conn answer => threadStep s conn answer
  | .pump conn side answer => bridgeStep s conn side answer

def next : Server × List Event → Label → Server × List Event := Runs.record step

def initial : Server × List Event := ({}, [])

end Intercom.Relay
