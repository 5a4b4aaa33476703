import Intercom.Lib.Runs
import Intercom.Android.Connect

set_option autoImplicit false

/- RtspClient.kt as its threads: the app's, one for every connect, the readers and the reconnecting ones. A step is one
   access to a field they share, with what its thread does alone around it, or one blocking call. A label gives the
   result of that call; a thread that has to wait stays where it is. What is said to the listener, the timer that keeps
   the session alive and the microphone only read these fields. -/
namespace Intercom.Android.Threads

abbrev ThreadId := Nat
abbrev SockId := Nat

def maxReconnectAttempts : Nat := 20

-- Who runs doConnect, and with it what becomes of its exception.
inductive Caller where
  | connect (wasReconnecting : Bool)
  | factory
  | reconnect (attempt : Nat)
deriving DecidableEq, Repr

inductive Ask where
  | options
  | describe
  | setupVideo
  | setupAudio
  | setupBackchannel
  | play
deriving DecidableEq, Repr

inductive DoConnect where
  | enter (existingSocket : Option SockId)
  | isConnecting (existingSocket : Option SockId)
  | isReconnecting (existingSocket : Option SockId)
  | noDelay (sock : SockId)
  | open_
  | socket (sock : SockId)
  | inputStream (sock : SockId)
  | outputStream (sock : SockId)
  | send (ask : Ask) (retry : Bool)
  | respond (ask : Ask) (retry : Bool)
  | read (ask : Ask) (retry : Bool) (input : SockId)
  | connected
  | playing
  | running
  | reader
  | start
  | returns
  | throws
deriving DecidableEq, Repr

inductive Cleanup where
  | running
  | teardown
  | enter
  | send
  | close
  | reader
  | join (reader : ThreadId)
  | dropReader
  | dropSocket
  | dropInput
  | dropOutput
deriving DecidableEq, Repr

inductive After where
  | schedule
  | retry (attempt : Nat)
deriving DecidableEq, Repr

inductive Pc where
  | fresh
  | factory (caller : Caller)
  | doConnect (caller : Caller) (position : DoConnect)
  | caught (caller : Caller)
  | fail
  | schedule
  | cleanup (after : After) (position : Cleanup)
  | reconnecting
  | interrupt
  | await
  | join (reconnector : ThreadId)
  | create
  | start
  | loop (attempt : Nat)
  | sleep (attempt : Nat)
  | awake (attempt : Nat)
  | choose (attempt : Nat)
  | retry (attempt : Nat)
  | retrying (attempt : Nat)
  | exhausted
  | giveUp
  | readInput
  | readSocket (input : SockId)
  | soTimeout (input sock : SockId)
  | isRunning (input : SockId)
  | read (input : SockId)
  | finally_
  | lost
  | ended
deriving DecidableEq, Repr

inductive App where
  | idle
  | isDisconnected (relay : Bool)
  | isReconnecting (relay : Bool)
  | wasReconnecting
  | connecting (caller : Caller)
  | autoReconnect (caller : Caller)
  | lastRelaySocket (caller : Caller)
  | spawn (caller : Caller)
  | stopReconnect
  | interrupt
  | cleanup (position : Cleanup)
  | disconnected
deriving DecidableEq, Repr

inductive Owner where
  | app
  | thread (self : ThreadId)
deriving DecidableEq, Repr

-- The fields of the client, what the system keeps of its sockets, and the flags of its threads.
structure Shared where
  state : ClientState := .disconnected
  autoReconnect : Bool := false
  running : Bool := false
  lastRelaySocket : Bool := false
  socket : Option SockId := none
  inputStream : Option SockId := none
  outputStream : Option SockId := none
  sessionId : Option Text := none
  backchannelTrack : Bool := false
  readThread : Option ThreadId := none
  reconnectThread : Option ThreadId := none
  monitor : Option Owner := none
  closed : SockId → Bool := fun _ => false
  nextSock : SockId := 0
  interrupted : ThreadId → Bool := fun _ => false
  nextThread : ThreadId := 0

-- final: disconnect has returned and no connect has been called since.
structure Client where
  shared : Shared := {}
  pc : ThreadId → Pc := fun _ => .ended
  app : App := .idle
  final : Bool := false

-- The outcome of a blocking call. A 401 counts as unauthorized when the client can answer it, and as a failure otherwise.
inductive Answer where
  | fails
  | unauthorized
  | gives (session : Option Text) (backchannel : Bool)
deriving DecidableEq, Repr

inductive Call where
  | connect
  | connectViaSocketFactory
  | disconnect
deriving DecidableEq, Repr

inductive Label where
  | call (call : Call)
  | app (answer : Answer)
  | thread (self : ThreadId) (answer : Answer)
deriving DecidableEq, Repr

def Pc.alive : Pc → Bool
  | .fresh => false
  | .ended => false
  | _ => true

def Shared.live (s : Shared) : Bool := s.socket.any fun sock => !s.closed sock

structure Acted where
  shared : Shared
  pc : Pc
  starts : Option (ThreadId × Pc) := none

def Shared.goto (s : Shared) (pc : Pc) : Acted := { shared := s, pc := pc }

def accepted (s : Shared) (session : Option Text) (backchannel : Bool) : Ask → Shared × DoConnect
  | .options => (s, .send .describe false)
  | .describe => ({ s with backchannelTrack := s.backchannelTrack || backchannel }, .send .setupVideo false)
  | .setupVideo =>
      if s.sessionId.isSome then (s, .send .setupAudio false)
      else ({ s with sessionId := session }, if session.getD [] = [] then .throws else .send .setupAudio false)
  | .setupAudio => (s, if s.backchannelTrack then .send .setupBackchannel false else .connected)
  | .setupBackchannel => (s, .connected)
  | .play => (s, .playing)

-- The answer to OPTIONS is not looked at.
def response (s : Shared) (ask : Ask) (retry : Bool) : Answer → Shared × DoConnect
  | .fails => (s, .throws)
  | .unauthorized =>
      if ask = .options then accepted s none false ask else (s, if retry then .throws else .send ask true)
  | .gives session backchannel => accepted s session backchannel ask

def opening : Option SockId → DoConnect
  | some sock => .noDelay sock
  | none => .open_

-- What doConnect does to the fields; the reader is made and started by the thread.
def connectStep (s : Shared) (self : ThreadId) (answer : Answer) : DoConnect → Shared × DoConnect
  | .enter existing =>
      if s.monitor = none then ({ s with monitor := some (.thread self) }, .isConnecting existing) else (s, .enter existing)
  | .isConnecting existing => (s, if s.state = .connecting then opening existing else .isReconnecting existing)
  | .isReconnecting existing => (s, if s.state = .reconnecting then opening existing else .returns)
  | .noDelay sock => (s, if answer = .fails then .throws else .socket sock)
  | .open_ => if answer = .fails then (s, .throws) else ({ s with nextSock := s.nextSock + 1 }, .socket s.nextSock)
  | .socket sock => ({ s with socket := some sock }, .inputStream sock)
  | .inputStream sock => if s.closed sock then (s, .throws) else ({ s with inputStream := some sock }, .outputStream sock)
  | .outputStream sock => if s.closed sock then (s, .throws) else ({ s with outputStream := some sock }, .send .options false)
  | .send ask retry =>
      (s, if s.outputStream.any (fun sock => s.closed sock || answer == .fails) then .throws else .respond ask retry)
  | .respond ask retry => (s, (s.inputStream.map (.read ask retry)).getD .throws)
  | .read ask retry input => if s.closed input then (s, .throws) else response s ask retry answer
  | .connected => ({ s with state := .connected }, .send .play false)
  | .playing => ({ s with state := .playing }, .running)
  | .running => ({ s with running := true }, .reader)
  | position => (s, position)

-- internalCleanup; none when it is over.
def cleanupStep (s : Shared) (owner : Owner) (alive : ThreadId → Bool) (answer : Answer) : Cleanup → Shared × Option Cleanup
  | .running => ({ s with running := false }, some (if owner = .app then .teardown else .close))
  | .teardown => (s, some (if s.sessionId.isSome && s.live then .enter else .close))
  | .enter => if s.monitor = none then ({ s with monitor := some owner }, some .send) else (s, some .enter)
  | .send => ({ s with monitor := none }, some .close)
  | .close =>
      ((s.socket.map fun sock => { s with closed := Function.update s.closed sock true }).getD s, some .reader)
  | .reader => (s, some ((s.readThread.map .join).getD .dropReader))
  | .join reader => (s, some (if alive reader && answer != .fails then .join reader else .dropReader))
  | .dropReader => ({ s with readThread := none }, some .dropSocket)
  | .dropSocket => ({ s with socket := none }, some .dropInput)
  | .dropInput => ({ s with inputStream := none }, some .dropOutput)
  | .dropOutput => ({ s with outputStream := none, sessionId := none, backchannelTrack := false }, none)

def After.pc : After → Pc
  | .schedule => .reconnecting
  | .retry attempt => .retry attempt

-- join waits, and throws when its thread has been interrupted.
def Cleanup.waits (alive : ThreadId → Bool) : Cleanup → Bool
  | .join other => alive other
  | _ => false

def threadStep (s : Shared) (pcs : ThreadId → Pc) (self : ThreadId) (answer : Answer) : Pc → Acted
  | .factory caller =>
      if answer = .fails then s.goto (.caught caller)
      else { s with nextSock := s.nextSock + 1 }.goto (.doConnect caller (.enter (some s.nextSock)))
  | .doConnect caller .reader =>
      { shared := { s with readThread := some s.nextThread, nextThread := s.nextThread + 1 }
        pc := .doConnect caller .start, starts := some (s.nextThread, .fresh) }
  | .doConnect caller .start =>
      match s.readThread with
      | some reader =>
          if pcs reader = .fresh then { shared := s, pc := .doConnect caller .returns, starts := some (reader, .readInput) }
          else s.goto (.doConnect caller .throws)
      | none => s.goto (.doConnect caller .throws)
  | .doConnect _ .returns => { s with monitor := none }.goto .ended
  | .doConnect caller .throws => { s with monitor := none }.goto (.caught caller)
  | .doConnect caller position =>
      (connectStep s self answer position).1.goto (.doConnect caller (connectStep s self answer position).2)
  | .caught (.connect wasReconnecting) => s.goto (if wasReconnecting || !s.autoReconnect then .fail else .schedule)
  | .caught .factory => s.goto .schedule
  | .caught (.reconnect attempt) => s.goto (.cleanup (.retry attempt) .running)
  | .fail => { s with state := .error }.goto .ended
  | .schedule => s.goto (if s.autoReconnect then .cleanup .schedule .running else .ended)
  | .cleanup after position =>
      if position.waits (fun other => (pcs other).alive) && s.interrupted self then s.goto .ended
      else
        let cleaned := cleanupStep s (.thread self) (fun other => (pcs other).alive) answer position
        cleaned.1.goto ((cleaned.2.map (.cleanup after)).getD after.pc)
  | .reconnecting => { s with state := .reconnecting }.goto .interrupt
  | .interrupt =>
      ((s.reconnectThread.map fun other => { s with interrupted := Function.update s.interrupted other true }).getD s).goto .await
  | .await => s.goto ((s.reconnectThread.map .join).getD .create)
  | .join other =>
      if (pcs other).alive then
        if s.interrupted self then s.goto .ended else s.goto (if answer = .fails then .create else .join other)
      else s.goto .create
  | .create =>
      { shared := { s with reconnectThread := some s.nextThread, nextThread := s.nextThread + 1 }
        pc := .start, starts := some (s.nextThread, .fresh) }
  | .start =>
      match s.reconnectThread with
      | some other => if pcs other = .fresh then { shared := s, pc := .ended, starts := some (other, .loop 0) } else s.goto .ended
      | none => s.goto .ended
  | .loop attempt => s.goto (if s.autoReconnect && attempt < maxReconnectAttempts then .sleep (attempt + 1) else .exhausted)
  | .sleep attempt => s.goto (if s.interrupted self then .ended else .awake attempt)
  | .awake attempt => s.goto (if !s.autoReconnect || s.interrupted self then .ended else .choose attempt)
  | .choose attempt =>
      s.goto (if s.lastRelaySocket then .factory (.reconnect attempt) else .doConnect (.reconnect attempt) (.enter none))
  | .retry attempt => s.goto (if s.autoReconnect then .retrying attempt else .loop attempt)
  | .retrying attempt => { s with state := .reconnecting }.goto (.loop attempt)
  | .exhausted => s.goto (if s.autoReconnect then .giveUp else .ended)
  | .giveUp => { s with autoReconnect := false }.goto .fail
  | .readInput => s.goto ((s.inputStream.map .readSocket).getD .ended)
  | .readSocket input => s.goto ((s.socket.map (.soTimeout input)).getD .ended)
  | .soTimeout input sock => s.goto (if s.closed sock || answer == .fails then .finally_ else .isRunning input)
  | .isRunning input => s.goto (if s.running then .read input else .finally_)
  | .read input => s.goto (if s.closed input || answer == .fails then .finally_ else .isRunning input)
  | .finally_ => { s with running := false }.goto (if s.running then .lost else .ended)
  | .lost => s.goto (if s.autoReconnect then .schedule else .fail)
  | .fresh => s.goto .fresh
  | .ended => s.goto .ended

def begin_ (relay : Bool) : App := if relay then .connecting .factory else .wasReconnecting

def Caller.first : Caller → Pc
  | .factory => .factory .factory
  | caller => .doConnect caller (.enter none)

structure AppActed where
  shared : Shared
  app : App
  starts : Option (ThreadId × Pc) := none

def Shared.leave (s : Shared) (app : App) : AppActed := { shared := s, app := app }

def appStep (s : Shared) (pcs : ThreadId → Pc) (answer : Answer) : App → AppActed
  | .idle => s.leave .idle
  | .isDisconnected relay => s.leave (if s.state = .disconnected then begin_ relay else .isReconnecting relay)
  | .isReconnecting relay => s.leave (if s.state = .reconnecting then begin_ relay else .idle)
  | .wasReconnecting => s.leave (.connecting (.connect (s.state == .reconnecting)))
  | .connecting caller => { s with state := .connecting }.leave (.autoReconnect caller)
  | .autoReconnect caller => { s with autoReconnect := true }.leave (.lastRelaySocket caller)
  | .lastRelaySocket caller => { s with lastRelaySocket := caller == Caller.factory }.leave (.spawn caller)
  | .spawn caller =>
      { shared := { s with nextThread := s.nextThread + 1 }, app := .idle, starts := some (s.nextThread, caller.first) }
  | .stopReconnect => { s with autoReconnect := false }.leave .interrupt
  | .interrupt =>
      { (s.reconnectThread.map fun other => { s with interrupted := Function.update s.interrupted other true }).getD s with
        reconnectThread := none }.leave (.cleanup .running)
  | .cleanup position =>
      let cleaned := cleanupStep s .app (fun other => (pcs other).alive) answer position
      cleaned.1.leave ((cleaned.2.map .cleanup).getD .disconnected)
  | .disconnected => { s with state := .disconnected }.leave .idle

def begun (pcs : ThreadId → Pc) : Option (ThreadId × Pc) → ThreadId → Pc
  | none => pcs
  | some (other, pc) => Function.update pcs other pc

def next (c : Client) : Label → Client
  | .call call =>
      if c.app = .idle then
        match call with
        | .connect => { c with app := .isDisconnected false, final := false }
        | .connectViaSocketFactory => { c with app := .isDisconnected true, final := false }
        | .disconnect => { c with app := .stopReconnect }
      else c
  | .app answer =>
      let acted := appStep c.shared c.pc answer c.app
      { shared := acted.shared, pc := begun c.pc acted.starts, app := acted.app, final := c.final || c.app == .disconnected }
  | .thread self answer =>
      let acted := threadStep c.shared c.pc self answer (c.pc self)
      { c with shared := acted.shared, pc := begun (Function.update c.pc self acted.pc) acted.starts }

end Intercom.Android.Threads
