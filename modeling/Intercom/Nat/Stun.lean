import Intercom.Http.Server

set_option autoImplicit false

/- stun_client.c over the client transactions of libre (stun/ctrans.c, stun/stun.c) and its UDP sockets. Decoding a
   message is left to a function; it is reached only through the receive handler of a socket. -/
namespace Intercom.Nat

open ByteText

-- STUN_DEFAULT_RTO, STUN_DEFAULT_RC and STUN_DEFAULT_RM: stun_alloc is given no configuration.
def rto : Nat := 500
def rc : Nat := 7
def rm : Nat := 16

def bindingMethod : UInt16 := 1

inductive StunClass where
  | request
  | indication
  | success
  | error
deriving DecidableEq, Repr

-- The attributes that are looked at: the first of their type in the message. unknown counts those that must be understood.
structure StunMsg where
  cls : StunClass
  method : UInt16
  tid : Bytes
  errCode : Option UInt16 := none
  xorMappedAddr : Option Sa := none
  mappedAddr : Option Sa := none
  unknown : Nat := 0
deriving DecidableEq, Repr

abbrev SockId := Nat
abbrev StunId := Nat
abbrev TransactionId := Nat

-- udp_listen puts dummy_udp_recv_handler where it is given none.
inductive UdpHandler where
  | dummy
  | stunRecv (stun : StunId)
deriving DecidableEq, Repr

-- ctp says that the transaction still points at g_stun.ct, due is the time its timer was set to.
structure Ctrans where
  id : TransactionId
  stun : StunId
  sock : SockId
  tid : Bytes
  met : UInt16
  txc : Nat := 1
  ival : Nat := rto
  due : Nat
  ctp : Bool := true
deriving DecidableEq, Repr

-- g_stun, and the objects of libre behind its pointers. A number is given to every object as it is made.
structure StunClient where
  stun : Option StunId := none
  ct : Option TransactionId := none
  us : Option SockId := none
  publicAddr : Bytes := []
  discovered : Bool := false
  cb : Bool := false
  transactions : List Ctrans := []
  handlers : SockId → UdpHandler := fun _ => .dummy
  made : Nat := 0

inductive Ending where
  | timedOut
  | sendFailed
  | aborted
  | answered (msg : StunMsg)
deriving DecidableEq, Repr

inductive StunOut where
  | sent (transaction : TransactionId) (now : Nat)
  | completed (transaction : TransactionId) (ending : Ending) (now : Nat)
  | called (publicAddr : Option Bytes)
deriving DecidableEq, Repr

def publicAddrSize : Nat := 64

def StunClient.call (client : StunClient) (result : Option Bytes) : List StunOut := if client.cb then [.called result] else []

-- The reason phrase only goes to the log.
def stunRespHandler (client : StunClient) (err : Bool) (scode : UInt16) (msg : Option StunMsg) : StunClient × List StunOut :=
  let client := { client with ct := none }
  if err then (client, client.call none)
  else if scode ≠ 0 then (client, client.call none)
  else
    match msg.bind fun msg => msg.xorMappedAddr.or msg.mappedAddr with
    | some sa =>
        let publicAddr := snprintf publicAddrSize [Http.saText sa]
        ({ client with publicAddr, discovered := true }, client.call (some publicAddr))
    | none => (client, client.call none)

def Ending.outcome : Ending → Bool × UInt16 × Option StunMsg
  | .answered msg =>
      (decide (0 < msg.unknown) || (msg.cls == .error && msg.errCode.isNone),
        if msg.cls = .error then msg.errCode.getD 0 else 0, some msg)
  | _ => (true, 0, none)

def completed (client : StunClient) (ct : Ctrans) (ending : Ending) (now : Nat) : StunClient × List StunOut :=
  let client :=
    { client with transactions := client.transactions.filter fun other => other.id != ct.id, ct := if ct.ctp then none else client.ct }
  let result := stunRespHandler client ending.outcome.1 ending.outcome.2.1 ending.outcome.2.2
  (result.1, .completed ct.id ending now :: result.2)

def StunClient.find? (client : StunClient) (transaction : TransactionId) : Option Ctrans :=
  client.transactions.find? fun ct => ct.id == transaction

def StunClient.put (client : StunClient) (ct : Ctrans) : StunClient :=
  { client with transactions := client.transactions.map fun other => if other.id = ct.id then ct else other }

def timeoutHandler (client : StunClient) (ct : Ctrans) (now : Nat) (sendOk : Bool) : StunClient × List StunOut :=
  if rc ≤ ct.txc then completed client ct .timedOut now
  else if !sendOk then completed client ct .sendFailed now
  else
    let txc := ct.txc + 1
    let ival := if rc ≤ txc then rto * rm else ct.ival * 2
    (client.put { ct with txc, ival, due := now + ival }, [.sent ct.id now])

def stunCtransRecv (client : StunClient) (stun : StunId) (msg : StunMsg) (now : Nat) : StunClient × List StunOut :=
  match client.transactions.find? fun ct => ct.stun == stun && ct.met == msg.method && ct.tid == msg.tid with
  | none => (client, [])
  | some ct => completed client ct (.answered msg) now

-- stun_alloc is given no indication handler.
def stunRecv (decode : Bytes → Option StunMsg) (client : StunClient) (stun : StunId) (mb : Bytes) (now : Nat) :
    StunClient × List StunOut :=
  match decode mb with
  | none => (client, [])
  | some msg =>
      match msg.cls with
      | .error => stunCtransRecv client stun msg now
      | .success => stunCtransRecv client stun msg now
      | .indication => (client, [])
      | .request => (client, [])

def udpRead (decode : Bytes → Option StunMsg) (client : StunClient) (sock : SockId) (mb : Bytes) (now : Nat) :
    StunClient × List StunOut :=
  match client.handlers sock with
  | .dummy => (client, [])
  | .stunRecv stun => stunRecv decode client stun mb now

def udpListen (client : StunClient) (handler : Option StunId) : StunClient × SockId :=
  ({ client with
    handlers := fun sock => if sock = client.made then (match handler with | some stun => .stunRecv stun | none => .dummy)
      else client.handlers sock
    made := client.made + 1 }, client.made)

-- How the outside calls of stun_discover end, in their order; the last two are those of stun_request.
structure DiscoverEnv where
  resolved : Bool := true
  listens : Bool := true
  allocated : Bool := true
  encoded : Bool := true
  sent : Bool := true
deriving DecidableEq, Repr

-- IPPROTO_UDP without a key. A transaction that is given no socket listens on one of its own.
def stunCtransRequest (env : DiscoverEnv) (client : StunClient) (stun : StunId) (sock : Option SockId) (tid : Bytes) (now : Nat) :
    StunClient × Option TransactionId × List StunOut :=
  let opened := match sock with
    | some sock => (client, sock)
    | none => udpListen client (some stun)
  if env.sent then
    let ct : Ctrans := { id := opened.1.made, stun, sock := opened.2, tid, met := bindingMethod, due := now + rto }
    ({ opened.1 with transactions := opened.1.transactions ++ [ct], ct := some ct.id, made := opened.1.made + 1 },
      some ct.id, [.sent ct.id now])
  else (opened.1, none, [])

def StunClient.reset (client : StunClient) (cb : Bool) : StunClient := { client with cb, discovered := false, publicAddr := [] }

-- The socket of stun_discover has no receive handler.
def StunClient.bind (client : StunClient) : StunClient :=
  let bound := udpListen client none
  { bound.1 with us := some bound.2, stun := some bound.1.made, made := bound.1.made + 1 }

def stunDiscover (env : DiscoverEnv) (client : StunClient) (cb : Bool) (tid : Bytes) (now : Nat) : StunClient × List StunOut :=
  let client := client.reset cb
  if !env.resolved || !env.listens then (client, [])
  else if !env.allocated then ({ (udpListen client none).1 with us := none }, [])
  else if !env.encoded then ({ client.bind with us := none, stun := none }, [])
  else
    let asked := stunCtransRequest env client.bind (client.made + 1) (some client.made) tid now
    match asked.2.1 with
    | none => ({ asked.1 with us := none, stun := none }, asked.2.2)
    | some _ => (asked.1, asked.2.2)

def stunGetPublicAddr (client : StunClient) : Option Bytes := if client.discovered then some client.publicAddr else none

def abortAll : List Ctrans → Nat → StunClient → StunClient × List StunOut
  | [], _, client => (client, [])
  | ct :: rest, now, client =>
      let ended := completed client ct .aborted now
      let others := abortAll rest now ended.1
      (others.1, ended.2 ++ others.2)

def StunClient.release (client : StunClient) : StunClient :=
  { client with transactions := client.transactions.filter fun ct => some ct.id != client.ct, ct := none, us := none }

def StunClient.orphans (client : StunClient) : List Ctrans := client.transactions.filter fun ct => some ct.stun == client.stun

-- The transaction g_stun still points at goes without a word; the others of the instance are aborted by its destructor.
def stunClose (client : StunClient) (now : Nat) : StunClient × List StunOut :=
  let aborted := abortAll client.release.orphans now client.release
  ({ aborted.1 with stun := none, discovered := false }, aborted.2)

inductive StunEvent where
  | discover (env : DiscoverEnv) (cb : Bool) (tid : Bytes) (now : Nat)
  | datagram (sock : SockId) (mb : Bytes) (now : Nat)
  | timer (transaction : TransactionId) (now : Nat) (sendOk : Bool)
  | close (now : Nat)
deriving DecidableEq, Repr

-- A timer does not fire before it is due.
def stunStep (decode : Bytes → Option StunMsg) (client : StunClient) : StunEvent → StunClient × List StunOut
  | .discover env cb tid now => stunDiscover env client cb tid now
  | .datagram sock mb now => udpRead decode client sock mb now
  | .timer transaction now sendOk =>
      match client.find? transaction with
      | none => (client, [])
      | some ct => if ct.due ≤ now then timeoutHandler client ct now sendOk else (client, [])
  | .close now => stunClose client now

def stunRun (decode : Bytes → Option StunMsg) (client : StunClient) (events : List StunEvent) : StunClient × List StunOut :=
  Runs.run (Runs.record (stunStep decode)) (client, []) events

def StunOut.silent : StunOut → Bool
  | .called (some _) => false
  | _ => true

structure Deaf (reached : StunClient × List StunOut) : Prop where
  dummy : ∀ sock, reached.1.handlers sock = .dummy
  undiscovered : reached.1.discovered = false
  silent : ∀ out ∈ reached.2, out.silent = true

def Ending.failed : Ending → Bool
  | .answered _ => false
  | _ => true

theorem completed_failed (client : StunClient) (ct : Ctrans) (ending : Ending) (now : Nat) (failed : ending.failed = true) :
    completed client ct ending now =
      ({ client with transactions := client.transactions.filter fun other => other.id != ct.id, ct := none },
        .completed ct.id ending now :: client.call none) := by
  cases ending with
  | answered msg => cases failed
  | timedOut => rfl
  | sendFailed => rfl
  | aborted => rfl

theorem call_silent (client : StunClient) : ∀ out ∈ client.call none, out.silent = true := by
  rw [StunClient.call]
  split <;> simp [StunOut.silent]

theorem completed_deaf (client : StunClient) (log : List StunOut) (ct : Ctrans) (ending : Ending) (now : Nat)
    (failed : ending.failed = true) (deaf : Deaf (client, log)) :
    Deaf ((completed client ct ending now).1, log ++ (completed client ct ending now).2) := by
  rw [completed_failed client ct ending now failed]
  refine ⟨deaf.dummy, deaf.undiscovered, ?_⟩
  simp only [List.forall_mem_append, List.forall_mem_cons]
  exact ⟨deaf.silent, rfl, call_silent client⟩

theorem abort_deaf (victims : List Ctrans) (now : Nat) (client : StunClient) (log : List StunOut) (deaf : Deaf (client, log)) :
    Deaf ((abortAll victims now client).1, log ++ (abortAll victims now client).2) := by
  induction victims generalizing client log with
  | nil => simpa [abortAll] using deaf
  | cons ct rest ih =>
      have ended := completed_deaf client log ct .aborted now rfl deaf
      have others := ih _ _ ended
      rw [List.append_assoc] at others
      exact others

theorem listen_dummy (client : StunClient) (dummy : ∀ sock, client.handlers sock = .dummy) :
    ∀ sock, (udpListen client none).1.handlers sock = .dummy := by
  intro sock
  simp [udpListen, dummy]

theorem request_sent (env : DiscoverEnv) (client : StunClient) (stun : StunId) (sock : SockId) (tid : Bytes) (now : Nat)
    (sent : env.sent = true) :
    stunCtransRequest env client stun (some sock) tid now =
      ({ client with
        transactions := client.transactions ++
          [{ id := client.made, stun, sock, tid, met := bindingMethod, due := now + rto }]
        ct := some client.made, made := client.made + 1 }, some client.made, [.sent client.made now]) := by
  simp [stunCtransRequest, sent]

theorem request_unsent (env : DiscoverEnv) (client : StunClient) (stun : StunId) (sock : SockId) (tid : Bytes) (now : Nat)
    (unsent : env.sent = false) : stunCtransRequest env client stun (some sock) tid now = (client, none, []) := by
  simp [stunCtransRequest, unsent]

theorem discover_deaf (env : DiscoverEnv) (client : StunClient) (log : List StunOut) (cb : Bool) (tid : Bytes) (now : Nat)
    (deaf : Deaf (client, log)) :
    Deaf ((stunDiscover env client cb tid now).1, log ++ (stunDiscover env client cb tid now).2) := by
  have dummy := listen_dummy (client.reset cb) deaf.dummy
  have before : ∀ out ∈ log ++ [], out.silent = true := by simpa using deaf.silent
  rw [stunDiscover]
  dsimp only
  split
  · exact ⟨deaf.dummy, rfl, before⟩
  · split
    · exact ⟨dummy, rfl, before⟩
    · split
      · exact ⟨dummy, rfl, before⟩
      · cases sent : env.sent with
        | false =>
            rw [request_unsent env _ _ _ tid now sent]
            exact ⟨dummy, rfl, before⟩
        | true =>
            rw [request_sent env _ _ _ tid now sent]
            refine ⟨dummy, rfl, ?_⟩
            simp only [List.forall_mem_append, List.forall_mem_singleton]
            exact ⟨deaf.silent, rfl⟩

theorem stun_next_deaf (decode : Bytes → Option StunMsg) (reached : StunClient × List StunOut) (event : StunEvent)
    (deaf : Deaf reached) : Deaf (Runs.record (stunStep decode) reached event) := by
  obtain ⟨client, log⟩ := reached
  have still : Deaf (client, log ++ []) := by simpa using deaf
  rw [Runs.record]
  cases event with
  | discover env cb tid now => exact discover_deaf env client log cb tid now deaf
  | datagram sock mb now =>
      have unread : udpRead decode client sock mb now = (client, []) := by
        have handler : client.handlers sock = .dummy := deaf.dummy sock
        simp [udpRead, handler]
      simpa only [stunStep, unread] using still
  | timer transaction now sendOk =>
      simp only [stunStep]
      cases client.find? transaction with
      | none => exact still
      | some ct =>
          dsimp only
          split
          · rw [timeoutHandler]
            split
            · exact completed_deaf client log ct .timedOut now rfl deaf
            · split
              · exact completed_deaf client log ct .sendFailed now rfl deaf
              · refine ⟨deaf.dummy, deaf.undiscovered, ?_⟩
                simp only [List.forall_mem_append, List.forall_mem_singleton]
                exact ⟨deaf.silent, rfl⟩
          · exact still
  | close now =>
      have released : Deaf (client.release, log) := ⟨deaf.dummy, deaf.undiscovered, deaf.silent⟩
      have ended := abort_deaf client.release.orphans now _ _ released
      exact ⟨ended.dummy, rfl, ended.silent⟩

theorem stun_never_discovers (decode : Bytes → Option StunMsg) (events : List StunEvent) :
    stunGetPublicAddr (stunRun decode {} events).1 = none ∧
      ∀ publicAddr, .called (some publicAddr) ∉ (stunRun decode {} events).2 := by
  have zeroed : Deaf ({}, []) := ⟨fun _ => rfl, rfl, by simp⟩
  have deaf := Runs.run_invariant _ Deaf _ events (stun_next_deaf decode) zeroed
  refine ⟨?_, ?_⟩
  · rw [stunGetPublicAddr, stunRun, deaf.undiscovered]
    rfl
  · intro publicAddr told
    exact absurd (deaf.silent _ told) (by simp [StunOut.silent])

end Intercom.Nat
