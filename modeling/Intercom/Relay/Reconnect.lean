import Intercom.Lib.Runs
import Intercom.Relay.Client

set_option autoImplicit false

/- relay_client.c: who holds the connection to the relay, and who has to arm the timer when nobody does. -/
namespace Intercom

open ByteText

-- How getaddrinfo and tcp_connect end; tcp_connect leaves tc NULL when it fails.
inductive ConnectResult where
  | unresolved
  | refused
  | opened
deriving DecidableEq, Repr

def relayDoConnect (result : ConnectResult) (relay : RelayClient) : RelayClient :=
  match result with
  | .unresolved => relayScheduleReconnect relay
  | .refused => relayScheduleReconnect { relay with connected := false }
  | .opened => { relay with connected := true }

def relayReconnect (result : ConnectResult) (relay : RelayClient) : RelayClient :=
  if relay.running then relayDoConnect result { relay with connected := false, rbuf := [], registered := false } else relay

def relayClientStop (relay : RelayClient) : RelayClient :=
  { relay with running := false, reconnectTimer := none, connected := false, rbuf := [], registered := false }

-- g_relay with the two names it sends. The host and the port only reach getaddrinfo.
structure RelayDevice where
  relay : RelayClient := {}
  deviceId : Bytes := []
  authToken : Bytes := []
deriving DecidableEq, Repr

def nameSize : Nat := 64

-- tmr_init clears the timer. backoff_count keeps the value it had.
def relayClientStart (relayHost deviceId authToken : Option Bytes) (result : ConnectResult) (device : RelayDevice) : RelayDevice :=
  match relayHost, deviceId, authToken with
  | some _, some deviceId, some authToken =>
      { relay := relayDoConnect result { device.relay with running := true, bridging := false, reconnectTimer := none }
        deviceId := (cstr deviceId).take (nameSize - 1), authToken := (cstr authToken).take (nameSize - 1) }
  | _, _, _ => device

def regMsg (device : RelayDevice) : Bytes :=
  snprintf maxLine [ascii "REGISTER ", device.deviceId, [32], device.authToken, crlf]

def relayEstabHandler (device : RelayDevice) : RelayDevice × List Bytes :=
  ({ device with relay := { device.relay with backoffCount := 0 } }, [regMsg device])

inductive RelayEvent where
  | start (relayHost deviceId authToken : Option Bytes) (result : ConnectResult)
  | established
  | received (chunk : Bytes)
  | closed
  | timer (result : ConnectResult)
  | stop
deriving DecidableEq, Repr

-- Events of a connection come only while g_relay holds one: bridge_cb replaces the handlers of the one it is given. The
-- timer fires once: libre takes it off its list before it calls the handler. What goes out on the connection is the output.
def relayStep (device : RelayDevice) : RelayEvent → RelayDevice × List Bytes
  | .start relayHost deviceId authToken result =>
      (if device.relay.running then device else relayClientStart relayHost deviceId authToken result device, [])
  | .established => if device.relay.connected then relayEstabHandler device else (device, [])
  | .received chunk =>
      (if device.relay.connected then { device with relay := (relayRecvHandler device.relay chunk).1 } else device, [])
  | .closed => (if device.relay.connected then { device with relay := relayCloseHandler device.relay } else device, [])
  | .timer result =>
      (if device.relay.reconnectTimer.isSome then
        { device with relay := relayReconnect result { device.relay with reconnectTimer := none } }
      else device, [])
  | .stop => ({ device with relay := relayClientStop device.relay }, [])

def relayNext (device : RelayDevice) (event : RelayEvent) : RelayDevice := (relayStep device event).1

structure RelayLive (relay : RelayClient) : Prop where
  driven : relay.running = true → Xor (relay.connected = true) (relay.reconnectTimer.isSome = true)
  named : relay.registered = true → relay.connected = true
  stopped : relay.running = false → relay.connected = false ∧ relay.registered = false ∧ relay.reconnectTimer = none
  idle : relay.bridging = false
  paced : ∀ delay, relay.reconnectTimer = some delay → reconnectInterval ≤ delay ∧ delay ≤ maxReconnect

-- The states in which a handler has let the connection go and the timer is not armed yet.
structure Undriven (relay : RelayClient) : Prop where
  running : relay.running = true
  disconnected : relay.connected = false
  unregistered : relay.registered = false
  unarmed : relay.reconnectTimer = none
  idle : relay.bridging = false

theorem backoff_delay_bounds (relay : RelayClient) :
    reconnectInterval ≤ (relayBackoffDelay relay).2 ∧ (relayBackoffDelay relay).2 ≤ maxReconnect := by
  have power : 1 ≤ 2 ^ (if relay.backoffCount < 6 then relay.backoffCount.toNat else 6) := Nat.one_le_two_pow
  have least := Nat.mul_le_mul_left reconnectInterval power
  simp only [relayBackoffDelay, reconnectInterval, maxReconnect] at least ⊢
  omega

theorem armed_live (relay : RelayClient) (delay : Nat) (idle : Undriven relay)
    (bounds : reconnectInterval ≤ delay ∧ delay ≤ maxReconnect) (count : UInt32) :
    RelayLive { relay with backoffCount := count, reconnectTimer := some delay } where
  driven _ := Or.inr ⟨rfl, by simp [idle.disconnected]⟩
  named registered := by simp [idle.unregistered] at registered
  stopped still := by simp [idle.running] at still
  idle := idle.idle
  paced armed same := by
    cases same
    exact bounds

theorem schedule_live (relay : RelayClient) (idle : Undriven relay) : RelayLive (relayScheduleReconnect relay) := by
  rw [relayScheduleReconnect, if_pos idle.running]
  exact armed_live relay _ idle (backoff_delay_bounds relay) _

theorem do_connect_live (result : ConnectResult) (relay : RelayClient) (idle : Undriven relay) :
    RelayLive (relayDoConnect result relay) := by
  cases result with
  | unresolved => exact schedule_live relay idle
  | refused => exact schedule_live _ ⟨idle.running, rfl, idle.unregistered, idle.unarmed, idle.idle⟩
  | opened =>
      show RelayLive { relay with connected := true }
      exact {
        driven := fun _ => Or.inl ⟨rfl, by simp [idle.unarmed]⟩
        named := fun _ => rfl
        stopped := fun still => by simp [idle.running] at still
        idle := idle.idle
        paced := fun delay armed => by simp [idle.unarmed] at armed }

theorem connected_facts (relay : RelayClient) (live : RelayLive relay) (connected : relay.connected = true) :
    relay.running = true ∧ relay.reconnectTimer = none := by
  have running : relay.running = true := by
    by_contra halted
    have still := (live.stopped (by simpa using halted)).1
    rw [connected] at still
    cases still
  refine ⟨running, ?_⟩
  cases live.driven running with
  | inl one => simpa using one.2
  | inr one => exact absurd connected one.2

theorem close_live (relay : RelayClient) (live : RelayLive relay) (connected : relay.connected = true) :
    RelayLive (relayCloseHandler relay) := by
  obtain ⟨running, unarmed⟩ := connected_facts relay live connected
  have guard : (relay.running && !relay.bridging) = true := by simp [running, live.idle]
  rw [relayCloseHandler, if_pos guard]
  exact schedule_live _ ⟨running, rfl, rfl, unarmed, live.idle⟩

theorem hand_off_live (relay : RelayClient) (live : RelayLive relay) (connected : relay.connected = true) :
    RelayLive (handOff relay) := by
  obtain ⟨running, unarmed⟩ := connected_facts relay live connected
  have released : Undriven { relay with connected := false, rbuf := [], registered := false, bridging := false } :=
    ⟨running, rfl, rfl, unarmed, rfl⟩
  have armed := armed_live _ reconnectInterval released ⟨Nat.le_refl _, by decide⟩ 0
  simpa [handOff, running] using armed

-- Induction on the lines in the buffer: only BRIDGE gives the connection away, the others leave it where it is.
theorem loop_live (fuel : Nat) (relay : RelayClient) (live : RelayLive relay) (connected : relay.connected = true) :
    RelayLive (relayLoop fuel relay).1 := by
  induction fuel generalizing relay with
  | zero => exact live
  | succ fuel ih =>
      rw [relayLoop]
      cases memchr 10 relay.rbuf with
      | none => exact live
      | some lineLen =>
          dsimp only
          split
          · exact ih _ ⟨live.driven, fun _ => connected, fun still => absurd (live.stopped still).1 (by simp [connected]), live.idle,
              live.paced⟩ connected
          · split
            · exact hand_off_live relay live connected
            · exact ih _ ⟨live.driven, live.named, live.stopped, live.idle, live.paced⟩ connected

theorem recv_live (relay : RelayClient) (chunk : Bytes) (live : RelayLive relay) (connected : relay.connected = true) :
    RelayLive (relayRecvHandler relay chunk).1 := by
  rw [relayRecvHandler]
  split
  · exact close_live relay live connected
  · exact loop_live _ _ ⟨live.driven, live.named, live.stopped, live.idle, live.paced⟩ connected

theorem start_live (relayHost deviceId authToken : Option Bytes) (result : ConnectResult) (device : RelayDevice)
    (live : RelayLive device.relay) (halted : device.relay.running = false) :
    RelayLive (relayClientStart relayHost deviceId authToken result device).relay := by
  obtain ⟨disconnected, unregistered, -⟩ := live.stopped halted
  cases relayHost with
  | none => exact live
  | some host =>
      cases deviceId with
      | none => exact live
      | some name =>
          cases authToken with
          | none => exact live
          | some token => exact do_connect_live result _ ⟨rfl, disconnected, unregistered, rfl, rfl⟩

theorem timer_live (result : ConnectResult) (relay : RelayClient) (live : RelayLive relay)
    (armed : relay.reconnectTimer.isSome = true) : RelayLive (relayReconnect result { relay with reconnectTimer := none }) := by
  have running : relay.running = true := by
    by_contra halted
    have still := (live.stopped (by simpa using halted)).2.2
    simp [still] at armed
  rw [relayReconnect, if_pos running]
  exact do_connect_live result _ ⟨running, rfl, rfl, rfl, live.idle⟩

theorem stop_live (relay : RelayClient) (live : RelayLive relay) : RelayLive (relayClientStop relay) where
  driven running := by simp [relayClientStop] at running
  named registered := by simp [relayClientStop] at registered
  stopped _ := ⟨rfl, rfl, rfl⟩
  idle := live.idle
  paced delay armed := by simp [relayClientStop] at armed

theorem relay_step_live (device : RelayDevice) (event : RelayEvent) (live : RelayLive device.relay) :
    RelayLive (relayNext device event).relay := by
  cases event with
  | start relayHost deviceId authToken result =>
      by_cases running : device.relay.running = true
      · simpa [relayNext, relayStep, running] using live
      · have started := start_live relayHost deviceId authToken result device live (by simpa using running)
        simpa [relayNext, relayStep, running] using started
  | established =>
      by_cases connected : device.relay.connected = true
      · rw [relayNext, relayStep, if_pos connected]
        exact ⟨live.driven, live.named, live.stopped, live.idle, live.paced⟩
      · simpa [relayNext, relayStep, connected] using live
  | received chunk =>
      by_cases connected : device.relay.connected = true
      · simpa [relayNext, relayStep, connected] using recv_live device.relay chunk live connected
      · simpa [relayNext, relayStep, connected] using live
  | closed =>
      by_cases connected : device.relay.connected = true
      · simpa [relayNext, relayStep, connected] using close_live device.relay live connected
      · simpa [relayNext, relayStep, connected] using live
  | timer result =>
      by_cases armed : device.relay.reconnectTimer.isSome = true
      · simpa [relayNext, relayStep, armed] using timer_live result device.relay live armed
      · simpa [relayNext, relayStep, armed] using live
  | stop => exact stop_live device.relay live

theorem fresh_relay_live : RelayLive {} where
  driven running := by simp at running
  named registered := by simp at registered
  stopped _ := ⟨rfl, rfl, rfl⟩
  idle := rfl
  paced delay armed := by simp at armed

theorem relay_client_never_stuck (events : List RelayEvent) :
    Runs.EachState relayNext (fun device => RelayLive device.relay) {} events := by
  apply Runs.each_state_kept
  · intro device event live
    exact relay_step_live device event live
  · exact fresh_relay_live

end Intercom
