import Intercom.Nat.Stun
import Intercom.Relay.Reconnect

set_option autoImplicit false

/- What GET /api/nat says, along any run of the STUN and relay clients behind it. -/
namespace Intercom.Nat

open ByteText Http

-- relay_addr of g_relay stands beside the fields that the relay's own state machine reads.
structure NatState where
  stun : StunClient := {}
  relay : RelayDevice := {}
  relayAddr : Bytes := []

inductive NatEvent where
  | stun (event : StunEvent)
  | relay (port : UInt16) (event : RelayEvent)
deriving DecidableEq, Repr

def relayAddrSize : Nat := 256

-- relay_client_start prints the address before it connects; it takes 443 for no port.
def printedAddr (state : NatState) (port : UInt16) : RelayEvent → Bytes
  | .start (some relayHost) (some _) (some _) _ =>
      if state.relay.relay.running then state.relayAddr
      else snprintf relayAddrSize [cstr relayHost, ascii ":", decimal (if port = 0 then 443 else port.toNat)]
  | _ => state.relayAddr

def natStep (decode : Bytes → Option StunMsg) (state : NatState) : NatEvent → NatState
  | .stun event => { state with stun := (stunStep decode state.stun event).1 }
  | .relay port event => { state with relay := relayNext state.relay event, relayAddr := printedAddr state port event }

def relayClientGetServer (state : NatState) : Option Bytes := if state.relay.relay.running then some state.relayAddr else none

def relayClientIsConnected (state : NatState) : Bool := state.relay.relay.registered

def natEnv (fopen : Bytes → Option OpenFile) (jiffies : UInt64) (state : NatState) : HttpEnv where
  fopen := fopen
  jiffies := jiffies
  publicAddr := stunGetPublicAddr state.stun
  relayServer := relayClientGetServer state
  relayConnected := relayClientIsConnected state

structure NatKept (state : NatState) : Prop where
  deaf : Deaf (state.stun, [])
  live : RelayLive state.relay.relay
  short : state.relayAddr.length < relayAddrSize

theorem nat_next_kept (decode : Bytes → Option StunMsg) (state : NatState) (event : NatEvent) (kept : NatKept state) :
    NatKept (natStep decode state event) := by
  cases event with
  | stun event =>
      have heard := stun_next_deaf decode (state.stun, []) event kept.deaf
      exact ⟨⟨heard.dummy, heard.undiscovered, by simp⟩, kept.live, kept.short⟩
  | relay port event =>
      refine ⟨kept.deaf, relay_step_live state.relay event kept.live, ?_⟩
      have fits : ∀ pieces, (snprintf relayAddrSize pieces).length < relayAddrSize := fun pieces =>
        Nat.lt_of_le_of_lt (snprintf_length relayAddrSize pieces) (by decide)
      rw [natStep]
      dsimp only
      rw [printedAddr.eq_def]
      split
      · split
        · exact kept.short
        · exact fits _
      · exact kept.short

theorem nat_run_kept (decode : Bytes → Option StunMsg) (events : List NatEvent) : NatKept (Runs.run (natStep decode) {} events) := by
  apply Runs.run_invariant _ NatKept _ events (nat_next_kept decode)
  exact ⟨⟨fun _ => rfl, rfl, by simp⟩, fresh_relay_live, by decide⟩

def natBody (relayServer : Option Bytes) (relayConnected : Bool) : Bytes :=
  ascii "\x7b\"public_addr\":null,\"relay_server\":" ++ (quotedOrNull relayServer).flatten ++ ascii ",\"relay_connected\":" ++
    (if relayConnected then ascii "true" else ascii "false") ++ ascii "\x7d"

theorem quoted_length (text : Option Bytes) (bound : Nat) (short : ∀ given, text = some given → given.length < bound) :
    (quotedOrNull text).flatten.length ≤ bound + 4 := by
  cases text with
  | none =>
      have size : (quotedOrNull none).flatten.length = 4 := by decide
      omega
  | some given =>
      have less := short given rfl
      have cut : (cstr given).length ≤ given.length := (List.takeWhile_sublist _).length_le
      simp only [quotedOrNull, List.flatten_cons, List.flatten_nil, List.length_append, List.length_nil]
      have quote : (ascii "\"").length = 1 := by decide
      omega

theorem nat_body_length (relayServer : Option Bytes) (relayConnected : Bool)
    (short : ∀ given, relayServer = some given → given.length < relayAddrSize) : (natBody relayServer relayConnected).length < 512 := by
  have server := quoted_length relayServer relayAddrSize short
  have front : (ascii "\x7b\"public_addr\":null,\"relay_server\":").length = 35 := by decide
  have middle : (ascii ",\"relay_connected\":").length = 19 := by decide
  have flag : (if relayConnected then ascii "true" else ascii "false").length ≤ 5 := by
    cases relayConnected <;> decide
  have close : (ascii "\x7d").length = 1 := by decide
  have size : relayAddrSize = 256 := rfl
  rw [natBody]
  simp only [List.length_append]
  omega

-- The conversions of the format string in their order, when no address was found.
theorem nat_pieces (relayServer : Option Bytes) (relayConnected : Bool) :
    (ascii "\x7b\"public_addr\":" :: quotedOrNull none ++ ascii ",\"relay_server\":" :: quotedOrNull relayServer ++
      [ascii ",\"relay_connected\":", if relayConnected then ascii "true" else ascii "false", ascii "\x7d"]).flatten =
      natBody relayServer relayConnected := by
  have front : ascii "\x7b\"public_addr\":null,\"relay_server\":" =
      ascii "\x7b\"public_addr\":" ++ ascii "null" ++ ascii ",\"relay_server\":" := by decide
  rw [natBody, front]
  simp [quotedOrNull]

theorem nat_info_answer (decode : Bytes → Option StunMsg) (events : List NatEvent) (fopen : Bytes → Option OpenFile)
    (jiffies : UInt64) :
    handleNatInfo (natEnv fopen jiffies (Runs.run (natStep decode) {} events)) =
      httpReply 200 "OK" [jsonHeaders, natBody (relayClientGetServer (Runs.run (natStep decode) {} events))
        (relayClientIsConnected (Runs.run (natStep decode) {} events))] ∧
    (relayClientIsConnected (Runs.run (natStep decode) {} events) = true →
      (relayClientGetServer (Runs.run (natStep decode) {} events)).isSome = true) := by
  have kept := nat_run_kept decode events
  generalize Runs.run (natStep decode) {} events = state at kept ⊢
  constructor
  · have unknown : stunGetPublicAddr state.stun = none := by
      have flag : state.stun.discovered = false := kept.deaf.undiscovered
      simp [stunGetPublicAddr, flag]
    have server : ∀ given, relayClientGetServer state = some given → given.length < relayAddrSize := by
      intro given found
      rw [relayClientGetServer] at found
      split at found
      · cases found
        exact kept.short
      · cases found
    have whole : handleNatInfo (natEnv fopen jiffies state) =
        httpReply 200 "OK" [jsonHeaders, snprintf 512 (ascii "\x7b\"public_addr\":" :: quotedOrNull none ++
          ascii ",\"relay_server\":" :: quotedOrNull (relayClientGetServer state) ++
          [ascii ",\"relay_connected\":", if relayClientIsConnected state then ascii "true" else ascii "false", ascii "\x7d"])] := by
      simp only [handleNatInfo, natEnv, unknown]
    rw [whole, snprintf_whole, nat_pieces]
    rw [nat_pieces]
    exact nat_body_length _ _ server
  · intro registered
    rw [relayClientGetServer]
    by_cases running : state.relay.relay.running = true
    · simp [running]
    · have stopped := kept.live.stopped (Bool.eq_false_iff.mpr running)
      rw [relayClientIsConnected, stopped.2.1] at registered
      cases registered

end Intercom.Nat
