import Intercom.Lib.Bytes

set_option autoImplicit false

/- relay_client.c: the line loop on the control connection and the hand-off of that connection at BRIDGE. -/
namespace Intercom

open ByteText

def reconnectInterval : Nat := 5000
def maxReconnect : Nat := 300000
def maxLine : Nat := 256
def maxRbufSize : Nat := 8192

-- g_relay. A missing rbuf is an empty one; reconnectTimer is the delay the timer was started with.
structure RelayClient where
  connected : Bool := false
  rbuf : Bytes := []
  registered : Bool := false
  running : Bool := false
  bridging : Bool := false
  backoffCount : UInt32 := 0
  reconnectTimer : Option Nat := none
deriving DecidableEq, Repr

def relayBackoffDelay (relay : RelayClient) : RelayClient × Nat :=
  let shift := if relay.backoffCount < 6 then relay.backoffCount.toNat else 6
  ({ relay with backoffCount := relay.backoffCount + 1 }, min (reconnectInterval * 2 ^ shift) maxReconnect)

def relayScheduleReconnect (relay : RelayClient) : RelayClient :=
  if relay.running then
    let delay := relayBackoffDelay relay
    { delay.1 with reconnectTimer := some delay.2 }
  else relay

def relayCloseHandler (relay : RelayClient) : RelayClient :=
  let relay := { relay with connected := false, rbuf := [], registered := false }
  if relay.running && !relay.bridging then relayScheduleReconnect relay else relay

-- The C string that the handler compares: without the CR before the LF, cut to the size of its buffer.
def relayLine (data : Bytes) : Bytes :=
  let actual := if data.getLast? = some 13 then data.dropLast else data
  cstr (actual.take (maxLine - 1))

inductive RelayOutcome where
  | waiting
  | bridged
  | dropped
deriving DecidableEq, Repr

def handOff (relay : RelayClient) : RelayClient :=
  { relay with
    connected := false, rbuf := [], registered := false, bridging := false, backoffCount := 0
    reconnectTimer := if relay.running then some reconnectInterval else relay.reconnectTimer }

def relayLoop : Nat → RelayClient → RelayClient × RelayOutcome
  | 0, relay => (relay, .waiting)
  | fuel + 1, relay =>
      match memchr 10 relay.rbuf with
      | none => (relay, .waiting)
      | some lineLen =>
          let line := relayLine (relay.rbuf.take lineLen)
          let rest := relay.rbuf.drop (lineLen + 1)
          if line = ascii "OK" ∧ ¬ relay.registered then relayLoop fuel { relay with registered := true, rbuf := rest }
          else if line = ascii "BRIDGE" then (handOff relay, .bridged)
          else relayLoop fuel { relay with rbuf := rest }

def relayRecvHandler (relay : RelayClient) (chunk : Bytes) : RelayClient × RelayOutcome :=
  if maxRbufSize < (relay.rbuf ++ chunk).length then (relayCloseHandler relay, .dropped)
  else relayLoop (relay.rbuf ++ chunk).length { relay with rbuf := relay.rbuf ++ chunk }

-- One TCP connection to the relay. Its receive handler is relay_recv_handler until rtsp_accept_relay_conn has set
-- rtsp_recv_handler; from then on every chunk goes there.
structure RelayLink where
  relay : RelayClient
  attached : Bool := false
  received : Bytes := []
deriving DecidableEq, Repr

def deliver (link : RelayLink) (chunk : Bytes) : RelayLink :=
  if link.attached then { link with received := link.received ++ chunk }
  else if link.relay.connected then
    let result := relayRecvHandler link.relay chunk
    { link with relay := result.1, attached := result.2 == .bridged }
  else link

def deliverAll (link : RelayLink) (chunks : List Bytes) : RelayLink := chunks.foldl deliver link

-- No chunk is dropped for overflow while the control connection is read.
def LinkFits : RelayLink → List Bytes → Prop
  | _, [] => True
  | link, chunk :: rest =>
      (link.attached = false → link.relay.connected = true → (link.relay.rbuf ++ chunk).length ≤ maxRbufSize) ∧
        LinkFits (deliver link chunk) rest

def bridgeLine : Bytes := ascii "BRIDGE\r\n"

def IsControlLine (line : Bytes) : Prop := ∃ body, line = body ++ [10] ∧ 10 ∉ body ∧ relayLine body ≠ ascii "BRIDGE"

theorem buffer_cut (line buf later rest : Bytes) (stream : buf ++ later = line ++ rest) :
    (∃ missing, missing ≠ [] ∧ line = buf ++ missing) ∨ ∃ behind, buf = line ++ behind ∧ behind ++ later = rest := by
  rcases List.append_eq_append_iff.mp stream with ⟨missing, split, after⟩ | ⟨behind, split, after⟩
  · by_cases complete : missing = []
    · subst complete
      exact Or.inr ⟨[], by simpa using split.symm, by simpa using after⟩
    · exact Or.inl ⟨missing, complete, split⟩
  · exact Or.inr ⟨behind, split, after.symm⟩

theorem prefix_no_newline (body buf missing : Bytes) (clean : 10 ∉ body) (split : body ++ [10] = buf ++ missing) (cut : missing ≠ []) :
    10 ∉ buf := by
  intro member
  rcases List.append_eq_append_iff.mp split with ⟨middle, shape, rest⟩ | ⟨middle, shape, rest⟩
  · have size := congrArg List.length rest
    have positive : 0 < missing.length := List.length_pos_iff.mpr cut
    have empty : middle = [] := by
      apply List.eq_nil_of_length_eq_zero
      simp at size
      omega
    rw [empty, List.append_nil] at shape
    exact clean (shape ▸ member)
  · exact clean (by rw [shape]; simp [member])

theorem loop_waits (fuel : Nat) (relay : RelayClient) (clean : 10 ∉ relay.rbuf) : relayLoop fuel relay = (relay, .waiting) := by
  cases fuel with
  | zero => rfl
  | succ fuel => rw [relayLoop, memchr_clean 10 relay.rbuf clean]

theorem loop_line (fuel : Nat) (relay : RelayClient) (body behind : Bytes) (buffer : relay.rbuf = body ++ [10] ++ behind)
    (clean : 10 ∉ body) (control : relayLine body ≠ ascii "BRIDGE") :
    ∃ registered, relayLoop (fuel + 1) relay = relayLoop fuel { relay with registered := registered, rbuf := behind } := by
  have found : memchr 10 relay.rbuf = some body.length := by
    rw [buffer, List.append_assoc]
    exact memchr_first 10 body behind clean
  have line : relay.rbuf.take body.length = body := by rw [buffer, List.append_assoc, List.take_left]
  have rest : relay.rbuf.drop (body.length + 1) = behind := by
    rw [buffer, show body.length + 1 = (body ++ [10]).length by simp, List.drop_left]
  rw [relayLoop, found]
  dsimp only
  rw [line, rest]
  by_cases first : relayLine body = ascii "OK" ∧ ¬ relay.registered = true
  · rw [if_pos first]
    exact ⟨true, rfl⟩
  · rw [if_neg first, if_neg control]
    exact ⟨relay.registered, rfl⟩

theorem loop_bridge (fuel : Nat) (relay : RelayClient) (behind : Bytes) (buffer : relay.rbuf = bridgeLine ++ behind) :
    relayLoop (fuel + 1) relay = (handOff relay, .bridged) := by
  have found : memchr 10 relay.rbuf = some 7 := by
    rw [buffer]
    exact memchr_first 10 (ascii "BRIDGE\r") behind (by decide)
  have line : relayLine (relay.rbuf.take 7) = ascii "BRIDGE" := by
    rw [buffer, List.take_append_of_le_length (by decide)]
    decide
  rw [relayLoop, found]
  dsimp only
  rw [line, if_neg (fun ok => absurd ok.1 (by decide)), if_pos rfl]

-- Induction on the control lines still to come: the loop ends inside one of them, or at BRIDGE.
theorem loop_stream (fuel : Nat) (relay : RelayClient) (lines : List Bytes) (later data : Bytes) (enough : relay.rbuf.length ≤ fuel)
    (control : ∀ line ∈ lines, IsControlLine line) (stream : relay.rbuf ++ later = lines.flatten ++ (bridgeLine ++ data)) :
    (∃ (registered : Bool) (consumed buf : Bytes) (remaining : List Bytes),
      relayLoop fuel relay = ({ relay with registered := registered, rbuf := buf }, .waiting) ∧ 10 ∉ buf ∧
      relay.rbuf = consumed ++ buf ∧ lines.flatten = consumed ++ remaining.flatten ∧ ∀ line ∈ remaining, IsControlLine line) ∨
    ∃ after extra, relayLoop fuel relay = (after, .bridged) ∧ relay.rbuf = lines.flatten ++ bridgeLine ++ extra ∧
      data = extra ++ later := by
  induction lines generalizing fuel relay with
  | nil =>
      rw [List.flatten_nil, List.nil_append] at stream
      rcases buffer_cut bridgeLine relay.rbuf later data stream with ⟨missing, cut, split⟩ | ⟨extra, buffer, rest⟩
      · have clean : 10 ∉ relay.rbuf := prefix_no_newline (ascii "BRIDGE\r") relay.rbuf missing (by decide) split cut
        exact Or.inl ⟨relay.registered, [], relay.rbuf, [], loop_waits fuel relay clean, clean, rfl, rfl, control⟩
      · have positive : fuel = (fuel - 1) + 1 := by
          have size := congrArg List.length buffer
          have eight : bridgeLine.length = 8 := by decide
          rw [List.length_append, eight] at size
          omega
        refine Or.inr ⟨handOff relay, extra, ?_, buffer, rest.symm⟩
        rw [positive]
        exact loop_bridge (fuel - 1) relay extra buffer
  | cons line lines ih =>
      obtain ⟨body, shape, clean, other⟩ := control line (by simp)
      have controlRest : ∀ line ∈ lines, IsControlLine line := fun line member => control line (by simp [member])
      rw [List.flatten_cons, List.append_assoc] at stream
      rcases buffer_cut line relay.rbuf later _ stream with ⟨missing, cut, split⟩ | ⟨behind, buffer, rest⟩
      · have cleanBuf : 10 ∉ relay.rbuf := prefix_no_newline body relay.rbuf missing clean (shape ▸ split) cut
        exact Or.inl ⟨relay.registered, [], relay.rbuf, line :: lines, loop_waits fuel relay cleanBuf, cleanBuf, rfl, rfl, control⟩
      · rw [shape] at buffer
        have size := congrArg List.length buffer
        simp only [List.length_append, List.length_singleton] at size
        have positive : fuel = (fuel - 1) + 1 := by omega
        obtain ⟨registered, stepped⟩ := loop_line (fuel - 1) relay body behind buffer clean other
        rw [← positive] at stepped
        rcases ih (fuel - 1) { relay with registered := registered, rbuf := behind } (by simp only; omega) controlRest rest with
          ⟨final, consumed, buf, remaining, looped, cleanBuf, split, left, fine⟩ | ⟨after, extra, looped, split, fine⟩
        · refine Or.inl ⟨final, line ++ consumed, buf, remaining, ?_, cleanBuf, ?_, ?_, fine⟩
          · rw [stepped, looped]
          · rw [buffer, ← shape, List.append_assoc]
            exact congrArg (line ++ ·) split
          · rw [List.flatten_cons, left, List.append_assoc]
        · refine Or.inr ⟨after, extra, ?_, ?_, fine⟩
          · rw [stepped, looped]
          · rw [buffer, ← shape, List.flatten_cons, List.append_assoc, List.append_assoc]
            refine congrArg (line ++ ·) ?_
            simpa using split

theorem deliver_attached (link : RelayLink) (chunks : List Bytes) (attached : link.attached = true) :
    (deliverAll link chunks).received = link.received ++ chunks.flatten := by
  induction chunks generalizing link with
  | nil => simp [deliverAll]
  | cons chunk rest ih =>
      have one : deliver link chunk = { link with received := link.received ++ chunk } := by simp [deliver, attached]
      have later := ih (deliver link chunk) (by rw [one]; exact attached)
      rw [one] at later
      rw [deliverAll, List.foldl_cons, one]
      rw [deliverAll] at later
      rw [later, List.flatten_cons, List.append_assoc]

theorem before_bridge (buf early late : Bytes) (clean : 10 ∉ buf) : buf ≠ early ++ bridgeLine ++ late := by
  intro same
  have newline : (10 : UInt8) ∈ bridgeLine := by decide
  exact clean (by rw [same]; simp [newline])

section Boundary

variable (buf : Bytes) (rest : List Bytes)

theorem boundary_behind (boundary chunk : Bytes) (short : buf ≠ boundary) :
    (∃ early late, chunk :: rest = early ++ late ∧ buf ++ early.flatten = boundary) ↔
      ∃ early late, rest = early ++ late ∧ buf ++ chunk ++ early.flatten = boundary := by
  constructor
  · rintro ⟨early, late, cut, ends⟩
    cases early with
    | nil =>
        rw [List.flatten_nil, List.append_nil] at ends
        exact absurd ends short
    | cons head more =>
        obtain ⟨rfl, tail⟩ := List.cons.inj cut
        rw [List.flatten_cons, ← List.append_assoc] at ends
        exact ⟨more, late, tail, ends⟩
  · rintro ⟨early, late, cut, ends⟩
    refine ⟨chunk :: early, late, by rw [cut]; rfl, ?_⟩
    rw [List.flatten_cons, ← List.append_assoc]
    exact ends

theorem boundary_consumed (consumed boundary : Bytes) :
    (∃ early late, rest = early ++ late ∧ consumed ++ buf ++ early.flatten = consumed ++ boundary) ↔
      ∃ early late, rest = early ++ late ∧ buf ++ early.flatten = boundary := by
  simp only [List.append_assoc, List.append_cancel_left_eq]

theorem boundary_passed (extra : Bytes) :
    (∃ early late, rest = early ++ late ∧ buf ++ extra ++ early.flatten = buf) ↔ extra = [] := by
  constructor
  · rintro ⟨early, late, _, ends⟩
    rw [List.append_assoc] at ends
    exact (List.append_eq_nil_iff.mp (List.append_right_eq_self.mp ends)).1
  · intro gone
    exact ⟨[], rest, rfl, by rw [gone, List.append_nil, List.flatten_nil, List.append_nil]⟩

end Boundary

theorem hand_off_done (link : RelayLink) (rest : List Bytes) (extra data : Bytes) (attached : link.attached = true)
    (empty : link.received = []) (tail : data = extra ++ rest.flatten) :
    (deliverAll link rest).received = data ↔ extra = [] := by
  rw [deliver_attached link rest attached, empty, tail, List.nil_append]
  exact List.self_eq_append_left

-- Induction on the chunks. Until BRIDGE has been read the buffer holds the start of one line and no LF.
theorem hand_off_iff (link : RelayLink) (chunks lines : List Bytes) (data : Bytes) (waiting : link.attached = false)
    (connected : link.relay.connected = true) (empty : link.received = []) (clean : 10 ∉ link.relay.rbuf)
    (control : ∀ line ∈ lines, IsControlLine line) (fits : LinkFits link chunks)
    (stream : link.relay.rbuf ++ chunks.flatten = lines.flatten ++ (bridgeLine ++ data)) :
    (deliverAll link chunks).received = data ↔
      ∃ early late, chunks = early ++ late ∧ link.relay.rbuf ++ early.flatten = lines.flatten ++ bridgeLine := by
  induction chunks generalizing link lines with
  | nil =>
      rw [List.flatten_nil, List.append_nil, ← List.append_assoc] at stream
      exact absurd stream (before_bridge _ _ data clean)
  | cons chunk rest ih =>
      have size := fits.1 waiting connected
      have handled : relayRecvHandler link.relay chunk =
          relayLoop (link.relay.rbuf ++ chunk).length { link.relay with rbuf := link.relay.rbuf ++ chunk } := by
        rw [relayRecvHandler, if_neg (by omega)]
      have stepped : deliver link chunk = { link with
          relay := (relayRecvHandler link.relay chunk).1, attached := (relayRecvHandler link.relay chunk).2 == .bridged } := by
        simp [deliver, waiting, connected]
      have whole : (link.relay.rbuf ++ chunk) ++ rest.flatten = lines.flatten ++ (bridgeLine ++ data) := by
        rw [List.append_assoc, ← List.flatten_cons]
        exact stream
      have short : link.relay.rbuf ≠ lines.flatten ++ bridgeLine := by
        have unreached := before_bridge link.relay.rbuf lines.flatten [] clean
        rwa [List.append_nil] at unreached
      have ends := loop_stream (link.relay.rbuf ++ chunk).length { link.relay with rbuf := link.relay.rbuf ++ chunk } lines
        rest.flatten data (Nat.le_refl _) control whole
      rw [deliverAll, List.foldl_cons, ← deliverAll, boundary_behind _ rest _ chunk short]
      rcases ends with
        ⟨registered, consumed, buf, remaining, looped, cleanBuf, split, left, fine⟩ | ⟨after, extra, looped, split, tail⟩
      · -- Still on the control connection.
        dsimp only at split
        rw [handled, looped] at stepped
        have next : deliver link chunk = { link with
            relay := { link.relay with registered := registered, rbuf := buf }, attached := false } := stepped
        have streamRest : buf ++ rest.flatten = remaining.flatten ++ (bridgeLine ++ data) := by
          rw [split, left, List.append_assoc, List.append_assoc] at whole
          exact List.append_cancel_left whole
        have later := ih (deliver link chunk) remaining (by rw [next]) (by rw [next]; exact connected) (by rw [next]; exact empty)
          (by rw [next]; exact cleanBuf) fine fits.2 (by rw [next]; exact streamRest)
        rw [later, next, split, left, List.append_assoc consumed remaining.flatten, boundary_consumed]
      · dsimp only at split
        rw [handled, looped] at stepped
        have next : deliver link chunk = { link with relay := after, attached := true } := stepped
        rw [split, boundary_passed]
        exact hand_off_done (deliver link chunk) rest extra data (by rw [next]) (by rw [next]; exact empty) tail

def freshLink (relay : RelayClient) : RelayLink := { relay := { relay with connected := true, rbuf := [] } }

theorem bridge_lossless_iff_boundary (relay : RelayClient) (lines : List Bytes) (data : Bytes) (chunks : List Bytes)
    (control : ∀ line ∈ lines, IsControlLine line) (stream : chunks.flatten = lines.flatten ++ bridgeLine ++ data)
    (fits : LinkFits (freshLink relay) chunks) :
    (deliverAll (freshLink relay) chunks).received = data ↔
      ∃ early late, chunks = early ++ late ∧ early.flatten = lines.flatten ++ bridgeLine := by
  refine hand_off_iff (freshLink relay) chunks lines data rfl rfl rfl (by simp [freshLink]) control fits ?_
  rw [← List.append_assoc]
  exact stream

theorem bridge_lossless_separate :
    (deliverAll (freshLink {}) [ascii "OK\r\nBRIDGE\r\n", ascii "OPTIONS * RTSP/1.0\r\n\r\n"]).received =
      ascii "OPTIONS * RTSP/1.0\r\n\r\n" := by
  have control : ∀ line ∈ [ascii "OK\r\n"], IsControlLine line := by
    intro line member
    rw [List.mem_singleton.mp member]
    exact ⟨ascii "OK\r", by decide, by decide, by decide⟩
  have fits : LinkFits (freshLink {}) [ascii "OK\r\nBRIDGE\r\n", ascii "OPTIONS * RTSP/1.0\r\n\r\n"] :=
    ⟨fun _ _ => by decide, fun attached => absurd attached (by decide), trivial⟩
  refine (bridge_lossless_iff_boundary {} [ascii "OK\r\n"] _ _ control (by decide) fits).mpr ?_
  exact ⟨[ascii "OK\r\nBRIDGE\r\n"], [ascii "OPTIONS * RTSP/1.0\r\n\r\n"], rfl, by decide⟩

-- OK, BRIDGE and the request in one chunk: the request is dropped with the line buffer.
theorem bridge_loses_coalesced_request :
    LinkFits (freshLink {}) [ascii "OK\r\nBRIDGE\r\nOPTIONS * RTSP/1.0\r\n\r\n"] ∧
      ascii "OK\r\nBRIDGE\r\nOPTIONS * RTSP/1.0\r\n\r\n" = ascii "OK\r\n" ++ bridgeLine ++ ascii "OPTIONS * RTSP/1.0\r\n\r\n" ∧
      (deliverAll (freshLink {}) [ascii "OK\r\nBRIDGE\r\nOPTIONS * RTSP/1.0\r\n\r\n"]).received ≠
        ascii "OPTIONS * RTSP/1.0\r\n\r\n" :=
  ⟨⟨fun _ _ => by decide, trivial⟩, by decide, by decide⟩

end Intercom
