import Intercom.Records
import Intercom.Rtsp.Replies

set_option autoImplicit false

/- The RTSP session of a connection: what a client record that left RTSP_IDLE carries, that the session id it was
   given stays with the connection for good, and that a refused request touches neither it nor anybody else's. -/
namespace Intercom

open ByteText

structure SessionKept (cli : RtspClient) : Prop where
  session : cli.state ≠ .idle → cli.sessionId.isSome = true
  tracks : cli.state ≠ .idle → cli.video.setup = true ∨ cli.audio.setup = true ∨ cli.backchannelSetup = true
  videoSocket : cli.interleaved = false → cli.video.setup = true → cli.video.sock.isSome = true
  audioSocket : cli.interleaved = false → cli.audio.setup = true → cli.audio.sock.isSome = true
  backchannel : cli.backchannelSetup = true → cli.interleaved = true
  speaker : cli.audioOutOpened = true → cli.backchannelSetup = true

theorem session_shape (cli : RtspClient) : SessionKept cli.shape ↔ SessionKept cli := by
  constructor
  · exact fun kept => ⟨kept.session, kept.tracks, kept.videoSocket, kept.audioSocket, kept.backchannel, kept.speaker⟩
  · exact fun kept => ⟨kept.session, kept.tracks, kept.videoSocket, kept.audioSocket, kept.backchannel, kept.speaker⟩

theorem session_same_shape (before after : RtspClient) (same : after.shape = before.shape) (kept : SessionKept before) :
    SessionKept after := by
  rw [← session_shape, same, session_shape]
  exact kept

theorem session_fresh (conn : ConnId) (peer : Sa) : SessionKept { tc := conn, peer } := by
  refine ⟨?_, ?_, ?_, ?_, ?_, ?_⟩
  · exact fun left => absurd rfl left
  · exact fun left => absurd rfl left
  · exact fun _ set => absurd set Bool.false_ne_true
  · exact fun _ set => absurd set Bool.false_ne_true
  · exact fun set => absurd set Bool.false_ne_true
  · exact fun set => absurd set Bool.false_ne_true

-- Over UDP the mode is not touched, so a record that is interleaved stays so and the other track keeps its way.
theorem session_set_up (before done : RtspClient) (track : Track) (transport : Transport) (kept : SessionKept before)
    (setup : SetupDone before track transport done) : SessionKept done := by
  cases setup with
  | tcpVideo _ _ _ _ _ =>
      exact ⟨fun _ => rfl, fun _ => Or.inl rfl, fun mode => absurd mode.symm Bool.false_ne_true,
        fun mode => absurd mode.symm Bool.false_ne_true, fun _ => rfl, kept.speaker⟩
  | tcpAudio _ _ _ _ _ =>
      exact ⟨fun _ => rfl, fun _ => Or.inr (Or.inl rfl), fun mode => absurd mode.symm Bool.false_ne_true,
        fun mode => absurd mode.symm Bool.false_ne_true, fun _ => rfl, kept.speaker⟩
  | tcpBackchannel _ _ _ _ =>
      exact ⟨fun _ => rfl, fun _ => Or.inr (Or.inr rfl), fun mode => absurd mode.symm Bool.false_ne_true,
        fun mode => absurd mode.symm Bool.false_ne_true, fun _ => rfl, fun _ => rfl⟩
  | udpVideo _ _ _ _ _ _ _ _ =>
      exact ⟨fun _ => rfl, fun _ => Or.inl rfl, fun _ _ => rfl, kept.audioSocket, kept.backchannel, kept.speaker⟩
  | udpAudio _ _ _ _ _ _ _ _ =>
      exact ⟨fun _ => rfl, fun _ => Or.inr (Or.inl rfl), kept.videoSocket, fun _ _ => rfl, kept.backchannel, kept.speaker⟩

theorem session_played (before : RtspClient) (opened : Bool) (kept : SessionKept before) (ready : before.state ≠ .idle)
    (talks : opened = true → before.audioOutOpened = true ∨ before.backchannelSetup = true) :
    SessionKept { before with state := .playing, audioOutOpened := opened } := by
  refine ⟨fun _ => kept.session ready, fun _ => kept.tracks ready, kept.videoSocket, kept.audioSocket, kept.backchannel, ?_⟩
  intro speaker
  rcases talks speaker with earlier | now
  · exact kept.speaker earlier
  · exact now

def SetupAnswered (conn : ConnId) (log : List Out) : Prop :=
  ∃ answer, .reply conn answer ∈ log ∧ answer.code = 200 ∧ answer.extra.isSetup = true

structure Sessions (reached : Device × List Out) : Prop where
  kept : ∀ cli ∈ reached.1.clients, SessionKept cli
  answered : ∀ cli ∈ reached.1.clients, cli.state ≠ .idle → SetupAnswered cli.tc reached.2

theorem setup_answered_grows (conn : ConnId) (log more : List Out) (answered : SetupAnswered conn log) :
    SetupAnswered conn (log ++ more) := by
  obtain ⟨answer, member, code, extra⟩ := answered
  exact ⟨answer, List.mem_append_left more member, code, extra⟩

theorem next_sessions (w : World) (reached : Device × List Out) (action : Action) (inv : Sessions reached) :
    Sessions (next w reached action) := by
  obtain ⟨d, log⟩ := reached
  constructor
  · intro after member
    cases step_evolved w d action after member with
    | kept before present same _ => exact session_same_shape before after same (inv.kept before present)
    | fresh peer new _ => exact session_same_shape _ after new (session_fresh d.nextConn peer)
    | setUp before done track transport present setup same _ _ =>
        exact session_same_shape done after same (session_set_up before done track transport (inv.kept before present) setup)
    | played before opened present ready talks same _ =>
        exact session_same_shape _ after same (session_played before opened (inv.kept before present) ready talks)
  · intro after member left
    cases step_evolved w d action after member with
    | kept before present same _ =>
        have fields := shape_fields _ _ same
        rw [fields.2.2.1] at left
        rw [fields.1]
        exact setup_answered_grows _ _ _ (inv.answered before present left)
    | fresh peer new _ => exact absurd (shape_fields _ _ new).2.2.1 left
    | setUp before done track transport _ _ _ _ answered =>
        obtain ⟨answer, replied, code, extra⟩ := answered
        exact ⟨answer, List.mem_append_right log replied, code, by rw [extra]; rfl⟩
    | played before opened present ready _ same _ =>
        rw [(shape_fields _ _ same).1]
        exact setup_answered_grows _ _ _ (inv.answered before present ready)

-- The connection was given this session id; its number is taken, so no later connection can bear it.
structure Bound (conn : ConnId) (id : UInt32) (d : Device) : Prop where
  taken : conn < d.nextConn
  same : ∀ cli ∈ d.clients, cli.tc = conn → cli.sessionId = some id

theorem shape_session (left right : RtspClient) (same : left.shape = right.shape) : left.sessionId = right.sessionId :=
  (congrArg RtspClient.sessionId same :)

theorem setup_done_session (before done : RtspClient) (track : Track) (transport : Transport) (id : UInt32)
    (setup : SetupDone before track transport done) (given : before.sessionId = some id) : done.sessionId = some id := by
  cases setup with
  | tcpVideo _ _ _ _ keeps => exact congrArg some (keeps id given)
  | tcpAudio _ _ _ _ keeps => exact congrArg some (keeps id given)
  | tcpBackchannel _ _ _ keeps => exact congrArg some (keeps id given)
  | udpVideo _ _ _ _ _ _ keeps _ => exact congrArg some (keeps id given)
  | udpAudio _ _ _ _ _ _ keeps _ => exact congrArg some (keeps id given)

theorem step_bound (w : World) (conn : ConnId) (id : UInt32) (d : Device) (action : Action) (inv : Bound conn id d) :
    Bound conn id (step w d action).1 := by
  refine ⟨Nat.lt_of_lt_of_le inv.taken (next_conn_grows w d action), ?_⟩
  intro after member named
  cases step_evolved w d action after member with
  | kept before present same _ =>
      rw [shape_session _ _ same]
      exact inv.same before present ((shape_fields _ _ same).1.symm.trans named)
  | fresh peer new _ =>
      have number : after.tc = d.nextConn := (shape_fields _ _ new).1
      exact absurd inv.taken (Nat.not_lt_of_le (Nat.le_of_eq (number.symm.trans named)))
  | setUp before done track transport present setup same _ _ =>
      have number := (shape_fields _ _ same).1.trans (setup_done_tc before done track transport setup)
      rw [shape_session _ _ same]
      exact setup_done_session before done track transport id setup (inv.same before present (number.symm.trans named))
  | played before opened present _ _ same _ =>
      rw [shape_session _ _ same]
      exact inv.same before present ((shape_fields _ _ same).1.symm.trans named)

theorem next_device (w : World) (start : Device × List Out) (actions : List Action) :
    (Runs.run (next w) start actions).1 = Runs.run (deviceStep w) start.1 actions := by
  induction actions generalizing start with
  | nil => rfl
  | cons action rest ih => exact ih (next w start action)

theorem reached_records (w : World) (localIp username password : Bytes) (actions : List Action) :
    RecordsKept (reached w (initial w localIp username password) actions).1 := by
  rw [reached, next_device]
  exact Runs.run_invariant (deviceStep w) RecordsKept _ actions (fun d action inv => step_records w d action inv)
    (initial_records w localIp username password)

theorem session_invariant (w : World) (localIp username password : Bytes) (early late : List Action) :
    ∀ cli ∈ (reached w (initial w localIp username password) early).1.clients,
      (cli.state ≠ .idle → cli.sessionId.isSome = true) ∧
      (cli.state ≠ .idle → cli.video.setup = true ∨ cli.audio.setup = true ∨ cli.backchannelSetup = true) ∧
      (cli.interleaved = false → (cli.video.setup = true → cli.video.sock.isSome = true) ∧
        (cli.audio.setup = true → cli.audio.sock.isSome = true)) ∧
      (cli.backchannelSetup = true → cli.interleaved = true) ∧
      (cli.audioOutOpened = true → cli.backchannelSetup = true) ∧
      (cli.state = .playing → SetupAnswered cli.tc (reached w (initial w localIp username password) early).2) ∧
      ∀ id, cli.sessionId = some id →
        ∀ later ∈ (reached w (initial w localIp username password) (early ++ late)).1.clients,
          later.tc = cli.tc → later.sessionId = some id := by
  have records := reached_records w localIp username password early
  have start : Sessions (initial w localIp username password, []) :=
    ⟨fun _ member => absurd member List.not_mem_nil, fun _ member => absurd member List.not_mem_nil⟩
  have inv : Sessions (reached w (initial w localIp username password) early) :=
    Runs.run_invariant (next w) Sessions _ early (fun current action => next_sessions w current action) start
  intro cli member
  have kept := inv.kept cli member
  refine ⟨kept.session, kept.tracks, fun mode => ⟨kept.videoSocket mode, kept.audioSocket mode⟩, kept.backchannel,
    kept.speaker, ?_, ?_⟩
  · intro playing
    exact inv.answered cli member (by rw [playing]; exact RtspState.noConfusion)
  · intro id given later present named
    rw [reached, Runs.run_append, next_device] at present
    have bound : Bound cli.tc id (reached w (initial w localIp username password) early).1 := by
      refine ⟨records.known cli.tc (List.mem_map_of_mem member), ?_⟩
      intro other same number
      rw [record_unique _ records other cli same member number]
      exact given
    have after := Runs.run_invariant (deviceStep w) (Bound cli.tc id) _ late
      (fun d action held => step_bound w cli.tc id d action held) bound
    exact after.same later present named

def viewerSetupText : Bytes := ascii "SETUP rtsp://h/trackID=0 RTSP/1.0\r\nCSeq: 1\r\nTransport: RTP/AVP/TCP\r\n\r\n"

def viewerPlayText : Bytes := ascii "PLAY rtsp://h/ RTSP/1.0\r\nCSeq: 2\r\n\r\n"

theorem viewer_has_session :
    ∃ cli ∈ (reached sampleWorld (initial sampleWorld [] [] []) [.connect ⟨1, 1⟩, .receive 0 viewerSetupText, .process 0,
      .receive 0 viewerPlayText, .process 0]).1.clients, cli.state = .playing ∧ cli.sessionId.isSome = true := by
  have viewer : ∃ cli ∈ (reached sampleWorld (initial sampleWorld [] [] []) [.connect ⟨1, 1⟩, .receive 0 viewerSetupText,
      .process 0, .receive 0 viewerPlayText, .process 0]).1.clients, cli.state = .playing := by
    decide +kernel
  obtain ⟨cli, member, playing⟩ := viewer
  have kept := session_invariant sampleWorld [] [] [] [.connect ⟨1, 1⟩, .receive 0 viewerSetupText, .process 0,
    .receive 0 viewerPlayText, .process 0] [] cli member
  exact ⟨cli, member, playing, kept.1 (by rw [playing]; exact RtspState.noConfusion)⟩

theorem put_same (d : Device) (inv : RecordsKept d) (cli : RtspClient) (member : cli ∈ d.clients) : d.put cli = d := by
  have each : ∀ other ∈ d.clients, (if other.tc = cli.tc then cli else other) = other := by
    intro other present
    by_cases hit : other.tc = cli.tc
    · rw [if_pos hit]
      exact (record_unique d inv other cli present member hit).symm
    · rw [if_neg hit]
  rw [Device.put, List.map_congr_left each, List.map_id']

-- What may differ after a refused request: the numbers drawn from the system, and the nonce once it was used.
def NonceAside (w : World) (d after : Device) (req : RtspReq) : Prop :=
  ∃ nonce calls, after = { d with auth.nonce := nonce, calls := calls } ∧
    (nonce ≠ d.auth.nonce → d.auth.enabled = true ∧ (authCheck w d req).2 = true)

theorem admitted_aside (w : World) (d : Device) (req : RtspReq) : NonceAside w d (admittedDevice w d req) req := by
  rw [NonceAside, admittedDevice, authCheck]
  dsimp only
  generalize (if req.authorization = [] then none else some req.authorization) = header
  by_cases enabled : d.auth.enabled = true
  · rw [if_pos enabled]
    by_cases passes : rtspAuthCheck w.md5 d.auth req.method req.uri header = true
    · rw [if_pos passes]
      exact ⟨_, _, rfl, fun _ => ⟨enabled, rfl⟩⟩
    · rw [if_neg passes]
      exact ⟨d.auth.nonce, d.calls, rfl, fun other => absurd rfl other⟩
  · rw [if_neg enabled]
    exact ⟨d.auth.nonce, d.calls, rfl, fun other => absurd rfl other⟩

theorem aside_calls (w : World) (d middle after : Device) (req : RtspReq) (aside : NonceAside w d middle req)
    (drawn : OnlyCalls middle after) : NonceAside w d after req := by
  obtain ⟨nonce, _, rfl, used⟩ := aside
  obtain ⟨calls, rfl⟩ := drawn
  exact ⟨nonce, calls, rfl, used⟩

theorem dispatch_refused (w : World) (d : Device) (inv : RecordsKept d) (cli : RtspClient) (present : cli ∈ d.clients)
    (buf : Bytes) (len : Nat) (conn : ConnId) (answer : Reply) (member : .reply conn answer ∈ (dispatchRtsp w d cli buf len).2)
    (refused : 400 ≤ answer.code) : NonceAside w d (dispatchRtsp w d cli buf len).1 (parseRtspRequest buf len) := by
  have untouched : NonceAside w d d (parseRtspRequest buf len) := ⟨d.auth.nonce, d.calls, rfl, fun other => absurd rfl other⟩
  rw [dispatchRtsp] at member ⊢
  dsimp only at member ⊢
  generalize parseRtspRequest buf len = req at member untouched ⊢
  by_cases guarded : (d.auth.enabled && needsAuth req.method) = true
  · have enabled := (Bool.and_eq_true_iff.mp guarded).1
    have checked : admittedDevice w d req = (authCheck w d req).1 := by rw [admittedDevice, if_pos enabled]
    rw [if_pos guarded] at member ⊢
    by_cases passes : (authCheck w d req).2 = true
    · rw [if_pos passes, ← checked] at member ⊢
      have same : (admittedDevice w d req).put cli = admittedDevice w d req := by
        obtain ⟨auth, calls, _, device⟩ := admitted_device w d req
        rw [device]
        exact congrArg (fun device : Device => { device with auth := auth, calls := calls }) (put_same d inv cli present)
      have replied : .reply conn answer ∈ (handleMethod w (admittedDevice w d req) cli req).2 := by simpa using member
      exact aside_calls w d _ _ req (admitted_aside w d req) (method_refused w _ cli req same conn answer replied refused)
    · rw [if_neg passes]
      exact untouched
  · rw [if_neg guarded] at member ⊢
    have replied : .reply conn answer ∈ (handleMethod w d cli req).2 := by simpa using member
    exact aside_calls w d _ _ req untouched (method_refused w d cli req (put_same d inv cli present) conn answer replied refused)

-- rest is what the receive buffer holds while the request is served.
theorem refused_request_changes_nothing (w : World) (localIp username password : Bytes) (actions : List Action)
    (conn : ConnId) (cli : RtspClient) (rest buf : Bytes) (len : Nat) (answer : Reply)
    (live : ((reached w (initial w localIp username password) actions).1.setRbuf conn rest).client? conn = some cli)
    (replied : .reply conn answer ∈
      (dispatchRtsp w ((reached w (initial w localIp username password) actions).1.setRbuf conn rest) cli buf len).2)
    (refused : 400 ≤ answer.code) :
    NonceAside w ((reached w (initial w localIp username password) actions).1.setRbuf conn rest)
      (dispatchRtsp w ((reached w (initial w localIp username password) actions).1.setRbuf conn rest) cli buf len).1
      (parseRtspRequest buf len) := by
  have records := records_set_rbuf _ conn rest (reached_records w localIp username password actions)
  exact dispatch_refused w _ records cli (find_client _ conn cli live).1 buf len conn answer replied refused

def earlyPlayText : Bytes := ascii "PLAY rtsp://h/ RTSP/1.0\r\nCSeq: 3\r\n\r\n"

def newClient : RtspClient := { tc := 0, peer := ⟨1, 1⟩ }

theorem early_play_changes_nothing :
    .reply 0 { cseq := 3, code := 455, reason := ascii "Method Not Valid in This State" } ∈
      (dispatchRtsp sampleWorld ((reached sampleWorld (initial sampleWorld [] [] []) [.connect ⟨1, 1⟩]).1.setRbuf 0 [])
        newClient earlyPlayText earlyPlayText.length).2 ∧
    NonceAside sampleWorld ((reached sampleWorld (initial sampleWorld [] [] []) [.connect ⟨1, 1⟩]).1.setRbuf 0 [])
      (dispatchRtsp sampleWorld ((reached sampleWorld (initial sampleWorld [] [] []) [.connect ⟨1, 1⟩]).1.setRbuf 0 [])
        newClient earlyPlayText earlyPlayText.length).1 (parseRtspRequest earlyPlayText earlyPlayText.length) := by
  have replied : .reply 0 { cseq := 3, code := 455, reason := ascii "Method Not Valid in This State" } ∈
      (dispatchRtsp sampleWorld ((reached sampleWorld (initial sampleWorld [] [] []) [.connect ⟨1, 1⟩]).1.setRbuf 0 [])
        newClient earlyPlayText earlyPlayText.length).2 := by
    decide +kernel
  exact ⟨replied, refused_request_changes_nothing sampleWorld [] [] [] [.connect ⟨1, 1⟩] 0 newClient [] earlyPlayText
    earlyPlayText.length _ (by decide +kernel) replied (by decide)⟩

end Intercom
