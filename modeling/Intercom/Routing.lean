import Intercom.Fanout

set_option autoImplicit false

/- The way of a packet against the SETUP replies. Channels, ports and sockets are kept for each track, but one flag
   decides between them for the whole client; it is set by any TCP SETUP and never cleared. -/
namespace Intercom

open ByteText

def Transport.isTcp : Transport → Bool
  | .tcp _ _ _ => true
  | .udp _ _ _ _ => false

-- The transport in the 200 reply to the most recent SETUP of the track.
def announced (conn : ConnId) (track : Track) (log : List Out) : Option Transport :=
  (((setupsFor conn log).filter fun entry => entry.1 == track).getLast?).map Prod.snd

def usedTcp (conn : ConnId) (log : List Out) : Bool := (setupsFor conn log).any fun entry => entry.2.isTcp

def trackOf (packet : RtpPacket) : Track := if packet.hdr.pt = ptH264 then .video else .audio

def RoutedAt (log : List Out) : Out → Prop
  | .interleaved conn channel packet => ∃ rtcp ssrc, announced conn (trackOf packet) log = some (.tcp channel rtcp ssrc)
  | .datagram conn dest packet => ∃ rtcp port ssrc, announced conn (trackOf packet) log = some (.udp dest.port rtcp port ssrc)
  | _ => True

-- Every packet of the history went out the way that was announced when it was sent.
def Routed (log : List Out) : Prop := ∀ early out late, log = early ++ out :: late → RoutedAt early out

theorem announced_append (conn : ConnId) (track : Track) (log outs : List Out) (quiet : setupsFor conn outs = []) :
    announced conn track (log ++ outs) = announced conn track log := by
  rw [announced, setups_append, quiet, List.append_nil, announced]

theorem used_tcp_append (conn : ConnId) (log outs : List Out) (quiet : setupsFor conn outs = []) :
    usedTcp conn (log ++ outs) = usedTcp conn log := by
  rw [usedTcp, setups_append, quiet, List.append_nil, usedTcp]

theorem announced_setup (conn : ConnId) (track other : Track) (transport : Transport) (log outs : List Out)
    (noted : setupsFor conn outs = [(track, transport)]) :
    announced conn other (log ++ outs) = if track = other then some transport else announced conn other log := by
  rw [announced, setups_append, noted, List.filter_append]
  by_cases same : track = other
  · simp [same]
  · simp [same, announced]

theorem used_tcp_setup (conn : ConnId) (track : Track) (transport : Transport) (log outs : List Out)
    (noted : setupsFor conn outs = [(track, transport)]) :
    usedTcp conn (log ++ outs) = (usedTcp conn log || transport.isTcp) := by
  rw [usedTcp, setups_append, noted, List.any_append, usedTcp]
  simp

structure TrackAgrees (mode : Bool) (track : RtpTrack) (said : Option Transport) : Prop where
  tcp : ∀ rtp rtcp ssrc, said = some (.tcp rtp rtcp ssrc) → mode = true ∧ track.interleaved = rtp
  udp : ∀ rtp rtcp port ssrc, said = some (.udp rtp rtcp port ssrc) → track.dest.port = rtp
  unset : said = none → track.sock = none

-- A record against the replies its connection was given.
structure Agrees (log : List Out) (cli : RtspClient) : Prop where
  mode : cli.interleaved = usedTcp cli.tc log
  video : TrackAgrees cli.interleaved cli.video (announced cli.tc .video log)
  audio : TrackAgrees cli.interleaved cli.audio (announced cli.tc .audio log)

theorem track_agrees_tcp (mode : Bool) (track : RtpTrack) (said : Option Transport) (agrees : TrackAgrees mode track said) :
    TrackAgrees true track said :=
  ⟨fun rtp rtcp ssrc same => ⟨rfl, (agrees.tcp rtp rtcp ssrc same).2⟩, agrees.udp, agrees.unset⟩

theorem track_agrees_channel (track : RtpTrack) (rtp rtcp : UInt8) (ssrc : Option UInt32) (same : track.interleaved = rtp) :
    TrackAgrees true track (some (.tcp rtp rtcp ssrc)) := by
  refine ⟨?_, by simp, by simp⟩
  intro _ _ _ said
  cases said
  exact ⟨rfl, same⟩

theorem track_agrees_port (mode : Bool) (track : RtpTrack) (rtp rtcp port : UInt16) (ssrc : UInt32) (same : track.dest.port = rtp) :
    TrackAgrees mode track (some (.udp rtp rtcp port ssrc)) := by
  refine ⟨by simp, ?_, by simp⟩
  intro _ _ _ _ said
  cases said
  exact same

theorem agrees_shape (log : List Out) (before after : RtspClient) (same : after.shape = before.shape)
    (agrees : Agrees log before) : Agrees log after := by
  have fields := shape_fields _ _ same
  have video := shape_video _ _ same
  have audio := shape_audio _ _ same
  refine ⟨?_, ?_, ?_⟩
  · rw [fields.1, fields.2.2.2]
    exact agrees.mode
  · rw [fields.1, fields.2.2.2]
    refine ⟨?_, ?_, ?_⟩
    · rw [video.2.2.1]
      exact agrees.video.tcp
    · rw [video.2.1]
      exact agrees.video.udp
    · rw [video.1]
      exact agrees.video.unset
  · rw [fields.1, fields.2.2.2]
    refine ⟨?_, ?_, ?_⟩
    · rw [audio.2.2.1]
      exact agrees.audio.tcp
    · rw [audio.2.1]
      exact agrees.audio.udp
    · rw [audio.1]
      exact agrees.audio.unset

theorem agrees_quiet (log outs : List Out) (cli : RtspClient) (quiet : setupsFor cli.tc outs = []) (agrees : Agrees log cli) :
    Agrees (log ++ outs) cli := by
  refine ⟨?_, ?_, ?_⟩
  · rw [used_tcp_append _ _ _ quiet]
    exact agrees.mode
  · rw [announced_append _ _ _ _ quiet]
    exact agrees.video
  · rw [announced_append _ _ _ _ quiet]
    exact agrees.audio

-- One case for each kind of SETUP; the track it names is announced anew, the other keeps what was said.
theorem agrees_setup (log outs : List Out) (before done : RtspClient) (track : Track) (transport : Transport)
    (setup : SetupDone before track transport done) (noted : setupsFor before.tc outs = [(track, transport)])
    (agrees : Agrees log before) : Agrees (log ++ outs) done := by
  have mode := used_tcp_setup before.tc track transport log outs noted
  have video := announced_setup before.tc track .video transport log outs noted
  have audio := announced_setup before.tc track .audio transport log outs noted
  rw [← agrees.mode] at mode
  cases setup with
  | tcpVideo id ssrc rtp rtcp kept =>
      refine ⟨by rw [mode, Transport.isTcp, Bool.or_true], ?_, ?_⟩
      · rw [video, if_pos rfl]
        exact track_agrees_channel _ rtp rtcp (some ssrc) rfl
      · rw [audio, if_neg (by decide)]
        exact track_agrees_tcp _ _ _ agrees.audio
  | tcpAudio id ssrc rtp rtcp kept =>
      refine ⟨by rw [mode, Transport.isTcp, Bool.or_true], ?_, ?_⟩
      · rw [video, if_neg (by decide)]
        exact track_agrees_tcp _ _ _ agrees.video
      · rw [audio, if_pos rfl]
        exact track_agrees_channel _ rtp rtcp (some ssrc) rfl
  | tcpBackchannel id rtp rtcp kept =>
      refine ⟨by rw [mode, Transport.isTcp, Bool.or_true], ?_, ?_⟩
      · rw [video, if_neg (by decide)]
        exact track_agrees_tcp _ _ _ agrees.video
      · rw [audio, if_neg (by decide)]
        exact track_agrees_tcp _ _ _ agrees.audio
  | udpVideo id rtp rtcp port ssrc sock kept owned =>
      refine ⟨by rw [mode, Transport.isTcp, Bool.or_false], ?_, ?_⟩
      · rw [video, if_pos rfl]
        exact track_agrees_port _ _ rtp rtcp port ssrc rfl
      · rw [audio, if_neg (by decide)]
        exact agrees.audio
  | udpAudio id rtp rtcp port ssrc sock kept owned =>
      refine ⟨by rw [mode, Transport.isTcp, Bool.or_false], ?_, ?_⟩
      · rw [video, if_neg (by decide)]
        exact agrees.video
      · rw [audio, if_pos rfl]
        exact track_agrees_port _ _ rtp rtcp port ssrc rfl

-- Outputs that are no packets, or that announce nothing, are judged by the history before them.
theorem routed_append (log outs : List Out)
    (still : (∀ conn, ∀ out ∈ outs, out.setup? conn = none) ∨ ∀ out ∈ outs, out.isPlain = true) :
    Routed (log ++ outs) ↔ Routed log ∧ ∀ out ∈ outs, RoutedAt log out := by
  have same : ∀ early out late, outs = early ++ out :: late → (RoutedAt (log ++ early) out ↔ RoutedAt log out) := by
    intro early out late split
    rcases still with quiet | plain
    · have none : ∀ conn, setupsFor conn early = [] :=
        fun conn => no_setups conn early fun other member => quiet conn other (by rw [split]; simp [member])
      cases out with
      | interleaved conn channel packet => simp only [RoutedAt, announced_append conn _ log early (none conn)]
      | datagram conn dest packet => simp only [RoutedAt, announced_append conn _ log early (none conn)]
      | _ => exact Iff.rfl
    · have fine := plain out (by rw [split]; simp)
      cases out with
      | interleaved _ _ _ => cases fine
      | datagram _ _ _ => cases fine
      | _ => exact Iff.rfl
  constructor
  · intro routed
    refine ⟨?_, ?_⟩
    · rintro early out late rfl
      exact routed early out (late ++ outs) (by simp)
    · intro out member
      obtain ⟨early, late, split⟩ := List.append_of_mem member
      exact (same early out late split).mp (routed (log ++ early) out late (by rw [split]; simp))
  · rintro ⟨before, later⟩ early out late split
    rcases List.append_eq_append_iff.mp split with ⟨middle, shape, rest⟩ | ⟨middle, shape, rest⟩
    · rw [shape]
      exact (same middle out late rest).mpr (later out (by rw [rest]; simp))
    · cases middle with
      | nil =>
          rw [List.append_nil] at shape
          rw [List.nil_append] at rest
          rw [← shape]
          have fine := (same [] out late rest.symm).mpr (later out (by rw [← rest]; simp))
          rwa [List.append_nil] at fine
      | cons head tail =>
          obtain ⟨rfl, _⟩ := List.cons.inj rest
          exact before early out tail shape

-- The last SETUP of the track was TCP, or no SETUP of the client was.
def straight (conn : ConnId) (track : Track) (log : List Out) : Bool :=
  !usedTcp conn log || (announced conn track log).any Transport.isTcp

theorem straight_tcp (conn : ConnId) (track : Track) (log : List Out) (used : usedTcp conn log = true) :
    straight conn track log = true ↔ ∃ rtp rtcp ssrc, announced conn track log = some (.tcp rtp rtcp ssrc) := by
  rw [straight, used, Bool.not_true, Bool.false_or]
  cases said : announced conn track log with
  | none => simp
  | some transport =>
      cases transport with
      | tcp rtp rtcp ssrc => simp [Transport.isTcp]
      | udp rtp rtcp port ssrc => simp [Transport.isTcp]

theorem send_rtp_routed_iff (log : List Out) (cli : RtspClient) (track : RtpTrack) (packet : RtpPacket)
    (mode : cli.interleaved = usedTcp cli.tc log)
    (agrees : TrackAgrees cli.interleaved track (announced cli.tc (trackOf packet) log)) :
    (∀ out ∈ sendRtp cli track packet, RoutedAt log out) ↔ straight cli.tc (trackOf packet) log = true := by
  cases used : cli.interleaved with
  | true =>
      rw [straight_tcp _ _ _ (mode.symm.trans used)]
      simp only [sendRtp, used, if_true, List.mem_singleton, forall_eq, RoutedAt]
      constructor
      · rintro ⟨rtcp, ssrc, said⟩
        exact ⟨_, rtcp, ssrc, said⟩
      · rintro ⟨rtp, rtcp, ssrc, said⟩
        rw [(agrees.tcp rtp rtcp ssrc said).2]
        exact ⟨rtcp, ssrc, said⟩
  | false =>
      have unused : straight cli.tc (trackOf packet) log = true := by
        rw [straight, ← mode, used]
        rfl
      refine iff_of_true ?_ unused
      intro out member
      simp only [sendRtp, used, Bool.false_eq_true, if_false] at member
      cases said : announced cli.tc (trackOf packet) log with
      | none =>
          have unsent : out = .undelivered cli.tc packet := by simpa [agrees.unset said] using member
          rw [unsent]
          trivial
      | some transport =>
          cases transport with
          | tcp rtp rtcp ssrc =>
              have impossible := (agrees.tcp rtp rtcp ssrc said).1
              rw [used] at impossible
              cases impossible
          | udp rtp rtcp port ssrc =>
              split at member
              · rw [List.mem_singleton.mp member]
                exact ⟨rtcp, port, ssrc, by rw [said, agrees.udp rtp rtcp port ssrc said]⟩
              · rw [List.mem_singleton.mp member]
                trivial

theorem carried_routed_iff (log : List Out) (cli : RtspClient) (track : RtpTrack) (pt : UInt8) (outs : List Out) (kind : Track)
    (type : ∀ packet : RtpPacket, packet.hdr.pt = pt → trackOf packet = kind) (mode : cli.interleaved = usedTcp cli.tc log)
    (agrees : TrackAgrees cli.interleaved track (announced cli.tc kind log)) (carried : Carried cli track pt outs)
    (some : cli.interleaved = true → outs ≠ []) :
    (∀ out ∈ outs, RoutedAt log out) ↔ straight cli.tc kind log = true := by
  have each : ∀ packet : RtpPacket, packet.hdr.pt = pt →
      ((∀ out ∈ sendRtp cli track packet, RoutedAt log out) ↔ straight cli.tc kind log = true) := by
    intro packet same
    have decided := send_rtp_routed_iff log cli track packet mode (by rw [type packet same]; exact agrees)
    rwa [type packet same] at decided
  constructor
  · intro all
    cases used : cli.interleaved with
    | false =>
        rw [straight, ← mode, used]
        rfl
    | true =>
        obtain ⟨out, member⟩ := List.exists_mem_of_ne_nil outs (some used)
        obtain ⟨packet, same, sent⟩ := carried out member
        refine (each packet same).mp ?_
        intro other also
        have single : sendRtp cli track packet = [.interleaved cli.tc track.interleaved packet] := by simp [sendRtp, used]
        rw [single] at sent also
        rw [List.mem_singleton.mp also, ← List.mem_singleton.mp sent]
        exact all out member
  · intro fine out member
    obtain ⟨packet, same, sent⟩ := carried out member
    exact (each packet same).mpr fine out sent

theorem send_frame_routed_iff (log : List Out) (cli : RtspClient) (nalus : List Bytes) (agrees : Agrees log cli) :
    (∀ out ∈ (sendFrame cli nalus).2, RoutedAt log out) ↔ (packetiseFrame nalus ≠ [] → straight cli.tc .video log = true) := by
  by_cases packets : packetiseFrame nalus = []
  · refine iff_of_true ?_ (fun some => absurd packets some)
    intro out member
    cases used : cli.interleaved with
    | true =>
        have sent := send_frame_sent cli nalus (Or.inl used)
        rw [packets, sentTo, List.filterMap_eq_nil_iff] at sent
        have none := sent out member
        obtain ⟨packet, same, way⟩ := send_frame_carried cli nalus out member
        simp only [sendRtp, used, if_true, List.mem_singleton] at way
        simp [way, Out.payloadFor, same] at none
    | false =>
        obtain ⟨packet, same, way⟩ := send_frame_carried cli nalus out member
        have kind : trackOf packet = .video := by rw [trackOf, if_pos same]
        have video : TrackAgrees cli.interleaved cli.video (announced cli.tc (trackOf packet) log) := by
          rw [kind]
          exact agrees.video
        refine (send_rtp_routed_iff log cli cli.video packet agrees.mode video).mpr ?_ out way
        rw [straight, ← agrees.mode, used]
        rfl
  · have type : ∀ packet : RtpPacket, packet.hdr.pt = ptH264 → trackOf packet = .video := fun packet same => by
      rw [trackOf, if_pos same]
    have decided := carried_routed_iff log cli cli.video ptH264 _ .video type agrees.mode agrees.video (send_frame_carried cli nalus)
      (fun used empty => packets (by rw [← send_frame_sent cli nalus (Or.inl used), empty]; rfl))
    rw [decided]
    exact ⟨fun fine _ => fine, fun fine => fine packets⟩

theorem send_audio_routed_iff (log : List Out) (cli : RtspClient) (pcmu : Bytes) (agrees : Agrees log cli) :
    (∀ out ∈ (sendAudioBlock cli pcmu).2, RoutedAt log out) ↔ straight cli.tc .audio log = true :=
  send_rtp_routed_iff log cli cli.audio (audioPacket cli pcmu) agrees.mode agrees.audio

structure Followed (reached : Device × List Out) : Prop where
  records : RecordsKept reached.1
  agrees : ∀ cli ∈ reached.1.clients, Agrees reached.2 cli
  past : ∀ conn, setupsFor conn reached.2 ≠ [] → conn < reached.1.nextConn

-- A reply with a transport goes to the connection that asked.
theorem served_setups (w : World) (d : Device) (cli : RtspClient) (request : Option RtspReq) (result : Device × List Out)
    (served : Served w d cli request result) (conn : ConnId) (away : conn ≠ cli.tc) : setupsFor conn result.2 = [] := by
  cases served with
  | frame channel data =>
      apply no_setups
      intro out member
      rcases List.mem_cons.mp member with rfl | played
      · rfl
      · obtain ⟨pcmu, rfl⟩ := mem_play_backchannel cli channel data out played
        rfl
  | denied text cseq => rfl
  | answered text req code reason extra marks auth calls same fixed marked other =>
      apply no_setups
      intro out member
      rcases List.mem_cons.mp member with rfl | later
      · rfl
      · rcases List.mem_append.mp later with mark | reply
        · rw [marked out mark]
          rfl
        · rw [List.mem_singleton.mp reply]
          exact reply_no_setup _ cli _ _ _ _ _ (fixed_no_setup extra fixed)
  | described text req method =>
      rw [front_no_setups]
      exact no_setups _ _ (describe_no_setups w conn _ cli req)
  | setUp text req method =>
      rw [front_no_setups]
      have outcome := handle_setup_outcome w (admittedDevice w d req) cli req
      rcases outcome with ⟨code, reason, _, same⟩ | ⟨track, transport, done, setup, same⟩
      · rw [same]
        rfl
      · rw [same]
        have other : done.tc ≠ conn := fun hit => away (hit.symm.trans (setup_done_tc cli done track transport setup))
        simp [setupsFor, Out.setup?, rtspReply, other]
  | played text req method =>
      rw [front_no_setups]
      exact no_setups _ _ (play_no_setups w conn _ cli req)
  | tornDown text req method =>
      rw [front_no_setups]
      rfl

theorem audio_timer_no_setups (w : World) (conn : ConnId) (d : Device) : ∀ out ∈ (audioSendTimer w d).2, out.setup? conn = none := by
  intro out member
  rw [audioSendTimer] at member
  split at member
  · rcases List.mem_append.mp member with block | sent
    · exact next_block_no_setups w conn _ out block
    · exact audio_to_all_no_setups conn _ _ out sent
  · exact absurd member List.not_mem_nil

theorem video_timer_no_setups (w : World) (conn : ConnId) (d : Device) : ∀ out ∈ (videoSendTimer w d).2, out.setup? conn = none := by
  intro out member
  rw [videoSendTimer] at member
  split at member
  · dsimp only at member
    split at member
    · exact get_frame_no_setups w conn _ out member
    · rcases List.mem_append.mp member with pulled | sent
      · exact get_frame_no_setups w conn _ out pulled
      · exact frame_to_all_no_setups conn _ _ out sent
  · exact absurd member List.not_mem_nil

theorem step_setups (w : World) (d : Device) (action : Action) (conn : ConnId) (unknown : conn ∉ d.keys) :
    setupsFor conn (step w d action).2 = [] := by
  cases action with
  | connect _ => rfl
  | relayConnect _ => rfl
  | receive _ _ => rfl
  | process target =>
      change setupsFor conn (processMessage w d target).2 = []
      rcases process_cases w d target with ⟨idle, _⟩ | ⟨cli, result, rest, found, named, served, same⟩
      · rw [idle]
        rfl
      · rw [same]
        refine served_setups w _ _ _ result served conn ?_
        rintro rfl
        exact unknown (List.mem_map.mpr ⟨cli, (find_client d target cli found).1, rfl⟩)
  | close _ => rfl
  | timeout _ => rfl
  | audioTimer =>
      cases armed : d.tmrAudio with
      | true => simpa [step, armed] using no_setups conn _ (audio_timer_no_setups w conn d)
      | false => simp [step, armed, setupsFor]
  | videoTimer =>
      cases armed : d.tmrVideo with
      | true => simpa [step, armed] using no_setups conn _ (video_timer_no_setups w conn d)
      | false => simp [step, armed, setupsFor]
  | callCreate body behind =>
      apply no_setups
      intro out member
      obtain ⟨code, rfl⟩ := mem_call_create w d body behind out member
      rfl
  | callDelete => rfl
  | sessionVideoTimer => exact no_setups conn _ (session_timer_no_setups w conn d)

theorem next_followed (w : World) (reached : Device × List Out) (action : Action) (inv : Followed reached) :
    Followed (next w reached action) := by
  obtain ⟨d, log⟩ := reached
  refine ⟨step_records w d action inv.records, ?_, ?_⟩
  · intro after member
    cases step_evolved w d action after member with
    | kept before present same quiet =>
        have earlier := agrees_shape log before after same (inv.agrees before present)
        exact agrees_quiet log _ after quiet earlier
    | fresh peer new quiet =>
        have unseen : setupsFor d.nextConn log = [] := by
          by_contra some
          exact Nat.lt_irrefl _ (inv.past d.nextConn some)
        have blank : Agrees log { tc := d.nextConn, peer := peer } := by
          refine ⟨?_, ?_, ?_⟩
          · simp [usedTcp, unseen]
          · simp only [announced, unseen]
            exact ⟨by simp, by simp, fun _ => rfl⟩
          · simp only [announced, unseen]
            exact ⟨by simp, by simp, fun _ => rfl⟩
        have earlier := agrees_shape log _ after new blank
        exact agrees_quiet log _ after (by rw [quiet]; rfl) earlier
    | setUp before done track transport present setup same noted _ =>
        have named : after.tc = before.tc := by
          rw [(shape_fields _ _ same).1, setup_done_tc before done track transport setup]
        rw [named] at noted
        exact agrees_shape _ done after same (agrees_setup log _ before done track transport setup noted (inv.agrees before present))
    | played before opened present _ _ same quiet =>
        have was := inv.agrees before present
        have earlier := agrees_shape log _ after same ⟨was.mode, was.video, was.audio⟩
        exact agrees_quiet log _ after quiet earlier
  · intro conn some
    have grows := next_conn_grows w d action
    refine Nat.lt_of_lt_of_le ?_ grows
    by_cases known : conn ∈ d.keys
    · exact inv.records.known conn known
    · refine inv.past conn ?_
      rw [next, Runs.record, setups_append, step_setups w d action conn known, List.append_nil] at some
      exact some

-- Every client that the step sends a packet of a track has that track on its way.
def Straight (w : World) (reached : Device × List Out) : Action → Prop
  | .audioTimer => reached.1.tmrAudio = true → ∀ cli ∈ reached.1.clients, listens cli = true → straight cli.tc .audio reached.2 = true
  | .videoTimer => reached.1.tmrVideo = true → lost (getFrame w (forceKeyframe { reached.1 with tmrVideo := true })).2.1 = true →
      ∀ cli ∈ reached.1.clients, watches cli = true → straight cli.tc .video reached.2 = true
  | .process conn => ∀ cli req, reached.1.client? conn = some cli → asked w reached.1 conn = some req →
      req.method = ascii "PLAY" → cli.state ≠ .idle →
        (lost (getFrame w (playDevice w (admittedDevice w (reached.1.setRbuf conn []) req) { cli with rbuf := [] }).1).2.1 = true →
          straight conn .video reached.2 = true) ∧
        (cli.audio.setup = true → straight conn .audio reached.2 = true)
  | _ => True

theorem routed_pulled (log : List Out) (w : World) (d : Device) : ∀ out ∈ (getFrame w d).2.2, RoutedAt log out := by
  intro out member
  obtain ⟨nalus, rfl⟩ := mem_get_frame w d out member
  trivial

theorem routed_block (log : List Out) (w : World) (d : Device) : ∀ out ∈ (nextBlock w d).2.2, RoutedAt log out := by
  intro out member
  obtain ⟨samples, rfl⟩ := mem_next_block w d out member
  trivial

theorem routed_plain (log : List Out) (out : Out) (plain : out.isPlain = true) : RoutedAt log out := by
  cases out with
  | interleaved _ _ _ => cases plain
  | datagram _ _ _ => cases plain
  | _ => trivial

theorem forall_append_iff (log left right : List Out) (fine : ∀ out ∈ left, RoutedAt log out) :
    (∀ out ∈ left ++ right, RoutedAt log out) ↔ ∀ out ∈ right, RoutedAt log out := by
  rw [List.forall_mem_append]
  exact ⟨fun both => both.2, fun right => ⟨fine, right⟩⟩

theorem no_watchers (d : Device) (silent : hasPlayingClients d = false) :
    ∀ cli ∈ d.clients, watches cli = false ∧ listens cli = false := by
  intro cli member
  have idle : ¬ cli.state = .playing := by
    simpa using (List.any_eq_false.mp silent) cli member
  simp [watches, listens, idle]

theorem audio_timer_routed_iff (w : World) (d : Device) (log : List Out) (agrees : ∀ cli ∈ d.clients, Agrees log cli) :
    (∀ out ∈ (audioSendTimer w d).2, RoutedAt log out) ↔
      ∀ cli ∈ d.clients, listens cli = true → straight cli.tc .audio log = true := by
  rw [audioSendTimer]
  dsimp only
  cases playing : hasPlayingClients { d with tmrAudio := true } with
  | false =>
      refine iff_of_true (by simp) ?_
      intro cli member listening
      rw [(no_watchers { d with tmrAudio := true } playing cli member).2] at listening
      cases listening
  | true =>
      have kept := kept_trans _ _ _ (drain_excess_kept w { d with tmrAudio := true }) (next_block_kept w _)
      rw [if_pos rfl, forall_append_iff log _ _ (routed_block log w _)]
      simp only [sendToAll, List.mem_flatMap, kept.clients]
      constructor
      · intro all cli member listening
        rw [← send_audio_routed_iff log cli _ (agrees cli member)]
        intro out sent
        refine all out ⟨cli, member, ?_⟩
        rw [sendAudioTo, if_pos ((listens_iff cli).mp listening)]
        exact sent
      · rintro fine out ⟨cli, member, sent⟩
        rw [sendAudioTo] at sent
        split at sent
        · rename_i ready
          exact (send_audio_routed_iff log cli _ (agrees cli member)).mpr
            (fine cli member ((listens_iff cli).mpr ready)) out sent
        · exact absurd sent List.not_mem_nil

theorem video_timer_routed_iff (w : World) (d : Device) (log : List Out) (agrees : ∀ cli ∈ d.clients, Agrees log cli) :
    (∀ out ∈ (videoSendTimer w d).2, RoutedAt log out) ↔
      (lost (getFrame w (forceKeyframe { d with tmrVideo := true })).2.1 = true →
        ∀ cli ∈ d.clients, watches cli = true → straight cli.tc .video log = true) := by
  have kept := kept_trans _ _ _ (force_keyframe_kept { d with tmrVideo := true }) (get_frame_kept w _)
  rw [videoSendTimer]
  dsimp only
  cases playing : hasPlayingClients { d with tmrVideo := true } with
  | false =>
      refine iff_of_true (by simp) ?_
      intro _ cli member watching
      rw [(no_watchers { d with tmrVideo := true } playing cli member).1] at watching
      cases watching
  | true =>
      rw [if_pos rfl]
      cases got : (getFrame w (forceKeyframe { d with tmrVideo := true })).2.1 with
      | none => exact iff_of_true (routed_pulled log w _) (fun none => by cases none)
      | some nalus =>
          dsimp only
          rw [forall_append_iff log _ _ (routed_pulled log w _), lost_iff]
          simp only [sendToAll, List.mem_flatMap, kept.clients]
          constructor
          · rintro all ⟨_, ⟨⟩, packets⟩ cli member watching
            refine (send_frame_routed_iff log cli nalus (agrees cli member)).mp ?_ packets
            intro out sent
            refine all out ⟨cli, member, ?_⟩
            rw [sendFrameTo, if_pos ((watches_iff cli).mp watching)]
            exact sent
          · rintro fine out ⟨cli, member, sent⟩
            rw [sendFrameTo] at sent
            split at sent
            · rename_i ready
              refine (send_frame_routed_iff log cli nalus (agrees cli member)).mpr ?_ out sent
              exact fun packets => fine ⟨nalus, rfl, packets⟩ cli member ((watches_iff cli).mpr ready)
            · exact absurd sent List.not_mem_nil

theorem agrees_identity (log : List Out) (before after : RtspClient) (same : after.identity = before.identity)
    (agrees : Agrees log before) : Agrees log after := agrees_shape log before after (shape_identity _ _ same) agrees

theorem immediate_video_routed_iff (w : World) (d : Device) (log : List Out) (cli : RtspClient) (agrees : Agrees log cli) :
    (∀ out ∈ (immediateVideo w d cli).2.2, RoutedAt log out) ↔
      (lost (getFrame w d).2.1 = true → straight cli.tc .video log = true) := by
  rw [immediateVideo]
  dsimp only
  cases got : (getFrame w d).2.1 with
  | none => exact iff_of_true (routed_pulled log w d) (fun none => by cases none)
  | some nalus =>
      dsimp only
      rw [forall_append_iff log _ _ (routed_pulled log w d), send_frame_routed_iff log cli nalus agrees, lost_iff]
      constructor
      · rintro fine ⟨_, ⟨⟩, packets⟩
        exact fine packets
      · exact fun fine packets => fine ⟨nalus, rfl, packets⟩

theorem immediate_audio_routed_iff (w : World) (d : Device) (log : List Out) (cli : RtspClient) (agrees : Agrees log cli) :
    (∀ out ∈ (immediateAudio w d cli).2.2, RoutedAt log out) ↔ (cli.audio.setup = true → straight cli.tc .audio log = true) := by
  rw [immediateAudio]
  cases setup : cli.audio.setup with
  | false => exact iff_of_true (by simp) (fun off => by cases off)
  | true =>
      rw [if_pos rfl]
      dsimp only
      rw [forall_append_iff log _ _ (routed_block log w d), send_audio_routed_iff log cli _ agrees]
      exact ⟨fun fine _ => fine, fun fine => fine rfl⟩

theorem play_routed_iff (w : World) (d : Device) (log : List Out) (cli : RtspClient) (req : RtspReq) (ready : cli.state ≠ .idle)
    (agrees : Agrees log cli) :
    (∀ out ∈ (handlePlay w d cli req).2.2, RoutedAt log out) ↔
      (lost (getFrame w (playDevice w d cli).1).2.1 = true → straight cli.tc .video log = true) ∧
        (cli.audio.setup = true → straight cli.tc .audio log = true) := by
  obtain ⟨reply, plain, outs⟩ := play_outs w d cli req ready
  have record := play_record w d cli
  generalize playDevice w d cli = talk at outs record
  have asker : Agrees log talk.2 := by
    refine ⟨?_, ?_, ?_⟩
    · rw [record.1, record.2.2.1]
      exact agrees.mode
    · rw [record.1, record.2.2.1, record.2.2.2.1]
      exact agrees.video
    · rw [record.1, record.2.2.1, record.2.2.2.2]
      exact agrees.audio
  have later := agrees_identity log talk.2 _ (immediate_video_identity w talk.1 talk.2) asker
  have fields := identity_fields _ _ (immediate_video_identity w talk.1 talk.2)
  have tracks := identity_tracks _ _ (immediate_video_identity w talk.1 talk.2)
  have front : ∀ out ∈ [reply], RoutedAt log out := by
    intro out member
    rw [List.mem_singleton.mp member]
    exact routed_plain log reply plain
  rw [outs, forall_append_iff log _ _ front, List.forall_mem_append, immediate_video_routed_iff w talk.1 log talk.2 asker,
    immediate_audio_routed_iff w _ log _ later, fields.1, tracks.2.2.2.2.2.2.2, record.1, record.2.2.2.2]

theorem routed_plain_append (log outs : List Out) (plain : ∀ out ∈ outs, out.isPlain = true) (before : Routed log) :
    Routed (log ++ outs) :=
  (routed_append log outs (Or.inr plain)).mpr ⟨before, fun out member => routed_plain log out (plain out member)⟩

theorem front_quiet (d : Device) (cli : RtspClient) (text : Bytes) (outs : List Out)
    (quiet : ∀ conn, ∀ out ∈ outs, out.setup? conn = none) :
    ∀ conn, ∀ out ∈ .request cli.tc text :: acceptMarks d cli ++ outs, out.setup? conn = none := by
  intro conn
  rw [List.forall_mem_append]
  refine ⟨?_, quiet conn⟩
  intro out member
  rcases List.mem_cons.mp member with rfl | mark
  · rfl
  · rw [mem_accept_marks d cli out mark]
    rfl

theorem served_routed_iff (w : World) (d : Device) (log : List Out) (cli : RtspClient) (request : Option RtspReq)
    (result : Device × List Out) (served : Served w d cli request result) (agrees : Agrees log cli) (before : Routed log) :
    Routed (log ++ result.2) ↔ ∀ req, request = some req → req.method = ascii "PLAY" → cli.state ≠ .idle →
      (lost (getFrame w (playDevice w (admittedDevice w d req) cli).1).2.1 = true → straight cli.tc .video log = true) ∧
        (cli.audio.setup = true → straight cli.tc .audio log = true) := by
  have fronted : ∀ text outs, (∀ conn, ∀ out ∈ outs, out.setup? conn = none) →
      (Routed (log ++ (.request cli.tc text :: acceptMarks d cli ++ outs)) ↔ ∀ out ∈ outs, RoutedAt log out) := by
    intro text outs quiet
    rw [routed_append log _ (Or.inl (front_quiet d cli text outs quiet)),
      forall_append_iff log _ _ (fun out member => routed_plain log out (mark_plain d cli text out member))]
    exact ⟨fun both => both.2, fun later => ⟨before, later⟩⟩
  rcases served_media w d cli request result served with
    ⟨plain, other⟩ | ⟨text, req, rfl, method, rfl⟩ | ⟨text, req, rfl, method, ready, rfl⟩
  · refine iff_of_true (routed_plain_append log _ plain before) ?_
    exact fun req asked play ready => absurd ((other req asked).2 play) ready
  · rw [fronted text _ (fun conn => describe_no_setups w conn _ cli req)]
    refine iff_of_true ?_ ?_
    · intro out member
      rcases List.mem_append.mp member with fetched | reply
      · obtain ⟨nalus, rfl⟩ := mem_fetch_params w _ out fetched
        trivial
      · rw [List.mem_singleton.mp reply]
        trivial
    · rintro _ ⟨⟩ play
      rw [method] at play
      exact absurd play (by decide)
  · rw [fronted text _ (fun conn => play_no_setups w conn _ cli req), play_routed_iff w _ log cli req ready agrees]
    constructor
    · rintro fine _ ⟨⟩ _ _
      exact fine
    · exact fun fine => fine req rfl method ready

theorem process_routed_iff (w : World) (d : Device) (log : List Out) (conn : ConnId) (inv : Followed (d, log)) (before : Routed log) :
    Routed (log ++ (processMessage w d conn).2) ↔ Straight w (d, log) (.process conn) := by
  rcases process_cases w d conn with ⟨idle, nothing⟩ | ⟨cli, result, rest, found, named, served, same⟩
  · rw [idle, List.append_nil]
    refine iff_of_true before ?_
    intro _ _ _ asked
    rw [nothing] at asked
    cases asked
  · have was := inv.agrees cli (find_client d conn cli found).1
    have decided := served_routed_iff w _ log _ _ result served ⟨was.mode, was.video, was.audio⟩ before
    rw [same, decided]
    subst named
    constructor
    · intro fine other req known asked play ready
      dsimp only at known
      rw [found] at known
      cases known
      exact fine req asked play ready
    · exact fun fine req asked play ready => fine cli req found asked play ready

theorem step_routed_iff (w : World) (reached : Device × List Out) (action : Action) (inv : Followed reached)
    (before : Routed reached.2) : Routed (next w reached action).2 ↔ Straight w reached action := by
  obtain ⟨d, log⟩ := reached
  have nothing : Routed (log ++ []) := by rwa [List.append_nil]
  cases action with
  | connect peer => exact iff_of_true nothing trivial
  | relayConnect peer => exact iff_of_true nothing trivial
  | receive conn chunk => exact iff_of_true nothing trivial
  | process conn => exact process_routed_iff w d log conn inv before
  | close conn => exact iff_of_true nothing trivial
  | timeout conn => exact iff_of_true nothing trivial
  | audioTimer =>
      change Routed (log ++ (step w d .audioTimer).2) ↔ _
      cases armed : d.tmrAudio with
      | false =>
          simp only [step, armed, Bool.false_eq_true, if_false]
          refine iff_of_true nothing ?_
          intro on
          dsimp only at on
          rw [armed] at on
          cases on
      | true =>
          simp only [step, armed, if_true]
          rw [routed_append log _ (Or.inl fun conn => audio_timer_no_setups w conn d), audio_timer_routed_iff w d log inv.agrees]
          exact ⟨fun both _ => both.2, fun fine => ⟨before, fine armed⟩⟩
  | videoTimer =>
      change Routed (log ++ (step w d .videoTimer).2) ↔ _
      cases armed : d.tmrVideo with
      | false =>
          simp only [step, armed, Bool.false_eq_true, if_false]
          refine iff_of_true nothing ?_
          intro on
          dsimp only at on
          rw [armed] at on
          cases on
      | true =>
          simp only [step, armed, if_true]
          rw [routed_append log _ (Or.inl fun conn => video_timer_no_setups w conn d), video_timer_routed_iff w d log inv.agrees]
          exact ⟨fun both _ => both.2, fun fine => ⟨before, fine armed⟩⟩
  | callCreate body behind =>
      refine iff_of_true (routed_plain_append log _ ?_ before) trivial
      intro out member
      obtain ⟨code, rfl⟩ := mem_call_create w d body behind out member
      rfl
  | callDelete => exact iff_of_true (routed_plain_append log _ (by simp [step, handleCallDelete, Out.isPlain]) before) trivial
  | sessionVideoTimer =>
      refine iff_of_true ((routed_append log _ (Or.inl fun conn => session_timer_no_setups w conn d)).mpr ⟨before, ?_⟩) trivial
      intro out member
      rcases mem_session_timer w d out member with ⟨nalus, rfl⟩ | ⟨dest, packet, rfl⟩
      · trivial
      · trivial

theorem routed_iff_straight (w : World) (localIp username password : Bytes) (actions : List Action) :
    Runs.EachState (next w) (fun reached => Routed reached.2) (initial w localIp username password, []) actions ↔
      Runs.EachStep (next w) (Straight w) (initial w localIp username password, []) actions := by
  have start : Followed (initial w localIp username password, []) :=
    ⟨initial_records w localIp username password, fun _ member => absurd member List.not_mem_nil,
      fun _ some => absurd rfl some⟩
  have empty : Routed [] := by
    intro early out late split
    simp at split
  exact Runs.each_state_iff_steps (next w) (fun reached => Routed reached.2) Followed (Straight w) _ actions
    (fun reached action inv => next_followed w reached action inv)
    (fun reached action inv before => step_routed_iff w reached action inv before) start empty

-- A packet on a TCP channel while the last SETUP of its track was not TCP.
def strayAt (log : List Out) (index : Nat) : Bool :=
  match log[index]? with
  | some (.interleaved conn _ packet) => !(announced conn (trackOf packet) (log.take index)).any Transport.isTcp
  | _ => false

theorem routed_not_stray (log : List Out) (routed : Routed log) (index : Nat) : strayAt log index = false := by
  rw [strayAt]
  split
  · rename_i conn channel packet here
    obtain ⟨inside, value⟩ := List.getElem?_eq_some_iff.mp here
    have split : log = log.take index ++ .interleaved conn channel packet :: log.drop (index + 1) := by
      rw [← value, List.cons_getElem_drop_succ, List.take_append_drop]
    obtain ⟨rtcp, ssrc, said⟩ := routed _ _ _ split
    simp [said, Transport.isTcp]
  · rfl

def setupVideoUdpText : Bytes :=
  ascii "SETUP rtsp://h/trackID=0 RTSP/1.0\r\nCSeq: 1\r\nTransport: RTP/AVP;unicast;client_port=7000-7001\r\n\r\n"

def setupAudioText : Bytes :=
  ascii "SETUP rtsp://h/trackID=1 RTSP/1.0\r\nCSeq: 2\r\nTransport: RTP/AVP/TCP;unicast;interleaved=2-3\r\n\r\n"

-- Video by UDP, then audio by TCP: the video that PLAY sends goes down the TCP connection, on a channel nobody announced.
theorem mixed_setup_misroutes :
    ¬ Runs.EachState (next sampleWorld) (fun reached => Routed reached.2) (initial sampleWorld [] [] [], [])
      [.connect ⟨0x7F000001, 40000⟩, .receive 0 setupVideoUdpText, .process 0, .receive 0 setupAudioText, .process 0,
        .receive 0 playText, .process 0] := by
  intro every
  have routed := Runs.each_state_last (next sampleWorld) (fun reached => Routed reached.2) _ _ every
  generalize same : (Runs.run (next sampleWorld) (initial sampleWorld [] [] [], [])
    [.connect ⟨0x7F000001, 40000⟩, .receive 0 setupVideoUdpText, .process 0, .receive 0 setupAudioText, .process 0,
      .receive 0 playText, .process 0]).2 = log at routed
  have stray : strayAt log 7 = true := by
    rw [← same]
    decide +kernel
  rw [routed_not_stray log routed 7] at stray
  cases stray

end Intercom
