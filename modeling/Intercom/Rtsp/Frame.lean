import Intercom.Rtsp.Receive

set_option autoImplicit false

/- What the handlers leave alone. Sending media moves only the sequence numbers and timestamps of a record;
   the device operations of a handler never touch the list of clients. -/
namespace Intercom

open ByteText

def RtspClient.identity (cli : RtspClient) : RtspClient :=
  { cli with
    video := { cli.video with seq := 0, ts := 0 }
    audio := { cli.audio with seq := 0, ts := 0 } }

theorem identity_fields (left right : RtspClient) (same : left.identity = right.identity) :
    left.tc = right.tc ∧ left.peer = right.peer ∧ left.rbuf = right.rbuf ∧ left.state = right.state ∧
      left.sessionId = right.sessionId ∧ left.interleaved = right.interleaved ∧
      left.backchannelSetup = right.backchannelSetup ∧ left.backchannelInterleaved = right.backchannelInterleaved ∧
      left.audioOutOpened = right.audioOutOpened :=
  ⟨(congrArg RtspClient.tc same :), (congrArg RtspClient.peer same :), (congrArg RtspClient.rbuf same :),
    (congrArg RtspClient.state same :), (congrArg RtspClient.sessionId same :), (congrArg RtspClient.interleaved same :),
    (congrArg RtspClient.backchannelSetup same :), (congrArg RtspClient.backchannelInterleaved same :),
    (congrArg RtspClient.audioOutOpened same :)⟩

theorem identity_tracks (left right : RtspClient) (same : left.identity = right.identity) :
    left.video.sock = right.video.sock ∧ left.video.dest = right.video.dest ∧
      left.video.interleaved = right.video.interleaved ∧ left.video.setup = right.video.setup ∧
      left.audio.sock = right.audio.sock ∧ left.audio.dest = right.audio.dest ∧
      left.audio.interleaved = right.audio.interleaved ∧ left.audio.setup = right.audio.setup :=
  ⟨(congrArg (fun cli => cli.video.sock) same :), (congrArg (fun cli => cli.video.dest) same :),
    (congrArg (fun cli => cli.video.interleaved) same :), (congrArg (fun cli => cli.video.setup) same :),
    (congrArg (fun cli => cli.audio.sock) same :), (congrArg (fun cli => cli.audio.dest) same :),
    (congrArg (fun cli => cli.audio.interleaved) same :), (congrArg (fun cli => cli.audio.setup) same :)⟩

theorem send_video_parts_identity (cli : RtspClient) (parts : List (Bool × Bytes)) :
    (sendVideoParts cli parts).1.identity = cli.identity := by
  induction parts generalizing cli with
  | nil => rfl
  | cons part rest ih => exact ih _

theorem send_nalus_identity (cli : RtspClient) (nalus : List Bytes) : (sendNalus cli nalus).1.identity = cli.identity := by
  induction nalus generalizing cli with
  | nil => rfl
  | cons nalu rest ih => exact (ih _).trans (send_video_parts_identity cli _)

theorem send_video_parts_append (cli : RtspClient) (early late : List (Bool × Bytes)) :
    sendVideoParts cli (early ++ late) =
      ((sendVideoParts (sendVideoParts cli early).1 late).1,
        (sendVideoParts cli early).2 ++ (sendVideoParts (sendVideoParts cli early).1 late).2) := by
  induction early generalizing cli with
  | nil => rfl
  | cons part rest ih => simp [sendVideoParts, ih]

theorem send_nalus_parts (cli : RtspClient) (nalus : List Bytes) :
    sendNalus cli nalus = sendVideoParts cli (packetiseFrame nalus) := by
  induction nalus generalizing cli with
  | nil => rfl
  | cons nalu rest ih => simp [sendNalus, packetiseFrame, send_video_parts_append, sendH264NaluToClient, ih]

theorem identity_ts (cli : RtspClient) (ts : UInt32) : ({ cli with video.ts := ts } : RtspClient).identity = cli.identity := rfl

theorem send_frame_identity (cli : RtspClient) (nalus : List Bytes) : (sendFrame cli nalus).1.identity = cli.identity := by
  rw [sendFrame, identity_ts]
  exact send_nalus_identity cli nalus

theorem send_audio_identity (cli : RtspClient) (pcmu : Bytes) : (sendAudioBlock cli pcmu).1.identity = cli.identity := rfl

theorem send_rtp_video (left right : RtspClient) (packet : RtpPacket) (same : left.identity = right.identity) :
    sendRtp left left.video packet = sendRtp right right.video packet := by
  have fields := identity_fields _ _ same
  have tracks := identity_tracks _ _ same
  simp only [sendRtp, fields.1, fields.2.2.2.2.2.1, tracks.1, tracks.2.1, tracks.2.2.1]

theorem written_append (conn : ConnId) (left right : List Out) :
    written conn (left ++ right) = written conn left ++ written conn right := by
  rw [written, List.flatMap_append]
  rfl

theorem mem_send_rtp (cli : RtspClient) (track : RtpTrack) (packet : RtpPacket) (out : Out) (member : out ∈ sendRtp cli track packet) :
    out = .interleaved cli.tc track.interleaved packet ∨ out = .datagram cli.tc track.dest packet ∨
      out = .undelivered cli.tc packet := by
  rw [sendRtp] at member
  split at member
  · exact Or.inl (List.mem_singleton.mp member)
  · split at member
    · exact Or.inr (Or.inl (List.mem_singleton.mp member))
    · exact Or.inr (Or.inr (List.mem_singleton.mp member))

-- Every output is a packet of the track, sent the way the record says.
def Carried (cli : RtspClient) (track : RtpTrack) (pt : UInt8) (outs : List Out) : Prop :=
  ∀ out ∈ outs, ∃ packet : RtpPacket, packet.hdr.pt = pt ∧ out ∈ sendRtp cli track packet

theorem carried_append (cli : RtspClient) (track : RtpTrack) (pt : UInt8) (left right : List Out)
    (first : Carried cli track pt left) (second : Carried cli track pt right) : Carried cli track pt (left ++ right) := by
  intro out member
  rcases List.mem_append.mp member with early | late
  · exact first out early
  · exact second out late

theorem carried_video (before after : RtspClient) (outs : List Out) (same : after.identity = before.identity)
    (carried : Carried after after.video ptH264 outs) : Carried before before.video ptH264 outs := by
  intro out member
  obtain ⟨packet, pt, sent⟩ := carried out member
  exact ⟨packet, pt, send_rtp_video after before packet same ▸ sent⟩

theorem send_video_parts_carried (cli : RtspClient) (parts : List (Bool × Bytes)) :
    Carried cli cli.video ptH264 (sendVideoParts cli parts).2 := by
  induction parts generalizing cli with
  | nil => exact fun _ member => absurd member List.not_mem_nil
  | cons part rest ih =>
      have later := carried_video cli (sendVideoPart cli part).1 _ rfl (ih (sendVideoPart cli part).1)
      exact carried_append cli cli.video ptH264 _ _ (fun out member => ⟨videoPacket cli part, rfl, member⟩) later

theorem send_nalus_carried (cli : RtspClient) (nalus : List Bytes) : Carried cli cli.video ptH264 (sendNalus cli nalus).2 := by
  induction nalus generalizing cli with
  | nil => exact fun _ member => absurd member List.not_mem_nil
  | cons nalu rest ih =>
      have same := send_video_parts_identity cli (packetise nalu rest.isEmpty)
      have later := carried_video cli _ _ same (ih (sendH264NaluToClient cli nalu rest.isEmpty).1)
      exact carried_append cli cli.video ptH264 _ _ (send_video_parts_carried cli _) later

theorem send_frame_carried (cli : RtspClient) (nalus : List Bytes) : Carried cli cli.video ptH264 (sendFrame cli nalus).2 := by
  rw [sendFrame]
  exact send_nalus_carried cli nalus

theorem send_audio_carried (cli : RtspClient) (pcmu : Bytes) : Carried cli cli.audio ptPcmu (sendAudioBlock cli pcmu).2 :=
  fun _ member => ⟨_, rfl, member⟩

structure Kept (before after : Device) : Prop where
  clients : after.clients = before.clients
  nextConn : after.nextConn = before.nextConn
  auth : after.auth = before.auth
  localIp : after.localIp = before.localIp

theorem kept_refl (d : Device) : Kept d d := ⟨rfl, rfl, rfl, rfl⟩

theorem kept_trans (a b c : Device) (first : Kept a b) (second : Kept b c) : Kept a c :=
  ⟨second.clients.trans first.clients, second.nextConn.trans first.nextConn, second.auth.trans first.auth,
    second.localIp.trans first.localIp⟩

theorem open_camera_kept (w : World) (d : Device) : Kept d (openCamera w d).1 := ⟨rfl, rfl, rfl, rfl⟩

theorem open_speaker_kept (w : World) (d : Device) : Kept d (openSpeaker w d).1 := ⟨rfl, rfl, rfl, rfl⟩

theorem get_frame_kept (w : World) (d : Device) : Kept d (getFrame w d).1 := ⟨rfl, rfl, rfl, rfl⟩

theorem read_mic_kept (w : World) (d : Device) (count : Nat) : Kept d (readMic w d count).1 := ⟨rfl, rfl, rfl, rfl⟩

theorem open_mic_kept (w : World) (d : Device) : Kept d (openMic w d) := by
  unfold openMic
  split
  · exact kept_refl d
  · exact ⟨rfl, rfl, rfl, rfl⟩

theorem next_block_kept (w : World) (d : Device) : Kept d (nextBlock w d).1 := by
  unfold nextBlock
  split
  · exact read_mic_kept w d audioSamples
  · exact kept_refl d

theorem mem_get_frame (w : World) (d : Device) (out : Out) (member : out ∈ (getFrame w d).2.2) : ∃ nalus, out = .pulled nalus := by
  simp only [getFrame, Option.mem_toList, Option.map_eq_some_iff] at member
  obtain ⟨frame, _, same⟩ := member
  exact ⟨frame.nalus, same.symm⟩

theorem mem_next_block (w : World) (d : Device) (out : Out) (member : out ∈ (nextBlock w d).2.2) : ∃ samples, out = .block samples := by
  rw [nextBlock] at member
  split at member
  · exact ⟨_, List.mem_singleton.mp member⟩
  · exact absurd member List.not_mem_nil

theorem start_timers_kept (d : Device) : Kept d (startTimers d) := ⟨rfl, rfl, rfl, rfl⟩

theorem ensure_media_started_kept (w : World) (d : Device) : Kept d (ensureMediaStarted w d) := by
  have opened := open_camera_kept w d
  unfold ensureMediaStarted
  split
  · exact kept_trans _ _ _ (open_mic_kept w d) (start_timers_kept _)
  · dsimp only
    split
    · exact opened
    · have flagged : Kept d { (openCamera w d).1 with cameraOpened := true } := ⟨rfl, rfl, rfl, rfl⟩
      exact kept_trans _ _ _ flagged (kept_trans _ _ _ (open_mic_kept w _) (start_timers_kept _))

theorem fetch_params_kept (w : World) (d : Device) : Kept d (fetchParams w d).1 := by
  unfold fetchParams
  split
  · exact kept_refl d
  · dsimp only
    split
    · exact ⟨rfl, rfl, rfl, rfl⟩
    · exact ⟨rfl, rfl, rfl, rfl⟩

theorem mem_fetch_params (w : World) (d : Device) (out : Out) (member : out ∈ (fetchParams w d).2) :
    ∃ nalus, out = .pulled nalus := by
  rw [fetchParams] at member
  split at member
  · exact absurd member List.not_mem_nil
  · dsimp only at member
    split at member
    · exact absurd member List.not_mem_nil
    · exact mem_get_frame w _ out member

-- A SETUP draws numbers and a socket from the system and touches nothing else of the device.
def OnlyCalls (before after : Device) : Prop := ∃ calls, after = { before with calls := calls }

theorem only_calls_refl (d : Device) : OnlyCalls d d := ⟨d.calls, rfl⟩

theorem only_calls_trans (a b c : Device) (first : OnlyCalls a b) (second : OnlyCalls b c) : OnlyCalls a c := by
  obtain ⟨_, rfl⟩ := first
  obtain ⟨calls, rfl⟩ := second
  exact ⟨calls, rfl⟩

theorem finish_setup_calls (w : World) (d : Device) (cli : RtspClient) (req : RtspReq) (track : Track) (transport : Transport) :
    OnlyCalls d (finishSetup w d cli req track transport).1 := by
  rw [finishSetup]
  cases cli.sessionId with
  | none => exact ⟨d.calls + 1, rfl⟩
  | some _ => exact only_calls_refl d

theorem alloc_rtp_socket_calls (w : World) (d : Device) (track : RtpTrack) : OnlyCalls d (allocRtpSocket w d track).1 := by
  rw [allocRtpSocket]
  cases track.sock with
  | some _ => exact only_calls_refl d
  | none =>
      cases w.udpListen d.calls with
      | none => exact ⟨d.calls + 1, rfl⟩
      | some _ => exact ⟨d.calls + 2, rfl⟩

theorem open_backchannel_kept (w : World) (d : Device) (cli : RtspClient) : Kept d (openBackchannel w d cli).1 := by
  unfold openBackchannel
  split
  · exact open_speaker_kept w d
  · exact kept_refl d

theorem immediate_video_kept (w : World) (d : Device) (cli : RtspClient) : Kept d (immediateVideo w d cli).1 := by
  have got := get_frame_kept w d
  unfold immediateVideo
  dsimp only
  split
  · exact got
  · exact ⟨got.clients, got.nextConn, got.auth, got.localIp⟩

theorem immediate_audio_kept (w : World) (d : Device) (cli : RtspClient) : Kept d (immediateAudio w d cli).1 := by
  unfold immediateAudio
  split
  · exact next_block_kept w d
  · exact kept_refl d

theorem immediate_video_identity (w : World) (d : Device) (cli : RtspClient) :
    (immediateVideo w d cli).2.1.identity = cli.identity := by
  unfold immediateVideo
  dsimp only
  split
  · rfl
  · exact send_frame_identity cli _

theorem immediate_audio_identity (w : World) (d : Device) (cli : RtspClient) :
    (immediateAudio w d cli).2.1.identity = cli.identity := by
  unfold immediateAudio
  split
  · exact send_audio_identity cli (nextBlock w d).2.1
  · rfl

-- The record after a SETUP that was answered 200 with this Transport line.
inductive SetupDone (cli : RtspClient) : Track → Transport → RtspClient → Prop where
  | tcpVideo (id ssrc : UInt32) (rtp rtcp : UInt8) (kept : ∀ old, cli.sessionId = some old → id = old) :
      SetupDone cli .video (.tcp rtp rtcp (some ssrc)) { cli with
        state := .ready, sessionId := some id, interleaved := true
        video := { cli.video with interleaved := rtp, interleavedRtcp := rtcp, ssrc := ssrc, setup := true } }
  | tcpAudio (id ssrc : UInt32) (rtp rtcp : UInt8) (kept : ∀ old, cli.sessionId = some old → id = old) :
      SetupDone cli .audio (.tcp rtp rtcp (some ssrc)) { cli with
        state := .ready, sessionId := some id, interleaved := true
        audio := { cli.audio with interleaved := rtp, interleavedRtcp := rtcp, ssrc := ssrc, setup := true } }
  | tcpBackchannel (id : UInt32) (rtp rtcp : UInt8) (kept : ∀ old, cli.sessionId = some old → id = old) :
      SetupDone cli .backchannel (.tcp rtp rtcp none) { cli with
        state := .ready, sessionId := some id, interleaved := true
        backchannelInterleaved := rtp, backchannelInterleavedRtcp := rtcp, backchannelSetup := true }
  | udpVideo (id : UInt32) (rtp rtcp port : UInt16) (ssrc : UInt32) (sock : Nat)
      (kept : ∀ old, cli.sessionId = some old → id = old) (owned : ∀ old, cli.video.sock = some old → sock = old) :
      SetupDone cli .video (.udp rtp rtcp port ssrc) { cli with
        state := .ready, sessionId := some id
        video := { cli.video with sock := some sock, srvPort := port, ssrc := ssrc, dest := ⟨cli.peer.addr, rtp⟩, setup := true } }
  | udpAudio (id : UInt32) (rtp rtcp port : UInt16) (ssrc : UInt32) (sock : Nat)
      (kept : ∀ old, cli.sessionId = some old → id = old) (owned : ∀ old, cli.audio.sock = some old → sock = old) :
      SetupDone cli .audio (.udp rtp rtcp port ssrc) { cli with
        state := .ready, sessionId := some id
        audio := { cli.audio with sock := some sock, srvPort := port, ssrc := ssrc, dest := ⟨cli.peer.addr, rtp⟩, setup := true } }

theorem setup_done_tc (cli done : RtspClient) (track : Track) (transport : Transport) (setup : SetupDone cli track transport done) :
    done.tc = cli.tc := by
  cases setup <;> rfl

theorem finish_setup_result (w : World) (d : Device) (cli : RtspClient) (req : RtspReq) (track : Track) (transport : Transport) :
    ∃ id, (∀ old, cli.sessionId = some old → id = old) ∧
      (finishSetup w d cli req track transport).2 =
        ({ cli with state := .ready, sessionId := some id },
          [rtspReply { cli with state := .ready, sessionId := some id } req.cseq 200 "OK" (.setup track transport) []]) := by
  cases known : cli.sessionId with
  | some old => exact ⟨old, fun other same => Option.some.inj same, by simp [finishSetup, known, rtspReply]⟩
  | none => exact ⟨w.randU32 d.calls, by simp, by simp [finishSetup, known]⟩

theorem alloc_rtp_socket_result (w : World) (d : Device) (track fresh : RtpTrack)
    (allocated : (allocRtpSocket w d track).2 = some fresh) :
    ∃ sock, (∀ old, track.sock = some old → sock = old) ∧
      fresh = { track with sock := some sock, srvPort := fresh.srvPort, ssrc := fresh.ssrc } := by
  cases owned : track.sock with
  | some old =>
      refine ⟨old, fun other same => Option.some.inj same, ?_⟩
      have same : track = fresh := by simpa [allocRtpSocket, owned] using allocated
      rw [← same, ← owned]
  | none =>
      refine ⟨d.calls, by simp, ?_⟩
      cases answer : w.udpListen d.calls with
      | none => simp [allocRtpSocket, owned, answer] at allocated
      | some port =>
          have same := allocated
          simp only [allocRtpSocket, owned, answer, Option.some.injEq] at same
          rw [← same]

def setupRefusals : List (Nat × String) := [(461, "Unsupported Transport"), (500, "Internal Error")]

-- A SETUP is refused with nothing changed, or answered 200 and recorded.
def SetupOutcome (cli : RtspClient) (req : RtspReq) (result : RtspClient × List Out) : Prop :=
  (∃ code reason, (code, reason) ∈ setupRefusals ∧ result = (cli, [rtspReply cli req.cseq code reason .none []])) ∨
    ∃ track transport after, SetupDone cli track transport after ∧
      result = (after, [rtspReply after req.cseq 200 "OK" (.setup track transport) []])

theorem setup_tcp_outcome (w : World) (d : Device) (cli : RtspClient) (req : RtspReq) (flags : TrackFlags) :
    SetupOutcome cli req (setupTcp w d cli req flags).2 := by
  right
  unfold setupTcp
  dsimp only
  generalize (parseInterleaved req.transport).getD _ = channels
  split
  · obtain ⟨id, kept, result⟩ := finish_setup_result w { d with calls := d.calls + 1 } { cli with
      interleaved := true
      video := { cli.video with
        interleaved := channels.1, interleavedRtcp := channels.2, ssrc := w.randU32 d.calls, setup := true } }
      req .video (.tcp channels.1 channels.2 (some (w.randU32 d.calls)))
    exact ⟨_, _, _, .tcpVideo id (w.randU32 d.calls) channels.1 channels.2 kept, result⟩
  · split
    · obtain ⟨id, kept, result⟩ := finish_setup_result w d { cli with
        interleaved := true
        backchannelInterleaved := channels.1, backchannelInterleavedRtcp := channels.2, backchannelSetup := true }
        req .backchannel (.tcp channels.1 channels.2 none)
      exact ⟨_, _, _, .tcpBackchannel id channels.1 channels.2 kept, result⟩
    · obtain ⟨id, kept, result⟩ := finish_setup_result w { d with calls := d.calls + 1 } { cli with
        interleaved := true
        audio := { cli.audio with
          interleaved := channels.1, interleavedRtcp := channels.2, ssrc := w.randU32 d.calls, setup := true } }
        req .audio (.tcp channels.1 channels.2 (some (w.randU32 d.calls)))
      exact ⟨_, _, _, .tcpAudio id (w.randU32 d.calls) channels.1 channels.2 kept, result⟩

theorem setup_udp_video_outcome (w : World) (d : Device) (cli : RtspClient) (req : RtspReq) (ports : UInt16 × UInt16) :
    SetupOutcome cli req
      (setupUdpTrack w d cli req .video cli.video (fun track => { cli with video := track }) ports).2 := by
  unfold setupUdpTrack
  cases allocated : allocRtpSocket w d cli.video with
  | mk after fresh =>
      cases fresh with
      | none => exact Or.inl ⟨500, "Internal Error", by decide, rfl⟩
      | some fresh =>
          obtain ⟨sock, owned, shape⟩ := alloc_rtp_socket_result w d cli.video fresh (by rw [allocated])
          obtain ⟨id, kept, result⟩ := finish_setup_result w after
            { cli with video := { fresh with dest := ⟨cli.peer.addr, ports.1⟩, setup := true } } req .video
            (.udp ports.1 ports.2 fresh.srvPort fresh.ssrc)
          refine Or.inr ⟨_, _, _, .udpVideo id ports.1 ports.2 fresh.srvPort fresh.ssrc sock kept owned, ?_⟩
          rw [result]
          rw [shape]

theorem setup_udp_audio_outcome (w : World) (d : Device) (cli : RtspClient) (req : RtspReq) (ports : UInt16 × UInt16) :
    SetupOutcome cli req
      (setupUdpTrack w d cli req .audio cli.audio (fun track => { cli with audio := track }) ports).2 := by
  unfold setupUdpTrack
  cases allocated : allocRtpSocket w d cli.audio with
  | mk after fresh =>
      cases fresh with
      | none => exact Or.inl ⟨500, "Internal Error", by decide, rfl⟩
      | some fresh =>
          obtain ⟨sock, owned, shape⟩ := alloc_rtp_socket_result w d cli.audio fresh (by rw [allocated])
          obtain ⟨id, kept, result⟩ := finish_setup_result w after
            { cli with audio := { fresh with dest := ⟨cli.peer.addr, ports.1⟩, setup := true } } req .audio
            (.udp ports.1 ports.2 fresh.srvPort fresh.ssrc)
          refine Or.inr ⟨_, _, _, .udpAudio id ports.1 ports.2 fresh.srvPort fresh.ssrc sock kept owned, ?_⟩
          rw [result]
          rw [shape]

theorem handle_setup_outcome (w : World) (d : Device) (cli : RtspClient) (req : RtspReq) :
    SetupOutcome cli req (handleSetup w d cli req).2 := by
  have refused : SetupOutcome cli req (cli, [rtspReply cli req.cseq 461 "Unsupported Transport" .none []]) :=
    Or.inl ⟨461, "Unsupported Transport", by decide, rfl⟩
  unfold handleSetup setupUdp
  dsimp only
  split
  · exact setup_tcp_outcome w d cli req _
  · split
    · exact refused
    · split
      · exact refused
      · split
        · exact refused
        · split
          · exact setup_udp_video_outcome w d cli req _
          · exact setup_udp_audio_outcome w d cli req _

theorem setup_udp_track_calls (w : World) (d : Device) (cli : RtspClient) (req : RtspReq) (track : Track)
    (old : RtpTrack) (write : RtpTrack → RtspClient) (ports : UInt16 × UInt16) :
    OnlyCalls d (setupUdpTrack w d cli req track old write ports).1 := by
  have socket := alloc_rtp_socket_calls w d old
  rw [setupUdpTrack]
  cases allocated : allocRtpSocket w d old with
  | mk after fresh =>
      rw [allocated] at socket
      cases fresh with
      | none => exact socket
      | some fresh => exact only_calls_trans _ _ _ socket (finish_setup_calls ..)

theorem handle_setup_calls (w : World) (d : Device) (cli : RtspClient) (req : RtspReq) : OnlyCalls d (handleSetup w d cli req).1 := by
  have counted : OnlyCalls d { d with calls := d.calls + 1 } := ⟨d.calls + 1, rfl⟩
  unfold handleSetup setupTcp setupUdp
  dsimp only
  split
  · split
    · exact only_calls_trans _ _ _ counted (finish_setup_calls ..)
    · split
      · exact finish_setup_calls ..
      · exact only_calls_trans _ _ _ counted (finish_setup_calls ..)
  · split
    · exact only_calls_refl d
    · split
      · exact only_calls_refl d
      · split
        · exact only_calls_refl d
        · split
          · exact setup_udp_track_calls ..
          · exact setup_udp_track_calls ..

theorem handle_setup_kept (w : World) (d : Device) (cli : RtspClient) (req : RtspReq) : Kept d (handleSetup w d cli req).1 := by
  obtain ⟨calls, same⟩ := handle_setup_calls w d cli req
  rw [same]
  exact ⟨rfl, rfl, rfl, rfl⟩

theorem setup_outcome_fields (cli after : RtspClient) (req : RtspReq) (outs : List Out)
    (outcome : SetupOutcome cli req (after, outs)) :
    after.tc = cli.tc ∧ after.peer = cli.peer ∧ after.rbuf = cli.rbuf ∧ after.audioOutOpened = cli.audioOutOpened := by
  rcases outcome with ⟨code, reason, _, same⟩ | ⟨track, transport, done, setup, same⟩
  · rw [(Prod.mk.inj same).1]
    exact ⟨rfl, rfl, rfl, rfl⟩
  · rw [(Prod.mk.inj same).1]
    cases setup <;> exact ⟨rfl, rfl, rfl, rfl⟩

theorem handle_play_kept (w : World) (d : Device) (cli : RtspClient) (req : RtspReq) : Kept d (handlePlay w d cli req).1 := by
  unfold handlePlay
  split
  · exact kept_refl d
  · have started := ensure_media_started_kept w d
    have keyed : Kept d { ensureMediaStarted w d with cam := cameraRequestKeyframe (ensureMediaStarted w d).cam } :=
      ⟨started.clients, started.nextConn, started.auth, started.localIp⟩
    exact kept_trans _ _ _ keyed (kept_trans _ _ _ (open_backchannel_kept w _ _)
      (kept_trans _ _ _ (immediate_video_kept w _ _) (immediate_audio_kept w _ _)))

-- A PLAY that is not refused changes the state, opens the speaker for a backchannel, and counts packets.
theorem handle_play_identity (w : World) (d : Device) (cli : RtspClient) (req : RtspReq) (ready : cli.state ≠ .idle) :
    ∃ opened, (opened = true → cli.audioOutOpened = true ∨ cli.backchannelSetup = true) ∧
      (handlePlay w d cli req).2.1.identity =
        ({ cli with state := .playing, audioOutOpened := opened } : RtspClient).identity := by
  unfold handlePlay
  rw [if_neg ready]
  dsimp only
  generalize hdev : ({ ensureMediaStarted w d with cam := _ } : Device) = started
  refine ⟨(openBackchannel w started { cli with state := .playing }).2.audioOutOpened, ?_, ?_⟩
  · intro opened
    rw [openBackchannel] at opened
    split at opened
    · rename_i talks
      exact Or.inr (by simpa using (Bool.and_eq_true_iff.mp talks).1)
    · exact Or.inl opened
  · rw [immediate_audio_identity, immediate_video_identity]
    unfold openBackchannel
    split
    · rfl
    · rfl

theorem handle_play_fields (w : World) (d : Device) (cli : RtspClient) (req : RtspReq) :
    (handlePlay w d cli req).2.1.tc = cli.tc ∧ (handlePlay w d cli req).2.1.rbuf = cli.rbuf := by
  by_cases ready : cli.state = .idle
  · simp [handlePlay, ready]
  · obtain ⟨opened, _, same⟩ := handle_play_identity w d cli req ready
    have fields := identity_fields _ _ same
    exact ⟨fields.1, fields.2.2.1⟩

theorem handle_describe_kept (w : World) (d : Device) (cli : RtspClient) (req : RtspReq) :
    Kept d (handleDescribe w d cli req).1 := fetch_params_kept w d

theorem auth_check_device (w : World) (d : Device) (req : RtspReq) :
    ∃ auth calls, auth.enabled = d.auth.enabled ∧ (authCheck w d req).1 = { d with auth := auth, calls := calls } := by
  unfold authCheck
  dsimp only
  generalize (if req.authorization = [] then none else some req.authorization) = header
  split
  · exact ⟨rotateNonce w.rand d.calls d.auth, d.calls + nonceLen, rfl, rfl⟩
  · exact ⟨d.auth, d.calls, rfl, rfl⟩

theorem mem_play_backchannel (cli : RtspClient) (channel : UInt8) (data : Bytes) (out : Out)
    (member : out ∈ playBackchannel cli channel data) : ∃ pcmu, out = .played cli.tc pcmu := by
  rw [playBackchannel] at member
  split at member
  · simp only [Option.mem_toList, Option.map_eq_some_iff] at member
    obtain ⟨pcmu, _, same⟩ := member
    exact ⟨pcmu, same.symm⟩
  · exact absurd member List.not_mem_nil

theorem mem_put (d : Device) (cli other : RtspClient) (member : other ∈ (d.put cli).clients) :
    other = cli ∨ other ∈ d.clients ∧ other.tc ≠ cli.tc := by
  obtain ⟨old, present, same⟩ := List.mem_map.mp member
  by_cases hit : old.tc = cli.tc
  · rw [if_pos hit] at same
    exact Or.inl same.symm
  · rw [if_neg hit] at same
    exact Or.inr (same ▸ ⟨present, hit⟩)

theorem mem_free (d : Device) (cli other : RtspClient) (member : other ∈ (d.free cli).clients) :
    other ∈ d.clients ∧ other.tc ≠ cli.tc := by
  simpa [Device.free] using member

theorem maybe_stop_media_clients (d : Device) : (maybeStopMedia d).clients = d.clients := by
  unfold maybeStopMedia
  split <;> rfl

theorem find_client (d : Device) (conn : ConnId) (cli : RtspClient) (found : d.client? conn = some cli) :
    cli ∈ d.clients ∧ cli.tc = conn := by
  refine ⟨List.mem_of_find?_eq_some found, ?_⟩
  simpa using List.find?_some found

end Intercom
