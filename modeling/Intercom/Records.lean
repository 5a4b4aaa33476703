import Mathlib.Data.List.Nodup
import Intercom.Steps

set_option autoImplicit false

/- How the client records evolve. A step leaves a record as it is, apart from the buffer and the packet counters,
   or it is the SETUP or the PLAY of that very connection, or the record is new. -/
namespace Intercom

open ByteText

def RtspClient.shape (cli : RtspClient) : RtspClient := { cli.identity with rbuf := [] }

theorem shape_identity (left right : RtspClient) (same : left.identity = right.identity) : left.shape = right.shape := by
  rw [RtspClient.shape, RtspClient.shape, same]

theorem shape_fields (left right : RtspClient) (same : left.shape = right.shape) :
    left.tc = right.tc ∧ left.peer = right.peer ∧ left.state = right.state ∧ left.interleaved = right.interleaved :=
  ⟨(congrArg RtspClient.tc same :), (congrArg RtspClient.peer same :), (congrArg RtspClient.state same :),
    (congrArg RtspClient.interleaved same :)⟩

theorem shape_video (left right : RtspClient) (same : left.shape = right.shape) :
    left.video.sock = right.video.sock ∧ left.video.dest = right.video.dest ∧
      left.video.interleaved = right.video.interleaved ∧ left.video.setup = right.video.setup :=
  ⟨(congrArg (fun cli => cli.video.sock) same :), (congrArg (fun cli => cli.video.dest) same :),
    (congrArg (fun cli => cli.video.interleaved) same :), (congrArg (fun cli => cli.video.setup) same :)⟩

theorem shape_audio (left right : RtspClient) (same : left.shape = right.shape) :
    left.audio.sock = right.audio.sock ∧ left.audio.dest = right.audio.dest ∧
      left.audio.interleaved = right.audio.interleaved ∧ left.audio.setup = right.audio.setup :=
  ⟨(congrArg (fun cli => cli.audio.sock) same :), (congrArg (fun cli => cli.audio.dest) same :),
    (congrArg (fun cli => cli.audio.interleaved) same :), (congrArg (fun cli => cli.audio.setup) same :)⟩

def Out.setup? (conn : ConnId) : Out → Option (Track × Transport)
  | .reply target { extra := .setup track transport, .. } => if target = conn then some (track, transport) else none
  | _ => none

-- The SETUPs of the connection that were answered with a transport, oldest first.
def setupsFor (conn : ConnId) (outs : List Out) : List (Track × Transport) := outs.filterMap (Out.setup? conn)

theorem setups_append (conn : ConnId) (left right : List Out) :
    setupsFor conn (left ++ right) = setupsFor conn left ++ setupsFor conn right := by
  rw [setupsFor, List.filterMap_append]
  rfl

theorem no_setups (conn : ConnId) (outs : List Out) (none : ∀ out ∈ outs, out.setup? conn = none) : setupsFor conn outs = [] := by
  rw [setupsFor, List.filterMap_eq_nil_iff]
  exact none

theorem reply_no_setup (conn : ConnId) (cli : RtspClient) (cseq : Int) (code : Nat) (reason : String) (extra : Extra) (body : Bytes)
    (plain : extra.isSetup = false) : (rtspReply cli cseq code reason extra body).setup? conn = none := by
  cases extra with
  | setup _ _ => cases plain
  | none => rfl
  | methods => rfl
  | description _ => rfl
  | rtpInfo _ _ _ _ _ _ => rfl
  | challenge _ => rfl

theorem carried_no_setups (conn : ConnId) (cli : RtspClient) (track : RtpTrack) (pt : UInt8) (outs : List Out)
    (carried : Carried cli track pt outs) : ∀ out ∈ outs, out.setup? conn = none := by
  intro out member
  obtain ⟨packet, _, sent⟩ := carried out member
  rcases mem_send_rtp cli track packet out sent with rfl | rfl | rfl <;> rfl

theorem get_frame_no_setups (w : World) (conn : ConnId) (d : Device) : ∀ out ∈ (getFrame w d).2.2, out.setup? conn = none := by
  intro out member
  obtain ⟨nalus, rfl⟩ := mem_get_frame w d out member
  rfl

theorem next_block_no_setups (w : World) (conn : ConnId) (d : Device) : ∀ out ∈ (nextBlock w d).2.2, out.setup? conn = none := by
  intro out member
  obtain ⟨samples, rfl⟩ := mem_next_block w d out member
  rfl

theorem immediate_video_no_setups (w : World) (conn : ConnId) (d : Device) (cli : RtspClient) :
    ∀ out ∈ (immediateVideo w d cli).2.2, out.setup? conn = none := by
  intro out member
  rw [immediateVideo] at member
  split at member
  · exact get_frame_no_setups w conn d out member
  · rcases List.mem_append.mp member with pulled | sent
    · exact get_frame_no_setups w conn d out pulled
    · exact carried_no_setups conn cli _ _ _ (send_frame_carried cli _) out sent

theorem immediate_audio_no_setups (w : World) (conn : ConnId) (d : Device) (cli : RtspClient) :
    ∀ out ∈ (immediateAudio w d cli).2.2, out.setup? conn = none := by
  intro out member
  rw [immediateAudio] at member
  split at member
  · rcases List.mem_append.mp member with block | sent
    · exact next_block_no_setups w conn d out block
    · exact carried_no_setups conn cli _ _ _ (send_audio_carried cli _) out sent
  · exact absurd member List.not_mem_nil

theorem play_no_setups (w : World) (conn : ConnId) (d : Device) (cli : RtspClient) (req : RtspReq) :
    ∀ out ∈ (handlePlay w d cli req).2.2, out.setup? conn = none := by
  intro out member
  by_cases idle : cli.state = .idle
  · rw [handlePlay, if_pos idle] at member
    rw [List.mem_singleton.mp member]
    rfl
  · rw [handlePlay, if_neg idle] at member
    rcases List.mem_cons.mp member with rfl | media
    · rfl
    · rcases List.mem_append.mp media with video | audio
      · exact immediate_video_no_setups w conn _ _ out video
      · exact immediate_audio_no_setups w conn _ _ out audio

theorem describe_no_setups (w : World) (conn : ConnId) (d : Device) (cli : RtspClient) (req : RtspReq) :
    ∀ out ∈ (handleDescribe w d cli req).2, out.setup? conn = none := by
  intro out member
  rcases List.mem_append.mp member with fetched | reply
  · obtain ⟨nalus, rfl⟩ := mem_fetch_params w d out fetched
    rfl
  · rw [List.mem_singleton.mp reply]
    rfl

inductive Evolved (d : Device) (outs : List Out) (after : RtspClient) : Prop where
  | kept (before : RtspClient) (member : before ∈ d.clients) (same : after.shape = before.shape)
      (quiet : setupsFor after.tc outs = [])
  | fresh (peer : Sa) (new : after.shape = ({ tc := d.nextConn, peer := peer } : RtspClient).shape) (quiet : outs = [])
  | setUp (before done : RtspClient) (track : Track) (transport : Transport) (member : before ∈ d.clients)
      (setup : SetupDone before track transport done) (same : after.shape = done.shape)
      (noted : setupsFor after.tc outs = [(track, transport)])
      (answered : ∃ answer, .reply after.tc answer ∈ outs ∧ answer.code = 200 ∧ answer.extra = .setup track transport)
  | played (before : RtspClient) (opened : Bool) (member : before ∈ d.clients) (ready : before.state ≠ .idle)
      (talks : opened = true → before.audioOutOpened = true ∨ before.backchannelSetup = true)
      (same : after.shape = ({ before with state := .playing, audioOutOpened := opened } : RtspClient).shape)
      (quiet : setupsFor after.tc outs = [])

theorem front_no_setups (conn : ConnId) (d : Device) (cli : RtspClient) (text : Bytes) (outs : List Out) :
    setupsFor conn (.request cli.tc text :: (acceptMarks d cli ++ outs)) = setupsFor conn outs := by
  have front : setupsFor conn (.request cli.tc text :: acceptMarks d cli) = [] := by
    apply no_setups
    intro out member
    rcases List.mem_cons.mp member with rfl | mark
    · rfl
    · rw [mem_accept_marks d cli out mark]
      rfl
  rw [← List.cons_append, setups_append, front, List.nil_append]

theorem setup_evolved (w : World) (d : Device) (cli : RtspClient) (text : Bytes) (req : RtspReq) (present : cli ∈ d.clients)
    (after : RtspClient)
    (member : after ∈ ((handleSetup w (admittedDevice w d req) cli req).1.put
      (handleSetup w (admittedDevice w d req) cli req).2.1).clients) :
    Evolved d (.request cli.tc text :: (acceptMarks d cli ++ (handleSetup w (admittedDevice w d req) cli req).2.2)) after := by
  have kept := (handle_setup_kept w (admittedDevice w d req) cli req).clients.trans (admitted_clients w d req)
  have outcome := handle_setup_outcome w (admittedDevice w d req) cli req
  have named := (setup_outcome_fields cli _ req _ outcome).1
  generalize handleSetup w (admittedDevice w d req) cli req = handled at kept outcome named member
  obtain ⟨base, record, outs⟩ := handled
  rcases outcome with ⟨code, reason, _, refused⟩ | ⟨track, transport, done, setup, accepted⟩
  · obtain ⟨rfl, rfl⟩ : record = cli ∧ outs = [rtspReply cli req.cseq code reason .none []] := Prod.mk.inj refused
    have quiet : setupsFor after.tc [rtspReply record req.cseq code reason .none []] = [] := rfl
    rw [← front_no_setups after.tc d record text] at quiet
    rcases mem_put base record after member with rfl | ⟨old, _⟩
    · exact .kept after present rfl quiet
    · exact .kept after (kept ▸ old) rfl quiet
  · obtain ⟨rfl, rfl⟩ : record = done ∧ outs = [rtspReply done req.cseq 200 "OK" (.setup track transport) []] :=
      Prod.mk.inj accepted
    rcases mem_put base record after member with rfl | ⟨old, other⟩
    · have answered := List.mem_cons_of_mem (.request cli.tc text) (List.mem_append_right (acceptMarks d cli)
        (List.mem_singleton_self (rtspReply after req.cseq 200 "OK" (.setup track transport) [])))
      refine .setUp cli after track transport present setup rfl ?_ ⟨_, answered, rfl, rfl⟩
      rw [front_no_setups]
      simp [setupsFor, Out.setup?, rtspReply]
    · refine .kept after (kept ▸ old) rfl ?_
      rw [front_no_setups]
      simp [setupsFor, Out.setup?, rtspReply, Ne.symm other]

theorem play_evolved (w : World) (d : Device) (cli : RtspClient) (text : Bytes) (req : RtspReq) (present : cli ∈ d.clients)
    (after : RtspClient)
    (member : after ∈ ((handlePlay w (admittedDevice w d req) cli req).1.put
      (handlePlay w (admittedDevice w d req) cli req).2.1).clients) :
    Evolved d (.request cli.tc text :: (acceptMarks d cli ++ (handlePlay w (admittedDevice w d req) cli req).2.2)) after := by
  have kept := (handle_play_kept w (admittedDevice w d req) cli req).clients.trans (admitted_clients w d req)
  have quiet : ∀ conn, setupsFor conn (.request cli.tc text :: (acceptMarks d cli ++
      (handlePlay w (admittedDevice w d req) cli req).2.2)) = [] := by
    intro conn
    rw [front_no_setups]
    exact no_setups _ _ (play_no_setups w conn _ cli req)
  rcases mem_put _ _ after member with rfl | ⟨old, _⟩
  · by_cases idle : cli.state = .idle
    · refine .kept cli present ?_ (quiet _)
      simp [handlePlay, idle]
    · obtain ⟨opened, talks, same⟩ := handle_play_identity w (admittedDevice w d req) cli req idle
      exact .played cli opened present idle talks (shape_identity _ _ same) (quiet _)
  · exact .kept after (kept ▸ old) rfl (quiet _)

theorem served_evolved (w : World) (d : Device) (cli : RtspClient) (request : Option RtspReq) (result : Device × List Out)
    (served : Served w d cli request result) (present : cli ∈ d.clients) (after : RtspClient)
    (member : after ∈ result.1.clients) : Evolved d result.2 after := by
  cases served with
  | frame channel data =>
      refine .kept after member rfl (no_setups _ _ ?_)
      intro out sent
      rcases List.mem_cons.mp sent with rfl | played
      · rfl
      · obtain ⟨pcmu, rfl⟩ := mem_play_backchannel cli channel data out played
        rfl
  | denied text cseq => exact .kept after member rfl rfl
  | answered text req code reason extra marks auth calls same fixed marked other =>
      refine .kept after member rfl (no_setups _ _ ?_)
      intro out sent
      rcases List.mem_cons.mp sent with rfl | later
      · rfl
      · rcases List.mem_append.mp later with mark | reply
        · rw [marked out mark]
          rfl
        · rw [List.mem_singleton.mp reply]
          exact reply_no_setup _ cli _ _ _ _ _ (fixed_no_setup extra fixed)
  | described text req method =>
      have same := admitted_clients w d req
      rw [(handle_describe_kept w _ cli req).clients, same] at member
      refine .kept after member rfl ?_
      rw [front_no_setups]
      exact no_setups _ _ (describe_no_setups w _ _ cli req)
  | setUp text req method => exact setup_evolved w d cli text req present after member
  | played text req method => exact play_evolved w d cli text req present after member
  | tornDown text req method =>
      have left := (mem_free _ _ after member)
      rw [maybe_stop_media_clients] at left
      refine .kept after ?_ rfl ?_
      · rcases mem_put _ _ after left.1 with rfl | ⟨old, _⟩
        · exact absurd rfl left.2
        · exact admitted_clients w d req ▸ old
      · rw [front_no_setups]
        rfl

theorem set_rbuf_shape (d : Device) (conn : ConnId) (rest : Bytes) (after : RtspClient)
    (member : after ∈ (d.setRbuf conn rest).clients) : ∃ before ∈ d.clients, after.shape = before.shape := by
  obtain ⟨old, present, same⟩ := List.mem_map.mp member
  refine ⟨old, present, ?_⟩
  rw [← same]
  split <;> rfl

-- A SETUP neither reads nor writes the buffer.
theorem setup_done_rbuf (cli done : RtspClient) (track : Track) (transport : Transport) (rest : Bytes)
    (setup : SetupDone cli track transport done) :
    SetupDone { cli with rbuf := rest } track transport { done with rbuf := rest } := by
  cases setup with
  | tcpVideo id ssrc rtp rtcp kept => exact .tcpVideo id ssrc rtp rtcp kept
  | tcpAudio id ssrc rtp rtcp kept => exact .tcpAudio id ssrc rtp rtcp kept
  | tcpBackchannel id rtp rtcp kept => exact .tcpBackchannel id rtp rtcp kept
  | udpVideo id rtp rtcp port ssrc sock kept owned => exact .udpVideo id rtp rtcp port ssrc sock kept owned
  | udpAudio id rtp rtcp port ssrc sock kept owned => exact .udpAudio id rtp rtcp port ssrc sock kept owned

theorem evolved_buffers (d : Device) (outs : List Out) (middle after : RtspClient) (conn : ConnId)
    (evolved : Evolved (d.setRbuf conn []) outs middle) (same : after.shape = middle.shape) : Evolved d outs after := by
  have named := (shape_fields _ _ same).1
  cases evolved with
  | kept before member shape quiet =>
      obtain ⟨old, present, earlier⟩ := set_rbuf_shape d conn [] before member
      exact .kept old present (same.trans (shape.trans earlier)) (named ▸ quiet)
  | fresh peer new quiet => exact .fresh peer (same.trans new) quiet
  | setUp before done track transport member setup shape noted answered =>
      obtain ⟨old, present, record⟩ := List.mem_map.mp member
      have setup := setup_done_rbuf before done track transport old.rbuf setup
      have restored : { before with rbuf := old.rbuf } = old := by
        rw [← record]
        split <;> rfl
      rw [restored] at setup
      exact .setUp old _ track transport present setup (same.trans shape) (named ▸ noted) (named ▸ answered)
  | played before opened member ready talks shape quiet =>
      obtain ⟨old, present, record⟩ := List.mem_map.mp member
      refine .played old opened present ?_ ?_ (same.trans (shape.trans ?_)) (named ▸ quiet)
      · rw [← record] at ready
        split at ready <;> exact ready
      · rw [← record] at talks
        split at talks <;> exact talks
      · rw [← record]
        split <;> rfl

theorem kept_evolved (d next : Device) (outs : List Out) (same : next.clients = d.clients)
    (quiet : ∀ conn, ∀ out ∈ outs, out.setup? conn = none) (after : RtspClient) (member : after ∈ next.clients) :
    Evolved d outs after :=
  .kept after (same ▸ member) rfl (no_setups _ _ (quiet _))

theorem dropped_evolved (d : Device) (conn : ConnId) (after : RtspClient) (member : after ∈ (dropClient d conn).clients) :
    Evolved d [] after := by
  cases live : d.client? conn with
  | none =>
      simp only [dropClient, live] at member
      exact .kept after member rfl rfl
  | some cli =>
      simp only [dropClient, live] at member
      split at member
      · have left := mem_free _ _ after member
        rw [maybe_stop_media_clients] at left
        rcases mem_put _ _ after left.1 with rfl | ⟨old, _⟩
        · exact absurd rfl left.2
        · exact .kept after old rfl rfl
      · exact .kept after (mem_free d cli after member).1 rfl rfl

theorem appended_evolved (d : Device) (conn : ConnId) (chunk : Bytes) (after : RtspClient)
    (member : after ∈ (appendChunk d conn chunk).clients) : Evolved d [] after := by
  cases live : d.client? conn with
  | none =>
      simp only [appendChunk, live] at member
      exact .kept after member rfl rfl
  | some cli =>
      simp only [appendChunk, live] at member
      split at member
      · exact .kept after (mem_free d cli after member).1 rfl rfl
      · obtain ⟨before, present, same⟩ := set_rbuf_shape d conn _ after member
        exact .kept before present same rfl

theorem sent_evolved (d base : Device) (send : RtspClient → RtspClient × List Out) (outs : List Out)
    (clients : base.clients = d.clients) (kept : ∀ cli, (send cli).1.identity = cli.identity)
    (quiet : ∀ conn, ∀ out ∈ outs, out.setup? conn = none) (after : RtspClient)
    (member : after ∈ (sendToAll send base).1.clients) : Evolved d outs after := by
  obtain ⟨before, present, rfl⟩ := List.mem_map.mp member
  rw [clients] at present
  exact .kept before present (shape_identity _ _ (kept before)) (no_setups _ _ (quiet _))

theorem audio_to_all_no_setups (conn : ConnId) (d : Device) (pcmu : Bytes) :
    ∀ out ∈ (sendToAll (sendAudioTo pcmu) d).2, out.setup? conn = none := by
  intro out member
  obtain ⟨cli, _, sent⟩ := List.mem_flatMap.mp member
  rw [sendAudioTo] at sent
  split at sent
  · exact carried_no_setups conn cli _ _ _ (send_audio_carried cli pcmu) out sent
  · exact absurd sent List.not_mem_nil

theorem frame_to_all_no_setups (conn : ConnId) (d : Device) (nalus : List Bytes) :
    ∀ out ∈ (sendToAll (sendFrameTo nalus) d).2, out.setup? conn = none := by
  intro out member
  obtain ⟨cli, _, sent⟩ := List.mem_flatMap.mp member
  rw [sendFrameTo] at sent
  split at sent
  · exact carried_no_setups conn cli _ _ _ (send_frame_carried cli nalus) out sent
  · exact absurd sent List.not_mem_nil

theorem audio_timer_evolved (w : World) (d : Device) (after : RtspClient) (member : after ∈ (audioSendTimer w d).1.clients) :
    Evolved d (audioSendTimer w d).2 after := by
  rw [audioSendTimer] at member ⊢
  dsimp only at member ⊢
  split at member
  · rename_i playing
    rw [if_pos playing]
    have kept := kept_trans _ _ _ (drain_excess_kept w { d with tmrAudio := true }) (next_block_kept w _)
    have quiet : ∀ conn, ∀ out ∈ (nextBlock w (drainExcess w { d with tmrAudio := true })).2.2 ++
        (sendToAll (sendAudioTo (nextBlock w (drainExcess w { d with tmrAudio := true })).2.1)
          (nextBlock w (drainExcess w { d with tmrAudio := true })).1).2, out.setup? conn = none := by
      intro conn out sent
      rcases List.mem_append.mp sent with block | media
      · exact next_block_no_setups w conn _ out block
      · exact audio_to_all_no_setups conn _ _ out media
    exact sent_evolved d _ _ _ kept.clients (send_audio_to_identity _) quiet after member
  · rename_i silent
    rw [if_neg silent]
    exact .kept after member rfl rfl

theorem video_timer_evolved (w : World) (d : Device) (after : RtspClient) (member : after ∈ (videoSendTimer w d).1.clients) :
    Evolved d (videoSendTimer w d).2 after := by
  have kept := kept_trans _ _ _ (force_keyframe_kept { d with tmrVideo := true }) (get_frame_kept w _)
  have pulled := fun conn => get_frame_no_setups w conn (forceKeyframe { d with tmrVideo := true })
  rw [videoSendTimer] at member ⊢
  dsimp only at member ⊢
  cases playing : hasPlayingClients { d with tmrVideo := true } with
  | false =>
      simp only [playing, Bool.false_eq_true, if_false] at member ⊢
      exact .kept after member rfl rfl
  | true =>
      simp only [playing, if_true] at member ⊢
      cases got : (getFrame w (forceKeyframe { d with tmrVideo := true })).2.1 with
      | none =>
          simp only [got] at member ⊢
          exact kept_evolved d _ _ kept.clients pulled after member
      | some nalus =>
          simp only [got] at member ⊢
          refine sent_evolved d _ _ _ kept.clients (send_frame_to_identity nalus) ?_ after member
          intro conn out sent
          rcases List.mem_append.mp sent with frame | media
          · exact pulled conn out frame
          · exact frame_to_all_no_setups conn _ _ out media

theorem session_timer_no_setups (w : World) (conn : ConnId) (d : Device) :
    ∀ out ∈ (sessionVideoTimer w d).2, out.setup? conn = none := by
  intro out member
  rcases mem_session_timer w d out member with ⟨nalus, rfl⟩ | ⟨dest, packet, rfl⟩
  · rfl
  · rfl

theorem process_evolved (w : World) (d : Device) (conn : ConnId) (after : RtspClient)
    (member : after ∈ (processMessage w d conn).1.clients) : Evolved d (processMessage w d conn).2 after := by
  rcases process_cases w d conn with ⟨idle, _⟩ | ⟨cli, result, rest, found, named, served, same⟩
  · rw [idle] at member ⊢
    exact .kept after member rfl rfl
  · rw [same] at member ⊢
    obtain ⟨middle, present, shape⟩ := set_rbuf_shape result.1 conn rest after member
    have asker : { cli with rbuf := [] } ∈ (d.setRbuf conn []).clients := by
      refine List.mem_map.mpr ⟨cli, (find_client d conn cli found).1, ?_⟩
      rw [if_pos named]
    exact evolved_buffers d _ middle after conn (served_evolved w _ _ _ result served asker middle present) shape

theorem step_evolved (w : World) (d : Device) (action : Action) (after : RtspClient)
    (member : after ∈ (step w d action).1.clients) : Evolved d (step w d action).2 after := by
  have accepted : ∀ peer, after ∈ (accept d peer).clients → Evolved d [] after := by
    intro peer present
    rcases List.mem_append.mp present with old | new
    · exact .kept after old rfl rfl
    · exact .fresh peer (by rw [List.mem_singleton.mp new]) rfl
  cases action with
  | connect peer => exact accepted peer member
  | relayConnect peer => exact accepted peer member
  | receive conn chunk => exact appended_evolved d conn chunk after member
  | process conn => exact process_evolved w d conn after member
  | close conn => exact dropped_evolved d conn after member
  | timeout conn => exact dropped_evolved d conn after member
  | audioTimer =>
      cases armed : d.tmrAudio with
      | true =>
          simp only [step, armed, if_true] at member ⊢
          exact audio_timer_evolved w d after member
      | false =>
          simp only [step, armed, Bool.false_eq_true, if_false] at member ⊢
          exact .kept after member rfl rfl
  | videoTimer =>
      cases armed : d.tmrVideo with
      | true =>
          simp only [step, armed, if_true] at member ⊢
          exact video_timer_evolved w d after member
      | false =>
          simp only [step, armed, Bool.false_eq_true, if_false] at member ⊢
          exact .kept after member rfl rfl
  | callCreate body behind =>
      refine kept_evolved d _ _ (call_create_kept w d body behind).clients ?_ after member
      intro conn out sent
      obtain ⟨code, rfl⟩ := mem_call_create w d body behind out sent
      rfl
  | callDelete =>
      refine kept_evolved d _ _ (end_session_kept d).clients ?_ after member
      intro conn out sent
      rw [List.mem_singleton.mp sent]
      rfl
  | sessionVideoTimer =>
      exact kept_evolved d _ _ (session_timer_kept w d).clients (fun conn => session_timer_no_setups w conn d) after member

def Device.keys (d : Device) : List ConnId := d.clients.map RtspClient.tc

-- No step but an accept adds a record or hands out a connection number.
structure Fewer (before after : Device) : Prop where
  keys : List.Sublist after.keys before.keys
  nextConn : after.nextConn = before.nextConn

theorem fewer_kept (before after : Device) (kept : Kept before after) : Fewer before after := by
  refine ⟨?_, kept.nextConn⟩
  rw [Device.keys, kept.clients]
  exact List.Sublist.refl _

theorem fewer_trans (a b c : Device) (first : Fewer a b) (second : Fewer b c) : Fewer a c :=
  ⟨second.keys.trans first.keys, second.nextConn.trans first.nextConn⟩

theorem fewer_map (d : Device) (change : RtspClient → RtspClient) (named : ∀ cli, (change cli).tc = cli.tc) :
    Fewer d { d with clients := d.clients.map change } := by
  refine ⟨?_, rfl⟩
  have same : (d.clients.map change).map RtspClient.tc = d.clients.map RtspClient.tc := by
    rw [List.map_map]
    exact List.map_congr_left fun cli _ => named cli
  rw [Device.keys, same]
  exact List.Sublist.refl _

theorem fewer_put (d : Device) (cli : RtspClient) : Fewer d (d.put cli) := by
  refine fewer_map d _ ?_
  intro other
  by_cases hit : other.tc = cli.tc
  · rw [if_pos hit, hit]
  · rw [if_neg hit]

theorem fewer_set_rbuf (d : Device) (conn : ConnId) (rest : Bytes) : Fewer d (d.setRbuf conn rest) := by
  refine fewer_map d _ ?_
  intro other
  split <;> rfl

theorem fewer_free (d : Device) (cli : RtspClient) : Fewer d (d.free cli) :=
  ⟨List.Sublist.map _ List.filter_sublist, rfl⟩

theorem fewer_stop (d : Device) : Fewer d (maybeStopMedia d) := by
  rw [maybeStopMedia]
  split
  · exact ⟨List.Sublist.refl _, rfl⟩
  · exact ⟨List.Sublist.refl _, rfl⟩

theorem fewer_sent (d base : Device) (send : RtspClient → RtspClient × List Out) (kept : Kept d base)
    (same : ∀ cli, (send cli).1.identity = cli.identity) : Fewer d (sendToAll send base).1 :=
  fewer_trans _ _ _ (fewer_kept d base kept) (fewer_map base _ fun cli => (identity_fields _ _ (same cli)).1)

theorem fewer_idle (d : Device) (idle cli : RtspClient) : Fewer d ((maybeStopMedia (d.put idle)).free cli) :=
  fewer_trans _ _ _ (fewer_put d idle) (fewer_trans _ _ _ (fewer_stop _) (fewer_free _ cli))

theorem fewer_admitted (w : World) (d : Device) (req : RtspReq) : Fewer d (admittedDevice w d req) := by
  obtain ⟨auth, calls, _, device⟩ := admitted_device w d req
  rw [device]
  exact ⟨List.Sublist.refl _, rfl⟩

theorem served_fewer (w : World) (d : Device) (cli : RtspClient) (request : Option RtspReq) (result : Device × List Out)
    (served : Served w d cli request result) : Fewer d result.1 := by
  cases served with
  | frame _ _ => exact ⟨List.Sublist.refl _, rfl⟩
  | denied _ _ => exact ⟨List.Sublist.refl _, rfl⟩
  | answered _ _ _ _ _ _ _ _ _ _ _ _ => exact ⟨List.Sublist.refl _, rfl⟩
  | described _ req _ =>
      exact fewer_trans _ _ _ (fewer_admitted w d req) (fewer_kept _ _ (handle_describe_kept w _ cli req))
  | setUp _ req _ =>
      exact fewer_trans _ _ _ (fewer_admitted w d req)
        (fewer_trans _ _ _ (fewer_kept _ _ (handle_setup_kept w _ cli req)) (fewer_put _ _))
  | played _ req _ =>
      exact fewer_trans _ _ _ (fewer_admitted w d req)
        (fewer_trans _ _ _ (fewer_kept _ _ (handle_play_kept w _ cli req)) (fewer_put _ _))
  | tornDown _ req _ => exact fewer_trans _ _ _ (fewer_admitted w d req) (fewer_idle _ _ _)

theorem dropped_fewer (d : Device) (conn : ConnId) : Fewer d (dropClient d conn) := by
  rw [dropClient]
  split
  · exact ⟨List.Sublist.refl _, rfl⟩
  · split
    · exact fewer_idle d _ _
    · exact fewer_free d _

theorem audio_timer_fewer (w : World) (d : Device) : Fewer d (audioSendTimer w d).1 := by
  have armed : Kept d { d with tmrAudio := true } := ⟨rfl, rfl, rfl, rfl⟩
  rw [audioSendTimer]
  dsimp only
  split
  · exact fewer_sent d _ _ (kept_trans _ _ _ armed (kept_trans _ _ _ (drain_excess_kept w _) (next_block_kept w _)))
      (send_audio_to_identity _)
  · exact fewer_kept _ _ armed

theorem video_timer_fewer (w : World) (d : Device) : Fewer d (videoSendTimer w d).1 := by
  have armed : Kept d { d with tmrVideo := true } := ⟨rfl, rfl, rfl, rfl⟩
  have pulled := kept_trans _ _ _ armed (kept_trans _ _ _ (force_keyframe_kept _) (get_frame_kept w _))
  rw [videoSendTimer]
  dsimp only
  split
  · split
    · exact fewer_kept _ _ pulled
    · rename_i nalus _
      have sent := fewer_sent d _ _ pulled (send_frame_to_identity nalus)
      exact ⟨sent.keys, sent.nextConn⟩
  · exact fewer_kept _ _ armed

theorem step_fewer (w : World) (d : Device) (action : Action) :
    Fewer d (step w d action).1 ∨ ∃ peer, (step w d action).1 = accept d peer := by
  cases action with
  | connect peer => exact Or.inr ⟨peer, rfl⟩
  | relayConnect peer => exact Or.inr ⟨peer, rfl⟩
  | receive conn chunk =>
      left
      change Fewer d (appendChunk d conn chunk)
      rw [appendChunk]
      split
      · exact ⟨List.Sublist.refl _, rfl⟩
      · split
        · exact fewer_free d _
        · exact fewer_set_rbuf d conn _
  | process conn =>
      left
      change Fewer d (processMessage w d conn).1
      rcases process_cases w d conn with ⟨idle, _⟩ | ⟨cli, result, rest, _, _, served, same⟩
      · rw [idle]
        exact ⟨List.Sublist.refl _, rfl⟩
      · rw [same]
        exact fewer_trans _ _ _ (fewer_set_rbuf d conn []) (fewer_trans _ _ _ (served_fewer w _ _ _ result served)
          (fewer_set_rbuf _ conn rest))
  | close conn => exact Or.inl (dropped_fewer d conn)
  | timeout conn => exact Or.inl (dropped_fewer d conn)
  | audioTimer =>
      left
      cases armed : d.tmrAudio with
      | true => simpa [step, armed] using audio_timer_fewer w d
      | false => simpa [step, armed] using fewer_kept d d (kept_refl d)
  | videoTimer =>
      left
      cases armed : d.tmrVideo with
      | true => simpa [step, armed] using video_timer_fewer w d
      | false => simpa [step, armed] using fewer_kept d d (kept_refl d)
  | callCreate body behind => exact Or.inl (fewer_kept _ _ (call_create_kept w d body behind))
  | callDelete => exact Or.inl (fewer_kept _ _ (end_session_kept d))
  | sessionVideoTimer => exact Or.inl (fewer_kept _ _ (session_timer_kept w d))

theorem next_conn_grows (w : World) (d : Device) (action : Action) : d.nextConn ≤ (step w d action).1.nextConn := by
  rcases step_fewer w d action with fewer | ⟨peer, same⟩
  · exact Nat.le_of_eq fewer.nextConn.symm
  · rw [same]
    exact Nat.le_succ _

-- A track that is set up has a way to the client: the TCP connection or a socket of its own.
structure Sendable (cli : RtspClient) : Prop where
  video : cli.video.setup = true → cli.interleaved = true ∨ cli.video.sock.isSome = true
  audio : cli.audio.setup = true → cli.interleaved = true ∨ cli.audio.sock.isSome = true

structure RecordsKept (d : Device) : Prop where
  unique : d.keys.Nodup
  known : ∀ conn ∈ d.keys, conn < d.nextConn
  sendable : ∀ cli ∈ d.clients, Sendable cli

theorem record_unique (d : Device) (inv : RecordsKept d) (left right : RtspClient) (first : left ∈ d.clients)
    (second : right ∈ d.clients) (same : left.tc = right.tc) : left = right :=
  List.inj_on_of_nodup_map inv.unique first second same

theorem sendable_shape (before after : RtspClient) (same : after.shape = before.shape) (fine : Sendable before) : Sendable after := by
  have video := shape_video _ _ same
  have audio := shape_audio _ _ same
  have mode := (shape_fields _ _ same).2.2.2
  constructor
  · rw [video.2.2.2, video.1, mode]
    exact fine.video
  · rw [audio.2.2.2, audio.1, mode]
    exact fine.audio

theorem sendable_setup (before done : RtspClient) (track : Track) (transport : Transport) (fine : Sendable before)
    (setup : SetupDone before track transport done) : Sendable done := by
  cases setup with
  | tcpVideo _ _ _ _ _ => exact ⟨fun _ => Or.inl rfl, fun _ => Or.inl rfl⟩
  | tcpAudio _ _ _ _ _ => exact ⟨fun _ => Or.inl rfl, fun _ => Or.inl rfl⟩
  | tcpBackchannel _ _ _ _ => exact ⟨fun _ => Or.inl rfl, fun _ => Or.inl rfl⟩
  | udpVideo _ _ _ _ _ _ _ _ => exact ⟨fun _ => Or.inr rfl, fine.audio⟩
  | udpAudio _ _ _ _ _ _ _ _ => exact ⟨fine.video, fun _ => Or.inr rfl⟩

theorem records_set_rbuf (d : Device) (conn : ConnId) (rest : Bytes) (inv : RecordsKept d) : RecordsKept (d.setRbuf conn rest) := by
  have fewer := fewer_set_rbuf d conn rest
  refine ⟨inv.unique.sublist fewer.keys, ?_, ?_⟩
  · intro known member
    exact inv.known known (fewer.keys.mem member)
  · intro after member
    obtain ⟨before, present, same⟩ := set_rbuf_shape d conn rest after member
    exact sendable_shape before after same (inv.sendable before present)

theorem records_admitted (w : World) (d : Device) (req : RtspReq) (inv : RecordsKept d) : RecordsKept (admittedDevice w d req) := by
  obtain ⟨auth, calls, _, device⟩ := admitted_device w d req
  rw [device]
  exact ⟨inv.unique, inv.known, inv.sendable⟩

theorem step_records (w : World) (d : Device) (action : Action) (inv : RecordsKept d) : RecordsKept (step w d action).1 := by
  have sendable : ∀ cli ∈ (step w d action).1.clients, Sendable cli := by
    intro after member
    cases step_evolved w d action after member with
    | kept before present same _ => exact sendable_shape before after same (inv.sendable before present)
    | fresh peer new _ =>
        refine sendable_shape _ after new ⟨?_, ?_⟩
        · exact fun set => absurd set Bool.false_ne_true
        · exact fun set => absurd set Bool.false_ne_true
    | setUp before done track transport present setup same _ _ =>
        exact sendable_shape done after same (sendable_setup before done track transport (inv.sendable before present) setup)
    | played before opened present _ _ same _ =>
        have fine := inv.sendable before present
        exact sendable_shape _ after same ⟨fine.video, fine.audio⟩
  rcases step_fewer w d action with fewer | ⟨peer, same⟩
  · refine ⟨inv.unique.sublist fewer.keys, ?_, sendable⟩
    intro conn member
    rw [fewer.nextConn]
    exact inv.known conn (fewer.keys.mem member)
  · refine ⟨?_, ?_, sendable⟩
    · rw [same]
      have unseen : d.nextConn ∉ d.keys := fun member => Nat.lt_irrefl _ (inv.known _ member)
      simpa [Device.keys, accept, List.nodup_append] using ⟨inv.unique, fun cli member named => unseen
        (List.mem_map.mpr ⟨cli, member, named⟩)⟩
    · rw [same]
      intro conn member
      have cases : conn ∈ d.keys ∨ conn = d.nextConn := by
        simpa [Device.keys, accept] using member
      rcases cases with old | rfl
      · exact Nat.lt_succ_of_lt (inv.known conn old)
      · exact Nat.lt_succ_self _

theorem initial_records (w : World) (localIp username password : Bytes) : RecordsKept (initial w localIp username password) :=
  ⟨List.nodup_nil, fun _ member => absurd member List.not_mem_nil, fun _ member => absurd member List.not_mem_nil⟩

end Intercom
