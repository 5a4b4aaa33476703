import Intercom.Session

set_option autoImplicit false

/- The media timers and the clients they run for. Whoever leaves RTSP_PLAYING has to call maybe_stop_media; a
   buffer overflow and a SETUP do not. -/
namespace Intercom

open ByteText

structure Stopped (d : Device) : Prop where
  video : d.tmrVideo = false
  audio : d.tmrAudio = false
  frames : d.videoFrameCount = 0

instance decidableStopped (d : Device) : Decidable (Stopped d) :=
  decidable_of_iff (d.tmrVideo = false ∧ d.tmrAudio = false ∧ d.videoFrameCount = 0)
    ⟨fun ⟨video, audio, frames⟩ => ⟨video, audio, frames⟩, fun stopped => ⟨stopped.video, stopped.audio, stopped.frames⟩⟩

def MediaRests (d : Device) : Prop := hasPlayingClients d = false → Stopped d

def othersPlay (d : Device) (conn : ConnId) : Bool := d.clients.any fun cli => cli.tc != conn && cli.state == .playing

def lastViewer (d : Device) (conn : ConnId) : Bool := hasPlayingClients d && !othersPlay d conn

-- handle_setup gets through to its tail.
def grantsSetup (w : World) (d : Device) (cli : RtspClient) (req : RtspReq) : Bool :=
  let flags := chooseTrack cli req.uri
  isTcpTransport req.transport ||
    (!flags.isBackchannel && saIsLoopback cli.peer && (parseClientPort req.transport).isSome &&
      ((if flags.isVideo then cli.video.sock else cli.audio.sock).isSome || (w.udpListen d.calls).isSome))

def StopsBehind (w : World) (d : Device) : Action → Prop
  | .receive conn chunk => ∀ cli, d.client? conn = some cli → rbufLimit < (cli.rbuf ++ chunk).length →
      lastViewer d conn = true → Stopped d
  | .process conn => ∀ cli req, d.client? conn = some cli → asked w d conn = some req → req.method = ascii "SETUP" →
      grantsSetup w (admittedDevice w d req) cli req = true → lastViewer d conn = true → Stopped d
  | _ => True

theorem playing_iff (d : Device) : hasPlayingClients d = true ↔ ∃ cli ∈ d.clients, cli.state = .playing := by
  simp [hasPlayingClients]

theorem others_play_iff (d : Device) (conn : ConnId) :
    othersPlay d conn = true ↔ ∃ cli ∈ d.clients, cli.tc ≠ conn ∧ cli.state = .playing := by
  simp [othersPlay]

structure SameMedia (before after : Device) : Prop where
  video : after.tmrVideo = before.tmrVideo
  audio : after.tmrAudio = before.tmrAudio
  frames : after.videoFrameCount = before.videoFrameCount
  playing : hasPlayingClients after = hasPlayingClients before

theorem same_media_refl (d : Device) : SameMedia d d := ⟨rfl, rfl, rfl, rfl⟩

theorem same_media_trans (a b c : Device) (first : SameMedia a b) (second : SameMedia b c) : SameMedia a c :=
  ⟨second.video.trans first.video, second.audio.trans first.audio, second.frames.trans first.frames,
    second.playing.trans first.playing⟩

theorem stopped_same (before after : Device) (same : SameMedia before after) : Stopped after ↔ Stopped before := by
  constructor
  · exact fun stopped => ⟨same.video ▸ stopped.video, same.audio ▸ stopped.audio, same.frames ▸ stopped.frames⟩
  · exact fun stopped => ⟨same.video.trans stopped.video, same.audio.trans stopped.audio, same.frames.trans stopped.frames⟩

theorem rests_same (before after : Device) (same : SameMedia before after) : MediaRests after ↔ MediaRests before := by
  rw [MediaRests, MediaRests, same.playing, stopped_same before after same]

theorem playing_clients (before after : Device) (same : after.clients = before.clients) :
    hasPlayingClients after = hasPlayingClients before := by
  rw [hasPlayingClients, hasPlayingClients, same]

theorem playing_map (d : Device) (change : RtspClient → RtspClient) (kept : ∀ cli, (change cli).state = cli.state) :
    hasPlayingClients { d with clients := d.clients.map change } = hasPlayingClients d := by
  rw [hasPlayingClients, hasPlayingClients, List.any_map]
  exact congrArg (fun test => d.clients.any test) (funext fun cli => congrArg (· == RtspState.playing) (kept cli))

theorem set_rbuf_media (d : Device) (conn : ConnId) (rest : Bytes) : SameMedia d (d.setRbuf conn rest) := by
  refine ⟨rfl, rfl, rfl, playing_map d _ ?_⟩
  intro cli
  split <;> rfl

theorem playing_free (d : Device) (cli : RtspClient) : hasPlayingClients (d.free cli) = othersPlay d cli.tc := by
  rw [hasPlayingClients, othersPlay, Device.free]
  exact List.any_filter

theorem others_put (d : Device) (cli : RtspClient) : othersPlay (d.put cli) cli.tc = othersPlay d cli.tc := by
  rw [Bool.eq_iff_iff, others_play_iff, others_play_iff]
  constructor
  · rintro ⟨other, member, away, playing⟩
    rcases mem_put d cli other member with rfl | ⟨old, _⟩
    · exact absurd rfl away
    · exact ⟨other, old, away, playing⟩
  · rintro ⟨other, member, away, playing⟩
    refine ⟨other, List.mem_map.mpr ⟨other, member, if_neg away⟩, away, playing⟩

-- A record that does not play leaves only the others to look at.
theorem playing_put_silent (d : Device) (cli : RtspClient) (silent : cli.state ≠ .playing) :
    hasPlayingClients (d.put cli) = othersPlay d cli.tc := by
  rw [Bool.eq_iff_iff, ← others_put, playing_iff, others_play_iff]
  constructor
  · rintro ⟨other, member, playing⟩
    refine ⟨other, member, ?_, playing⟩
    intro hit
    rcases mem_put d cli other member with rfl | ⟨_, away⟩
    · exact silent playing
    · exact away hit
  · rintro ⟨other, member, _, playing⟩
    exact ⟨other, member, playing⟩

theorem playing_put (d : Device) (cli : RtspClient) (playing : cli.state = .playing)
    (present : ∃ old ∈ d.clients, old.tc = cli.tc) : hasPlayingClients (d.put cli) = true := by
  obtain ⟨old, member, named⟩ := present
  rw [playing_iff]
  exact ⟨cli, List.mem_map.mpr ⟨old, member, if_pos named⟩, playing⟩

-- While media rest with everybody idle, the last viewer leaving is the only way for them not to.
theorem rests_leaving_iff (d after : Device) (conn : ConnId) (rests : MediaRests d)
    (stopped : Stopped after ↔ Stopped d) (playing : hasPlayingClients after = othersPlay d conn) :
    MediaRests after ↔ (lastViewer d conn = true → Stopped d) := by
  rw [MediaRests, stopped, playing, lastViewer]
  cases others : othersPlay d conn with
  | true => simp
  | false =>
      cases viewed : hasPlayingClients d with
      | true => simp
      | false => simpa using rests viewed

theorem others_clients (before after : Device) (same : after.clients = before.clients) (conn : ConnId) :
    othersPlay after conn = othersPlay before conn := by
  rw [othersPlay, othersPlay, same]

theorem rests_stopping (d : Device) (idle cli : RtspClient) (silent : idle.state ≠ .playing) (named : idle.tc = cli.tc) :
    MediaRests ((maybeStopMedia (d.put idle)).free cli) := by
  intro quiet
  rw [playing_free, others_clients (d.put idle) _ (maybe_stop_media_clients _), ← named, others_put] at quiet
  have still : hasPlayingClients (d.put idle) = false := (playing_put_silent d idle silent).trans quiet
  rw [maybeStopMedia, if_neg (by simp [still])]
  exact ⟨rfl, rfl, rfl⟩

theorem drop_rests (d : Device) (inv : RecordsKept d) (conn : ConnId) (rests : MediaRests d) : MediaRests (dropClient d conn) := by
  cases live : d.client? conn with
  | none => simpa [dropClient, live] using rests
  | some cli =>
      by_cases playing : cli.state = .playing
      · simp only [dropClient, live, if_pos playing]
        exact rests_stopping d { cli with state := .idle } cli RtspState.noConfusion rfl
      · have same : SameMedia d (d.free cli) := by
          refine ⟨rfl, rfl, rfl, ?_⟩
          have member := (find_client d conn cli live).1
          rw [playing_free, ← playing_put_silent d cli playing, put_same d inv cli member]
        simp only [dropClient, live, if_neg playing]
        exact (rests_same d _ same).mpr rests

theorem append_chunk_rests_iff (d : Device) (conn : ConnId) (chunk : Bytes) (rests : MediaRests d) :
    MediaRests (appendChunk d conn chunk) ↔
      ∀ cli, d.client? conn = some cli → rbufLimit < (cli.rbuf ++ chunk).length → lastViewer d conn = true → Stopped d := by
  cases live : d.client? conn with
  | none => simpa [appendChunk, live] using rests
  | some cli =>
      by_cases overflows : rbufLimit < (cli.rbuf ++ chunk).length
      · have named := (find_client d conn cli live).2
        have left := rests_leaving_iff d (d.free cli) conn rests ⟨fun stopped => ⟨stopped.video, stopped.audio, stopped.frames⟩,
          fun stopped => ⟨stopped.video, stopped.audio, stopped.frames⟩⟩ (by rw [playing_free, named])
        simpa [appendChunk, live, overflows, -List.length_append] using left
      · have fits := (rests_same d _ (set_rbuf_media d conn (cli.rbuf ++ chunk))).mpr rests
        simpa [appendChunk, live, overflows, -List.length_append] using fits

theorem finish_setup_ready (w : World) (d : Device) (cli : RtspClient) (req : RtspReq) (track : Track) (transport : Transport) :
    (finishSetup w d cli req track transport).2.1.state = .ready := by
  rw [finishSetup]
  cases cli.sessionId with
  | none => rfl
  | some _ => rfl

theorem setup_tcp_ready (w : World) (d : Device) (cli : RtspClient) (req : RtspReq) (flags : TrackFlags) :
    (setupTcp w d cli req flags).2.1.state = .ready := by
  rw [setupTcp]
  dsimp only
  split
  · exact finish_setup_ready w _ _ req _ _
  · split
    · exact finish_setup_ready w _ _ req _ _
    · exact finish_setup_ready w _ _ req _ _

-- A track whose socket is there, or comes, is set up; otherwise the record goes back as it came.
theorem setup_udp_track_state (w : World) (d : Device) (cli : RtspClient) (req : RtspReq) (track : Track) (old : RtpTrack)
    (write : RtpTrack → RtspClient) (ports : UInt16 × UInt16) :
    ((old.sock.isSome || (w.udpListen d.calls).isSome) = true →
      (setupUdpTrack w d cli req track old write ports).2.1.state = .ready) ∧
    ((old.sock.isSome || (w.udpListen d.calls).isSome) = false →
      (setupUdpTrack w d cli req track old write ports).2.1 = cli) := by
  rw [setupUdpTrack, allocRtpSocket]
  cases owned : old.sock with
  | some sock => exact ⟨fun _ => finish_setup_ready w _ _ req _ _, fun none => by simp at none⟩
  | none =>
      cases answer : w.udpListen d.calls with
      | none => exact ⟨fun some => by simp at some, fun _ => rfl⟩
      | some port => exact ⟨fun _ => finish_setup_ready w _ _ req _ _, fun none => by simp at none⟩

theorem handle_setup_state (w : World) (d : Device) (cli : RtspClient) (req : RtspReq) :
    (grantsSetup w d cli req = true → (handleSetup w d cli req).2.1.state = .ready) ∧
    (grantsSetup w d cli req = false → (handleSetup w d cli req).2.1 = cli) := by
  rw [grantsSetup, handleSetup]
  cases tcp : isTcpTransport req.transport with
  | true => exact ⟨fun _ => setup_tcp_ready w d cli req _, fun none => by simp at none⟩
  | false =>
      rw [if_neg Bool.false_ne_true, setupUdp, Bool.false_or]
      cases talk : (chooseTrack cli req.uri).isBackchannel with
      | true => exact ⟨fun some => by simp at some, fun _ => rfl⟩
      | false =>
          cases near : saIsLoopback cli.peer with
          | false => exact ⟨fun some => by simp at some, fun _ => rfl⟩
          | true =>
              cases ports : parseClientPort req.transport with
              | none => exact ⟨fun some => by simp at some, fun _ => rfl⟩
              | some pair =>
                  cases video : (chooseTrack cli req.uri).isVideo with
                  | true => simpa using setup_udp_track_state w d cli req .video cli.video (fun track => { cli with video := track }) pair
                  | false => simpa using setup_udp_track_state w d cli req .audio cli.audio (fun track => { cli with audio := track }) pair

theorem admitted_calls (w : World) (d : Device) (conn : ConnId) (rest : Bytes) (req : RtspReq) :
    (admittedDevice w (d.setRbuf conn rest) req).calls = (admittedDevice w d req).calls := by
  by_cases enabled : d.auth.enabled = true
  · by_cases passes : rtspAuthCheck w.md5 d.auth req.method req.uri
        (if req.authorization = [] then none else some req.authorization) = true
    · simp [admittedDevice, authCheck, Device.setRbuf, enabled, passes]
    · simp [admittedDevice, authCheck, Device.setRbuf, enabled, passes]
  · simp [admittedDevice, Device.setRbuf, enabled]

theorem others_set_rbuf (d : Device) (conn target : ConnId) (rest : Bytes) :
    othersPlay (d.setRbuf target rest) conn = othersPlay d conn := by
  rw [othersPlay, othersPlay, Device.setRbuf, List.any_map]
  refine congrArg (fun test => d.clients.any test) (funext fun cli => ?_)
  dsimp only [Function.comp]
  split <;> rfl

theorem admitted_media (w : World) (d : Device) (req : RtspReq) : SameMedia d (admittedDevice w d req) := by
  obtain ⟨auth, calls, _, device⟩ := admitted_device w d req
  rw [device]
  exact ⟨rfl, rfl, rfl, rfl⟩

theorem calls_media (before after : Device) (drawn : OnlyCalls before after) : SameMedia before after := by
  obtain ⟨calls, rfl⟩ := drawn
  exact ⟨rfl, rfl, rfl, rfl⟩

theorem fetch_params_media (w : World) (d : Device) : SameMedia d (fetchParams w d).1 := by
  rw [fetchParams]
  split
  · exact same_media_refl d
  · dsimp only
    split
    · exact ⟨rfl, rfl, rfl, rfl⟩
    · exact ⟨rfl, rfl, rfl, rfl⟩

-- A PLAY that gets through leaves a client playing; one that does not leaves everything as it was.
theorem play_rests (w : World) (d : Device) (inv : RecordsKept d) (cli : RtspClient) (present : cli ∈ d.clients) (req : RtspReq)
    (rests : MediaRests d) : MediaRests ((handlePlay w d cli req).1.put (handlePlay w d cli req).2.1) := by
  by_cases idle : cli.state = .idle
  · rw [handlePlay, if_pos idle]
    dsimp only
    rw [put_same d inv cli present]
    exact rests
  · obtain ⟨opened, _, same⟩ := handle_play_identity w d cli req idle
    have fields := identity_fields _ _ same
    have kept := (handle_play_kept w d cli req).clients
    have playing := playing_put (handlePlay w d cli req).1 (handlePlay w d cli req).2.1 fields.2.2.2.1
      ⟨cli, kept ▸ present, fields.1.symm⟩
    intro silent
    rw [playing] at silent
    exact absurd silent.symm Bool.false_ne_true

theorem setup_rests_iff (w : World) (d : Device) (inv : RecordsKept d) (cli : RtspClient) (present : cli ∈ d.clients)
    (req : RtspReq) (rests : MediaRests d) :
    MediaRests ((handleSetup w d cli req).1.put (handleSetup w d cli req).2.1) ↔
      (grantsSetup w d cli req = true → lastViewer d cli.tc = true → Stopped d) := by
  have media := calls_media d _ (handle_setup_calls w d cli req)
  have clients := (handle_setup_kept w d cli req).clients
  have named := (setup_outcome_fields cli _ req _ (handle_setup_outcome w d cli req)).1
  have state := handle_setup_state w d cli req
  generalize handleSetup w d cli req = handled at media clients named state ⊢
  obtain ⟨after, record, outs⟩ := handled
  dsimp only at media clients named state ⊢
  cases granted : grantsSetup w d cli req with
  | true =>
      have ready : record.state ≠ .playing := by
        rw [state.1 granted]
        exact RtspState.noConfusion
      have playing : hasPlayingClients (after.put record) = othersPlay d cli.tc := by
        rw [playing_put_silent after record ready, named, others_clients d after clients]
      have stopped : Stopped (after.put record) ↔ Stopped d := by
        rw [← stopped_same d after media]
        exact ⟨fun done => ⟨done.video, done.audio, done.frames⟩, fun done => ⟨done.video, done.audio, done.frames⟩⟩
      simpa using rests_leaving_iff d (after.put record) cli.tc rests stopped playing
  | false =>
      have untouched : SameMedia d (after.put record) := by
        refine ⟨media.video, media.audio, media.frames, ?_⟩
        have same : (after.put record).clients = (d.put cli).clients := by
          simp only [Device.put, state.2 granted, clients]
        rw [playing_clients _ _ same, put_same d inv cli present]
      simpa using (rests_same d _ untouched).mpr rests

theorem served_rests_iff (w : World) (d : Device) (inv : RecordsKept d) (cli : RtspClient) (request : Option RtspReq)
    (result : Device × List Out) (served : Served w d cli request result) (present : cli ∈ d.clients) (rests : MediaRests d) :
    MediaRests result.1 ↔ ∀ req, request = some req → req.method = ascii "SETUP" →
      grantsSetup w (admittedDevice w d req) cli req = true → lastViewer d cli.tc = true → Stopped d := by
  have always : ∀ after : Device, MediaRests after → (∀ req, request = some req → req.method ≠ ascii "SETUP") →
      (MediaRests after ↔ ∀ req, request = some req → req.method = ascii "SETUP" →
        grantsSetup w (admittedDevice w d req) cli req = true → lastViewer d cli.tc = true → Stopped d) :=
    fun after fine other => ⟨fun _ req same setup => absurd setup (other req same), fun _ => fine⟩
  cases served with
  | frame _ _ => exact always d rests fun _ same => by cases same
  | denied _ _ => exact always d rests fun _ same => by cases same
  | answered _ asked _ _ _ _ auth calls _ _ _ other =>
      refine always _ ((rests_same d { d with auth := auth, calls := calls } ⟨rfl, rfl, rfl, rfl⟩).mpr rests) ?_
      rintro req same setup
      cases same
      exact other (by rw [setup]; decide)
  | described _ asked method =>
      have same := same_media_trans _ _ _ (admitted_media w d asked) (fetch_params_media w _)
      refine always _ ((rests_same d _ same).mpr rests) ?_
      rintro req same
      cases same
      rw [method]
      decide
  | setUp _ asked method =>
      have media := admitted_media w d asked
      have clients := admitted_clients w d asked
      have decided := setup_rests_iff w (admittedDevice w d asked) (records_admitted w d asked inv) cli (clients ▸ present) asked
        ((rests_same d _ media).mpr rests)
      have viewer : lastViewer (admittedDevice w d asked) cli.tc = lastViewer d cli.tc := by
        rw [lastViewer, lastViewer, media.playing, others_clients d _ clients]
      rw [viewer, stopped_same d _ media] at decided
      refine decided.trans ⟨?_, ?_⟩
      · rintro stops req same _
        cases same
        exact stops
      · exact fun stops => stops asked rfl method
  | played _ asked method =>
      have media := admitted_media w d asked
      have clients := admitted_clients w d asked
      refine always _ (play_rests w _ (records_admitted w d asked inv) cli (clients ▸ present) asked
        ((rests_same d _ media).mpr rests)) ?_
      rintro req same
      cases same
      rw [method]
      decide
  | tornDown _ asked method =>
      refine always _ (rests_stopping (admittedDevice w d asked) { cli with state := .idle } { cli with state := .idle }
        RtspState.noConfusion rfl) ?_
      rintro req same
      cases same
      rw [method]
      decide

theorem process_rests_iff (w : World) (d : Device) (inv : RecordsKept d) (conn : ConnId) (rests : MediaRests d) :
    MediaRests (processMessage w d conn).1 ↔ ∀ cli req, d.client? conn = some cli → asked w d conn = some req →
      req.method = ascii "SETUP" → grantsSetup w (admittedDevice w d req) cli req = true → lastViewer d conn = true → Stopped d := by
  rcases process_cases w d conn with ⟨idle, nothing⟩ | ⟨cli, result, rest, found, named, served, same⟩
  · rw [idle, nothing]
    exact ⟨fun _ _ _ _ none => absurd none (by simp), fun _ => rests⟩
  · have media := set_rbuf_media d conn []
    have present : { cli with rbuf := [] } ∈ (d.setRbuf conn []).clients := by
      refine List.mem_map.mpr ⟨cli, (find_client d conn cli found).1, ?_⟩
      rw [if_pos named]
    have decided := served_rests_iff w _ (records_set_rbuf d conn [] inv) _ _ result served present ((rests_same d _ media).mpr rests)
    have viewer : lastViewer (d.setRbuf conn []) conn = lastViewer d conn := by
      rw [lastViewer, lastViewer, media.playing, others_set_rbuf]
    have grants : ∀ req, grantsSetup w (admittedDevice w (d.setRbuf conn []) req) { cli with rbuf := [] } req =
        grantsSetup w (admittedDevice w d req) cli req := by
      intro req
      rw [grantsSetup, grantsSetup, admitted_calls]
      rfl
    rw [same, rests_same result.1 _ (set_rbuf_media result.1 conn rest), decided]
    have asker : ({ cli with rbuf := [] } : RtspClient).tc = conn := named
    rw [asker, viewer, stopped_same d _ media]
    constructor
    · intro stops other req known request setup granted
      rw [found] at known
      cases known
      exact stops req request setup ((grants req).trans granted)
    · exact fun stops req request setup granted => stops cli req found request setup ((grants req).symm.trans granted)

theorem end_session_media (d : Device) : SameMedia d (endSession d) := by
  rw [endSession]
  split
  · exact same_media_refl d
  · exact ⟨rfl, rfl, rfl, rfl⟩

theorem session_alloc_media (w : World) (d : Device) (peer : Sa) : SameMedia d (sessionAlloc w d peer).1 := by
  rw [sessionAlloc]
  dsimp only
  split
  · split
    · exact ⟨rfl, rfl, rfl, rfl⟩
    · exact ⟨rfl, rfl, rfl, rfl⟩
  · exact ⟨rfl, rfl, rfl, rfl⟩

theorem call_create_media (w : World) (d : Device) (body behind : Bytes) : SameMedia d (handleCallCreate w d body behind).1 := by
  rw [handleCallCreate]
  split
  · exact end_session_media d
  · exact same_media_trans _ _ _ (end_session_media d) (session_alloc_media w _ _)

theorem session_timer_media (w : World) (d : Device) : SameMedia d (sessionVideoTimer w d).1 := by
  rw [sessionVideoTimer]
  split
  · exact same_media_refl d
  · split
    · dsimp only
      split
      · exact ⟨rfl, rfl, rfl, rfl⟩
      · exact ⟨rfl, rfl, rfl, rfl⟩
    · exact same_media_refl d

-- A timer that fires finds somebody playing, and sending to everybody leaves them playing.
theorem audio_timer_rests (w : World) (d : Device) (playing : hasPlayingClients d = true) : MediaRests (audioSendTimer w d).1 := by
  have kept := kept_trans _ _ _ (drain_excess_kept w { d with tmrAudio := true }) (next_block_kept w _)
  have armed : hasPlayingClients { d with tmrAudio := true } = true := playing
  have still : hasPlayingClients (audioSendTimer w d).1 = true := by
    simp only [audioSendTimer, armed, if_true]
    rw [sendToAll, playing_map _ _ fun cli => (identity_fields _ _ (send_audio_to_identity _ cli)).2.2.2.1,
      playing_clients _ _ kept.clients]
    exact playing
  intro silent
  rw [still] at silent
  exact absurd silent.symm Bool.false_ne_true

theorem video_timer_rests (w : World) (d : Device) (playing : hasPlayingClients d = true) : MediaRests (videoSendTimer w d).1 := by
  have kept := kept_trans _ _ _ (force_keyframe_kept { d with tmrVideo := true }) (get_frame_kept w _)
  have armed : hasPlayingClients { d with tmrVideo := true } = true := playing
  have still : hasPlayingClients (videoSendTimer w d).1 = true := by
    simp only [videoSendTimer, armed, if_true]
    split
    · rw [playing_clients _ _ kept.clients]
      exact playing
    · rename_i nalus _
      have sent := playing_map (getFrame w (forceKeyframe { d with tmrVideo := true })).1 (fun cli => (sendFrameTo nalus cli).1)
        fun cli => (identity_fields _ _ (send_frame_to_identity nalus cli)).2.2.2.1
      rw [playing_clients _ _ kept.clients] at sent
      exact sent.trans playing
  intro silent
  rw [still] at silent
  exact absurd silent.symm Bool.false_ne_true

theorem armed_playing (d : Device) (rests : MediaRests d) (armed : d.tmrVideo = true ∨ d.tmrAudio = true) :
    hasPlayingClients d = true := by
  cases playing : hasPlayingClients d with
  | true => rfl
  | false =>
      have stopped := rests playing
      rw [stopped.video, stopped.audio] at armed
      simp at armed

theorem step_rests_iff (w : World) (d : Device) (action : Action) (inv : RecordsKept d) (rests : MediaRests d) :
    MediaRests (step w d action).1 ↔ StopsBehind w d action := by
  have accepted : ∀ peer, MediaRests (accept d peer) := by
    intro peer
    refine (rests_same d (accept d peer) ⟨rfl, rfl, rfl, ?_⟩).mpr rests
    simp [hasPlayingClients, accept]
  cases action with
  | connect peer => exact iff_of_true (accepted peer) trivial
  | relayConnect peer => exact iff_of_true (accepted peer) trivial
  | receive conn chunk => exact append_chunk_rests_iff d conn chunk rests
  | process conn => exact process_rests_iff w d inv conn rests
  | close conn => exact iff_of_true (drop_rests d inv conn rests) trivial
  | timeout conn => exact iff_of_true (drop_rests d inv conn rests) trivial
  | audioTimer =>
      refine iff_of_true ?_ trivial
      cases armed : d.tmrAudio with
      | true => simpa [step, armed] using audio_timer_rests w d (armed_playing d rests (Or.inr armed))
      | false => simpa [step, armed] using rests
  | videoTimer =>
      refine iff_of_true ?_ trivial
      cases armed : d.tmrVideo with
      | true => simpa [step, armed] using video_timer_rests w d (armed_playing d rests (Or.inl armed))
      | false => simpa [step, armed] using rests
  | callCreate body behind => exact iff_of_true ((rests_same d _ (call_create_media w d body behind)).mpr rests) trivial
  | callDelete => exact iff_of_true ((rests_same d _ (end_session_media d)).mpr rests) trivial
  | sessionVideoTimer => exact iff_of_true ((rests_same d _ (session_timer_media w d)).mpr rests) trivial

theorem media_rests_iff_stops_behind (w : World) (localIp username password : Bytes) (actions : List Action) :
    Runs.EachState (deviceStep w) MediaRests (initial w localIp username password) actions ↔
      Runs.EachStep (deviceStep w) (StopsBehind w) (initial w localIp username password) actions :=
  Runs.each_state_iff_steps (deviceStep w) MediaRests RecordsKept (StopsBehind w) _ actions
    (fun d action inv => step_records w d action inv) (fun d action inv rests => step_rests_iff w d action inv rests)
    (initial_records w localIp username password) fun _ => ⟨rfl, rfl, rfl⟩

def videoSetupText : Bytes := ascii "SETUP rtsp://h/trackID=0 RTSP/1.0\r\nCSeq: 1\r\nTransport: RTP/AVP/TCP\r\n\r\n"

def startText : Bytes := ascii "PLAY rtsp://h/ RTSP/1.0\r\nCSeq: 2\r\n\r\n"

-- The only viewer sends another SETUP: it is READY again and both timers go on.
theorem second_setup_keeps_timers :
    ¬ Runs.EachState (deviceStep sampleWorld) MediaRests (initial sampleWorld [] [] [])
      [.connect ⟨1, 1⟩, .receive 0 videoSetupText, .process 0, .receive 0 startText, .process 0, .receive 0 videoSetupText,
        .process 0] := by
  intro every
  have last := Runs.each_state_last (deviceStep sampleWorld) MediaRests _ _ every
  exact absurd (last (by decide +kernel)) (by decide +kernel)

end Intercom
