import Intercom.Steps

set_option autoImplicit false

/- The authentication gate. A connection without an accepted request keeps a blank record, and a blank record
   is given no media, no description and no way to the speaker. -/
namespace Intercom

open ByteText

structure Blank (cli : RtspClient) : Prop where
  state : cli.state = .idle
  session : cli.sessionId = none
  video : cli.video.setup = false
  audio : cli.audio.setup = false
  backchannel : cli.backchannelSetup = false
  speaker : cli.audioOutOpened = false

def BlankAt (conn : ConnId) (d : Device) : Prop := ∀ cli ∈ d.clients, cli.tc = conn → Blank cli

-- An RTP packet, a description, or a payload played for the connection.
def Out.serves (conn : ConnId) : Out → Bool
  | .interleaved target _ _ => target == conn
  | .datagram target _ _ => target == conn
  | .played source _ => source == conn
  | .reply target answer => target == conn && answer.body != []
  | _ => false

def Silent (conn : ConnId) (outs : List Out) : Prop := ∀ out ∈ outs, out.serves conn = false

theorem silent_append (conn : ConnId) (left right : List Out) (first : Silent conn left) (second : Silent conn right) :
    Silent conn (left ++ right) := by
  intro out member
  rcases List.mem_append.mp member with early | late
  · exact first out early
  · exact second out late

theorem silent_cons (conn : ConnId) (out : Out) (rest : List Out) (first : out.serves conn = false) (later : Silent conn rest) :
    Silent conn (out :: rest) :=
  silent_append conn [out] rest (by simpa [Silent] using first) later

theorem silent_reply (conn : ConnId) (cli : RtspClient) (cseq : Int) (code : Nat) (reason : String) (extra : Extra) :
    Silent conn [rtspReply cli cseq code reason extra []] := by
  simp [Silent, rtspReply, Out.serves]

theorem silent_other_reply (conn : ConnId) (cli : RtspClient) (cseq : Int) (code : Nat) (reason : String) (extra : Extra)
    (body : Bytes) (other : cli.tc ≠ conn) : Silent conn [rtspReply cli cseq code reason extra body] := by
  simp [Silent, rtspReply, Out.serves, other]

theorem send_rtp_silent (conn : ConnId) (cli : RtspClient) (track : RtpTrack) (packet : RtpPacket) (other : cli.tc ≠ conn) :
    Silent conn (sendRtp cli track packet) := by
  intro out member
  rcases mem_send_rtp cli track packet out member with rfl | rfl | rfl
  · simp [Out.serves, other]
  · simp [Out.serves, other]
  · rfl

theorem carried_silent (conn : ConnId) (cli : RtspClient) (track : RtpTrack) (pt : UInt8) (outs : List Out)
    (carried : Carried cli track pt outs) (other : cli.tc ≠ conn) : Silent conn outs := by
  intro out member
  obtain ⟨packet, _, sent⟩ := carried out member
  exact send_rtp_silent conn cli track packet other out sent

theorem send_frame_silent (conn : ConnId) (cli : RtspClient) (nalus : List Bytes) (other : cli.tc ≠ conn) :
    Silent conn (sendFrame cli nalus).2 := carried_silent conn cli _ _ _ (send_frame_carried cli nalus) other

theorem send_audio_silent (conn : ConnId) (cli : RtspClient) (pcmu : Bytes) (other : cli.tc ≠ conn) :
    Silent conn (sendAudioBlock cli pcmu).2 := carried_silent conn cli _ _ _ (send_audio_carried cli pcmu) other

theorem get_frame_silent (w : World) (conn : ConnId) (d : Device) : Silent conn (getFrame w d).2.2 := by
  intro out member
  obtain ⟨nalus, rfl⟩ := mem_get_frame w d out member
  rfl

theorem next_block_silent (w : World) (conn : ConnId) (d : Device) : Silent conn (nextBlock w d).2.2 := by
  intro out member
  obtain ⟨samples, rfl⟩ := mem_next_block w d out member
  rfl

theorem play_silent (w : World) (conn : ConnId) (d : Device) (cli : RtspClient) (req : RtspReq) (other : cli.tc ≠ conn) :
    Silent conn (handlePlay w d cli req).2.2 := by
  unfold handlePlay
  split
  · exact silent_reply conn cli _ _ _ _
  · dsimp only
    generalize hdev : ({ ensureMediaStarted w d with cam := _ } : Device) = started
    have talking : (openBackchannel w started { cli with state := .playing }).2.tc = cli.tc := by
      unfold openBackchannel
      split <;> rfl
    generalize openBackchannel w started { cli with state := .playing } = talk at talking
    have video : Silent conn (immediateVideo w talk.1 talk.2).2.2 := by
      unfold immediateVideo
      dsimp only
      split
      · exact get_frame_silent w conn talk.1
      · exact silent_append conn _ _ (get_frame_silent w conn talk.1) (send_frame_silent conn _ _ (talking ▸ other))
    have named := (identity_fields _ _ (immediate_video_identity w talk.1 talk.2)).1
    have audio : Silent conn (immediateAudio w (immediateVideo w talk.1 talk.2).1 (immediateVideo w talk.1 talk.2).2.1).2.2 := by
      unfold immediateAudio
      split
      · refine silent_append conn _ _ (next_block_silent w conn _) (send_audio_silent conn _ _ ?_)
        rw [named, talking]
        exact other
      · simp [Silent]
    refine silent_cons conn _ _ ?_ (silent_append conn _ _ video audio)
    simp [rtspReply, Out.serves]

theorem fetch_params_silent (w : World) (conn : ConnId) (d : Device) : Silent conn (fetchParams w d).2 := by
  intro out member
  obtain ⟨nalus, rfl⟩ := mem_fetch_params w d out member
  rfl

theorem blank_kept (conn : ConnId) (before after : Device) (kept : after.clients = before.clients) (blank : BlankAt conn before) :
    BlankAt conn after := by
  unfold BlankAt
  rw [kept]
  exact blank

theorem blank_put (conn : ConnId) (d : Device) (cli : RtspClient) (blank : BlankAt conn d) (other : cli.tc ≠ conn) :
    BlankAt conn (d.put cli) := by
  intro record member named
  rcases mem_put d cli record member with rfl | ⟨old, _⟩
  · exact absurd named other
  · exact blank record old named

theorem blank_free (conn : ConnId) (d : Device) (cli : RtspClient) (blank : BlankAt conn d) : BlankAt conn (d.free cli) :=
  fun record member named => blank record (mem_free d cli record member).1 named

theorem blank_set_rbuf (conn target : ConnId) (d : Device) (rest : Bytes) (blank : BlankAt conn d) :
    BlankAt conn (d.setRbuf target rest) := by
  intro record member named
  obtain ⟨old, present, same⟩ := List.mem_map.mp member
  by_cases hit : old.tc = target
  · rw [if_pos hit] at same
    subst same
    have was := blank old present named
    exact ⟨was.state, was.session, was.video, was.audio, was.backchannel, was.speaker⟩
  · rw [if_neg hit] at same
    exact blank record (same ▸ present) named

theorem blank_free_idle (conn : ConnId) (d : Device) (cli : RtspClient) (blank : BlankAt conn d) :
    BlankAt conn ((maybeStopMedia (d.put { cli with state := .idle })).free cli) := by
  intro record member named
  obtain ⟨present, other⟩ := mem_free _ cli record member
  rw [maybe_stop_media_clients] at present
  rcases mem_put d _ record present with rfl | ⟨old, _⟩
  · exact absurd rfl other
  · exact blank record old named

theorem blank_drop (conn target : ConnId) (d : Device) (blank : BlankAt conn d) : BlankAt conn (dropClient d target) := by
  unfold dropClient
  split
  · exact blank
  · split
    · exact blank_free_idle conn d _ blank
    · exact blank_free conn d _ blank

-- One packet to everybody: a blank record is passed over.
theorem send_to_all_gate (conn : ConnId) (d : Device) (send : RtspClient → RtspClient × List Out) (blank : BlankAt conn d)
    (kept : ∀ cli, (send cli).1.identity = cli.identity) (passed : ∀ cli, Blank cli → send cli = (cli, []))
    (others : ∀ cli, cli.tc ≠ conn → Silent conn (send cli).2) :
    BlankAt conn (sendToAll send d).1 ∧ Silent conn (sendToAll send d).2 := by
  constructor
  · intro record member named
    obtain ⟨old, present, same⟩ := List.mem_map.mp member
    have fields := identity_fields _ _ (kept old)
    rw [same] at fields
    have was := blank old present (fields.1 ▸ named)
    rw [passed old was] at same
    exact same ▸ was
  · intro out member
    obtain ⟨old, present, sent⟩ := List.mem_flatMap.mp member
    by_cases named : old.tc = conn
    · rw [passed old (blank old present named)] at sent
      simp at sent
    · exact others old named out sent

theorem send_audio_to_gate (conn : ConnId) (d : Device) (pcmu : Bytes) (blank : BlankAt conn d) :
    BlankAt conn (sendToAll (sendAudioTo pcmu) d).1 ∧ Silent conn (sendToAll (sendAudioTo pcmu) d).2 := by
  refine send_to_all_gate conn d _ blank (send_audio_to_identity pcmu) ?_ ?_
  · intro cli was
    simp [sendAudioTo, was.state]
  · intro cli other
    unfold sendAudioTo
    split
    · exact send_audio_silent conn cli pcmu other
    · simp [Silent]

theorem send_frame_to_gate (conn : ConnId) (d : Device) (nalus : List Bytes) (blank : BlankAt conn d) :
    BlankAt conn (sendToAll (sendFrameTo nalus) d).1 ∧ Silent conn (sendToAll (sendFrameTo nalus) d).2 := by
  refine send_to_all_gate conn d _ blank (send_frame_to_identity nalus) ?_ ?_
  · intro cli was
    simp [sendFrameTo, was.state]
  · intro cli other
    unfold sendFrameTo
    split
    · exact send_frame_silent conn cli nalus other
    · simp [Silent]

-- What a step may leave a connection with that it does not accept.
structure Shut (conn : ConnId) (after : Device × List Out) : Prop where
  blank : BlankAt conn after.1
  silent : Silent conn after.2

theorem audio_timer_gate (w : World) (conn : ConnId) (d : Device) (blank : BlankAt conn d) : Shut conn (audioSendTimer w d) := by
  unfold audioSendTimer
  dsimp only
  split
  · have kept := kept_trans _ _ _ (drain_excess_kept w { d with tmrAudio := true }) (next_block_kept w _)
    obtain ⟨after, silent⟩ := send_audio_to_gate conn _ (nextBlock w (drainExcess w { d with tmrAudio := true })).2.1
      (blank_kept conn { d with tmrAudio := true } _ kept.clients blank)
    exact ⟨after, silent_append conn _ _ (next_block_silent w conn _) silent⟩
  · exact ⟨blank, by simp [Silent]⟩

theorem video_timer_gate (w : World) (conn : ConnId) (d : Device) (blank : BlankAt conn d) : Shut conn (videoSendTimer w d) := by
  have kept := kept_trans _ _ _ (force_keyframe_kept { d with tmrVideo := true }) (get_frame_kept w _)
  have quiet := get_frame_silent w conn (forceKeyframe { d with tmrVideo := true })
  have still := blank_kept conn { d with tmrVideo := true } _ kept.clients blank
  unfold videoSendTimer
  dsimp only
  split
  · split
    · exact ⟨still, quiet⟩
    · rename_i nalus _
      obtain ⟨after, silent⟩ := send_frame_to_gate conn _ nalus still
      exact ⟨after, silent_append conn _ _ quiet silent⟩
  · exact ⟨blank, by simp [Silent]⟩

theorem session_timer_silent (w : World) (conn : ConnId) (d : Device) : Silent conn (sessionVideoTimer w d).2 := by
  intro out member
  rcases mem_session_timer w d out member with ⟨nalus, rfl⟩ | ⟨dest, packet, rfl⟩
  · rfl
  · rfl

theorem admitted_marks (w : World) (conn : ConnId) (d : Device) (cli : RtspClient) (req : RtspReq) (enabled : d.auth.enabled = true) :
    .accepted cli.tc ∈ acceptMarks d cli ∧ (admittedDevice w d req).clients = d.clients ∧ Silent conn (acceptMarks d cli) := by
  obtain ⟨auth, calls, _, device⟩ := admitted_device w d req
  rw [acceptMarks, if_pos enabled, device]
  exact ⟨by simp, rfl, by simp [Silent, Out.serves]⟩

-- A message of another connection, or one of its own that was not accepted.
theorem served_gate (w : World) (conn : ConnId) (d : Device) (cli : RtspClient) (result : Device × List Out)
    (request : Option RtspReq) (enabled : d.auth.enabled = true) (served : Served w d cli request result) (refused : .accepted conn ∉ result.2)
    (own : cli.tc = conn → Blank cli) (blank : BlankAt conn d) : Shut conn result := by
  cases served with
  | frame channel data =>
      refine ⟨blank, silent_cons conn _ _ rfl ?_⟩
      by_cases same : cli.tc = conn
      · simp [Silent, playBackchannel, (own same).backchannel]
      · intro out member
        obtain ⟨pcmu, rfl⟩ := mem_play_backchannel cli channel data out member
        simp [Out.serves, same]
  | denied text cseq => exact ⟨blank, silent_cons conn _ _ rfl (silent_reply conn cli cseq _ _ _)⟩
  | answered text req code reason extra marks auth calls same plain marked other =>
      refine ⟨blank, ?_⟩
      have marksSilent : Silent conn marks := by
        intro out member
        rw [marked out member]
        rfl
      exact silent_cons conn _ _ rfl (silent_append conn _ _ marksSilent (silent_reply conn cli req.cseq code reason extra))
  | described text req method =>
      obtain ⟨accepted, clients, marksSilent⟩ := admitted_marks w conn d cli req enabled
      have other : cli.tc ≠ conn := fun same => refused (by simp [← same, accepted])
      have kept := handle_describe_kept w (admittedDevice w d req) cli req
      refine ⟨blank_kept conn d _ (kept.clients.trans clients) blank, ?_⟩
      have silent : Silent conn (handleDescribe w (admittedDevice w d req) cli req).2 :=
        silent_append conn _ _ (fetch_params_silent w conn _) (silent_other_reply conn cli _ _ _ _ _ other)
      exact silent_cons conn _ _ rfl (silent_append conn _ _ marksSilent silent)
  | setUp text req method =>
      obtain ⟨accepted, clients, marksSilent⟩ := admitted_marks w conn d cli req enabled
      have other : cli.tc ≠ conn := fun same => refused (by simp [← same, accepted])
      have kept := handle_setup_kept w (admittedDevice w d req) cli req
      have outcome := handle_setup_outcome w (admittedDevice w d req) cli req
      have fields := setup_outcome_fields cli _ req _ outcome
      refine ⟨blank_put conn _ _ (blank_kept conn d _ (kept.clients.trans clients) blank) (fields.1 ▸ other), ?_⟩
      have silent : Silent conn (handleSetup w (admittedDevice w d req) cli req).2.2 := by
        rcases outcome with ⟨code, reason, _, same⟩ | ⟨track, transport, after, _, same⟩
        · rw [same]
          exact silent_reply conn cli _ _ _ _
        · rw [same]
          exact silent_reply conn after _ _ _ _
      exact silent_cons conn _ _ rfl (silent_append conn _ _ marksSilent silent)
  | played text req method =>
      obtain ⟨accepted, clients, marksSilent⟩ := admitted_marks w conn d cli req enabled
      have other : cli.tc ≠ conn := fun same => refused (by simp [← same, accepted])
      have kept := handle_play_kept w (admittedDevice w d req) cli req
      have fields := handle_play_fields w (admittedDevice w d req) cli req
      refine ⟨blank_put conn _ _ (blank_kept conn d _ (kept.clients.trans clients) blank) (fields.1 ▸ other), ?_⟩
      exact silent_cons conn _ _ rfl (silent_append conn _ _ marksSilent (play_silent w conn _ cli req other))
  | tornDown text req method =>
      obtain ⟨_, clients, marksSilent⟩ := admitted_marks w conn d cli req enabled
      refine ⟨blank_free_idle conn _ _ (blank_kept conn d _ clients blank), ?_⟩
      exact silent_cons conn _ _ rfl (silent_append conn _ _ marksSilent (silent_reply conn cli _ _ _ _))

theorem process_gate (w : World) (conn target : ConnId) (d : Device) (enabled : d.auth.enabled = true)
    (refused : .accepted conn ∉ (processMessage w d target).2) (blank : BlankAt conn d) :
    Shut conn (processMessage w d target) := by
  rcases process_cases w d target with ⟨idle, _⟩ | ⟨cli, result, rest, found, named, served, same⟩
  · rw [idle]
    exact ⟨blank, by simp [Silent]⟩
  · rw [same] at refused ⊢
    have member := (find_client d target cli found).1
    have own : cli.tc = conn → Blank { cli with rbuf := [] } := by
      intro mine
      have was := blank cli member mine
      exact ⟨was.state, was.session, was.video, was.audio, was.backchannel, was.speaker⟩
    have shut := served_gate w conn (d.setRbuf target []) _ result _ enabled served refused own
      (blank_set_rbuf conn target d [] blank)
    exact ⟨blank_set_rbuf conn target _ rest shut.blank, shut.silent⟩

theorem accept_blank (conn : ConnId) (d : Device) (peer : Sa) (blank : BlankAt conn d) : BlankAt conn (accept d peer) := by
  intro record member named
  rcases List.mem_append.mp member with old | new
  · exact blank record old named
  · rw [List.mem_singleton.mp new]
    exact ⟨rfl, rfl, rfl, rfl, rfl, rfl⟩

theorem append_chunk_blank (conn target : ConnId) (d : Device) (chunk : Bytes) (blank : BlankAt conn d) :
    BlankAt conn (appendChunk d target chunk) := by
  unfold appendChunk
  split
  · exact blank
  · split
    · exact blank_free conn d _ blank
    · exact blank_set_rbuf conn target d _ blank

theorem step_gate (w : World) (conn : ConnId) (d : Device) (action : Action) (enabled : d.auth.enabled = true)
    (refused : .accepted conn ∉ (step w d action).2) (blank : BlankAt conn d) : Shut conn (step w d action) := by
  have nothing : Silent conn [] := by simp [Silent]
  cases action with
  | connect peer => exact ⟨accept_blank conn d peer blank, nothing⟩
  | relayConnect peer => exact ⟨accept_blank conn d peer blank, nothing⟩
  | receive target chunk => exact ⟨append_chunk_blank conn target d chunk blank, nothing⟩
  | process target => exact process_gate w conn target d enabled refused blank
  | close target => exact ⟨blank_drop conn target d blank, nothing⟩
  | timeout target => exact ⟨blank_drop conn target d blank, nothing⟩
  | audioTimer =>
      cases armed : d.tmrAudio with
      | true => simpa [step, armed] using audio_timer_gate w conn d blank
      | false => simpa [step, armed] using (⟨blank, nothing⟩ : Shut conn (d, []))
  | videoTimer =>
      cases armed : d.tmrVideo with
      | true => simpa [step, armed] using video_timer_gate w conn d blank
      | false => simpa [step, armed] using (⟨blank, nothing⟩ : Shut conn (d, []))
  | callCreate body behind =>
      refine ⟨blank_kept conn d _ (call_create_kept w d body behind).clients blank, ?_⟩
      intro out member
      obtain ⟨code, rfl⟩ := mem_call_create w d body behind out member
      rfl
  | callDelete =>
      exact ⟨blank_kept conn d _ (end_session_kept d).clients blank, by simp [Silent, step, handleCallDelete, Out.serves]⟩
  | sessionVideoTimer => exact ⟨blank_kept conn d _ (session_timer_kept w d).clients blank, session_timer_silent w conn d⟩

structure Gated (reached : Device × List Out) : Prop where
  enabled : reached.1.auth.enabled = true
  shut : ∀ conn, .accepted conn ∉ reached.2 → Shut conn reached

theorem next_gated (w : World) (reached : Device × List Out) (action : Action) (inv : Gated reached) :
    Gated (next w reached action) := by
  obtain ⟨d, log⟩ := reached
  refine ⟨(step_auth w d action).trans inv.enabled, ?_⟩
  intro conn refused
  have split : .accepted conn ∉ log ∧ .accepted conn ∉ (step w d action).2 := by
    simpa [next, Runs.record] using refused
  have before := inv.shut conn split.1
  have after := step_gate w conn d action inv.enabled split.2 before.blank
  exact ⟨after.blank, silent_append conn _ _ before.silent after.silent⟩

theorem unaccepted_connection_gets_nothing (w : World) (localIp username password : Bytes) (actions : List Action)
    (enabled : (initial w localIp username password).auth.enabled = true) (conn : ConnId)
    (refused : .accepted conn ∉ (reached w (initial w localIp username password) actions).2) :
    (∀ cli ∈ (reached w (initial w localIp username password) actions).1.clients, cli.tc = conn →
      cli.state = .idle ∧ cli.sessionId = none ∧ cli.video.setup = false ∧ cli.audio.setup = false ∧
        cli.backchannelSetup = false ∧ cli.audioOutOpened = false) ∧
    ∀ out ∈ (reached w (initial w localIp username password) actions).2,
      (∀ channel packet, out ≠ .interleaved conn channel packet) ∧ (∀ dest packet, out ≠ .datagram conn dest packet) ∧
      (∀ answer, out = .reply conn answer → answer.body = []) ∧ ∀ pcmu, out ≠ .played conn pcmu := by
  have start : Gated (initial w localIp username password, []) :=
    ⟨enabled, fun _ _ => ⟨fun _ member => absurd member List.not_mem_nil, fun _ member => absurd member List.not_mem_nil⟩⟩
  have inv : Gated (reached w (initial w localIp username password) actions) :=
    Runs.run_invariant (next w) Gated _ actions (fun current action => next_gated w current action) start
  have shut := inv.shut conn refused
  constructor
  · intro cli member named
    have blank := shut.blank cli member named
    exact ⟨blank.state, blank.session, blank.video, blank.audio, blank.backchannel, blank.speaker⟩
  · intro out member
    have silent := shut.silent out member
    refine ⟨?_, ?_, ?_, ?_⟩
    · rintro channel packet rfl
      simp [Out.serves] at silent
    · rintro dest packet rfl
      simp [Out.serves] at silent
    · rintro answer rfl
      simpa [Out.serves] using silent
    · rintro pcmu rfl
      simp [Out.serves] at silent

-- A SETUP without credentials is challenged, and the talk-back frame behind it goes nowhere.
theorem unaccepted_setup_run :
    .accepted 0 ∉ (reached sampleWorld (initial sampleWorld [] (ascii "admin") (ascii "secret"))
      [.connect ⟨1, 1⟩, .receive 0 (ascii "SETUP rtsp://h/trackID=0 RTSP/1.0\r\nCSeq: 1\r\n\r\n"), .process 0,
        .receive 0 [36, 4, 0, 1, 9], .process 0]).2 ∧
    ∀ cli ∈ (reached sampleWorld (initial sampleWorld [] (ascii "admin") (ascii "secret"))
      [.connect ⟨1, 1⟩, .receive 0 (ascii "SETUP rtsp://h/trackID=0 RTSP/1.0\r\nCSeq: 1\r\n\r\n"), .process 0,
        .receive 0 [36, 4, 0, 1, 9], .process 0]).1.clients, cli.tc = 0 → cli.state = .idle := by
  have refused : .accepted 0 ∉ (reached sampleWorld (initial sampleWorld [] (ascii "admin") (ascii "secret"))
      [.connect ⟨1, 1⟩, .receive 0 (ascii "SETUP rtsp://h/trackID=0 RTSP/1.0\r\nCSeq: 1\r\n\r\n"), .process 0,
        .receive 0 [36, 4, 0, 1, 9], .process 0]).2 := by
    decide
  obtain ⟨blank, _⟩ := unaccepted_connection_gets_nothing sampleWorld [] (ascii "admin") (ascii "secret") _ (by decide) 0 refused
  exact ⟨refused, fun cli member named => (blank cli member named).1⟩

end Intercom
