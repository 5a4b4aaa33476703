import Intercom.Fanout

set_option autoImplicit false

/- Media for a track that was never set up. The two timers look at the flag of the track; the frame that PLAY
   sends at once does not. -/
namespace Intercom

open ByteText

-- Whoever the outputs bring video or audio packets had set that track up before the step.
structure SetUpOnly (d : Device) (outs : List Out) : Prop where
  video : ∀ conn, sentTo ptH264 conn outs ≠ [] → ∃ cli ∈ d.clients, cli.tc = conn ∧ cli.video.setup = true
  audio : ∀ conn, sentTo ptPcmu conn outs ≠ [] → ∃ cli ∈ d.clients, cli.tc = conn ∧ cli.audio.setup = true

-- A PLAY of a client without a video track, when the client can be reached, finds a camera that gives no packet.
def VideoFirst (w : World) (d : Device) : Action → Prop
  | .process conn => ∀ cli req, d.client? conn = some cli → asked w d conn = some req → req.method = ascii "PLAY" →
      cli.state ≠ .idle → cli.video.setup = false → cli.interleaved = true ∨ cli.video.sock.isSome = true →
        lost (getFrame w (playDevice w (admittedDevice w (d.setRbuf conn []) req) { cli with rbuf := [] }).1).2.1 = false
  | _ => True

theorem plain_set_up (d : Device) (outs : List Out) (plain : ∀ out ∈ outs, out.isPlain = true) : SetUpOnly d outs := by
  have delivery := plain_delivery outs plain
  exact ⟨fun conn some => absurd (delivery.video conn) some, fun conn some => absurd (delivery.audio conn) some⟩

theorem sent_flat_map (pt : UInt8) (conn : ConnId) (clients : List RtspClient) (send : RtspClient → List Out)
    (sent : sentTo pt conn (clients.flatMap send) ≠ []) : ∃ cli ∈ clients, sentTo pt conn (send cli) ≠ [] := by
  by_contra none
  refine sent (sent_nothing pt conn _ ?_)
  intro out member
  obtain ⟨cli, present, emitted⟩ := List.mem_flatMap.mp member
  have nothing : sentTo pt conn (send cli) = [] := by
    by_contra some
    exact none ⟨cli, present, some⟩
  rw [sentTo, List.filterMap_eq_nil_iff] at nothing
  exact nothing out emitted

theorem carried_here (cli : RtspClient) (track : RtpTrack) (pt : UInt8) (conn : ConnId) (outs : List Out)
    (carried : Carried cli track pt outs) (sent : sentTo pt conn outs ≠ []) : cli.tc = conn := by
  by_contra away
  exact sent (carried_elsewhere cli track pt pt conn outs carried (Or.inl away))

theorem audio_to_all_set_up (pcmu : Bytes) (d : Device) : SetUpOnly d (sendToAll (sendAudioTo pcmu) d).2 := by
  constructor
  · intro conn sent
    exact absurd ((audio_to_all_delivery pcmu d).video conn) sent
  · intro conn sent
    obtain ⟨cli, member, emitted⟩ := sent_flat_map ptPcmu conn d.clients _ sent
    rw [sendAudioTo] at emitted
    split at emitted
    · rename_i listening
      exact ⟨cli, member, carried_here cli _ _ conn _ (send_audio_carried cli pcmu) emitted, listening.2⟩
    · exact absurd rfl emitted

theorem frame_to_all_set_up (nalus : List Bytes) (d : Device) : SetUpOnly d (sendToAll (sendFrameTo nalus) d).2 := by
  constructor
  · intro conn sent
    obtain ⟨cli, member, emitted⟩ := sent_flat_map ptH264 conn d.clients _ sent
    rw [sendFrameTo] at emitted
    split at emitted
    · rename_i watching
      exact ⟨cli, member, carried_here cli _ _ conn _ (send_frame_carried cli nalus) emitted, watching.2⟩
    · exact absurd rfl emitted
  · intro conn sent
    exact absurd ((frame_to_all_delivery nalus d).audio conn) sent

-- Pulling a frame or a block sends nothing.
theorem set_up_behind (before d : Device) (front outs : List Out) (clients : d.clients = before.clients)
    (quiet : ∀ pt conn, sentTo pt conn front = []) (fine : SetUpOnly d outs) : SetUpOnly before (front ++ outs) := by
  constructor
  · intro conn sent
    rw [sent_append, quiet, List.nil_append] at sent
    exact clients ▸ fine.video conn sent
  · intro conn sent
    rw [sent_append, quiet, List.nil_append] at sent
    exact clients ▸ fine.audio conn sent

theorem get_frame_quiet (w : World) (d : Device) (pt : UInt8) (conn : ConnId) : sentTo pt conn (getFrame w d).2.2 = [] := by
  apply sent_nothing
  intro out member
  obtain ⟨nalus, rfl⟩ := mem_get_frame w d out member
  rfl

theorem next_block_quiet (w : World) (d : Device) (pt : UInt8) (conn : ConnId) : sentTo pt conn (nextBlock w d).2.2 = [] := by
  apply sent_nothing
  intro out member
  obtain ⟨samples, rfl⟩ := mem_next_block w d out member
  rfl

theorem audio_timer_set_up (w : World) (d : Device) : SetUpOnly d (audioSendTimer w d).2 := by
  have kept := kept_trans _ _ _ (drain_excess_kept w { d with tmrAudio := true }) (next_block_kept w _)
  rw [audioSendTimer]
  dsimp only
  split
  · exact set_up_behind d _ _ _ kept.clients (next_block_quiet w _) (audio_to_all_set_up _ _)
  · exact plain_set_up d [] fun _ member => absurd member List.not_mem_nil

theorem video_timer_set_up (w : World) (d : Device) : SetUpOnly d (videoSendTimer w d).2 := by
  have kept := kept_trans _ _ _ (force_keyframe_kept { d with tmrVideo := true }) (get_frame_kept w _)
  have nothing : SetUpOnly d [] := plain_set_up d [] fun _ member => absurd member List.not_mem_nil
  have quiet := get_frame_quiet w (forceKeyframe { d with tmrVideo := true })
  rw [videoSendTimer]
  dsimp only
  split
  · split
    · have alone := set_up_behind d d _ [] rfl quiet nothing
      rw [List.append_nil] at alone
      exact alone
    · exact set_up_behind d _ _ _ kept.clients quiet (frame_to_all_set_up _ _)
  · exact nothing

theorem immediate_video_sends_iff (w : World) (d : Device) (cli : RtspClient) :
    sentTo ptH264 cli.tc (immediateVideo w d cli).2.2 ≠ [] ↔
      (cli.interleaved = true ∨ cli.video.sock.isSome = true) ∧ lost (getFrame w d).2.1 = true := by
  by_cases way : cli.interleaved = true ∨ cli.video.sock.isSome = true
  · cases got : (getFrame w d).2.1 with
    | none =>
        have quiet := get_frame_quiet w d ptH264 cli.tc
        simp [immediateVideo, got, quiet, lost]
    | some nalus =>
        rw [immediate_video_sent w d cli nalus way (by simp [got])]
        simp [lost, way]
  · have unsent : sentTo ptH264 cli.tc (immediateVideo w d cli).2.2 = [] := by
      have off : cli.interleaved = false ∧ cli.video.sock.isSome = false := by simpa using way
      have media : ∀ nalus, sentTo ptH264 cli.tc (sendFrame cli nalus).2 = [] := by
        intro nalus
        apply sent_nothing
        intro out member
        obtain ⟨packet, _, sent⟩ := send_frame_carried cli nalus out member
        simp only [sendRtp, off.1, off.2, Bool.false_eq_true, if_false, List.mem_singleton] at sent
        rw [sent]
        rfl
      rw [immediateVideo]
      split
      · exact get_frame_quiet w d ptH264 cli.tc
      · rw [sent_append, get_frame_quiet, media]
        rfl
    exact iff_of_false (fun some => some unsent) fun both => way both.1

theorem play_set_up_iff (w : World) (d : Device) (cli : RtspClient) (present : cli ∈ d.clients) (unique : RecordsKept d)
    (req : RtspReq) (front : List Out) (plain : ∀ out ∈ front, out.isPlain = true) (ready : cli.state ≠ .idle) :
    SetUpOnly d (front ++ (handlePlay w d cli req).2.2) ↔
      (cli.video.setup = false → cli.interleaved = true ∨ cli.video.sock.isSome = true →
        lost (getFrame w (playDevice w d cli).1).2.1 = false) := by
  have delivery := play_delivery w d cli req front plain ready _ rfl
  have record := play_record w d cli
  have sends := immediate_video_sends_iff w (playDevice w d cli).1 (playDevice w d cli).2
  rw [record.1, record.2.2.1, record.2.2.2.1] at sends
  constructor
  · intro fine unset way
    by_contra packets
    have sent := sends.mpr ⟨way, by simpa using packets⟩
    rw [← delivery.video cli.tc] at sent
    obtain ⟨other, member, named, setup⟩ := fine.video cli.tc sent
    rw [record_unique d unique other cli member present named, unset] at setup
    exact absurd setup Bool.false_ne_true
  · intro safe
    constructor
    · intro conn sent
      rw [delivery.video] at sent
      have mine : conn = cli.tc := by
        by_contra away
        exact sent (immediate_video_elsewhere w _ _ conn (record.1 ▸ away))
      refine ⟨cli, present, mine.symm, ?_⟩
      rw [mine] at sent
      obtain ⟨way, packets⟩ := sends.mp sent
      by_contra unset
      have silent := safe (by simpa using unset) way
      rw [packets] at silent
      exact absurd silent.symm Bool.false_ne_true
    · intro conn sent
      rw [delivery.audio] at sent
      have tracks := identity_tracks _ _ (immediate_video_identity w (playDevice w d cli).1 (playDevice w d cli).2)
      have passed := identity_fields _ _ (immediate_video_identity w (playDevice w d cli).1 (playDevice w d cli).2)
      have mine : conn = cli.tc := by
        by_contra away
        exact sent (immediate_audio_elsewhere w _ _ conn (by rw [passed.1, record.1]; exact away))
      refine ⟨cli, present, mine.symm, ?_⟩
      by_contra unset
      rw [immediateAudio, tracks.2.2.2.2.2.2.2, record.2.2.2.2, if_neg unset] at sent
      exact sent rfl

theorem set_up_clients (before after : Device) (outs : List Out) (clients : after.clients = before.clients) :
    SetUpOnly after outs ↔ SetUpOnly before outs := by
  constructor
  · intro fine
    exact ⟨fun conn sent => clients ▸ fine.video conn sent, fun conn sent => clients ▸ fine.audio conn sent⟩
  · intro fine
    exact ⟨fun conn sent => clients ▸ fine.video conn sent, fun conn sent => clients ▸ fine.audio conn sent⟩

theorem set_rbuf_set_up (d : Device) (conn : ConnId) (rest : Bytes) (outs : List Out) :
    SetUpOnly d outs ↔ SetUpOnly (d.setRbuf conn rest) outs := by
  have copies : ∀ cli ∈ d.clients, ∃ copy ∈ (d.setRbuf conn rest).clients, copy.shape = cli.shape := by
    intro cli member
    refine ⟨_, List.mem_map.mpr ⟨cli, member, rfl⟩, ?_⟩
    split <;> rfl
  constructor
  · intro fine
    constructor
    · intro target sent
      obtain ⟨cli, member, named, setup⟩ := fine.video target sent
      obtain ⟨copy, present, same⟩ := copies cli member
      exact ⟨copy, present, (shape_fields _ _ same).1.trans named, (shape_video _ _ same).2.2.2.trans setup⟩
    · intro target sent
      obtain ⟨cli, member, named, setup⟩ := fine.audio target sent
      obtain ⟨copy, present, same⟩ := copies cli member
      exact ⟨copy, present, (shape_fields _ _ same).1.trans named, (shape_audio _ _ same).2.2.2.trans setup⟩
  · intro fine
    constructor
    · intro target sent
      obtain ⟨copy, member, named, setup⟩ := fine.video target sent
      obtain ⟨cli, present, same⟩ := set_rbuf_shape d conn rest copy member
      exact ⟨cli, present, (shape_fields _ _ same).1.symm.trans named, (shape_video _ _ same).2.2.2.symm.trans setup⟩
    · intro target sent
      obtain ⟨copy, member, named, setup⟩ := fine.audio target sent
      obtain ⟨cli, present, same⟩ := set_rbuf_shape d conn rest copy member
      exact ⟨cli, present, (shape_fields _ _ same).1.symm.trans named, (shape_audio _ _ same).2.2.2.symm.trans setup⟩

theorem served_set_up_iff (w : World) (d : Device) (inv : RecordsKept d) (cli : RtspClient) (present : cli ∈ d.clients)
    (request : Option RtspReq) (result : Device × List Out) (served : Served w d cli request result) :
    SetUpOnly d result.2 ↔ ∀ req, request = some req → req.method = ascii "PLAY" → cli.state ≠ .idle → cli.video.setup = false →
      cli.interleaved = true ∨ cli.video.sock.isSome = true →
        lost (getFrame w (playDevice w (admittedDevice w d req) cli).1).2.1 = false := by
  rcases served_media w d cli request result served with
    ⟨plain, other⟩ | ⟨text, req, rfl, method, rfl⟩ | ⟨text, req, rfl, method, ready, rfl⟩
  · refine iff_of_true (plain_set_up d result.2 plain) ?_
    intro req asked play ready
    exact absurd ((other req asked).2 play) ready
  · have delivery := delivery_front _ _ _ _ _ _ (mark_plain d cli text) (describe_delivery w (admittedDevice w d req) cli req)
    refine iff_of_true ⟨fun conn sent => absurd (delivery.video conn) sent, fun conn sent => absurd (delivery.audio conn) sent⟩ ?_
    rintro _ ⟨⟩ play
    rw [method] at play
    exact absurd play (by decide)
  · have clients := admitted_clients w d req
    have records := records_admitted w d req inv
    have decided := play_set_up_iff w (admittedDevice w d req) cli (clients ▸ present) records req _ (mark_plain d cli text) ready
    rw [set_up_clients d _ _ clients] at decided
    refine decided.trans ⟨?_, ?_⟩
    · rintro safe _ ⟨⟩ _ _
      exact safe
    · exact fun safe => safe req rfl method ready

theorem process_set_up_iff (w : World) (d : Device) (conn : ConnId) (inv : RecordsKept d) :
    SetUpOnly d (processMessage w d conn).2 ↔ VideoFirst w d (.process conn) := by
  rcases process_cases w d conn with ⟨idle, nothing⟩ | ⟨cli, result, rest, found, named, served, same⟩
  · rw [idle, VideoFirst, nothing]
    refine iff_of_true (plain_set_up d [] fun _ member => absurd member List.not_mem_nil) ?_
    exact fun _ _ _ none => by cases none
  · have present : { cli with rbuf := [] } ∈ (d.setRbuf conn []).clients := by
      refine List.mem_map.mpr ⟨cli, (find_client d conn cli found).1, ?_⟩
      rw [if_pos named]
    have decided := served_set_up_iff w _ (records_set_rbuf d conn [] inv) _ present _ result served
    have buffers : SetUpOnly d result.2 ↔ SetUpOnly (d.setRbuf conn []) result.2 := set_rbuf_set_up d conn [] result.2
    rw [same, VideoFirst]
    refine buffers.trans (decided.trans ⟨?_, ?_⟩)
    · intro safe other req known request
      rw [found] at known
      cases known
      exact safe req request
    · exact fun safe req request => safe cli req found request

theorem step_set_up_iff (w : World) (d : Device) (action : Action) (inv : RecordsKept d) :
    SetUpOnly d (step w d action).2 ↔ VideoFirst w d action := by
  have nothing : SetUpOnly d [] := plain_set_up d [] fun _ member => absurd member List.not_mem_nil
  cases action with
  | connect peer => exact iff_of_true nothing trivial
  | relayConnect peer => exact iff_of_true nothing trivial
  | receive conn chunk => exact iff_of_true nothing trivial
  | process conn => exact process_set_up_iff w d conn inv
  | close conn => exact iff_of_true nothing trivial
  | timeout conn => exact iff_of_true nothing trivial
  | audioTimer =>
      refine iff_of_true ?_ trivial
      cases armed : d.tmrAudio with
      | true => simpa [step, armed] using audio_timer_set_up w d
      | false => simpa [step, armed] using nothing
  | videoTimer =>
      refine iff_of_true ?_ trivial
      cases armed : d.tmrVideo with
      | true => simpa [step, armed] using video_timer_set_up w d
      | false => simpa [step, armed] using nothing
  | callCreate body behind =>
      refine iff_of_true (plain_set_up d _ ?_) trivial
      intro out member
      obtain ⟨code, rfl⟩ := mem_call_create w d body behind out member
      rfl
  | callDelete => exact iff_of_true (plain_set_up d _ (by simp [step, handleCallDelete, Out.isPlain])) trivial
  | sessionVideoTimer =>
      refine iff_of_true ?_ trivial
      have unsent : ∀ pt conn, sentTo pt conn (sessionVideoTimer w d).2 = [] := by
        intro pt conn
        apply sent_nothing
        intro out member
        rcases mem_session_timer w d out member with ⟨nalus, rfl⟩ | ⟨dest, packet, rfl⟩
        · rfl
        · rfl
      exact ⟨fun conn sent => absurd (unsent _ conn) sent, fun conn sent => absurd (unsent _ conn) sent⟩

theorem set_up_only_iff_video_first (w : World) (localIp username password : Bytes) (actions : List Action) :
    Runs.EachStep (deviceStep w) (fun d action => SetUpOnly d (step w d action).2) (initial w localIp username password) actions ↔
      Runs.EachStep (deviceStep w) (VideoFirst w) (initial w localIp username password) actions :=
  Runs.each_step_congr (deviceStep w) RecordsKept _ _ _ actions (fun d action inv => step_records w d action inv)
    (fun d action inv => step_set_up_iff w d action inv) (initial_records w localIp username password)

def audioAloneText : Bytes :=
  ascii "SETUP rtsp://h/trackID=1 RTSP/1.0\r\nCSeq: 1\r\nTransport: RTP/AVP/TCP;unicast;interleaved=0-1\r\n\r\n"

-- A client that set up audio alone on channel 0 is sent a video packet there by its own PLAY.
theorem audio_client_gets_video :
    ¬ Runs.EachStep (deviceStep sampleWorld) (fun d action => SetUpOnly d (step sampleWorld d action).2)
      (initial sampleWorld [] [] [])
      [.connect ⟨1, 1⟩, .receive 0 audioAloneText, .process 0, .receive 0 playText, .process 0] := by
  intro every
  have fine := Runs.each_step_at (deviceStep sampleWorld) _ (initial sampleWorld [] [] [])
    [.connect ⟨1, 1⟩, .receive 0 audioAloneText, .process 0, .receive 0 playText] [] (.process 0) every
  generalize reachedBefore : Runs.run (deviceStep sampleWorld) (initial sampleWorld [] [] [])
    [.connect ⟨1, 1⟩, .receive 0 audioAloneText, .process 0, .receive 0 playText] = d at fine
  have stray : sentTo ptH264 0 (step sampleWorld d (.process 0)).2 ≠ [] ∧ ∀ cli ∈ d.clients, cli.video.setup = false := by
    rw [← reachedBefore]
    decide +kernel
  obtain ⟨cli, member, _, setup⟩ := fine.video 0 stray.1
  rw [stray.2 cli member] at setup
  exact absurd setup Bool.false_ne_true

end Intercom
