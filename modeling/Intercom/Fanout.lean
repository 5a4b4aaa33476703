import Intercom.Records

set_option autoImplicit false

/- Frames and microphone blocks are consumed by whoever pulls them. A step spreads what it pulls when every
   client that is playing the track afterwards has been sent all of it. -/
namespace Intercom

open ByteText

def Out.payloadFor (pt : UInt8) (conn : ConnId) : Out → Option (Bool × Bytes)
  | .interleaved target _ packet => if target = conn ∧ packet.hdr.pt = pt then some (packet.hdr.m, packet.payload) else none
  | .datagram target _ packet => if target = conn ∧ packet.hdr.pt = pt then some (packet.hdr.m, packet.payload) else none
  | _ => none

-- Markers and payloads of the RTP packets of one type sent to a connection.
def sentTo (pt : UInt8) (conn : ConnId) (outs : List Out) : List (Bool × Bytes) := outs.filterMap (Out.payloadFor pt conn)

structure FanOut (w : World) (after : Device × List Out) : Prop where
  video : ∀ nalus, .pulled nalus ∈ after.2 → ∀ cli ∈ after.1.clients, cli.state = .playing → cli.video.setup = true →
    sentTo ptH264 cli.tc after.2 = packetiseFrame nalus
  audio : ∀ samples, .block samples ∈ after.2 → samples ≠ [] → ∀ cli ∈ after.1.clients, cli.state = .playing →
    cli.audio.setup = true → sentTo ptPcmu cli.tc after.2 = [(false, encodeBlock w samples)]

theorem sent_append (pt : UInt8) (conn : ConnId) (left right : List Out) :
    sentTo pt conn (left ++ right) = sentTo pt conn left ++ sentTo pt conn right := by
  rw [sentTo, List.filterMap_append]
  rfl

theorem sent_nothing (pt : UInt8) (conn : ConnId) (outs : List Out) (none : ∀ out ∈ outs, out.payloadFor pt conn = none) :
    sentTo pt conn outs = [] := by
  rw [sentTo, List.filterMap_eq_nil_iff]
  exact none

theorem send_rtp_payload (cli : RtspClient) (track : RtpTrack) (packet : RtpPacket)
    (way : cli.interleaved = true ∨ track.sock.isSome = true) :
    sentTo packet.hdr.pt cli.tc (sendRtp cli track packet) = [(packet.hdr.m, packet.payload)] := by
  cases mode : cli.interleaved with
  | true => simp [sendRtp, mode, sentTo, Out.payloadFor]
  | false =>
      have sock : track.sock.isSome = true := by simpa [mode] using way
      simp [sendRtp, mode, sock, sentTo, Out.payloadFor]

theorem carried_elsewhere (cli : RtspClient) (track : RtpTrack) (pt other : UInt8) (conn : ConnId) (outs : List Out)
    (carried : Carried cli track pt outs) (different : cli.tc ≠ conn ∨ pt ≠ other) : sentTo other conn outs = [] := by
  apply sent_nothing
  intro out member
  obtain ⟨packet, same, sent⟩ := carried out member
  have miss : ¬ (cli.tc = conn ∧ packet.hdr.pt = other) := by
    rintro ⟨here, type⟩
    rcases different with away | away
    · exact away here
    · exact away (same.symm.trans type)
  rcases mem_send_rtp cli track packet out sent with rfl | rfl | rfl
  · exact if_neg miss
  · exact if_neg miss
  · rfl

theorem send_video_parts_sent (cli : RtspClient) (parts : List (Bool × Bytes))
    (way : cli.interleaved = true ∨ cli.video.sock.isSome = true) :
    sentTo ptH264 cli.tc (sendVideoParts cli parts).2 = parts := by
  induction parts generalizing cli with
  | nil => rfl
  | cons part rest ih =>
      have first := send_rtp_payload cli cli.video (videoPacket cli part) way
      have later := ih (sendVideoPart cli part).1 way
      calc sentTo ptH264 cli.tc (sendVideoParts cli (part :: rest)).2
          = sentTo ptH264 cli.tc (sendRtp cli cli.video (videoPacket cli part)) ++
              sentTo ptH264 cli.tc (sendVideoParts (sendVideoPart cli part).1 rest).2 := sent_append _ _ _ _
        _ = [part] ++ rest := congrArg₂ (· ++ ·) first later
        _ = part :: rest := rfl

theorem send_nalus_sent (cli : RtspClient) (nalus : List Bytes) (way : cli.interleaved = true ∨ cli.video.sock.isSome = true) :
    sentTo ptH264 cli.tc (sendNalus cli nalus).2 = packetiseFrame nalus := by
  induction nalus generalizing cli with
  | nil => rfl
  | cons nalu rest ih =>
      have same := send_video_parts_identity cli (packetise nalu rest.isEmpty)
      have fields := identity_fields _ _ same
      have tracks := identity_tracks _ _ same
      have later := ih (sendH264NaluToClient cli nalu rest.isEmpty).1
        (by rw [sendH264NaluToClient, fields.2.2.2.2.2.1, tracks.1]; exact way)
      rw [sendH264NaluToClient, fields.1] at later
      rw [sendNalus, packetiseFrame, ← later]
      dsimp only
      rw [sent_append, sendH264NaluToClient, send_video_parts_sent cli _ way]

theorem send_frame_sent (cli : RtspClient) (nalus : List Bytes) (way : cli.interleaved = true ∨ cli.video.sock.isSome = true) :
    sentTo ptH264 cli.tc (sendFrame cli nalus).2 = packetiseFrame nalus := by
  rw [sendFrame]
  exact send_nalus_sent cli nalus way

theorem send_audio_sent (cli : RtspClient) (pcmu : Bytes) (way : cli.interleaved = true ∨ cli.audio.sock.isSome = true) :
    sentTo ptPcmu cli.tc (sendAudioBlock cli pcmu).2 = [(false, pcmu)] :=
  send_rtp_payload cli cli.audio (audioPacket cli pcmu) way

-- Only one record bears the number of the connection, so only its packets are seen there.
theorem flat_map_key (pt : UInt8) (clients : List RtspClient) (send : RtspClient → RtspClient × List Out) (cli : RtspClient)
    (unique : (clients.map RtspClient.tc).Nodup) (member : cli ∈ clients)
    (others : ∀ other, other.tc ≠ cli.tc → sentTo pt cli.tc (send other).2 = []) :
    sentTo pt cli.tc (clients.flatMap fun other => (send other).2) = sentTo pt cli.tc (send cli).2 := by
  induction clients with
  | nil => exact absurd member List.not_mem_nil
  | cons head rest ih =>
      rw [List.map_cons, List.nodup_cons] at unique
      rw [List.flatMap_cons, sent_append]
      by_cases here : head.tc = cli.tc
      · have alone : sentTo pt cli.tc (rest.flatMap fun other => (send other).2) = [] := by
          apply sent_nothing
          intro out sent
          obtain ⟨other, present, emitted⟩ := List.mem_flatMap.mp sent
          have away : other.tc ≠ cli.tc := by
            intro same
            exact unique.1 (List.mem_map.mpr ⟨other, present, same.trans here.symm⟩)
          have nothing := others other away
          rw [sentTo, List.filterMap_eq_nil_iff] at nothing
          exact nothing out emitted
        have same : cli = head := by
          rcases List.mem_cons.mp member with same | later
          · exact same
          · exact absurd (List.mem_map.mpr ⟨cli, later, here.symm⟩) unique.1
        rw [alone, List.append_nil, same]
      · have later : cli ∈ rest := by
          rcases List.mem_cons.mp member with same | later
          · exact absurd (congrArg RtspClient.tc same).symm here
          · exact later
        rw [others head here, List.nil_append]
        exact ih unique.2 later

def watches (cli : RtspClient) : Bool := cli.state == .playing && cli.video.setup

def listens (cli : RtspClient) : Bool := cli.state == .playing && cli.audio.setup

theorem watches_iff (cli : RtspClient) : watches cli = true ↔ cli.state = .playing ∧ cli.video.setup = true := by
  simp [watches]

theorem listens_iff (cli : RtspClient) : listens cli = true ↔ cli.state = .playing ∧ cli.audio.setup = true := by
  simp [listens]

def Out.pulls : Out → Option (List Bytes)
  | .pulled nalus => some nalus
  | _ => none

def Out.reads : Out → Option (List Int)
  | .block samples => some samples
  | _ => none

def pulledIn (outs : List Out) : List (List Bytes) := outs.filterMap Out.pulls

def blocksIn (outs : List Out) : List (List Int) := outs.filterMap Out.reads

theorem pulled_mem (outs : List Out) (nalus : List Bytes) : .pulled nalus ∈ outs ↔ nalus ∈ pulledIn outs := by
  rw [pulledIn, List.mem_filterMap]
  constructor
  · exact fun member => ⟨.pulled nalus, member, rfl⟩
  · rintro ⟨out, member, same⟩
    cases out with
    | pulled other =>
        cases same
        exact member
    | _ => cases same

theorem block_mem (outs : List Out) (samples : List Int) : .block samples ∈ outs ↔ samples ∈ blocksIn outs := by
  rw [blocksIn, List.mem_filterMap]
  constructor
  · exact fun member => ⟨.block samples, member, rfl⟩
  · rintro ⟨out, member, same⟩
    cases out with
    | block other =>
        cases same
        exact member
    | _ => cases same

-- What a list of outputs pulls and sends, as far as fan-out is concerned.
structure Delivery (outs : List Out) (frames : List (List Bytes)) (blocks : List (List Int))
    (video audio : ConnId → List (Bool × Bytes)) : Prop where
  frames : pulledIn outs = frames
  blocks : blocksIn outs = blocks
  video : ∀ conn, sentTo ptH264 conn outs = video conn
  audio : ∀ conn, sentTo ptPcmu conn outs = audio conn

theorem delivery_append (left right : List Out) (frames others : List (List Bytes)) (blocks more : List (List Int))
    (video audio videoLater audioLater : ConnId → List (Bool × Bytes)) (first : Delivery left frames blocks video audio)
    (second : Delivery right others more videoLater audioLater) :
    Delivery (left ++ right) (frames ++ others) (blocks ++ more) (fun conn => video conn ++ videoLater conn)
      (fun conn => audio conn ++ audioLater conn) where
  frames := by
    rw [pulledIn, List.filterMap_append]
    exact congrArg₂ (· ++ ·) first.frames second.frames
  blocks := by
    rw [blocksIn, List.filterMap_append]
    exact congrArg₂ (· ++ ·) first.blocks second.blocks
  video := fun conn => by rw [sent_append, first.video, second.video]
  audio := fun conn => by rw [sent_append, first.audio, second.audio]

def Out.isPlain : Out → Bool
  | .pulled _ => false
  | .block _ => false
  | .interleaved _ _ _ => false
  | .datagram _ _ _ => false
  | _ => true

theorem plain_delivery (outs : List Out) (plain : ∀ out ∈ outs, out.isPlain = true) :
    Delivery outs [] [] (fun _ => []) (fun _ => []) := by
  have each : ∀ out ∈ outs, out.pulls = none ∧ out.reads = none ∧ ∀ pt conn, out.payloadFor pt conn = none := by
    intro out member
    have fine := plain out member
    cases out with
    | pulled _ => cases fine
    | block _ => cases fine
    | interleaved _ _ _ => cases fine
    | datagram _ _ _ => cases fine
    | _ => exact ⟨rfl, rfl, fun _ _ => rfl⟩
  refine ⟨?_, ?_, ?_, ?_⟩
  · rw [pulledIn, List.filterMap_eq_nil_iff]
    exact fun out member => (each out member).1
  · rw [blocksIn, List.filterMap_eq_nil_iff]
    exact fun out member => (each out member).2.1
  · exact fun conn => sent_nothing _ _ _ fun out member => (each out member).2.2 _ _
  · exact fun conn => sent_nothing _ _ _ fun out member => (each out member).2.2 _ _

theorem carried_pulls (cli : RtspClient) (track : RtpTrack) (pt : UInt8) (outs : List Out) (carried : Carried cli track pt outs) :
    pulledIn outs = [] ∧ blocksIn outs = [] := by
  have each : ∀ out ∈ outs, out.pulls = none ∧ out.reads = none := by
    intro out member
    obtain ⟨packet, _, sent⟩ := carried out member
    rcases mem_send_rtp cli track packet out sent with rfl | rfl | rfl <;> exact ⟨rfl, rfl⟩
  rw [pulledIn, List.filterMap_eq_nil_iff, blocksIn, List.filterMap_eq_nil_iff]
  exact ⟨fun out member => (each out member).1, fun out member => (each out member).2⟩

theorem send_frame_delivery (cli : RtspClient) (nalus : List Bytes) :
    Delivery (sendFrame cli nalus).2 [] [] (fun conn => sentTo ptH264 conn (sendFrame cli nalus).2) (fun _ => []) := by
  have carried := send_frame_carried cli nalus
  have quiet := carried_pulls cli _ _ _ carried
  exact ⟨quiet.1, quiet.2, fun _ => rfl, fun conn => carried_elsewhere cli _ _ ptPcmu conn _ carried (Or.inr (by decide))⟩

theorem send_audio_delivery (cli : RtspClient) (pcmu : Bytes) :
    Delivery (sendAudioBlock cli pcmu).2 [] [] (fun _ => []) (fun conn => sentTo ptPcmu conn (sendAudioBlock cli pcmu).2) := by
  have carried := send_audio_carried cli pcmu
  have quiet := carried_pulls cli _ _ _ carried
  exact ⟨quiet.1, quiet.2, fun conn => carried_elsewhere cli _ _ ptH264 conn _ carried (Or.inr (by decide)), fun _ => rfl⟩

theorem get_frame_delivery (w : World) (d : Device) :
    Delivery (getFrame w d).2.2 (getFrame w d).2.1.toList [] (fun _ => []) (fun _ => []) := by
  simp only [getFrame]
  cases (cameraGetFrame (w.encode d.calls) d.cam).2 with
  | none => exact ⟨rfl, rfl, fun _ => rfl, fun _ => rfl⟩
  | some frame => exact ⟨rfl, rfl, fun _ => rfl, fun _ => rfl⟩

def micBlock (w : World) (d : Device) : List (List Int) := if d.micOpened then [(readMic w d audioSamples).2] else []

theorem next_block_delivery (w : World) (d : Device) :
    Delivery (nextBlock w d).2.2 [] (micBlock w d) (fun _ => []) (fun _ => []) := by
  cases live : d.micOpened with
  | true =>
      simp only [nextBlock, micBlock, live, if_true]
      exact ⟨rfl, rfl, fun _ => rfl, fun _ => rfl⟩
  | false =>
      simp only [nextBlock, micBlock, live, Bool.false_eq_true, if_false]
      exact ⟨rfl, rfl, fun _ => rfl, fun _ => rfl⟩

theorem next_block_bytes (w : World) (d : Device) (samples : List Int) (read : samples ∈ micBlock w d) :
    (nextBlock w d).2.1 = encodeBlock w samples := by
  rw [micBlock] at read
  split at read
  · rename_i live
    rw [nextBlock, if_pos live, List.mem_singleton.mp read]
  · exact absurd read List.not_mem_nil

theorem fan_out_iff (w : World) (after : Device) (outs : List Out) (frames : List (List Bytes)) (blocks : List (List Int))
    (video audio : ConnId → List (Bool × Bytes)) (delivery : Delivery outs frames blocks video audio) :
    FanOut w (after, outs) ↔
      (∀ nalus ∈ frames, ∀ cli ∈ after.clients, watches cli = true → video cli.tc = packetiseFrame nalus) ∧
        ∀ samples ∈ blocks, samples ≠ [] → ∀ cli ∈ after.clients, listens cli = true →
          audio cli.tc = [(false, encodeBlock w samples)] := by
  constructor
  · intro fan
    refine ⟨?_, ?_⟩
    · intro nalus pulled cli member watching
      obtain ⟨playing, setup⟩ := (watches_iff cli).mp watching
      rw [← delivery.video]
      exact fan.video nalus ((pulled_mem outs nalus).mpr (delivery.frames ▸ pulled)) cli member playing setup
    · intro samples read some cli member listening
      obtain ⟨playing, setup⟩ := (listens_iff cli).mp listening
      rw [← delivery.audio]
      exact fan.audio samples ((block_mem outs samples).mpr (delivery.blocks ▸ read)) some cli member playing setup
  · rintro ⟨videoFine, audioFine⟩
    constructor
    · intro nalus pulled cli member playing setup
      dsimp only
      rw [delivery.video]
      exact videoFine nalus (delivery.frames ▸ (pulled_mem outs nalus).mp pulled) cli member
        ((watches_iff cli).mpr ⟨playing, setup⟩)
    · intro samples read some cli member playing setup
      dsimp only
      rw [delivery.audio]
      exact audioFine samples (delivery.blocks ▸ (block_mem outs samples).mp read) some cli member
        ((listens_iff cli).mpr ⟨playing, setup⟩)

theorem plain_fan_out (w : World) (after : Device) (outs : List Out) (plain : ∀ out ∈ outs, out.isPlain = true) :
    FanOut w (after, outs) := by
  rw [fan_out_iff w after outs _ _ _ _ (plain_delivery outs plain)]
  exact ⟨fun _ member => absurd member List.not_mem_nil, fun _ member => absurd member List.not_mem_nil⟩

theorem to_all_nothing {Seen : Type} (see : Out → Option Seen) (clients : List RtspClient)
    (send : RtspClient → RtspClient × List Out) (each : ∀ cli, (send cli).2.filterMap see = []) :
    (clients.flatMap fun cli => (send cli).2).filterMap see = [] := by
  rw [List.filterMap_eq_nil_iff]
  intro out member
  obtain ⟨cli, _, sent⟩ := List.mem_flatMap.mp member
  exact List.filterMap_eq_nil_iff.mp (each cli) out sent

theorem send_audio_to_carried (pcmu : Bytes) (cli : RtspClient) : Carried cli cli.audio ptPcmu (sendAudioTo pcmu cli).2 := by
  rw [sendAudioTo]
  split
  · exact send_audio_carried cli pcmu
  · exact fun _ member => absurd member List.not_mem_nil

theorem send_frame_to_carried (nalus : List Bytes) (cli : RtspClient) : Carried cli cli.video ptH264 (sendFrameTo nalus cli).2 := by
  rw [sendFrameTo]
  split
  · exact send_frame_carried cli nalus
  · exact fun _ member => absurd member List.not_mem_nil

theorem audio_to_all_delivery (pcmu : Bytes) (d : Device) :
    Delivery (sendToAll (sendAudioTo pcmu) d).2 [] [] (fun _ => [])
      (fun conn => sentTo ptPcmu conn (sendToAll (sendAudioTo pcmu) d).2) where
  frames := to_all_nothing _ _ _ fun cli => (carried_pulls cli _ _ _ (send_audio_to_carried pcmu cli)).1
  blocks := to_all_nothing _ _ _ fun cli => (carried_pulls cli _ _ _ (send_audio_to_carried pcmu cli)).2
  video := fun conn => to_all_nothing _ _ _ fun cli =>
    carried_elsewhere cli _ _ ptH264 conn _ (send_audio_to_carried pcmu cli) (Or.inr (by decide))
  audio := fun _ => rfl

theorem frame_to_all_delivery (nalus : List Bytes) (d : Device) :
    Delivery (sendToAll (sendFrameTo nalus) d).2 [] []
      (fun conn => sentTo ptH264 conn (sendToAll (sendFrameTo nalus) d).2) (fun _ => []) where
  frames := to_all_nothing _ _ _ fun cli => (carried_pulls cli _ _ _ (send_frame_to_carried nalus cli)).1
  blocks := to_all_nothing _ _ _ fun cli => (carried_pulls cli _ _ _ (send_frame_to_carried nalus cli)).2
  video := fun _ => rfl
  audio := fun conn => to_all_nothing _ _ _ fun cli =>
    carried_elsewhere cli _ _ ptPcmu conn _ (send_frame_to_carried nalus cli) (Or.inr (by decide))

-- The timers reach everybody: each playing record is sent the whole frame or block.
theorem audio_to_all_sent (pcmu : Bytes) (d : Device) (inv : RecordsKept d) (cli : RtspClient) (member : cli ∈ d.clients)
    (listening : listens cli = true) : sentTo ptPcmu cli.tc (sendToAll (sendAudioTo pcmu) d).2 = [(false, pcmu)] := by
  have others : ∀ other : RtspClient, other.tc ≠ cli.tc → sentTo ptPcmu cli.tc (sendAudioTo pcmu other).2 = [] :=
    fun other away => carried_elsewhere other _ _ _ _ _ (send_audio_to_carried pcmu other) (Or.inl away)
  have mine := flat_map_key ptPcmu d.clients (sendAudioTo pcmu) cli inv.unique member others
  have ready := (listens_iff cli).mp listening
  refine mine.trans ?_
  rw [sendAudioTo, if_pos ready]
  exact send_audio_sent cli pcmu ((inv.sendable cli member).audio ready.2)

theorem frame_to_all_sent (nalus : List Bytes) (d : Device) (inv : RecordsKept d) (cli : RtspClient) (member : cli ∈ d.clients)
    (watching : watches cli = true) : sentTo ptH264 cli.tc (sendToAll (sendFrameTo nalus) d).2 = packetiseFrame nalus := by
  have others : ∀ other : RtspClient, other.tc ≠ cli.tc → sentTo ptH264 cli.tc (sendFrameTo nalus other).2 = [] :=
    fun other away => carried_elsewhere other _ _ _ _ _ (send_frame_to_carried nalus other) (Or.inl away)
  have mine := flat_map_key ptH264 d.clients (sendFrameTo nalus) cli inv.unique member others
  have ready := (watches_iff cli).mp watching
  refine mine.trans ?_
  rw [sendFrameTo, if_pos ready]
  exact send_frame_sent cli nalus ((inv.sendable cli member).video ready.2)

theorem records_kept (before after : Device) (kept : Kept before after) (inv : RecordsKept before) : RecordsKept after := by
  have keys : after.keys = before.keys := by rw [Device.keys, kept.clients]; rfl
  refine ⟨keys ▸ inv.unique, ?_, kept.clients ▸ inv.sendable⟩
  rw [keys, kept.nextConn]
  exact inv.known

theorem identity_watches (left right : RtspClient) (same : left.identity = right.identity) :
    left.tc = right.tc ∧ watches left = watches right ∧ listens left = listens right := by
  have fields := identity_fields _ _ same
  have tracks := identity_tracks _ _ same
  refine ⟨fields.1, ?_, ?_⟩
  · rw [watches, watches, fields.2.2.2.1, tracks.2.2.2.1]
  · rw [listens, listens, fields.2.2.2.1, tracks.2.2.2.2.2.2.2]

theorem audio_timer_fan_out (w : World) (d : Device) (inv : RecordsKept d) : FanOut w (audioSendTimer w d) := by
  have armed : Kept d { d with tmrAudio := true } := ⟨rfl, rfl, rfl, rfl⟩
  rw [audioSendTimer]
  dsimp only
  split
  · have kept := kept_trans _ _ _ armed (kept_trans _ _ _ (drain_excess_kept w _) (next_block_kept w _))
    have records := records_kept d _ kept inv
    generalize drainExcess w { d with tmrAudio := true } = base at records
    rw [fan_out_iff w _ _ _ _ _ _ (delivery_append _ _ _ _ _ _ _ _ _ _ (next_block_delivery w base)
      (audio_to_all_delivery (nextBlock w base).2.1 (nextBlock w base).1))]
    refine ⟨fun _ pulled => absurd pulled List.not_mem_nil, ?_⟩
    intro samples read _ after member listening
    rw [List.append_nil] at read
    obtain ⟨cli, present, rfl⟩ := List.mem_map.mp member
    obtain ⟨named, _, same⟩ := identity_watches _ _ (send_audio_to_identity (nextBlock w base).2.1 cli)
    have sent := audio_to_all_sent (nextBlock w base).2.1 (nextBlock w base).1 records cli present (same ▸ listening)
    rw [List.nil_append, named, sent, next_block_bytes w base samples read]
  · exact plain_fan_out w _ [] (fun _ member => absurd member List.not_mem_nil)

theorem video_timer_fan_out (w : World) (d : Device) (inv : RecordsKept d) : FanOut w (videoSendTimer w d) := by
  have armed : Kept d { d with tmrVideo := true } := ⟨rfl, rfl, rfl, rfl⟩
  have kept := kept_trans _ _ _ armed (kept_trans _ _ _ (force_keyframe_kept _) (get_frame_kept w _))
  have records := records_kept d _ kept inv
  rw [videoSendTimer]
  dsimp only
  generalize forceKeyframe { d with tmrVideo := true } = base at records
  split
  · have pulled := get_frame_delivery w base
    cases got : (getFrame w base).2.1 with
    | none =>
        rw [got] at pulled
        rw [fan_out_iff w _ _ _ _ _ _ pulled]
        exact ⟨fun _ member => absurd member List.not_mem_nil, fun _ member => absurd member List.not_mem_nil⟩
    | some nalus =>
        rw [got] at pulled
        dsimp only
        rw [fan_out_iff w _ _ _ _ _ _ (delivery_append _ _ _ _ _ _ _ _ _ _ pulled
          (frame_to_all_delivery nalus (getFrame w base).1))]
        refine ⟨?_, fun _ read => absurd read List.not_mem_nil⟩
        intro frame member after present watching
        have same : frame = nalus := by simpa using member
        obtain ⟨cli, here, rfl⟩ := List.mem_map.mp present
        obtain ⟨named, flag, _⟩ := identity_watches _ _ (send_frame_to_identity nalus cli)
        have sent := frame_to_all_sent nalus (getFrame w base).1 records cli here (flag ▸ watching)
        rw [same, List.nil_append, named]
        exact sent
  · exact plain_fan_out w _ [] (fun _ member => absurd member List.not_mem_nil)

-- A frame that nobody else is given is lost for them, unless it holds no packet at all.
def lost (frame : Option (List Bytes)) : Bool := frame.any fun nalus => packetiseFrame nalus != []

def blockLost (blocks : List (List Int)) : Bool := blocks.any fun samples => samples != []

def watched (d : Device) : Bool := d.clients.any watches

def watchedBesides (d : Device) (conn : ConnId) : Bool := d.clients.any fun cli => cli.tc != conn && watches cli

def heardBesides (d : Device) (conn : ConnId) : Bool := d.clients.any fun cli => cli.tc != conn && listens cli

-- The device and the record at the moment handle_play asks for its immediate frame.
def playDevice (w : World) (d : Device) (cli : RtspClient) : Device × RtspClient :=
  let started := ensureMediaStarted w d
  openBackchannel w { started with cam := cameraRequestKeyframe started.cam } { cli with state := .playing }

-- The frame handle_describe encodes to learn the parameter sets.
def describeFrame (w : World) (d : Device) : Option (List Bytes) :=
  if (cameraGetSpsPps d.cam).isSome then none
  else
    let opened := openCamera w d
    if opened.2 = .failed then none else (getFrame w { opened.1 with cam := cameraRequestKeyframe opened.1.cam }).2.1

def soleRequest (w : World) (d : Device) (cli : RtspClient) (req : RtspReq) : Bool :=
  if req.method = ascii "PLAY" ∧ cli.state ≠ .idle then
    let talk := playDevice w (admittedDevice w d req) cli
    (!lost (getFrame w talk.1).2.1 || !watchedBesides d cli.tc) &&
      (!(cli.audio.setup && blockLost (micBlock w (getFrame w talk.1).1)) || !heardBesides d cli.tc)
  else if req.method = ascii "DESCRIBE" then !lost (describeFrame w (admittedDevice w d req)) || !watched d
  else true

def Sole (w : World) (d : Device) : Action → Prop
  | .process conn => ∀ cli req, d.client? conn = some cli → asked w d conn = some req →
      soleRequest w (d.setRbuf conn []) { cli with rbuf := [] } req = true
  | .sessionVideoTimer => ∀ sess, d.sess = some sess → saIsset sess.peerAddr = true → lost (getFrame w d).2.1 = true →
      watched d = false
  | _ => True

theorem lost_iff (frame : Option (List Bytes)) :
    lost frame = true ↔ ∃ nalus, frame = some nalus ∧ packetiseFrame nalus ≠ [] := by
  cases frame with
  | none => simp [lost]
  | some nalus => simp [lost]

theorem block_lost_iff (blocks : List (List Int)) : blockLost blocks = true ↔ ∃ samples ∈ blocks, samples ≠ [] := by
  simp [blockLost]

theorem watched_iff (d : Device) : watched d = false ↔ ∀ cli ∈ d.clients, ¬ watches cli = true := by
  simp [watched]

theorem watched_besides_iff (d : Device) (conn : ConnId) :
    watchedBesides d conn = false ↔ ∀ cli ∈ d.clients, cli.tc ≠ conn → ¬ watches cli = true := by
  simp [watchedBesides]

theorem heard_besides_iff (d : Device) (conn : ConnId) :
    heardBesides d conn = false ↔ ∀ cli ∈ d.clients, cli.tc ≠ conn → ¬ listens cli = true := by
  simp [heardBesides]

-- Nothing of a pulled frame reaches anybody: fine when it is empty or nobody watches.
theorem unsent_video_iff (w : World) (after : Device) (outs : List Out) (frame : Option (List Bytes))
    (delivery : Delivery outs frame.toList [] (fun _ => []) (fun _ => [])) :
    FanOut w (after, outs) ↔ (lost frame = true → watched after = false) := by
  rw [fan_out_iff w after outs _ _ _ _ delivery, watched_iff]
  constructor
  · rintro ⟨video, _⟩ isLost cli member watching
    obtain ⟨nalus, got, packets⟩ := (lost_iff frame).mp isLost
    exact packets (video nalus (by simp [got]) cli member watching).symm
  · intro unseen
    refine ⟨?_, fun _ read => absurd read List.not_mem_nil⟩
    intro nalus pulled cli member watching
    by_cases packets : packetiseFrame nalus = []
    · exact packets.symm
    · have isLost := (lost_iff frame).mpr ⟨nalus, by simpa using pulled, packets⟩
      exact absurd watching (unseen isLost cli member)

theorem describe_delivery (w : World) (d : Device) (cli : RtspClient) (req : RtspReq) :
    Delivery (handleDescribe w d cli req).2 (describeFrame w d).toList [] (fun _ => []) (fun _ => []) := by
  have reply : Delivery [rtspReply cli req.cseq 200 "OK" (.description req.uri)
      (sdpText (fetchParams w d).1.localIp (spropText (cameraGetSpsPps (fetchParams w d).1.cam)))] [] [] (fun _ => []) (fun _ => []) :=
    plain_delivery _ (by simp [rtspReply, Out.isPlain])
  have fetched : Delivery (fetchParams w d).2 (describeFrame w d).toList [] (fun _ => []) (fun _ => []) := by
    rw [fetchParams, describeFrame]
    split
    · exact plain_delivery [] (fun _ member => absurd member List.not_mem_nil)
    · dsimp only
      split
      · exact plain_delivery [] (fun _ member => absurd member List.not_mem_nil)
      · exact get_frame_delivery w _
  have both := delivery_append _ _ _ _ _ _ _ _ _ _ fetched reply
  rw [List.append_nil] at both
  exact both

theorem immediate_video_delivery (w : World) (d : Device) (cli : RtspClient) :
    Delivery (immediateVideo w d cli).2.2 (getFrame w d).2.1.toList []
      (fun conn => sentTo ptH264 conn (immediateVideo w d cli).2.2) (fun _ => []) := by
  have pulled := get_frame_delivery w d
  rw [immediateVideo]
  dsimp only
  cases got : (getFrame w d).2.1 with
  | none =>
      rw [got] at pulled
      exact ⟨pulled.frames, pulled.blocks, fun _ => rfl, pulled.audio⟩
  | some nalus =>
      rw [got] at pulled
      have both := delivery_append _ _ _ _ _ _ _ _ _ _ pulled (send_frame_delivery cli nalus)
      rw [List.append_nil] at both
      exact ⟨both.frames, both.blocks, fun _ => rfl, both.audio⟩

theorem immediate_audio_delivery (w : World) (d : Device) (cli : RtspClient) :
    Delivery (immediateAudio w d cli).2.2 [] (if cli.audio.setup then micBlock w d else []) (fun _ => [])
      (fun conn => sentTo ptPcmu conn (immediateAudio w d cli).2.2) := by
  cases setup : cli.audio.setup with
  | false =>
      rw [immediateAudio, setup]
      exact plain_delivery [] (fun _ member => absurd member List.not_mem_nil)
  | true =>
      have both := delivery_append _ _ _ _ _ _ _ _ _ _ (next_block_delivery w d) (send_audio_delivery cli (nextBlock w d).2.1)
      rw [immediateAudio, setup]
      exact ⟨both.frames, both.blocks.trans (List.append_nil _), both.video, fun _ => rfl⟩

theorem play_outs (w : World) (d : Device) (cli : RtspClient) (req : RtspReq) (ready : cli.state ≠ .idle) :
    ∃ reply, reply.isPlain = true ∧ (handlePlay w d cli req).2.2 =
      [reply] ++ ((immediateVideo w (playDevice w d cli).1 (playDevice w d cli).2).2.2 ++
        (immediateAudio w (immediateVideo w (playDevice w d cli).1 (playDevice w d cli).2).1
          (immediateVideo w (playDevice w d cli).1 (playDevice w d cli).2).2.1).2.2) := by
  rw [handlePlay, if_neg ready]
  exact ⟨_, rfl, rfl⟩

theorem play_record (w : World) (d : Device) (cli : RtspClient) :
    (playDevice w d cli).2.tc = cli.tc ∧ (playDevice w d cli).2.state = .playing ∧
      (playDevice w d cli).2.interleaved = cli.interleaved ∧ (playDevice w d cli).2.video = cli.video ∧
      (playDevice w d cli).2.audio = cli.audio := by
  rw [playDevice, openBackchannel]
  split <;> exact ⟨rfl, rfl, rfl, rfl, rfl⟩

theorem immediate_mic (w : World) (d : Device) (cli : RtspClient) : micBlock w (immediateVideo w d cli).1 = micBlock w (getFrame w d).1 := by
  rw [immediateVideo]
  split <;> rfl

theorem put_other (d : Device) (cli other : RtspClient) (member : other ∈ d.clients) (away : other.tc ≠ cli.tc) :
    other ∈ (d.put cli).clients := by
  refine List.mem_map.mpr ⟨other, member, ?_⟩
  rw [if_neg away]

theorem delivery_front (front outs : List Out) (frames : List (List Bytes)) (blocks : List (List Int))
    (video audio : ConnId → List (Bool × Bytes)) (plain : ∀ out ∈ front, out.isPlain = true)
    (delivery : Delivery outs frames blocks video audio) : Delivery (front ++ outs) frames blocks video audio := by
  have both := delivery_append _ _ _ _ _ _ _ _ _ _ (plain_delivery front plain) delivery
  exact ⟨both.frames, both.blocks, both.video, both.audio⟩

theorem immediate_video_sent (w : World) (d : Device) (cli : RtspClient) (nalus : List Bytes)
    (way : cli.interleaved = true ∨ cli.video.sock.isSome = true) (pulled : nalus ∈ (getFrame w d).2.1.toList) :
    sentTo ptH264 cli.tc (immediateVideo w d cli).2.2 = packetiseFrame nalus := by
  have got : (getFrame w d).2.1 = some nalus := by simpa using pulled
  have quiet := (get_frame_delivery w d).video cli.tc
  rw [immediateVideo]
  simp only [got]
  rw [sent_append, quiet, List.nil_append]
  exact send_frame_sent cli nalus way

theorem immediate_video_elsewhere (w : World) (d : Device) (cli : RtspClient) (conn : ConnId) (away : conn ≠ cli.tc) :
    sentTo ptH264 conn (immediateVideo w d cli).2.2 = [] := by
  have quiet := (get_frame_delivery w d).video conn
  rw [immediateVideo]
  split
  · exact quiet
  · rw [sent_append, quiet, List.nil_append]
    exact carried_elsewhere cli _ _ _ _ _ (send_frame_carried cli _) (Or.inl (Ne.symm away))

theorem immediate_audio_sent (w : World) (d : Device) (cli : RtspClient) (samples : List Int) (setup : cli.audio.setup = true)
    (way : cli.interleaved = true ∨ cli.audio.sock.isSome = true) (read : samples ∈ micBlock w d) :
    sentTo ptPcmu cli.tc (immediateAudio w d cli).2.2 = [(false, encodeBlock w samples)] := by
  have quiet := (next_block_delivery w d).audio cli.tc
  rw [immediateAudio, if_pos setup]
  dsimp only
  rw [sent_append, quiet, List.nil_append, send_audio_sent cli _ way, next_block_bytes w d samples read]

theorem immediate_audio_elsewhere (w : World) (d : Device) (cli : RtspClient) (conn : ConnId) (away : conn ≠ cli.tc) :
    sentTo ptPcmu conn (immediateAudio w d cli).2.2 = [] := by
  have quiet := (next_block_delivery w d).audio conn
  rw [immediateAudio]
  split
  · dsimp only
    rw [sent_append, quiet, List.nil_append]
    exact carried_elsewhere cli _ _ _ _ _ (send_audio_carried cli _) (Or.inl (Ne.symm away))
  · rfl

theorem play_delivery (w : World) (d : Device) (cli : RtspClient) (req : RtspReq) (front : List Out)
    (plain : ∀ out ∈ front, out.isPlain = true) (ready : cli.state ≠ .idle) (talk : Device × RtspClient)
    (same : playDevice w d cli = talk) :
    Delivery (front ++ (handlePlay w d cli req).2.2) (getFrame w talk.1).2.1.toList
      (if cli.audio.setup then micBlock w (getFrame w talk.1).1 else [])
      (fun conn => sentTo ptH264 conn (immediateVideo w talk.1 talk.2).2.2)
      (fun conn => sentTo ptPcmu conn
        (immediateAudio w (immediateVideo w talk.1 talk.2).1 (immediateVideo w talk.1 talk.2).2.1).2.2) := by
  obtain ⟨reply, plainReply, outs⟩ := play_outs w d cli req ready
  have record := play_record w d cli
  rw [same] at outs record
  have tracks := identity_tracks _ _ (immediate_video_identity w talk.1 talk.2)
  have video := immediate_video_delivery w talk.1 talk.2
  have audio := immediate_audio_delivery w (immediateVideo w talk.1 talk.2).1 (immediateVideo w talk.1 talk.2).2.1
  rw [immediate_mic, tracks.2.2.2.2.2.2.2, record.2.2.2.2] at audio
  have both := delivery_append _ _ _ _ _ _ _ _ _ _ video audio
  rw [outs]
  refine delivery_front front _ _ _ _ _ plain (delivery_front [reply] _ _ _ _ _ (by simpa using plainReply) ?_)
  refine ⟨both.frames.trans (List.append_nil _), both.blocks, fun conn => ?_, both.audio⟩
  exact (both.video conn).trans (List.append_nil _)

-- The asker is sent what its PLAY pulls; every other playing client is not.
theorem play_fan_out_iff (w : World) (d : Device) (cli : RtspClient) (req : RtspReq) (front : List Out)
    (plain : ∀ out ∈ front, out.isPlain = true) (ready : cli.state ≠ .idle) (fine : Sendable cli) (talk : Device × RtspClient)
    (same : playDevice w d cli = talk) :
    FanOut w ((handlePlay w d cli req).1.put (handlePlay w d cli req).2.1, front ++ (handlePlay w d cli req).2.2) ↔
      (lost (getFrame w talk.1).2.1 = true → watchedBesides d cli.tc = false) ∧
        (cli.audio.setup = true ∧ blockLost (micBlock w (getFrame w talk.1).1) = true → heardBesides d cli.tc = false) := by
  have kept := (handle_play_kept w d cli req).clients
  have named := (handle_play_fields w d cli req).1
  obtain ⟨opened, _, shape⟩ := handle_play_identity w d cli req ready
  obtain ⟨_, watching, listening⟩ := identity_watches _ _ shape
  have record := play_record w d cli
  rw [same] at record
  have passed := identity_fields _ _ (immediate_video_identity w talk.1 talk.2)
  have tracks := identity_tracks _ _ (immediate_video_identity w talk.1 talk.2)
  rw [fan_out_iff w _ _ _ _ _ _ (play_delivery w d cli req front plain ready talk same)]
  refine and_congr ⟨?_, ?_⟩ ⟨?_, ?_⟩
  · intro all isLost
    rw [watched_besides_iff]
    intro other member away watches
    obtain ⟨nalus, got, packets⟩ := (lost_iff _).mp isLost
    have sent := all nalus (by simp [got]) other (put_other _ _ other (kept ▸ member) (named ▸ away)) watches
    rw [immediate_video_elsewhere w talk.1 talk.2 other.tc (record.1 ▸ away)] at sent
    exact packets sent.symm
  · intro unseen nalus pulled after member watches
    rcases mem_put _ _ after member with rfl | ⟨old, away⟩
    · rw [watching] at watches
      have setup : cli.video.setup = true := ((watches_iff _).mp watches).2
      rw [named, ← record.1]
      refine immediate_video_sent w talk.1 talk.2 nalus ?_ pulled
      rw [record.2.2.1, record.2.2.2.1]
      exact fine.video setup
    · rw [named] at away
      rw [immediate_video_elsewhere w talk.1 talk.2 after.tc (record.1 ▸ away)]
      by_cases packets : packetiseFrame nalus = []
      · exact packets.symm
      · have isLost := (lost_iff _).mpr ⟨nalus, by simpa using pulled, packets⟩
        exact absurd watches ((watched_besides_iff d cli.tc).mp (unseen isLost) after (kept ▸ old) away)
  · rintro all ⟨setup, isLost⟩
    rw [heard_besides_iff]
    intro other member away listens
    obtain ⟨samples, read, some⟩ := (block_lost_iff _).mp isLost
    have sent := all samples (by simpa [setup] using read) some other (put_other _ _ other (kept ▸ member) (named ▸ away)) listens
    rw [immediate_audio_elsewhere w _ _ other.tc (by rw [passed.1, record.1]; exact away)] at sent
    cases sent
  · intro unheard samples read some after member listens
    have setup : cli.audio.setup = true := by
      by_contra off
      simp [off] at read
    rw [if_pos setup] at read
    rcases mem_put _ _ after member with rfl | ⟨old, away⟩
    · rw [named, ← record.1, ← passed.1]
      refine immediate_audio_sent w _ _ samples ?_ ?_ (by rw [immediate_mic]; exact read)
      · rw [tracks.2.2.2.2.2.2.2, record.2.2.2.2]
        exact setup
      · rw [passed.2.2.2.2.2.1, tracks.2.2.2.2.1, record.2.2.1, record.2.2.2.2]
        exact fine.audio setup
    · rw [named] at away
      have isLost := (block_lost_iff _).mpr ⟨samples, read, some⟩
      exact absurd listens ((heard_besides_iff d cli.tc).mp (unheard ⟨setup, isLost⟩) after (kept ▸ old) away)

theorem mark_plain (d : Device) (cli : RtspClient) (text : Bytes) :
    ∀ out ∈ Out.request cli.tc text :: acceptMarks d cli, out.isPlain = true := by
  intro out member
  rcases List.mem_cons.mp member with rfl | mark
  · rfl
  · rw [mem_accept_marks d cli out mark]
    rfl

theorem setup_plain (w : World) (d : Device) (cli : RtspClient) (req : RtspReq) :
    ∀ out ∈ (handleSetup w d cli req).2.2, out.isPlain = true := by
  intro out member
  rcases handle_setup_outcome w d cli req with ⟨code, reason, _, same⟩ | ⟨track, transport, after, _, same⟩
  · rw [same] at member
    rw [List.mem_singleton.mp member]
    rfl
  · rw [same] at member
    rw [List.mem_singleton.mp member]
    rfl

-- Only DESCRIBE and a PLAY that is not refused touch the media.
theorem served_media (w : World) (d : Device) (cli : RtspClient) (request : Option RtspReq) (result : Device × List Out)
    (served : Served w d cli request result) :
    ((∀ out ∈ result.2, out.isPlain = true) ∧
      ∀ req, request = some req → req.method ≠ ascii "DESCRIBE" ∧ (req.method = ascii "PLAY" → cli.state = .idle)) ∨
    (∃ text req, request = some req ∧ req.method = ascii "DESCRIBE" ∧
      result = ((handleDescribe w (admittedDevice w d req) cli req).1,
        .request cli.tc text :: acceptMarks d cli ++ (handleDescribe w (admittedDevice w d req) cli req).2)) ∨
    ∃ text req, request = some req ∧ req.method = ascii "PLAY" ∧ cli.state ≠ .idle ∧
      result = ((handlePlay w (admittedDevice w d req) cli req).1.put (handlePlay w (admittedDevice w d req) cli req).2.1,
        .request cli.tc text :: acceptMarks d cli ++ (handlePlay w (admittedDevice w d req) cli req).2.2) := by
  cases served with
  | frame channel data =>
      refine Or.inl ⟨?_, fun _ none => by cases none⟩
      intro out member
      rcases List.mem_cons.mp member with rfl | played
      · rfl
      · obtain ⟨pcmu, rfl⟩ := mem_play_backchannel cli channel data out played
        rfl
  | denied text cseq => exact Or.inl ⟨by simp [Out.isPlain, rtspReply], fun _ none => by cases none⟩
  | answered text req code reason extra marks auth calls same plain marked unhandled =>
      refine Or.inl ⟨?_, ?_⟩
      · intro out member
        rcases List.mem_cons.mp member with rfl | later
        · rfl
        · rcases List.mem_append.mp later with mark | reply
          · rw [marked out mark]
            rfl
          · rw [List.mem_singleton.mp reply]
            rfl
      · rintro _ ⟨⟩
        refine ⟨?_, ?_⟩
        · exact fun describe => unhandled (by rw [describe]; decide)
        · exact fun play => absurd (by rw [play]; decide) unhandled
  | described text req method => exact Or.inr (Or.inl ⟨text, req, rfl, method, rfl⟩)
  | setUp text req method =>
      refine Or.inl ⟨?_, ?_⟩
      · rw [← List.cons_append, List.forall_mem_append]
        exact ⟨mark_plain d cli text, setup_plain w _ cli req⟩
      · rintro _ ⟨⟩
        rw [method]
        exact ⟨by decide, fun play => absurd play (by decide)⟩
  | played text req method =>
      by_cases idle : cli.state = .idle
      · refine Or.inl ⟨?_, ?_⟩
        · rw [← List.cons_append, List.forall_mem_append]
          refine ⟨mark_plain d cli text, ?_⟩
          rw [handlePlay, if_pos idle]
          simp [rtspReply, Out.isPlain]
        · rintro _ ⟨⟩
          rw [method]
          exact ⟨by decide, fun _ => idle⟩
      · exact Or.inr (Or.inr ⟨text, req, rfl, method, idle, rfl⟩)
  | tornDown text req method =>
      refine Or.inl ⟨?_, ?_⟩
      · rw [← List.cons_append, List.forall_mem_append]
        exact ⟨mark_plain d cli text, by simp [handleTeardown, rtspReply, Out.isPlain]⟩
      · rintro _ ⟨⟩
        rw [method]
        exact ⟨by decide, fun play => absurd play (by decide)⟩

theorem served_fan_out_iff (w : World) (d : Device) (cli : RtspClient) (request : Option RtspReq) (result : Device × List Out)
    (served : Served w d cli request result) (fine : Sendable cli) :
    FanOut w result ↔ ∀ req, request = some req → soleRequest w d cli req = true := by
  rcases served_media w d cli request result served with
    ⟨plain, other⟩ | ⟨text, req, rfl, method, rfl⟩ | ⟨text, req, rfl, method, ready, rfl⟩
  · refine iff_of_true (plain_fan_out w result.1 result.2 plain) ?_
    intro req asked
    obtain ⟨describe, play⟩ := other req asked
    rw [soleRequest, if_neg (fun both => both.2 (play both.1)), if_neg describe]
  · have delivery := delivery_front _ _ _ _ _ _ (mark_plain d cli text) (describe_delivery w (admittedDevice w d req) cli req)
    have clients := (handle_describe_kept w (admittedDevice w d req) cli req).clients.trans (admitted_clients w d req)
    have seen : watched (handleDescribe w (admittedDevice w d req) cli req).1 = watched d := by rw [watched, clients, watched]
    have sole : soleRequest w d cli req = (!lost (describeFrame w (admittedDevice w d req)) || !watched d) := by
      rw [soleRequest, if_neg (fun play => absurd (method ▸ play.1) (by decide)), if_pos method]
    refine (unsent_video_iff w _ _ _ delivery).trans ?_
    rw [seen]
    simp only [Option.some.injEq, forall_eq', sole]
    cases lost (describeFrame w (admittedDevice w d req)) <;> cases watched d <;> simp
  · have decided := play_fan_out_iff w (admittedDevice w d req) cli req _ (mark_plain d cli text) ready fine _ rfl
    have besides : watchedBesides (admittedDevice w d req) cli.tc = watchedBesides d cli.tc ∧
        heardBesides (admittedDevice w d req) cli.tc = heardBesides d cli.tc := by
      simp only [watchedBesides, heardBesides, admitted_clients, and_self]
    rw [besides.1, besides.2] at decided
    refine decided.trans ?_
    simp only [Option.some.injEq, forall_eq']
    rw [soleRequest, if_pos ⟨method, ready⟩]
    dsimp only
    cases lost (getFrame w (playDevice w (admittedDevice w d req) cli).1).2.1 <;> cases watchedBesides d cli.tc <;>
      cases cli.audio.setup <;> cases blockLost (micBlock w (getFrame w (playDevice w (admittedDevice w d req) cli).1).1) <;>
      cases heardBesides d cli.tc <;> simp

theorem set_rbuf_fan_out (w : World) (d : Device) (conn : ConnId) (rest : Bytes) (outs : List Out) :
    FanOut w (d.setRbuf conn rest, outs) ↔ FanOut w (d, outs) := by
  constructor
  · intro fan
    have records : ∀ cli ∈ d.clients, ∃ copy ∈ (d.setRbuf conn rest).clients, copy.tc = cli.tc ∧ copy.state = cli.state ∧
        copy.video = cli.video ∧ copy.audio = cli.audio := by
      intro cli member
      refine ⟨_, List.mem_map.mpr ⟨cli, member, rfl⟩, ?_⟩
      split <;> exact ⟨rfl, rfl, rfl, rfl⟩
    constructor
    · intro nalus pulled cli member playing setup
      obtain ⟨copy, present, named, state, video, _⟩ := records cli member
      rw [← named]
      exact fan.video nalus pulled copy present (state.trans playing) (video ▸ setup)
    · intro samples read some cli member playing setup
      obtain ⟨copy, present, named, state, _, audio⟩ := records cli member
      rw [← named]
      exact fan.audio samples read some copy present (state.trans playing) (audio ▸ setup)
  · intro fan
    have records : ∀ copy ∈ (d.setRbuf conn rest).clients, ∃ cli ∈ d.clients, copy.tc = cli.tc ∧ copy.state = cli.state ∧
        copy.video = cli.video ∧ copy.audio = cli.audio := by
      intro copy member
      obtain ⟨cli, present, rfl⟩ := List.mem_map.mp member
      refine ⟨cli, present, ?_⟩
      split <;> exact ⟨rfl, rfl, rfl, rfl⟩
    constructor
    · intro nalus pulled copy member playing setup
      obtain ⟨cli, present, named, state, video, _⟩ := records copy member
      rw [named]
      exact fan.video nalus pulled cli present (state ▸ playing) (video ▸ setup)
    · intro samples read some copy member playing setup
      obtain ⟨cli, present, named, state, _, audio⟩ := records copy member
      rw [named]
      exact fan.audio samples read some cli present (state ▸ playing) (audio ▸ setup)

theorem process_fan_out_iff (w : World) (d : Device) (conn : ConnId) (inv : RecordsKept d) :
    FanOut w (processMessage w d conn) ↔ ∀ cli req, d.client? conn = some cli → asked w d conn = some req →
      soleRequest w (d.setRbuf conn []) { cli with rbuf := [] } req = true := by
  rcases process_cases w d conn with ⟨idle, nothing⟩ | ⟨cli, result, rest, found, named, served, same⟩
  · rw [idle, nothing]
    refine iff_of_true (plain_fan_out w d [] fun _ member => absurd member List.not_mem_nil) ?_
    exact fun _ _ _ none => by cases none
  · have was := inv.sendable cli (find_client d conn cli found).1
    have decided := served_fan_out_iff w _ _ _ result served ⟨was.video, was.audio⟩
    rw [same, set_rbuf_fan_out]
    refine decided.trans ⟨?_, ?_⟩
    · intro all other req known request
      rw [found] at known
      cases known
      exact all req request
    · exact fun all req request => all cli req found request

theorem session_nalus_plain (sess : Session) (nalus : List Bytes) :
    ∀ out ∈ (sendSessionNalus sess nalus).2, out.isPlain = true := by
  intro out member
  obtain ⟨dest, packet, rfl⟩ := mem_session_nalus sess nalus out member
  rfl

theorem session_timer_fan_out_iff (w : World) (d : Device) :
    FanOut w (sessionVideoTimer w d) ↔ ∀ sess, d.sess = some sess → saIsset sess.peerAddr = true →
      lost (getFrame w d).2.1 = true → watched d = false := by
  have nothing : ∀ after, FanOut w (after, []) :=
    fun after => plain_fan_out w after [] fun _ member => absurd member List.not_mem_nil
  cases live : d.sess with
  | none =>
      simp only [sessionVideoTimer, live]
      exact iff_of_true (nothing d) (fun _ none => by cases none)
  | some sess =>
      cases set : saIsset sess.peerAddr with
      | false =>
          simp only [sessionVideoTimer, live, set, Bool.false_eq_true, if_false]
          refine iff_of_true (nothing d) ?_
          rintro _ ⟨⟩ isset
          rw [set] at isset
          cases isset
      | true =>
          have pulled := get_frame_delivery w d
          have delivery : Delivery (sessionVideoTimer w d).2 (getFrame w d).2.1.toList [] (fun _ => []) (fun _ => []) := by
            simp only [sessionVideoTimer, live, set, if_true]
            cases got : (getFrame w d).2.1 with
            | none =>
                rw [got] at pulled
                exact pulled
            | some nalus =>
                rw [got] at pulled
                have both := delivery_append _ _ _ _ _ _ _ _ _ _ pulled (plain_delivery _ (session_nalus_plain sess nalus))
                exact ⟨both.frames, both.blocks, both.video, both.audio⟩
          have seen : watched (sessionVideoTimer w d).1 = watched d := by
            rw [watched, (session_timer_kept w d).clients, watched]
          refine (unsent_video_iff w (sessionVideoTimer w d).1 _ _ delivery).trans ?_
          rw [seen]
          exact ⟨fun safe _ _ _ => safe, fun safe => safe sess rfl set⟩

theorem step_fan_out_iff (w : World) (d : Device) (action : Action) (inv : RecordsKept d) :
    FanOut w (step w d action) ↔ Sole w d action := by
  have plain : ∀ after outs, (∀ out ∈ outs, out.isPlain = true) → FanOut w (after, outs) := plain_fan_out w
  have nothing : ∀ after, FanOut w (after, []) := fun after => plain after [] fun _ member => absurd member List.not_mem_nil
  cases action with
  | connect peer => exact iff_of_true (nothing _) trivial
  | relayConnect peer => exact iff_of_true (nothing _) trivial
  | receive conn chunk => exact iff_of_true (nothing _) trivial
  | process conn => exact process_fan_out_iff w d conn inv
  | close conn => exact iff_of_true (nothing _) trivial
  | timeout conn => exact iff_of_true (nothing _) trivial
  | audioTimer =>
      refine iff_of_true ?_ trivial
      cases armed : d.tmrAudio with
      | true => simpa [step, armed] using audio_timer_fan_out w d inv
      | false => simpa [step, armed] using nothing d
  | videoTimer =>
      refine iff_of_true ?_ trivial
      cases armed : d.tmrVideo with
      | true => simpa [step, armed] using video_timer_fan_out w d inv
      | false => simpa [step, armed] using nothing d
  | callCreate body behind =>
      refine iff_of_true ?_ trivial
      refine plain _ _ ?_
      intro out member
      obtain ⟨code, rfl⟩ := mem_call_create w d body behind out member
      rfl
  | callDelete => exact iff_of_true (plain _ _ (by simp [Out.isPlain])) trivial
  | sessionVideoTimer => exact session_timer_fan_out_iff w d

theorem fan_out_iff_sole (w : World) (localIp username password : Bytes) (actions : List Action) :
    Runs.EachStep (deviceStep w) (fun d action => FanOut w (step w d action)) (initial w localIp username password) actions ↔
      Runs.EachStep (deviceStep w) (Sole w) (initial w localIp username password) actions :=
  Runs.each_step_congr (deviceStep w) RecordsKept _ _ _ actions (fun d action inv => step_records w d action inv)
    (fun d action inv => step_fan_out_iff w d action inv) (initial_records w localIp username password)

def setupVideoText : Bytes :=
  ascii "SETUP rtsp://h/trackID=0 RTSP/1.0\r\nCSeq: 1\r\nTransport: RTP/AVP/TCP;unicast;interleaved=0-1\r\n\r\n"

def playText : Bytes := ascii "PLAY rtsp://h/ RTSP/1.0\r\nCSeq: 2\r\n\r\n"

-- Client 0 is watching when client 1 sends PLAY: the frame pulled for client 1 is not sent to client 0.
theorem second_play_takes_frame :
    ¬ Runs.EachStep (deviceStep sampleWorld) (fun d action => FanOut sampleWorld (step sampleWorld d action))
      (initial sampleWorld [] [] [])
      [.connect ⟨1, 1⟩, .connect ⟨2, 2⟩, .receive 0 setupVideoText, .process 0, .receive 0 playText, .process 0,
        .receive 1 setupVideoText, .process 1, .receive 1 playText, .process 1] := by
  intro every
  have fan := Runs.each_step_at (deviceStep sampleWorld) _ (initial sampleWorld [] [] [])
    [.connect ⟨1, 1⟩, .connect ⟨2, 2⟩, .receive 0 setupVideoText, .process 0, .receive 0 playText, .process 0,
      .receive 1 setupVideoText, .process 1, .receive 1 playText] [] (.process 1) every
  generalize reachedBefore : Runs.run (deviceStep sampleWorld) (initial sampleWorld [] [] [])
    [.connect ⟨1, 1⟩, .connect ⟨2, 2⟩, .receive 0 setupVideoText, .process 0, .receive 0 playText, .process 0,
      .receive 1 setupVideoText, .process 1, .receive 1 playText] = d at fan
  have missed : .pulled [[0x65, 0x88]] ∈ (step sampleWorld d (.process 1)).2 ∧
      ∃ cli ∈ (step sampleWorld d (.process 1)).1.clients, cli.state = .playing ∧ cli.video.setup = true ∧
        sentTo ptH264 cli.tc (step sampleWorld d (.process 1)).2 ≠ packetiseFrame [[0x65, 0x88]] := by
    rw [← reachedBefore]
    decide +kernel
  obtain ⟨pulled, cli, member, playing, setup, unsent⟩ := missed
  exact unsent (fan.video _ pulled cli member playing setup)

end Intercom
