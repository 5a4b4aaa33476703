import Intercom.Tcp
import Intercom.Android.Downstream
import Intercom.Android.Loss

set_option autoImplicit false

/- A viewer behind a link that is slower than the camera. tcp_send refuses what does not fit into the send queue and the timers
   go on, so messages are missing in the stream; the app stays in step with it and its decoder never throws. -/
namespace Intercom.Android

open ByteText Tcp

-- A packet of a NAL unit: the unit itself or one fragment of it.
inductive VideoPart : Bool × Bytes → Prop where
  | whole (marker : Bool) (header : UInt8) (rest : Bytes) (notStapA : header &&& 0x1F ≠ 24) (notFuA : header &&& 0x1F ≠ 28) :
      VideoPart (marker, header :: rest)
  | fragment (header : UInt8) (part : Bool × Bytes) (clear : header &&& 0x80 = 0) (fragment : Fragment header part) : VideoPart part

-- The NAL units an encoder makes, of any length: not empty, forbidden bit clear, no packet type.
def SendableNalu (nalu : Bytes) : Prop :=
  ∃ header rest, nalu = header :: rest ∧ header &&& 0x80 = 0 ∧ header &&& 0x1F ≠ 24 ∧ header &&& 0x1F ≠ 28

theorem packetise_parts (nalu : Bytes) (isLastNalu : Bool) (sendable : SendableNalu nalu) :
    ∀ part ∈ packetise nalu isLastNalu, VideoPart part := by
  obtain ⟨header, payload, rfl, clear, notStapA, notFuA⟩ := sendable
  intro part member
  by_cases small : (header :: payload).length ≤ rtpMtu
  · rw [packetise, if_pos small, List.mem_singleton] at member
    exact member ▸ .whole isLastNalu header payload notStapA notFuA
  · have several : rtpMtu - 2 < payload.length := by
      simp only [List.length_cons, rtpMtu] at small ⊢
      omega
    rw [packetise, if_neg small] at member
    exact .fragment header part clear
      ((fu_loop_fragments header isLastNalu payload.length true payload fun _ => several).1 part member).1

theorem packetise_frame_parts (nalus : List Bytes) (sendable : ∀ nalu ∈ nalus, SendableNalu nalu) :
    ∀ part ∈ packetiseFrame nalus, VideoPart part := by
  induction nalus with
  | nil => exact fun _ member => absurd member List.not_mem_nil
  | cons nalu rest ih =>
      intro part member
      rcases List.mem_append.mp member with now | later
      · exact packetise_parts nalu _ (sendable nalu List.mem_cons_self) part now
      · exact ih (fun other inside => sendable other (List.mem_cons_of_mem nalu inside)) part later

theorem part_fed (dec : VideoDecoder) (part : Bool × Bytes) (video : VideoPart part) (ready : Ready dec) :
    ∃ next nals, feedRtpPayload dec part.2 0 part.2.length part.1 = some (next, nals) ∧ Ready next := by
  cases video with
  | whole marker header rest notStapA notFuA => exact ⟨dec, [header :: rest], feed_single dec rest header marker notFuA notStapA, ready⟩
  | fragment header _ clear fragment =>
      obtain ⟨next, nals, step⟩ := fragment_fed header dec part clear fragment ready
      exact ⟨next, nals, step.fed, step.ready⟩

def Downlink.Sendable : Downlink → Prop
  | .frame nalus => ∀ nalu ∈ nalus, SendableNalu nalu
  | .audio pcmu => pcmu.length = audioSamples
  | .keepalive cseq => -2147483648 ≤ cseq ∧ cseq ≤ 2147483647

inductive Message (conn : ConnId) : Out → Prop where
  | video (packet : RtpPacket) (plain : Plain packet.hdr) (part : VideoPart (packet.hdr.m, packet.payload))
      (size : 0 < packet.payload.length ∧ packet.payload.length ≤ rtpMtu) : Message conn (.interleaved conn videoRtpCh packet)
  | audio (packet : RtpPacket) (plain : Plain packet.hdr) (block : packet.payload.length = audioSamples) :
      Message conn (.interleaved conn audioRtpCh packet)
  | keepalive (cli : RtspClient) (cseq : Int) (same : cli.tc = conn) (int : -2147483648 ≤ cseq ∧ cseq ≤ 2147483647) :
      Message conn (rtspReply cli cseq 200 "OK" .none [])

theorem signed_int_length (value : Int) (int : -2147483648 ≤ value ∧ value ≤ 2147483647) : (signed value).length ≤ 11 := by
  rw [signed]
  split
  · have digits := decimal_length value.natAbs 9 (by omega)
    rw [List.length_cons]
    omega
  · have digits := decimal_length value.toNat 9 (by omega)
    omega

theorem bare_reply_length (reply : Reply) (extra : reply.extra = .none) (body : reply.body = [])
    (int : -2147483648 ≤ reply.cseq ∧ reply.cseq ≤ 2147483647) :
    reply.text.length ≤ 70 + (decimal reply.code).length + reply.reason.length := by
  have digits := signed_int_length reply.cseq int
  have texts : (ascii "RTSP/1.0 ").length = 9 ∧ (ascii " ").length = 1 ∧ (ascii "CSeq: ").length = 6 ∧ (ascii "Session: ").length = 9 ∧
      (ascii ";timeout=60\r\n").length = 13 := by
    decide
  rw [Reply.text, extra, body]
  cases reply.session with
  | none =>
      simp only [List.length_append, Extra.text, if_true, crlf, List.length_cons, List.length_nil]
      omega
  | some id =>
      simp only [List.length_append, Extra.text, if_true, crlf, List.length_cons, List.length_nil, hex8, List.length_map, List.length_range]
      omega

theorem message_small (conn : ConnId) (out : Out) (message : Message conn out) : (out.written conn).length ≤ txqszMax := by
  have frame (channel : UInt8) (packet : RtpPacket) (bound : packet.payload.length ≤ rtpMtu) :
      ((Out.interleaved conn channel packet).written conn).length ≤ txqszMax := by
    rw [Out.written, if_pos rfl, interleavedFrame, List.length_append, packet_length]
    simp only [List.length_cons, be16, List.length_nil, txqszMax, rtpMtu] at bound ⊢
    omega
  cases message with
  | video packet plain part size => exact frame videoRtpCh packet size.2
  | audio packet plain block => exact frame audioRtpCh packet (by rw [block]; decide)
  | keepalive cli cseq same int =>
      have short := bare_reply_length { cseq, code := 200, reason := ascii "OK", session := if 200 ≤ 200 ∧ 200 < 300 then cli.sessionId else none }
        rfl rfl int
      have code := decimal_length 200 2 (by decide)
      have reason : (ascii "OK").length = 2 := by decide
      rw [rtspReply, Out.written, if_pos same]
      simp only [txqszMax] at short ⊢
      omega

def videoPart? : Out → Option (Bool × Bytes)
  | .interleaved _ channel packet => if channel = videoRtpCh then some (packet.hdr.m, packet.payload) else none
  | _ => none

def speech? : Out → Option Bytes
  | .interleaved _ channel packet => if channel = audioRtpCh then some packet.payload else none
  | _ => none

theorem carried_cons {Kind : Type} (read : Out → Option Kind) (out : Out) (rest : List Out) :
    (out :: rest).filterMap read = (read out).toList ++ rest.filterMap read := by
  cases found : read out with
  | none => simp [found]
  | some item => simp [found]

structure Carries (conn : ConnId) (outs : List Out) (parts : List (Bool × Bytes)) (speech : List Bytes) : Prop where
  messages : ∀ out ∈ outs, Message conn out
  parts : outs.filterMap videoPart? = parts
  speech : outs.filterMap speech? = speech

theorem carries_append (conn : ConnId) (early late : List Out) (parts laterParts : List (Bool × Bytes)) (speech laterSpeech : List Bytes)
    (first : Carries conn early parts speech) (second : Carries conn late laterParts laterSpeech) :
    Carries conn (early ++ late) (parts ++ laterParts) (speech ++ laterSpeech) := by
  refine ⟨fun out member => ?_, ?_, ?_⟩
  · rcases List.mem_append.mp member with before | after
    · exact first.messages out before
    · exact second.messages out after
  · rw [List.filterMap_append, first.parts, second.parts]
  · rw [List.filterMap_append, first.speech, second.speech]

theorem video_parts_carry (cli : RtspClient) (parts : List (Bool × Bytes)) (watching : Watching cli)
    (video : ∀ part ∈ parts, VideoPart part) (sizes : ∀ part ∈ parts, 0 < part.2.length ∧ part.2.length ≤ rtpMtu) :
    Carries cli.tc (sendVideoParts cli parts).2 parts [] := by
  induction parts generalizing cli with
  | nil => exact ⟨fun _ member => absurd member List.not_mem_nil, rfl, rfl⟩
  | cons part rest ih =>
      have later := ih (sendVideoPart cli part).1 (watching_identity cli _ rfl watching)
        (fun other member => video other (List.mem_cons_of_mem part member))
        (fun other member => sizes other (List.mem_cons_of_mem part member))
      have sent : (sendVideoPart cli part).2 = [.interleaved cli.tc videoRtpCh (videoPacket cli part)] := by
        simp [sendVideoPart, sendRtp, watching.interleaved, watching.videoChannel]
      have now : Carries cli.tc (sendVideoPart cli part).2 [part] [] := by
        rw [sent]
        refine ⟨fun out member => ?_, rfl, rfl⟩
        rw [List.mem_singleton.mp member]
        exact .video (videoPacket cli part) ⟨rfl, rfl, rfl⟩ (video part List.mem_cons_self) (sizes part List.mem_cons_self)
      exact carries_append cli.tc _ _ [part] rest [] [] now later

theorem action_carries (cli : RtspClient) (action : Downlink) (watching : Watching cli) (sendable : action.Sendable) :
    Carries cli.tc (downlink cli action).2 (packetiseFrame action.nals) action.pcmu := by
  cases action with
  | frame nalus =>
      have sent : (downlink cli (.frame nalus)).2 = (sendVideoParts cli (packetiseFrame nalus)).2 := by
        simp [downlink, sendFrameTo, watching.playing, watching.videoSetup, sendFrame, send_nalus_parts]
      rw [sent]
      exact video_parts_carry cli _ watching (packetise_frame_parts nalus sendable) (packetise_frame_sizes nalus)
  | audio pcmu =>
      have sent : (downlink cli (.audio pcmu)).2 = [.interleaved cli.tc audioRtpCh (audioPacket cli pcmu)] := by
        simp [downlink, sendAudioTo, watching.playing, watching.audioSetup, sendAudioBlock, sendRtp, watching.interleaved,
          watching.audioChannel]
      rw [sent]
      refine ⟨fun out member => ?_, rfl, rfl⟩
      rw [List.mem_singleton.mp member]
      exact .audio (audioPacket cli pcmu) ⟨rfl, rfl, rfl⟩ sendable
  | keepalive cseq =>
      refine ⟨fun out member => ?_, rfl, rfl⟩
      rw [List.mem_singleton.mp member]
      exact .keepalive cli cseq rfl sendable

-- By induction on the actions; sending changes sequence numbers and timestamps only.
theorem actions_carry (cli : RtspClient) (actions : List Downlink) (watching : Watching cli)
    (sendable : ∀ action ∈ actions, action.Sendable) :
    Carries cli.tc (downlinks cli actions).2 (actions.flatMap fun action => packetiseFrame action.nals)
      (actions.flatMap Downlink.pcmu) := by
  induction actions generalizing cli with
  | nil => exact ⟨fun _ member => absurd member List.not_mem_nil, rfl, rfl⟩
  | cons action rest ih =>
      have same := downlink_identity cli action
      have tc : (downlink cli action).1.tc = cli.tc := (identity_fields _ _ same).1
      have later := ih (downlink cli action).1 (watching_identity cli _ same watching)
        fun other member => sendable other (List.mem_cons_of_mem action member)
      rw [tc] at later
      rw [downlinks_cons]
      exact carries_append cli.tc _ _ _ _ _ _ (action_carries cli action watching (sendable action List.mem_cons_self)) later

-- What a stretch of the stream does to the reader, the decoder included.
structure Followed (pick : Nat → Nat) (state next : ReadState) (parts : List (Bool × Bytes)) (speech : List Bytes) : Prop where
  shown : ∃ nals, feedParts state.screen.decoder parts = some (next.screen.decoder, nals) ∧ Shown pick state next nals speech
  ready : Ready next.screen.decoder

theorem video_followed (pick : Nat → Nat) (conn : ConnId) (packet : RtpPacket) (state : ReadState) (rest : Bytes)
    (plain : Plain packet.hdr) (part : VideoPart (packet.hdr.m, packet.payload))
    (bound : 0 < packet.payload.length ∧ packet.payload.length ≤ rtpMtu) (size : state.buf.length = bufSize)
    (ready : Ready state.screen.decoder)
    (bytes : state.input.bytes = (Out.interleaved conn videoRtpCh packet).written conn ++ rest) :
    ∃ next, Followed pick state next [(packet.hdr.m, packet.payload)] [] ∧ next.input.bytes = rest := by
  obtain ⟨decoder, nals, fed, still⟩ := part_fed state.screen.decoder _ part ready
  have fits : packet.bytes.length < bufSize := by
    rw [packet_length, bufSize]
    simp only [rtpMtu] at bound
    omega
  rw [Out.written, if_pos rfl] at bytes
  obtain ⟨next, turned, nextSize, nextBytes, screen⟩ := video_turn pick state rest packet decoder nals size bytes plain bound.1 fits fed
  refine ⟨next, ⟨⟨nals, ?_, .single turned, nextSize, by rw [screen], by rw [screen]; simp⟩, by rw [screen]; exact still⟩, nextBytes⟩
  simp only [feedParts, fed, Option.map_some, List.append_nil, screen]

theorem message_followed (pick : Nat → Nat) (conn : ConnId) (out : Out) (state : ReadState) (rest : Bytes) (message : Message conn out)
    (size : state.buf.length = bufSize) (ready : Ready state.screen.decoder) (bytes : state.input.bytes = out.written conn ++ rest) :
    ∃ next, Followed pick state next (videoPart? out).toList (speech? out).toList ∧ next.input.bytes = rest := by
  cases message with
  | video packet plain part bound => exact video_followed pick conn packet state rest plain part bound size ready bytes
  | audio packet plain block =>
      have fits : packet.bytes.length < bufSize := by
        rw [packet_length, block]
        decide
      rw [Out.written, if_pos rfl] at bytes
      obtain ⟨next, turned, nextSize, nextBytes, screen⟩ := audio_turn pick state rest packet size bytes plain (by rw [block]; decide) fits
      exact ⟨next, ⟨⟨[], by rw [screen]; rfl, .single turned, nextSize, by rw [screen]; simp, by rw [screen]; rfl⟩,
        by rw [screen]; exact ready⟩, nextBytes⟩
  | keepalive cli cseq same _ =>
      subst same
      have whole : state.input.bytes = written cli.tc (downlink cli (.keepalive cseq)).2 ++ rest := by
        simpa [downlink, written] using bytes
      obtain ⟨next, turned, buf, nextBytes, screen⟩ := keepalive_turn pick state rest cli cseq whole
      have silent : next.screen.audio = state.screen.audio ++ (speech? (rtspReply cli cseq 200 "OK" .none [])).toList := by
        rw [screen]
        simp [speech?, rtspReply]
      exact ⟨next, ⟨⟨[], by rw [screen]; rfl, .single turned, by rw [buf, size], by rw [screen]; simp, silent⟩,
        by rw [screen]; exact ready⟩, nextBytes⟩

-- By induction on the messages that are left: whichever are missing, the next one is read from its first byte.
theorem messages_followed (pick : Nat → Nat) (conn : ConnId) (kept : List Out) (state : ReadState)
    (messages : ∀ out ∈ kept, Message conn out) (size : state.buf.length = bufSize) (ready : Ready state.screen.decoder)
    (bytes : state.input.bytes = written conn kept) :
    ∃ last, Followed pick state last (kept.filterMap videoPart?) (kept.filterMap speech?) ∧ last.input.bytes = [] := by
  induction kept generalizing state with
  | nil => exact ⟨state, ⟨⟨[], rfl, .refl, size, by simp, by simp⟩, ready⟩, bytes⟩
  | cons out rest ih =>
      obtain ⟨mid, ⟨⟨nals, fed, shown⟩, midReady⟩, midBytes⟩ :=
        message_followed pick conn out state (written conn rest) (messages out List.mem_cons_self) size ready bytes
      obtain ⟨last, ⟨⟨laterNals, laterFed, later⟩, lastReady⟩, ended⟩ :=
        ih mid (fun other member => messages other (List.mem_cons_of_mem out member)) shown.size midReady midBytes
      rw [carried_cons videoPart?, carried_cons speech?]
      exact ⟨last, ⟨⟨nals ++ laterNals, feed_parts_append _ _ _ _ _ _ _ fed laterFed, shown_trans pick _ _ _ _ _ _ _ shown later⟩,
        lastReady⟩, ended⟩

def streamOf (events : List TcpEvent) : Bytes := wireOf (tcpRun {} events).2 ++ (tcpRun {} events).1.sendq.flatten

theorem messages_small (conn : ConnId) (events : List TcpEvent) (outs : List Out) (messages : ∀ out ∈ outs, Message conn out)
    (sent : messagesOf events = outs.map (Out.written conn)) : ∀ event ∈ events, event.Fits := by
  intro event member
  cases event with
  | send mb answer =>
      have given : mb ∈ messagesOf events := List.mem_filterMap.mpr ⟨.send mb answer, member, rfl⟩
      rw [sent] at given
      obtain ⟨out, inside, rfl⟩ := List.mem_map.mp given
      exact send_fits _ answer (message_small conn out (messages out inside))
  | writable answer => trivial
  | close => trivial

theorem slow_link_in_step (pick : Nat → Nat) (cli : RtspClient) (actions : List Downlink) (decoder : VideoDecoder) (events : List TcpEvent)
    (watching : Watching cli) (sendable : ∀ action ∈ actions, action.Sendable) (ready : Ready decoder)
    (sent : messagesOf events = (downlinks cli actions).2.map (Out.written cli.tc))
    (connected : (tcpRun {} events).1.connected = true) :
    (readLoop pick (streamOf events) { decoder := decoder }).2 = .eof ∧
      ∃ kept : List Out, kept.Sublist (downlinks cli actions).2 ∧ acceptedOf (tcpRun {} events).2 = kept.map (Out.written cli.tc) ∧
        (readLoop pick (streamOf events) { decoder := decoder }).1.screen.audio = kept.filterMap speech? ∧
        (kept.filterMap speech?).Sublist (actions.flatMap Downlink.pcmu) ∧
        feedParts decoder (kept.filterMap videoPart?) =
          some ((readLoop pick (streamOf events) { decoder := decoder }).1.screen.decoder,
            (readLoop pick (streamOf events) { decoder := decoder }).1.screen.nals) ∧
        (kept.filterMap videoPart?).Sublist (actions.flatMap fun action => packetiseFrame action.nals) := by
  have carries := actions_carry cli actions watching sendable
  have small := messages_small cli.tc events _ carries.messages sent
  have taken := run_accepts {} events
  rw [sent] at taken
  obtain ⟨kept, part, accepted⟩ := List.sublist_map_iff.mp taken
  have stream : streamOf events = written cli.tc kept := by
    rw [streamOf, (tcp_run_kept events small).whole connected, accepted, written, List.flatMap_def]
  obtain ⟨last, ⟨⟨nals, fed, shown⟩, _⟩, ended⟩ := messages_followed pick cli.tc kept
    { input := ⟨streamOf events, 0⟩, screen := { decoder := decoder } } (fun out member => carries.messages out (part.subset member))
    List.length_replicate ready stream
  have loop : readLoop pick (streamOf events) { decoder := decoder } = (last, .eof) := by
    rw [readLoop]
    exact read_loop_turns pick _ last shown.turns ended _ (Nat.lt_succ_self _)
  rw [loop]
  refine ⟨rfl, kept, part, accepted, shown.audio, carries.speech ▸ part.filterMap speech?, ?_, carries.parts ▸ part.filterMap videoPart?⟩
  rw [fed, shown.nals]
  rfl

def lossyActions : List Downlink := [.frame [[0x67, 0x42]], .keepalive 3, .frame [[0x65, 1]]]

theorem lossy_actions_sendable : ∀ action ∈ lossyActions, action.Sendable := by
  have first : SendableNalu [0x67, 0x42] := ⟨0x67, [0x42], rfl, by decide, by decide, by decide⟩
  have last : SendableNalu [0x65, 1] := ⟨0x65, [1], rfl, by decide, by decide, by decide⟩
  intro action member
  simp only [lossyActions, List.mem_cons, List.not_mem_nil, or_false] at member
  rcases member with rfl | rfl | rfl
  · exact fun nalu inside => List.mem_singleton.mp inside ▸ first
  · exact ⟨by decide, by decide⟩
  · exact fun nalu inside => List.mem_singleton.mp inside ▸ last

def lossyEvents : List TcpEvent :=
  List.zipWith TcpEvent.send ((downlinks viewer lossyActions).2.map (Out.written viewer.tc)) [.fails, .takes 5, .again] ++
    [.writable (.takes 4)]

theorem lossy_link_in_step : (readLoop (fun call => 2 * call) (streamOf lossyEvents) {}).2 = .eof :=
  (slow_link_in_step (fun call => 2 * call) viewer lossyActions {} lossyEvents ⟨rfl, rfl, rfl, rfl, rfl, rfl⟩ lossy_actions_sendable
    (Or.inl rfl) rfl (by decide +kernel)).1

end Intercom.Android
