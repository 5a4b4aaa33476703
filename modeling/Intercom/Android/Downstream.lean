import Intercom.Lib.Runs
import Intercom.Rtsp.Timers
import Intercom.Rtsp.Frame
import Intercom.Android.ReadLoop

set_option autoImplicit false

/- From the server's send functions to the decoder and the player of the app: everything written on a playing
   connection, read back under any pattern of partial reads. -/
namespace Intercom.Android

open ByteText

inductive Downlink where
  | frame (nalus : List Bytes)
  | audio (pcmu : Bytes)
  | keepalive (cseq : Int)
deriving DecidableEq, Repr

def downlink (cli : RtspClient) : Downlink → RtspClient × List Out
  | .frame nalus => sendFrameTo nalus cli
  | .audio pcmu => sendAudioTo pcmu cli
  | .keepalive cseq => (cli, [rtspReply cli cseq 200 "OK" .none []])

theorem keepalive_is_get_parameter (w : World) (d : Device) (cli : RtspClient) (req : RtspReq)
    (method : req.method = ascii "GET_PARAMETER") :
    handleMethod w d cli req = (d, (downlink cli (.keepalive req.cseq)).2) := by
  simp [handleMethod, method, downlink, show (ascii "GET_PARAMETER" = ascii "OPTIONS") = False by decide,
    show (ascii "GET_PARAMETER" = ascii "DESCRIBE") = False by decide,
    show (ascii "GET_PARAMETER" = ascii "SETUP") = False by decide,
    show (ascii "GET_PARAMETER" = ascii "PLAY") = False by decide,
    show (ascii "GET_PARAMETER" = ascii "TEARDOWN") = False by decide]

def Downlink.nals : Downlink → List Bytes
  | .frame nalus => nalus
  | _ => []

def Downlink.pcmu : Downlink → List Bytes
  | .audio pcmu => [pcmu]
  | _ => []

def Downlink.Fits : Downlink → Prop
  | .frame nalus => ∀ nalu ∈ nalus, PlainNalu nalu
  | .audio pcmu => pcmu.length = audioSamples
  | .keepalive _ => True

structure Watching (cli : RtspClient) : Prop where
  playing : cli.state = .playing
  interleaved : cli.interleaved = true
  videoSetup : cli.video.setup = true
  videoChannel : cli.video.interleaved = videoRtpCh
  audioSetup : cli.audio.setup = true
  audioChannel : cli.audio.interleaved = audioRtpCh

theorem watching_identity (before after : RtspClient) (same : after.identity = before.identity) (watching : Watching before) :
    Watching after := by
  obtain ⟨_, _, _, state, _, interleaved, _⟩ := identity_fields after before same
  obtain ⟨_, _, videoChannel, videoSetup, _, _, audioChannel, audioSetup⟩ := identity_tracks after before same
  exact ⟨state.trans watching.playing, interleaved.trans watching.interleaved, videoSetup.trans watching.videoSetup,
    videoChannel.trans watching.videoChannel, audioSetup.trans watching.audioSetup, audioChannel.trans watching.audioChannel⟩

def Plain (hdr : RtpHeader) : Prop := hdr.ver = 2 ∧ hdr.pad = false ∧ hdr.ext = false

theorem marker_bit : ∀ (m : Bool) (pt : UInt8), ((((bit m <<< 7) ||| (pt &&& 0x7f)) &&& 0x80) != 0) = m := by decide +kernel

theorem hdr_encode_length (hdr : RtpHeader) : (rtpHdrEncode hdr).length = 12 := rfl

theorem packet_length (packet : RtpPacket) : packet.bytes.length = 12 + packet.payload.length := by
  rw [RtpPacket.bytes, List.length_append, hdr_encode_length]

-- Version 2 alone: no contributing sources and no extension.
theorem header_length_plain (buf : Bytes) (frameLen : Nat) : headerLength buf frameLen 0x80 = some 12 := by
  have noExtension : ¬ (((0x80 : UInt8) >>> 4) &&& 0x01 ≠ 0 ∧ 12 + ((0x80 : UInt8) &&& 0x0F).toNat * 4 + 4 ≤ frameLen) :=
    fun both => both.1 (by decide)
  rw [headerLength]
  exact if_neg noExtension

theorem dispatch_packet (channel : UInt8) (packet : RtpPacket) (stale : Bytes) (plain : Plain packet.hdr)
    (more : 0 < packet.payload.length) :
    ∃ timestamp, dispatchRtpFrame channel (packet.bytes ++ stale) packet.bytes.length =
      some (if channel = videoRtpCh then some (.video 12 packet.payload.length timestamp packet.hdr.m)
        else if channel = audioRtpCh then some (.audio 12 packet.payload.length timestamp) else none) := by
  have size : ¬ 12 + packet.payload.length ≤ 12 := by omega
  have left : 12 + packet.payload.length - 12 = packet.payload.length := by omega
  have marker := marker_bit packet.hdr.m packet.hdr.pt
  have first : (packet.bytes ++ stale)[0]? = some 0x80 := by
    obtain ⟨ver, pad, ext⟩ := plain
    simp [RtpPacket.bytes, rtpHdrEncode, ver, pad, ext, bit]
    decide
  have second : (packet.bytes ++ stale)[1]? = some ((bit packet.hdr.m <<< 7) ||| (packet.hdr.pt &&& 0x7f)) := rfl
  obtain ⟨timestamp, time⟩ : ∃ timestamp, readTimestamp (packet.bytes ++ stale) = some timestamp := ⟨_, rfl⟩
  refine ⟨timestamp, ?_⟩
  simp only [dispatchRtpFrame, first, second, time, header_length_plain, Option.map_some, packet_length, if_neg size, left,
    marker]

theorem be16_value (value : Nat) (fits : value < 65536) :
    (UInt8.ofNat (value / 256 % 256)).toNat * 256 + (UInt8.ofNat (value % 256)).toNat = value := by
  have high : value / 256 % 256 < UInt8.size := Nat.mod_lt _ (by decide)
  have low : value % 256 < UInt8.size := Nat.mod_lt _ (by decide)
  rw [UInt8.toNat_ofNat_of_lt' high, UInt8.toNat_ofNat_of_lt' low]
  omega

def event (channel : UInt8) (packet : RtpPacket) (timestamp : Nat) : Option RtpEvent :=
  if channel = videoRtpCh then some (.video 12 packet.payload.length timestamp packet.hdr.m)
  else if channel = audioRtpCh then some (.audio 12 packet.payload.length timestamp)
  else none

section Turns

variable (pick : Nat → Nat) (state : ReadState) (rest : Bytes)

theorem frame_turn (channel : UInt8) (packet : RtpPacket) (screen : Screen) (size : state.buf.length = bufSize)
    (bytes : state.input.bytes = interleavedFrame channel packet.bytes ++ rest) (plain : Plain packet.hdr)
    (more : 0 < packet.payload.length) (fits : packet.bytes.length < bufSize)
    (delivered : ∀ stale timestamp, deliver state.screen (packet.bytes ++ stale) (event channel packet timestamp) = some screen) :
    ∃ next, readTurn pick state = (next, none) ∧ next.buf.length = bufSize ∧ next.input.bytes = rest ∧
      next.screen = screen := by
  have length := be16_value packet.bytes.length fits
  obtain ⟨calls, read⟩ := read_fully_spec pick packet.bytes rest state.input.calls
  obtain ⟨timestamp, dispatched⟩ := dispatch_packet channel packet (state.buf.drop packet.bytes.length) plain more
  have inRange : ¬ (maxFrameSize < packet.bytes.length ∨ packet.bytes.length < 12) := by
    rw [packet_length] at fits ⊢
    simp only [bufSize, maxFrameSize] at fits ⊢
    omega
  have inBuffer : ¬ state.buf.length < packet.bytes.length := by omega
  refine ⟨⟨packet.bytes ++ state.buf.drop packet.bytes.length, ⟨rest, calls⟩, screen⟩, ?_, ?_, rfl, rfl⟩
  · simp only [readTurn, bytes, interleavedFrame, be16, List.cons_append, List.nil_append, readInterleaved, length,
      if_neg inRange, if_neg inBuffer, readFrame, overlay, read, if_true]
    rw [dispatched]
    simp only [Option.bind_some]
    rw [show (if channel = videoRtpCh then _ else _) = event channel packet timestamp from rfl, delivered]
  · rw [List.length_append, List.length_drop]
    omega

theorem video_turn (packet : RtpPacket) (decoder : VideoDecoder) (nals : List Bytes) (size : state.buf.length = bufSize)
    (bytes : state.input.bytes = interleavedFrame videoRtpCh packet.bytes ++ rest) (plain : Plain packet.hdr)
    (more : 0 < packet.payload.length) (fits : packet.bytes.length < bufSize)
    (fed : feedRtpPayload state.screen.decoder packet.payload 0 packet.payload.length packet.hdr.m = some (decoder, nals)) :
    ∃ next, readTurn pick state = (next, none) ∧ next.buf.length = bufSize ∧ next.input.bytes = rest ∧
      next.screen = { state.screen with decoder := decoder, nals := state.screen.nals ++ nals } := by
  apply frame_turn pick state rest videoRtpCh packet _ size bytes plain more fits
  intro stale timestamp
  have inside := feed_inside (rtpHdrEncode packet.hdr) packet.payload stale state.screen.decoder packet.hdr.m
  rw [hdr_encode_length, fed] at inside
  simp only [event, if_true, deliver, onVideoRtp, RtpPacket.bytes, inside, Option.map_some]

theorem audio_turn (packet : RtpPacket) (size : state.buf.length = bufSize)
    (bytes : state.input.bytes = interleavedFrame audioRtpCh packet.bytes ++ rest) (plain : Plain packet.hdr)
    (more : 0 < packet.payload.length) (fits : packet.bytes.length < bufSize) :
    ∃ next, readTurn pick state = (next, none) ∧ next.buf.length = bufSize ∧ next.input.bytes = rest ∧
      next.screen = { state.screen with audio := state.screen.audio ++ [packet.payload] } := by
  apply frame_turn pick state rest audioRtpCh packet _ size bytes plain more fits
  intro stale timestamp
  have payload : ((packet.bytes ++ stale).drop 12).take packet.payload.length = packet.payload := by
    rw [RtpPacket.bytes, ← hdr_encode_length packet.hdr, List.append_assoc, List.drop_left, List.take_left]
  simp only [event, show audioRtpCh ≠ videoRtpCh by decide, if_false, if_true, deliver, onAudioRtp, payload]

end Turns

-- The answer to a keepalive, from the byte behind its 'R' on.
def keepaliveLines (cli : RtspClient) (cseq : Int) : List Bytes :=
  (ascii "CSeq: " ++ signed cseq) ::
    (cli.sessionId.map fun id => ascii "Session: " ++ hex8 false id ++ ascii ";timeout=60").toList

theorem keepalive_text (cli : RtspClient) (cseq : Int) :
    written cli.tc (downlink cli (.keepalive cseq)).2 =
      0x52 :: (headerLines (ascii "TSP/1.0 200 OK" :: keepaliveLines cli cseq) ++ crlf) := by
  have status : ascii "RTSP/1.0 " ++ decimal 200 ++ ascii " " ++ ascii "OK" = 0x52 :: ascii "TSP/1.0 200 OK" := by decide
  have timeout : ascii ";timeout=60\r\n" = ascii ";timeout=60" ++ crlf := by decide
  cases session : cli.sessionId with
  | none =>
      simp [written, Out.written, downlink, rtspReply, Reply.text, session, headerLines, keepaliveLines, Extra.text,
        ← List.append_assoc, status]
  | some id =>
      simp [written, Out.written, downlink, rtspReply, Reply.text, session, headerLines, keepaliveLines, Extra.text,
        ← List.append_assoc, status, timeout]

theorem keepalive_lines_clean (cli : RtspClient) (cseq : Int) :
    ∀ text ∈ ascii "TSP/1.0 200 OK" :: keepaliveLines cli cseq, Unbroken text ∧ text ≠ [] := by
  have cseqLine : Unbroken (ascii "CSeq: " ++ signed cseq) := unbroken_append _ _ (by decide) (signed_unbroken cseq)
  have sessionLine : ∀ id, Unbroken (ascii "Session: " ++ hex8 false id ++ ascii ";timeout=60") := fun id =>
    unbroken_append _ _ (unbroken_append _ _ (by decide) (hex8_unbroken false id)) (by decide)
  intro text member
  simp only [keepaliveLines, List.mem_cons, Option.mem_toList, Option.map_eq_some_iff] at member
  rcases member with rfl | rfl | ⟨id, _, rfl⟩
  · decide
  · exact ⟨cseqLine, List.append_ne_nil_of_left_ne_nil (by decide) _⟩
  · exact ⟨sessionLine id, List.append_ne_nil_of_right_ne_nil _ (by decide)⟩

theorem keepalive_turn (pick : Nat → Nat) (state : ReadState) (rest : Bytes) (cli : RtspClient) (cseq : Int)
    (bytes : state.input.bytes = written cli.tc (downlink cli (.keepalive cseq)).2 ++ rest) :
    ∃ next, readTurn pick state = (next, none) ∧ next.buf = state.buf ∧ next.input.bytes = rest ∧
      next.screen = state.screen := by
  have skipped := header_loop_lines 0x52 0 (ascii "TSP/1.0 200 OK") (keepaliveLines cli cseq) rest
    (keepalive_lines_clean cli cseq)
  rw [keepalive_text, List.cons_append] at bytes
  refine ⟨{ state with input.bytes := rest }, ?_, rfl, rfl, rfl⟩
  simp only [readTurn, bytes, skipRtspMessage, skipped]
  rfl

structure Shown (pick : Nat → Nat) (state next : ReadState) (nals audio : List Bytes) : Prop where
  turns : Turns pick state next
  size : next.buf.length = bufSize
  nals : next.screen.nals = state.screen.nals ++ nals
  audio : next.screen.audio = state.screen.audio ++ audio

theorem shown_trans (pick : Nat → Nat) (a b c : ReadState) (nals audio laterNals laterAudio : List Bytes)
    (first : Shown pick a b nals audio) (second : Shown pick b c laterNals laterAudio) :
    Shown pick a c (nals ++ laterNals) (audio ++ laterAudio) :=
  ⟨first.turns.trans second.turns, second.size, by rw [second.nals, first.nals, List.append_assoc],
    by rw [second.audio, first.audio, List.append_assoc]⟩

theorem written_video_part (cli : RtspClient) (part : Bool × Bytes) (rest : List (Bool × Bytes)) (watching : Watching cli) :
    written cli.tc (sendVideoParts cli (part :: rest)).2 =
      interleavedFrame videoRtpCh (videoPacket cli part).bytes ++
        written cli.tc (sendVideoParts (sendVideoPart cli part).1 rest).2 := by
  rw [sendVideoParts, written_append]
  congr 1
  simp [sendVideoPart, sendRtp, watching.interleaved, written, Out.written, watching.videoChannel]

-- Induction on the packets; the decoder carries the fragments from one to the next.
theorem parts_shown (pick : Nat → Nat) (cli : RtspClient) (parts : List (Bool × Bytes)) (state : ReadState) (rest : Bytes)
    (decoder : VideoDecoder) (nals : List Bytes) (watching : Watching cli) (size : state.buf.length = bufSize)
    (sizes : ∀ part ∈ parts, 0 < part.2.length ∧ part.2.length ≤ rtpMtu)
    (bytes : state.input.bytes = written cli.tc (sendVideoParts cli parts).2 ++ rest)
    (fed : feedParts state.screen.decoder parts = some (decoder, nals)) :
    ∃ next, Shown pick state next nals [] ∧ next.input.bytes = rest := by
  induction parts generalizing cli state nals with
  | nil =>
      cases fed
      exact ⟨state, ⟨.refl, size, by simp, by simp⟩, bytes⟩
  | cons part tail ih =>
      obtain ⟨positive, bounded⟩ := sizes part (by simp)
      cases now : feedRtpPayload state.screen.decoder part.2 0 part.2.length part.1 with
      | none => simp [feedParts, now] at fed
      | some result =>
          obtain ⟨mid, current⟩ := result
          simp only [feedParts, now, Option.map_eq_some_iff] at fed
          obtain ⟨⟨last, later⟩, fedLater, whole⟩ := fed
          cases whole
          rw [written_video_part cli part tail watching, List.append_assoc] at bytes
          have fits : (videoPacket cli part).bytes.length < bufSize := by
            rw [packet_length, bufSize]
            simp only [videoPacket, rtpMtu] at bounded ⊢
            omega
          obtain ⟨next, turned, nextSize, nextBytes, screen⟩ :=
            video_turn pick state _ (videoPacket cli part) mid current size bytes ⟨rfl, rfl, rfl⟩ positive fits now
          have still : Watching (sendVideoPart cli part).1 := watching_identity cli _ rfl watching
          obtain ⟨final, shown, finalBytes⟩ := ih (sendVideoPart cli part).1 next later still nextSize
            (fun other member => sizes other (by simp [member])) nextBytes (by rw [screen]; exact fedLater)
          have first : Shown pick state next current [] := ⟨.single turned, nextSize, by rw [screen], by rw [screen]; simp⟩
          exact ⟨final, shown_trans pick _ _ _ _ _ _ _ first shown, finalBytes⟩

theorem frame_shown (pick : Nat → Nat) (cli : RtspClient) (nalus : List Bytes) (state : ReadState) (rest : Bytes)
    (watching : Watching cli) (size : state.buf.length = bufSize) (plain : ∀ nalu ∈ nalus, PlainNalu nalu)
    (bytes : state.input.bytes = written cli.tc (downlink cli (.frame nalus)).2 ++ rest) :
    ∃ next, Shown pick state next nalus [] ∧ next.input.bytes = rest := by
  have sent : (downlink cli (.frame nalus)).2 = (sendVideoParts cli (packetiseFrame nalus)).2 := by
    simp [downlink, sendFrameTo, watching.playing, watching.videoSetup, sendFrame, send_nalus_parts]
  obtain ⟨decoder, fed⟩ := feed_frame state.screen.decoder nalus plain
  rw [sent] at bytes
  exact parts_shown pick cli (packetiseFrame nalus) state rest decoder nalus watching size (packetise_frame_sizes nalus) bytes fed

theorem audio_shown (pick : Nat → Nat) (cli : RtspClient) (pcmu : Bytes) (state : ReadState) (rest : Bytes)
    (watching : Watching cli) (size : state.buf.length = bufSize) (block : pcmu.length = audioSamples)
    (bytes : state.input.bytes = written cli.tc (downlink cli (.audio pcmu)).2 ++ rest) :
    ∃ next, Shown pick state next [] [pcmu] ∧ next.input.bytes = rest := by
  have sent : written cli.tc (downlink cli (.audio pcmu)).2 = interleavedFrame audioRtpCh (audioPacket cli pcmu).bytes := by
    simp [downlink, sendAudioTo, watching.playing, watching.audioSetup, sendAudioBlock, sendRtp, watching.interleaved,
      written, Out.written, watching.audioChannel]
  rw [sent] at bytes
  have payload : (audioPacket cli pcmu).payload.length = audioSamples := block
  have fits : (audioPacket cli pcmu).bytes.length < bufSize := by
    rw [packet_length, payload]
    decide
  obtain ⟨next, turned, nextSize, nextBytes, screen⟩ :=
    audio_turn pick state rest (audioPacket cli pcmu) size bytes ⟨rfl, rfl, rfl⟩ (by rw [payload]; decide) fits
  exact ⟨next, ⟨.single turned, nextSize, by rw [screen]; simp, by rw [screen]; rfl⟩, nextBytes⟩

theorem keepalive_shown (pick : Nat → Nat) (cli : RtspClient) (cseq : Int) (state : ReadState) (rest : Bytes)
    (size : state.buf.length = bufSize)
    (bytes : state.input.bytes = written cli.tc (downlink cli (.keepalive cseq)).2 ++ rest) :
    ∃ next, Shown pick state next [] [] ∧ next.input.bytes = rest := by
  obtain ⟨next, turned, buf, nextBytes, screen⟩ := keepalive_turn pick state rest cli cseq bytes
  exact ⟨next, ⟨.single turned, by rw [buf, size], by rw [screen]; simp, by rw [screen]; simp⟩, nextBytes⟩

theorem action_shown (pick : Nat → Nat) (cli : RtspClient) (action : Downlink) (state : ReadState) (rest : Bytes)
    (watching : Watching cli) (size : state.buf.length = bufSize) (fits : action.Fits)
    (bytes : state.input.bytes = written cli.tc (downlink cli action).2 ++ rest) :
    ∃ next, Shown pick state next action.nals action.pcmu ∧ next.input.bytes = rest := by
  cases action with
  | frame nalus => exact frame_shown pick cli nalus state rest watching size fits bytes
  | audio pcmu => exact audio_shown pick cli pcmu state rest watching size fits bytes
  | keepalive cseq => exact keepalive_shown pick cli cseq state rest size bytes

theorem downlink_identity (cli : RtspClient) (action : Downlink) : (downlink cli action).1.identity = cli.identity := by
  cases action with
  | frame nalus =>
      rw [downlink, sendFrameTo]
      split
      · exact send_frame_identity cli nalus
      · rfl
  | audio pcmu =>
      rw [downlink, sendAudioTo]
      split
      · exact send_audio_identity cli pcmu
      · rfl
  | keepalive cseq => rfl

def downlinks (cli : RtspClient) (actions : List Downlink) : RtspClient × List Out :=
  Runs.run (Runs.record downlink) (cli, []) actions

theorem downlinks_cons (cli : RtspClient) (action : Downlink) (rest : List Downlink) :
    (downlinks cli (action :: rest)).2 = (downlink cli action).2 ++ (downlinks (downlink cli action).1 rest).2 :=
  Runs.record_outputs downlink (downlink cli action).1 (downlink cli action).2 rest

-- Induction on the actions; the stream is cut where one action's bytes end.
theorem actions_shown (pick : Nat → Nat) (cli : RtspClient) (actions : List Downlink) (state : ReadState)
    (watching : Watching cli) (size : state.buf.length = bufSize) (fits : ∀ action ∈ actions, action.Fits)
    (bytes : state.input.bytes = written cli.tc (downlinks cli actions).2) :
    ∃ next, Shown pick state next (actions.flatMap Downlink.nals) (actions.flatMap Downlink.pcmu) ∧ next.input.bytes = [] := by
  induction actions generalizing cli state with
  | nil => exact ⟨state, ⟨.refl, size, by simp, by simp⟩, bytes⟩
  | cons action rest ih =>
      have same := downlink_identity cli action
      have tc : (downlink cli action).1.tc = cli.tc := (identity_fields _ _ same).1
      rw [downlinks_cons, written_append] at bytes
      obtain ⟨mid, shown, midBytes⟩ := action_shown pick cli action state _ watching size (fits action (by simp)) bytes
      rw [← tc] at midBytes
      obtain ⟨last, later, ended⟩ := ih (downlink cli action).1 mid (watching_identity cli _ same watching) shown.size
        (fun other member => fits other (by simp [member])) midBytes
      exact ⟨last, shown_trans pick _ _ _ _ _ _ _ shown later, ended⟩

theorem downstream_fidelity (pick : Nat → Nat) (cli : RtspClient) (actions : List Downlink) (decoder : VideoDecoder)
    (watching : Watching cli) (fits : ∀ action ∈ actions, action.Fits) :
    (readLoop pick (written cli.tc (downlinks cli actions).2) { decoder := decoder }).2 = .eof ∧
    (readLoop pick (written cli.tc (downlinks cli actions).2) { decoder := decoder }).1.screen.nals =
      actions.flatMap Downlink.nals ∧
    (readLoop pick (written cli.tc (downlinks cli actions).2) { decoder := decoder }).1.screen.audio =
      actions.flatMap Downlink.pcmu := by
  obtain ⟨last, shown, ended⟩ := actions_shown pick cli actions
    { input := ⟨written cli.tc (downlinks cli actions).2, 0⟩, screen := { decoder := decoder } } watching
    List.length_replicate fits rfl
  have loop := read_loop_turns pick _ last shown.turns ended _ (Nat.lt_succ_self _)
  rw [readLoop, loop]
  exact ⟨rfl, shown.nals, shown.audio⟩

def viewer : RtspClient :=
  { tc := 1, peer := ⟨0x7F000001, 5000⟩, state := .playing, sessionId := some 7, interleaved := true
    video := { setup := true }, audio := { interleaved := 2, setup := true } }

def longNalu : Bytes := 0x65 :: List.replicate 3000 7

theorem long_nalu_plain : PlainNalu longNalu := by
  have size : longNalu.length ≤ fuCapacity := by
    rw [longNalu, List.length_cons, List.length_replicate]
    decide
  exact ⟨0x65, List.replicate 3000 7, rfl, size, by decide, by decide, by decide⟩

def mixedActions : List Downlink :=
  [.frame [[0x67, 0x42], longNalu], .keepalive 3, .audio (List.replicate audioSamples 0xFF)]

theorem mixed_actions_fit : ∀ action ∈ mixedActions, action.Fits := by
  have short : PlainNalu [0x67, 0x42] := ⟨0x67, [0x42], rfl, by decide, by decide, by decide, by decide⟩
  intro action member
  simp only [mixedActions, List.mem_cons, List.not_mem_nil, or_false] at member
  rcases member with rfl | rfl | rfl
  · intro nalu inFrame
    simp only [List.mem_cons, List.not_mem_nil, or_false] at inFrame
    cases inFrame with
    | inl first => exact first ▸ short
    | inr second => exact second ▸ long_nalu_plain
  · trivial
  · exact List.length_replicate

theorem downstream_mixed_stream :
    let loop := readLoop (fun call => 7 * call) (written viewer.tc (downlinks viewer mixedActions).2) {}
    loop.2 = .eof ∧ loop.1.screen.nals = [[0x67, 0x42], longNalu] ∧
      loop.1.screen.audio = [List.replicate audioSamples 0xFF] := by
  have nals : mixedActions.flatMap Downlink.nals = [[0x67, 0x42], longNalu] := rfl
  have audio : mixedActions.flatMap Downlink.pcmu = [List.replicate audioSamples 0xFF] := rfl
  rw [← nals, ← audio]
  exact downstream_fidelity (fun call => 7 * call) viewer mixedActions {} ⟨rfl, rfl, rfl, rfl, rfl, rfl⟩ mixed_actions_fit

end Intercom.Android
