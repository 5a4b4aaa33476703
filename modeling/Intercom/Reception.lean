import Intercom.Rtsp.Receive
import Intercom.Android.ReadLoop
import Mathlib.Data.FinEnum

set_option autoImplicit false

/- The three readers of an incoming RTP packet: the '$' branch of rtsp_recv_handler, udp_recv_handler of session.c on
   libre's rtp_hdr_decode, and dispatchRtpFrame of RtspClient.kt. Each finds its own way past the variable header. -/
namespace Intercom

open ByteText

-- libre's struct mbuf, as far as reading goes; the end is the end of buf.
structure Mbuf where
  buf : Bytes
  pos : Nat := 0
deriving DecidableEq, Repr

def mbufGetLeft (mb : Mbuf) : Nat := mb.buf.length - mb.pos

def networkValue (bytes : Bytes) : Nat := bytes.foldl (fun value byte => value * 256 + byte.toNat) 0

-- ntohs(mbuf_read_u16(mb)) and ntohl(mbuf_read_u32(mb)): a short buffer reads as 0 and stays where it is.
def mbufReadBe (size : Nat) (mb : Mbuf) : Nat × Mbuf :=
  if mbufGetLeft mb < size then (0, mb) else (networkValue ((mb.buf.drop mb.pos).take size), { mb with pos := mb.pos + size })

def readCsrcs : Nat → Mbuf → List UInt32 × Mbuf
  | 0, mb => ([], mb)
  | count + 1, mb =>
      let csrc := mbufReadBe 4 mb
      let rest := readCsrcs count csrc.2
      (UInt32.ofNat csrc.1 :: rest.1, rest.2)

structure DecodedHeader extends RtpHeader where
  cc : Nat
  csrc : List UInt32
  xType : UInt16 := 0
  xLen : UInt16 := 0
deriving DecidableEq, Repr

def rtpHdrDecode (mb : Mbuf) : Option (DecodedHeader × Mbuf) :=
  if mbufGetLeft mb < 12 then none
  else
    let first := mb.buf.getD mb.pos 0
    let second := mb.buf.getD (mb.pos + 1) 0
    let seq := mbufReadBe 2 { mb with pos := mb.pos + 2 }
    let ts := mbufReadBe 4 seq.2
    let ssrc := mbufReadBe 4 ts.2
    let cc := ((first >>> 0) &&& 0x0F).toNat
    if mbufGetLeft ssrc.2 < cc * 4 then none
    else
      let csrc := readCsrcs cc ssrc.2
      let hdr : DecodedHeader :=
        { ver := (first >>> 6) &&& 0x03, pad := (first >>> 5) &&& 0x01 == 1, ext := (first >>> 4) &&& 0x01 == 1
          m := (second >>> 7) &&& 0x01 == 1, pt := (second >>> 0) &&& 0x7F, seq := UInt16.ofNat seq.1
          ts := UInt32.ofNat ts.1, ssrc := UInt32.ofNat ssrc.1, cc, csrc := csrc.1 }
      if hdr.ext then
        if mbufGetLeft csrc.2 < 4 then none
        else
          let xType := mbufReadBe 2 csrc.2
          let xLen := mbufReadBe 2 xType.2
          let hdr := { hdr with xType := UInt16.ofNat xType.1, xLen := UInt16.ofNat xLen.1 }
          if mbufGetLeft xLen.2 < hdr.xLen.toNat * 4 then none
          else some (hdr, { xLen.2 with pos := xLen.2.pos + hdr.xLen.toNat * 4 })
      else some (hdr, csrc.2)

-- What udp_recv_handler of an active session hands to audio_out_play.
def udpRecvPayload (packet : Bytes) : Option Bytes :=
  if mbufGetLeft ⟨packet, 0⟩ < 12 then none
  else
    match rtpHdrDecode ⟨packet, 0⟩ with
    | none => none
    | some (hdr, mb) =>
        if hdr.ver ≠ 2 then none
        else if hdr.pt = ptPcmu then if 0 < mbufGetLeft mb then some (mb.buf.drop mb.pos) else none
        else none

theorem left_at (packet : Bytes) (pos : Nat) : mbufGetLeft ⟨packet, pos⟩ = packet.length - pos := rfl

theorem read_be_at (packet : Bytes) (pos size : Nat) (inside : pos + size ≤ packet.length) :
    mbufReadBe size ⟨packet, pos⟩ = (networkValue ((packet.drop pos).take size), ⟨packet, pos + size⟩) := by
  rw [mbufReadBe, left_at, if_neg (by omega)]

theorem read_csrcs_moves (packet : Bytes) (count pos : Nat) (inside : pos + count * 4 ≤ packet.length) :
    (readCsrcs count ⟨packet, pos⟩).2 = ⟨packet, pos + count * 4⟩ := by
  induction count generalizing pos with
  | zero => rfl
  | succ count ih =>
      have further : pos + 4 + count * 4 = pos + (count + 1) * 4 := by omega
      rw [readCsrcs, read_be_at packet pos 4 (by omega)]
      dsimp only
      rw [ih (pos + 4) (by omega), further]

section Layout

variable (packet : Bytes)

def fixedLength : Nat := 12 + (packet.getD 0 0 &&& 0x0F).toNat * 4

def extended : Bool := (packet.getD 0 0 >>> 4) &&& 1 == 1

def extensionLength : Nat :=
  ((packet.getD (fixedLength packet + 2) 0).toNat * 256 + (packet.getD (fixedLength packet + 3) 0).toNat) * 4

-- The packet ends inside the four bytes that open its header extension.
def CutExtension : Prop :=
  extended packet = true ∧ fixedLength packet < packet.length ∧ packet.length < fixedLength packet + 4

def headerEnd : Nat :=
  if extended packet && decide (fixedLength packet + 4 ≤ packet.length) then fixedLength packet + 4 + extensionLength packet
  else fixedLength packet

theorem header_end_whole (whole : extended packet = true ∧ fixedLength packet + 4 ≤ packet.length) :
    headerEnd packet = fixedLength packet + 4 + extensionLength packet := by
  rw [headerEnd, if_pos (by simpa using whole)]

theorem header_end_fixed (plain : ¬(extended packet = true ∧ fixedLength packet + 4 ≤ packet.length)) :
    headerEnd packet = fixedLength packet := by
  rw [headerEnd, if_neg (by simpa using plain)]

theorem backchannel_payload (long : 12 ≤ packet.length) :
    backchannelPayload packet = if headerEnd packet < packet.length then some (packet.drop (headerEnd packet)) else none := by
  rw [backchannelPayload, if_pos long]
  rfl

theorem network_pair (pos : Nat) (inside : pos + 2 ≤ packet.length) :
    networkValue ((packet.drop pos).take 2) = (packet.getD pos 0).toNat * 256 + (packet.getD (pos + 1) 0).toNat := by
  have first : pos < packet.length := by omega
  have second : pos + 1 < packet.length := by omega
  rw [List.drop_eq_getElem_cons first, List.take_succ_cons, List.drop_eq_getElem_cons second, List.take_succ_cons,
    List.take_zero, List.getD_eq_getElem?_getD, List.getD_eq_getElem?_getD, List.getElem?_eq_getElem first,
    List.getElem?_eq_getElem second]
  simp [networkValue]

theorem pair_word (pos : Nat) (inside : pos + 2 ≤ packet.length) :
    (UInt16.ofNat (networkValue ((packet.drop pos).take 2))).toNat =
      (packet.getD pos 0).toNat * 256 + (packet.getD (pos + 1) 0).toNat := by
  have high := (packet.getD pos 0).toNat_lt
  have low := (packet.getD (pos + 1) 0).toNat_lt
  rw [network_pair packet pos inside, UInt16.toNat_ofNat_of_lt' (by rw [UInt16.size]; omega)]

-- What udp_recv_handler looks at: the version, the payload type, and where the header ends.
theorem decoded_header (long : 12 ≤ packet.length) :
    (rtpHdrDecode ⟨packet, 0⟩).map (fun decoded => (decoded.1.ver, decoded.1.pt, decoded.2)) =
      if packet.length < headerEnd packet ∨ (extended packet = true ∧ packet.length < fixedLength packet + 4) then none
      else some ((packet.getD 0 0 >>> 6) &&& 0x03, (packet.getD 1 0 >>> 0) &&& 0x7F, ⟨packet, headerEnd packet⟩) := by
  rw [rtpHdrDecode, left_at, if_neg (by omega)]
  dsimp only
  rw [Nat.zero_add, read_be_at packet 2 2 (by omega)]
  dsimp only
  rw [read_be_at packet (2 + 2) 4 (by omega)]
  dsimp only
  rw [read_be_at packet (2 + 2 + 4) 4 (by omega), left_at]
  dsimp only
  have csrcs : packet.length - (2 + 2 + 4 + 4) < (packet.getD 0 0 >>> 0 &&& 0x0F).toNat * 4 ↔ packet.length < fixedLength packet := by
    rw [fixedLength, UInt8.shiftRight_zero]
    omega
  have flag : (packet.getD 0 0 >>> 4 &&& 0x01 == 1) = extended packet := rfl
  by_cases short : packet.length < fixedLength packet
  · rw [if_pos (csrcs.mpr short), header_end_fixed packet (by omega), if_pos (Or.inl short)]
    rfl
  · have fixed : 2 + 2 + 4 + 4 + (packet.getD 0 0 >>> 0 &&& 0x0F).toNat * 4 = fixedLength packet := by
      rw [fixedLength, UInt8.shiftRight_zero]
    rw [if_neg (fun cut => short (csrcs.mp cut)), read_csrcs_moves packet _ _ (by omega), flag, fixed]
    cases ext : extended packet with
    | false =>
        rw [header_end_fixed packet (by simp [ext]), if_neg Bool.false_ne_true, if_neg (by simp; omega)]
        rfl
    | true =>
        rw [if_pos rfl, left_at]
        by_cases cut : packet.length < fixedLength packet + 4
        · rw [if_pos (by omega), if_pos (Or.inr ⟨rfl, cut⟩)]
          rfl
        · have whole := header_end_whole packet ⟨ext, by omega⟩
          have words := pair_word packet (fixedLength packet + 2) (by omega)
          rw [if_neg (by omega), read_be_at packet _ 2 (by omega)]
          dsimp only
          rw [read_be_at packet _ 2 (by omega), left_at]
          dsimp only
          have length : ((packet.getD (fixedLength packet + 2) 0).toNat * 256 +
              (packet.getD (fixedLength packet + 2 + 1) 0).toNat) * 4 = extensionLength packet := rfl
          rw [words, length, whole]
          by_cases beyond : packet.length < fixedLength packet + 4 + extensionLength packet
          · rw [if_pos (by omega), if_pos (Or.inl beyond)]
            rfl
          · rw [if_neg (by omega), if_neg (by omega)]
            rfl

theorem udp_recv_payload (long : 12 ≤ packet.length) (version : packet.getD 0 0 >>> 6 = 2) (pcmu : packet.getD 1 0 &&& 0x7F = 0) :
    udpRecvPayload packet = if extended packet = true ∧ packet.length < fixedLength packet + 4 then none else backchannelPayload packet := by
  have decoded := decoded_header packet long
  rw [version, UInt8.shiftRight_zero, pcmu] at decoded
  rw [udpRecvPayload, left_at, if_neg (by omega), backchannel_payload packet long]
  by_cases cut : extended packet = true ∧ packet.length < fixedLength packet + 4
  · rw [if_pos (Or.inr cut), Option.map_eq_none_iff] at decoded
    rw [decoded, if_pos cut]
  · rw [if_neg cut]
    by_cases beyond : packet.length < headerEnd packet
    · rw [if_pos (Or.inl beyond), Option.map_eq_none_iff] at decoded
      rw [decoded, if_neg (by omega)]
    · rw [if_neg (fun either => either.elim beyond cut), Option.map_eq_some_iff] at decoded
      obtain ⟨⟨hdr, mb⟩, result, fields⟩ := decoded
      obtain ⟨ver, pt, rfl⟩ : hdr.ver = 2 &&& 0x03 ∧ hdr.pt = ptPcmu ∧ mb = ⟨packet, headerEnd packet⟩ := by
        simpa [ptPcmu] using fields
      rw [result]
      dsimp only
      rw [if_neg (by rw [ver]; decide), if_pos pt, left_at]
      by_cases some : headerEnd packet < packet.length
      · rw [if_pos (by omega), if_pos some]
      · rw [if_neg (by omega), if_neg some]

end Layout

end Intercom

namespace Intercom.Android

open ByteText

def RtpEvent.slice (buf : Bytes) : RtpEvent → Bytes
  | .video offset length _ _ => (buf.drop offset).take length
  | .audio offset length _ => (buf.drop offset).take length

theorem extension_bit : ∀ flags : UInt8, ((flags >>> 4) &&& 0x01 ≠ 0) ↔ ((flags >>> 4) &&& 1 == 1) = true := by
  decide +kernel

section Frame

variable (packet stale : Bytes)

theorem front_byte (index : Nat) (inside : index < packet.length) : (packet ++ stale)[index]? = some (packet.getD index 0) := by
  rw [List.getElem?_append_left inside, List.getD_eq_getElem?_getD, List.getElem?_eq_getElem inside]
  rfl

theorem header_length_end : headerLength (packet ++ stale) packet.length (packet.getD 0 0) = some (headerEnd packet) := by
  rw [headerLength]
  by_cases whole : extended packet = true ∧ fixedLength packet + 4 ≤ packet.length
  · have hi := front_byte packet stale (fixedLength packet + 2) (by omega)
    have lo := front_byte packet stale (fixedLength packet + 3) (by omega)
    rw [fixedLength] at hi lo
    rw [header_end_whole packet whole, if_pos ⟨(extension_bit _).mpr whole.1, whole.2⟩, hi, lo]
    rfl
  · rw [header_end_fixed packet whole, if_neg (fun raw => whole ⟨(extension_bit _).mp raw.1, raw.2⟩)]
    rfl

theorem dispatch_slice (channel : UInt8) (long : 12 ≤ packet.length) (media : channel = videoRtpCh ∨ channel = audioRtpCh) :
    (dispatchRtpFrame channel (packet ++ stale) packet.length).map (Option.map (RtpEvent.slice (packet ++ stale))) =
      some (backchannelPayload packet) := by
  have byte (index : Nat) (early : index < 12) := front_byte packet stale index (by omega)
  rw [dispatchRtpFrame, byte 0 (by decide), byte 1 (by decide), readTimestamp, byte 4 (by decide), byte 5 (by decide),
    byte 6 (by decide), byte 7 (by decide)]
  dsimp only
  rw [header_length_end, backchannel_payload packet long, Option.map_some, Option.map_some]
  by_cases none : packet.length ≤ headerEnd packet
  · rw [if_pos none, if_neg (by omega)]
    rfl
  · have cut : ((packet ++ stale).drop (headerEnd packet)).take (packet.length - headerEnd packet) = packet.drop (headerEnd packet) := by
      rw [List.drop_append_of_le_length (by omega), ← List.length_drop, List.take_left]
    have some : headerEnd packet < packet.length := by omega
    rw [if_neg none, if_pos some, ← cut]
    rcases media with rfl | rfl
    · rfl
    · rfl

end Frame

-- One slice of the packet, or nothing, for all three readers.
def PathsAgree (packet : Bytes) : Prop :=
  ∀ (cli : RtspClient) (channel rtpCh : UInt8) (stale : Bytes),
    cli.backchannelSetup = true → cli.backchannelInterleaved = channel → cli.audioOutOpened = true →
    (rtpCh = videoRtpCh ∨ rtpCh = audioRtpCh) →
    ∃ slice : Option Bytes,
      playBackchannel cli channel packet = slice.toList.map (Out.played cli.tc) ∧
      udpRecvPayload packet = slice ∧
      (dispatchRtpFrame rtpCh (packet ++ stale) packet.length).map (Option.map (RtpEvent.slice (packet ++ stale))) = some slice ∧
      ∀ payload ∈ slice, payload ≠ [] ∧ payload <:+ packet

theorem play_backchannel_slice (cli : RtspClient) (channel : UInt8) (packet : Bytes) (setup : cli.backchannelSetup = true)
    (bound : cli.backchannelInterleaved = channel) (opened : cli.audioOutOpened = true) :
    playBackchannel cli channel packet = (backchannelPayload packet).toList.map (Out.played cli.tc) := by
  rw [playBackchannel, setup, bound, opened]
  cases backchannelPayload packet with
  | none => simp
  | some payload => simp

theorem backchannel_payload_inside (packet payload : Bytes) (long : 12 ≤ packet.length) (found : backchannelPayload packet = some payload) :
    payload ≠ [] ∧ payload <:+ packet := by
  rw [backchannel_payload packet long] at found
  split at found
  · rename_i inside
    cases found
    exact ⟨List.ne_nil_of_length_pos (by rw [List.length_drop]; omega), List.drop_suffix _ _⟩
  · cases found

theorem receive_paths_agree (packet : Bytes) (long : 12 ≤ packet.length) (version : packet.getD 0 0 >>> 6 = 2)
    (pcmu : packet.getD 1 0 &&& 0x7F = 0) : PathsAgree packet ↔ ¬CutExtension packet := by
  have udp := udp_recv_payload packet long version pcmu
  refine ⟨fun agree cut => ?_, fun whole cli channel rtpCh stale setup bound opened media => ?_⟩
  · obtain ⟨slice, inline, session, _⟩ := agree
      { tc := 0, peer := ⟨0, 0⟩, backchannelSetup := true, audioOutOpened := true } 0xFF audioRtpCh [] rfl rfl rfl (Or.inr rfl)
    have ends := header_end_fixed packet fun whole => absurd cut.2.2 (by omega)
    rw [udp, if_pos ⟨cut.1, cut.2.2⟩] at session
    rw [play_backchannel_slice _ _ packet rfl rfl rfl, ← session, backchannel_payload packet long, ends, if_pos cut.2.1] at inline
    cases inline
  · refine ⟨backchannelPayload packet, play_backchannel_slice cli channel packet setup bound opened, ?_,
      dispatch_slice packet stale rtpCh long media, fun payload found => backchannel_payload_inside packet payload long found⟩
    rw [udp]
    split
    · rename_i cut
      have outside : ¬fixedLength packet < packet.length := fun inside => whole ⟨cut.1, inside, cut.2⟩
      rw [backchannel_payload packet long, header_end_fixed packet (by omega), if_neg outside]
    · rfl

theorem plain_packet_agrees : PathsAgree [0x80, 0, 0, 1, 0, 0, 0, 160, 0, 0, 0, 9, 0xFF] :=
  (receive_paths_agree [0x80, 0, 0, 1, 0, 0, 0, 160, 0, 0, 0, 9, 0xFF] (by decide) (by decide) (by decide)).mpr
    fun cut => absurd cut.1 (by decide)

-- The extension bit and one byte behind the fixed header: libre rejects the packet, the other two play the byte.
theorem cut_extension_differs :
    udpRecvPayload [0x90, 0, 0, 1, 0, 0, 0, 160, 0, 0, 0, 9, 0xBE] = none ∧
      backchannelPayload [0x90, 0, 0, 1, 0, 0, 0, 160, 0, 0, 0, 9, 0xBE] = some [0xBE] ∧
      ¬PathsAgree [0x90, 0, 0, 1, 0, 0, 0, 160, 0, 0, 0, 9, 0xBE] := by
  have session : udpRecvPayload [0x90, 0, 0, 1, 0, 0, 0, 160, 0, 0, 0, 9, 0xBE] = none := by decide
  have inline : backchannelPayload [0x90, 0, 0, 1, 0, 0, 0, 160, 0, 0, 0, 9, 0xBE] = some [0xBE] := by decide
  refine ⟨session, inline, fun agree => ?_⟩
  obtain ⟨slice, played, delivered, _⟩ := agree
    { tc := 0, peer := ⟨0, 0⟩, backchannelSetup := true, audioOutOpened := true } 0xFF audioRtpCh [] rfl rfl rfl (Or.inr rfl)
  rw [play_backchannel_slice _ _ _ rfl rfl rfl, inline, ← delivered, session] at played
  cases played

end Intercom.Android
