import Intercom.Call
import Intercom.Rtsp.Frame
import Mathlib.Data.FinEnum

set_option autoImplicit false

/- What one frame is on the wire. rtsp_server.c and session.c hold a packetiser each; both are translated here with
   the offset and the flags of their loops, shown to be the packetiser of the model, and measured against RFC 6184. -/
namespace Intercom

open ByteText

-- if (chunk > RTP_MTU - 2) chunk = RTP_MTU - 2
def capChunk (chunk : Nat) : Nat := if rtpMtu - 2 < chunk then rtpMtu - 2 else chunk

theorem cap_chunk_pos (chunk : Nat) (some : 0 < chunk) : 0 < capChunk chunk := by
  rw [capChunk]
  split
  · decide
  · exact some

-- The while loop of send_h264_nalu_to_client.
def fuLoopToClient (fuIndicator nalType : UInt8) (isLastNalu : Bool) (payload : Bytes) (cli : RtspClient) (offset : Nat)
    (first : Bool) : RtspClient × List Out :=
  if _more : offset < payload.length then
    let chunk := capChunk (payload.length - offset)
    let lastFrag := decide (payload.length ≤ offset + chunk)
    let header := nalType &&& 0x1F
    let header := if first then header ||| 0x80 else header
    let header := if lastFrag then header ||| 0x40 else header
    let sent := sendVideoPart cli (lastFrag && isLastNalu, fuIndicator :: header :: (payload.drop offset).take chunk)
    let later := fuLoopToClient fuIndicator nalType isLastNalu payload sent.1 (offset + chunk) false
    (later.1, sent.2 ++ later.2)
  else (cli, [])
termination_by payload.length - offset
decreasing_by
  have forward := cap_chunk_pos (payload.length - offset) (by omega)
  omega

def h264NaluToClient (cli : RtspClient) (nalu : Bytes) (isLastNalu : Bool) : RtspClient × List Out :=
  match nalu with
  | [] => (cli, [])
  | nalHeader :: payload =>
      if nalu.length ≤ rtpMtu then sendVideoPart cli (isLastNalu, nalu)
      else fuLoopToClient ((nalHeader &&& 0xE0) ||| 28) (nalHeader &&& 0x1F) isLastNalu payload cli 0 true

-- The loop over frame.nalus in video_send_timer of rtsp_server.c, from the unit at this index on.
def frameToClient (cli : RtspClient) (count : Nat) : Nat → List Bytes → RtspClient × List Out
  | _, [] => (cli, [])
  | index, nalu :: rest =>
      let sent := h264NaluToClient cli nalu (index == count - 1)
      let later := frameToClient sent.1 count (index + 1) rest
      (later.1, sent.2 ++ later.2)

def sendSessionPart (sess : Session) (part : Bool × Bytes) : Session × List Out :=
  ({ sess with videoSeq := sess.videoSeq + 1 }, [.callPacket sess.peerAddr (sessionPacket sess part)])

-- The while loop of send_h264_nalu_rtp.
def fuLoopRtp (fuIndicator nalType : UInt8) (isLastNalu : Bool) (payload : Bytes) (sess : Session) (offset : Nat)
    (first : Bool) : Session × List Out :=
  if _more : offset < payload.length then
    let chunk := capChunk (payload.length - offset)
    let lastFrag := decide (payload.length ≤ offset + chunk)
    let header := nalType &&& 0x1F
    let header := if first then header ||| 0x80 else header
    let header := if lastFrag then header ||| 0x40 else header
    let sent := sendSessionPart sess (lastFrag && isLastNalu, fuIndicator :: header :: (payload.drop offset).take chunk)
    let later := fuLoopRtp fuIndicator nalType isLastNalu payload sent.1 (offset + chunk) false
    (later.1, sent.2 ++ later.2)
  else (sess, [])
termination_by payload.length - offset
decreasing_by
  have forward := cap_chunk_pos (payload.length - offset) (by omega)
  omega

def h264NaluRtp (sess : Session) (nalu : Bytes) (isLastNalu : Bool) : Session × List Out :=
  match nalu with
  | [] => (sess, [])
  | nalHeader :: payload =>
      if nalu.length ≤ rtpMtu then sendSessionPart sess (isLastNalu, nalu)
      else fuLoopRtp ((nalHeader &&& 0xE0) ||| 28) (nalHeader &&& 0x1F) isLastNalu payload sess 0 true

-- The loop over frame.nalus in video_send_timer of session.c.
def frameRtp (sess : Session) (count : Nat) : Nat → List Bytes → Session × List Out
  | _, [] => (sess, [])
  | index, nalu :: rest =>
      let sent := h264NaluRtp sess nalu (index == count - 1)
      let later := frameRtp sent.1 count (index + 1) rest
      (later.1, sent.2 ++ later.2)

-- The marker and the payload of a video packet, whichever way it left.
def Out.part? : Out → Option (Bool × Bytes)
  | .interleaved _ _ packet => some (packet.hdr.m, packet.payload)
  | .datagram _ _ packet => some (packet.hdr.m, packet.payload)
  | .undelivered _ packet => some (packet.hdr.m, packet.payload)
  | .callPacket _ packet => some (packet.hdr.m, packet.payload)
  | _ => none

theorem fu_header_steps (nalType : UInt8) (first lastFrag : Bool) :
    (if lastFrag then (if first then (nalType &&& 0x1F) ||| 0x80 else nalType &&& 0x1F) ||| 0x40
      else if first then (nalType &&& 0x1F) ||| 0x80 else nalType &&& 0x1F) = fuHeader nalType first lastFrag := by
  cases first <;> cases lastFrag <;> simp [fuHeader]

-- One turn of either loop against one turn of the packetiser.
theorem fu_chunk (payload : Bytes) (offset : Nat) :
    (payload.drop offset).take (capChunk (payload.length - offset)) = (payload.drop offset).take (rtpMtu - 2) ∧
      decide (payload.length ≤ offset + capChunk (payload.length - offset)) =
        decide ((payload.drop offset).length ≤ rtpMtu - 2) ∧
      payload.drop (offset + capChunk (payload.length - offset)) = (payload.drop offset).drop (rtpMtu - 2) := by
  have length : (payload.drop offset).length = payload.length - offset := List.length_drop
  by_cases long : rtpMtu - 2 < payload.length - offset
  · rw [capChunk, if_pos long, length, List.drop_drop]
    exact ⟨rfl, decide_eq_decide.mpr (by omega), rfl⟩
  · have short : (payload.drop offset).length ≤ rtpMtu - 2 := by omega
    have beyond : payload.length ≤ offset + (payload.length - offset) := by omega
    rw [capChunk, if_neg long, List.take_of_length_le short, List.drop_of_length_le short,
      List.take_of_length_le (Nat.le_of_eq length)]
    exact ⟨rfl, by rw [decide_eq_true beyond, decide_eq_true short], List.drop_of_length_le beyond⟩

section Loops

variable (fuIndicator nalType : UInt8) (isLastNalu : Bool) (payload : Bytes)

theorem fu_loop_turn (fuel offset : Nat) (first : Bool) (more : offset < payload.length) :
    fuLoop fuIndicator nalType isLastNalu (fuel + 1) first (payload.drop offset) =
      (decide (payload.length ≤ offset + capChunk (payload.length - offset)) && isLastNalu,
        fuIndicator :: fuHeader nalType first (decide (payload.length ≤ offset + capChunk (payload.length - offset))) ::
          (payload.drop offset).take (capChunk (payload.length - offset))) ::
        fuLoop fuIndicator nalType isLastNalu fuel false (payload.drop (offset + capChunk (payload.length - offset))) := by
  obtain ⟨fragment, ends, rest⟩ := fu_chunk payload offset
  have left : payload.drop offset ≠ [] := List.ne_nil_of_length_pos (by rw [List.length_drop]; omega)
  rw [fuLoop, if_neg left, fragment, ends, rest]

theorem fu_loop_done (fuel offset : Nat) (first : Bool) (done : payload.length ≤ offset) :
    fuLoop fuIndicator nalType isLastNalu (fuel + 1) first (payload.drop offset) = [] := by
  rw [fuLoop, if_pos (List.drop_of_length_le done)]

theorem fu_loop_to_client (fuel : Nat) (cli : RtspClient) (offset : Nat) (first : Bool)
    (enough : payload.length - offset ≤ fuel) :
    fuLoopToClient fuIndicator nalType isLastNalu payload cli offset first =
      sendVideoParts cli (fuLoop fuIndicator nalType isLastNalu fuel first (payload.drop offset)) := by
  induction fuel generalizing cli offset first with
  | zero =>
      rw [fuLoopToClient, dif_neg (by omega)]
      rfl
  | succ fuel ih =>
      rw [fuLoopToClient]
      by_cases more : offset < payload.length
      · have forward := cap_chunk_pos (payload.length - offset) (by omega)
        rw [dif_pos more, fu_loop_turn _ _ _ _ fuel offset first more]
        dsimp only
        rw [ih _ _ _ (by omega), fu_header_steps]
        rfl
      · rw [dif_neg more, fu_loop_done _ _ _ _ fuel offset first (by omega)]
        rfl

theorem fu_loop_rtp (fuel : Nat) (sess : Session) (offset : Nat) (first : Bool) (enough : payload.length - offset ≤ fuel) :
    fuLoopRtp fuIndicator nalType isLastNalu payload sess offset first =
      sendSessionParts sess (fuLoop fuIndicator nalType isLastNalu fuel first (payload.drop offset)) := by
  induction fuel generalizing sess offset first with
  | zero =>
      rw [fuLoopRtp, dif_neg (by omega)]
      rfl
  | succ fuel ih =>
      rw [fuLoopRtp]
      by_cases more : offset < payload.length
      · have forward := cap_chunk_pos (payload.length - offset) (by omega)
        rw [dif_pos more, fu_loop_turn _ _ _ _ fuel offset first more]
        dsimp only
        rw [ih _ _ _ (by omega), fu_header_steps]
        rfl
      · rw [dif_neg more, fu_loop_done _ _ _ _ fuel offset first (by omega)]
        rfl

end Loops

theorem h264_nalu_to_client (cli : RtspClient) (nalu : Bytes) (isLastNalu : Bool) :
    h264NaluToClient cli nalu isLastNalu = sendH264NaluToClient cli nalu isLastNalu := by
  cases nalu with
  | nil => rfl
  | cons header payload =>
      rw [h264NaluToClient, sendH264NaluToClient, packetise]
      split
      · simp [sendVideoParts]
      · exact fu_loop_to_client _ _ isLastNalu payload payload.length cli 0 true (Nat.sub_le _ _)

theorem h264_nalu_rtp (sess : Session) (nalu : Bytes) (isLastNalu : Bool) :
    h264NaluRtp sess nalu isLastNalu = sendH264NaluRtp sess nalu isLastNalu := by
  cases nalu with
  | nil => rfl
  | cons header payload =>
      rw [h264NaluRtp, sendH264NaluRtp, packetise]
      split
      · rfl
      · exact fu_loop_rtp _ _ isLastNalu payload payload.length sess 0 true (Nat.sub_le _ _)

theorem last_index (index : Nat) (nalu : Bytes) (rest : List Bytes) :
    (index == index + (nalu :: rest).length - 1) = rest.isEmpty := by
  cases rest with
  | nil => simp
  | cons other rest => simp

theorem frame_to_client (cli : RtspClient) (index : Nat) (nalus : List Bytes) :
    frameToClient cli (index + nalus.length) index nalus = sendNalus cli nalus := by
  induction nalus generalizing cli index with
  | nil => rfl
  | cons nalu rest ih =>
      have further : index + (nalu :: rest).length = (index + 1) + rest.length := by
        rw [List.length_cons]
        omega
      rw [frameToClient, sendNalus, last_index, h264_nalu_to_client, further, ih]

theorem frame_rtp (sess : Session) (index : Nat) (nalus : List Bytes) :
    frameRtp sess (index + nalus.length) index nalus = sendSessionNalus sess nalus := by
  induction nalus generalizing sess index with
  | nil => rfl
  | cons nalu rest ih =>
      have further : index + (nalu :: rest).length = (index + 1) + rest.length := by
        rw [List.length_cons]
        omega
      rw [frameRtp, sendSessionNalus, last_index, h264_nalu_rtp, further, ih]

theorem parts_send_rtp (cli : RtspClient) (track : RtpTrack) (packet : RtpPacket) :
    (sendRtp cli track packet).map Out.part? = [some (packet.hdr.m, packet.payload)] := by
  rw [sendRtp]
  split
  · rfl
  · split <;> rfl

theorem parts_to_client (cli : RtspClient) (parts : List (Bool × Bytes)) :
    (sendVideoParts cli parts).2.map Out.part? = parts.map some := by
  induction parts generalizing cli with
  | nil => rfl
  | cons part rest ih =>
      rw [sendVideoParts, List.map_append, ih, sendVideoPart, parts_send_rtp]
      rfl

theorem parts_rtp (sess : Session) (parts : List (Bool × Bytes)) :
    (sendSessionParts sess parts).2.map Out.part? = parts.map some := by
  induction parts generalizing sess with
  | nil => rfl
  | cons part rest ih =>
      rw [sendSessionParts, List.map_cons, ih]
      rfl

theorem parts_session_nalus (sess : Session) (nalus : List Bytes) :
    (sendSessionNalus sess nalus).2.map Out.part? = (packetiseFrame nalus).map some := by
  induction nalus generalizing sess with
  | nil => rfl
  | cons nalu rest ih => rw [sendSessionNalus, packetiseFrame, List.map_append, List.map_append, ih, sendH264NaluRtp, parts_rtp]

def fuCount (payload : Bytes) : Nat := (payload.length + 1197) / 1198

def fuFragment (payload : Bytes) (index : Nat) : Bytes := (payload.drop (1198 * index)).take 1198

def fuPart (indicator nalType : UInt8) (isLastNalu first : Bool) (payload : Bytes) (count index : Nat) : Bool × Bytes :=
  (decide (index + 1 = count) && isLastNalu,
    indicator :: fuHeader nalType (first && index == 0) (decide (index + 1 = count)) :: fuFragment payload index)

theorem fu_count_succ (payload : Bytes) (some : payload ≠ []) : fuCount payload = fuCount (payload.drop 1198) + 1 := by
  have positive := List.length_pos_of_ne_nil some
  rw [fuCount, fuCount, List.length_drop]
  omega

theorem fu_fragment_succ (payload : Bytes) (index : Nat) :
    fuFragment payload (index + 1) = fuFragment (payload.drop 1198) index := by
  rw [fuFragment, fuFragment, List.drop_drop, Nat.mul_add, Nat.mul_one, Nat.add_comm]

theorem fu_loop_parts (indicator nalType : UInt8) (isLastNalu : Bool) (fuel : Nat) (first : Bool) (payload : Bytes)
    (enough : payload.length ≤ fuel) :
    fuLoop indicator nalType isLastNalu fuel first payload =
      (List.range (fuCount payload)).map (fuPart indicator nalType isLastNalu first payload (fuCount payload)) := by
  induction fuel generalizing first payload with
  | zero =>
      rw [List.length_eq_zero_iff.mp (Nat.le_zero.mp enough)]
      rfl
  | succ fuel ih =>
      by_cases done : payload = []
      · rw [done]
        rfl
      · have positive := List.length_pos_of_ne_nil done
        have ends : decide (payload.length ≤ rtpMtu - 2) = decide (0 + 1 = fuCount payload) :=
          decide_eq_decide.mpr (by rw [fuCount, rtpMtu]; omega)
        have later (index : Nat) : fuPart indicator nalType isLastNalu false (payload.drop 1198) (fuCount (payload.drop 1198)) index =
            fuPart indicator nalType isLastNalu first payload (fuCount payload) (index + 1) := by
          rw [fuPart, fuPart, fu_fragment_succ, fu_count_succ payload done]
          simp
        rw [fuLoop, if_neg done, ih false _ (by rw [List.length_drop, rtpMtu]; omega), ends]
        rw [fu_count_succ payload done, List.range_succ_eq_map, List.map_cons, List.map_map, ← fu_count_succ payload done]
        refine congrArg₂ List.cons ?_ ?_
        · simp [fuPart, fuFragment, rtpMtu]
        · exact List.map_congr_left fun index _ => later index

theorem fu_fragments_whole (count : Nat) (payload : Bytes) (enough : payload.length ≤ 1198 * count) :
    ((List.range count).map (fuFragment payload)).flatten = payload := by
  induction count generalizing payload with
  | zero =>
      rw [List.length_eq_zero_iff.mp (Nat.le_zero.mp enough)]
      rfl
  | succ count ih =>
      have shifted : (List.range count).map (fuFragment payload ∘ Nat.succ) = (List.range count).map (fuFragment (payload.drop 1198)) :=
        List.map_congr_left fun index _ => fu_fragment_succ payload index
      rw [List.range_succ_eq_map, List.map_cons, List.map_map, shifted, List.flatten_cons,
        ih _ (by rw [List.length_drop]; omega)]
      exact List.take_append_drop 1198 payload

-- An FU-A packet of a unit with this header byte.
structure FuPacket (header : UInt8) (first lastFrag : Prop) (packet : Bytes) : Prop where
  shape : ∃ indicator fu fragment, packet = indicator :: fu :: fragment ∧ fragment ≠ [] ∧
    indicator &&& 0xE0 = header &&& 0xE0 ∧ indicator &&& 0x1F = 28 ∧ fu &&& 0x1F = header &&& 0x1F ∧
    (fu &&& 0x80 ≠ 0 ↔ first) ∧ (fu &&& 0x40 ≠ 0 ↔ lastFrag) ∧ ¬(fu &&& 0x80 ≠ 0 ∧ fu &&& 0x40 ≠ 0)

structure Fragments (header : UInt8) (payload : Bytes) (packets : List Bytes) : Prop where
  count : packets.length = (payload.length + 1197) / 1198
  several : 2 ≤ packets.length
  each : ∀ (index : Nat) (packet : Bytes), packets[index]? = some packet →
    FuPacket header (index = 0) (index + 1 = packets.length) packet
  whole : (packets.map (List.drop 2)).flatten = payload

-- RFC 6184: what one unit becomes.
def NaluPackets (nalu : Bytes) (packets : List Bytes) : Prop :=
  (nalu.length ≤ 1200 → packets = [nalu]) ∧
    (1200 < nalu.length → ∃ header payload, nalu = header :: payload ∧ Fragments header payload packets)

theorem fu_flags : ∀ (header : UInt8) (first lastFrag : Bool),
    (((header &&& 0xE0) ||| 28) &&& 0xE0 = header &&& 0xE0) ∧ (((header &&& 0xE0) ||| 28) &&& 0x1F = 28) ∧
      (fuHeader (header &&& 0x1F) first lastFrag &&& 0x1F = header &&& 0x1F) ∧
      (fuHeader (header &&& 0x1F) first lastFrag &&& 0x80 ≠ 0 ↔ first = true) ∧
      (fuHeader (header &&& 0x1F) first lastFrag &&& 0x40 ≠ 0 ↔ lastFrag = true) := by
  decide +kernel

section Unit

variable (header : UInt8) (payload : Bytes) (isLastNalu : Bool)

def naluPart (index : Nat) : Bool × Bytes :=
  fuPart ((header &&& 0xE0) ||| 28) (header &&& 0x1F) isLastNalu true payload (fuCount payload) index

theorem packetise_long (long : 1200 < (header :: payload).length) :
    packetise (header :: payload) isLastNalu = (List.range (fuCount payload)).map (naluPart header payload isLastNalu) := by
  rw [packetise, if_neg (by rw [rtpMtu]; omega), fu_loop_parts _ _ _ _ _ _ (Nat.le_refl _)]
  rfl

theorem fu_count_several (long : 1200 < (header :: payload).length) : 2 ≤ fuCount payload := by
  rw [List.length_cons] at long
  rw [fuCount]
  omega

theorem nalu_part_packet (index : Nat) (several : 2 ≤ fuCount payload) (inside : index < fuCount payload) :
    FuPacket header (index = 0) (index + 1 = fuCount payload) (naluPart header payload isLastNalu index).2 := by
  obtain ⟨kept, kind, type, start, stop⟩ := fu_flags header (true && index == 0) (decide (index + 1 = fuCount payload))
  have begins : (true && index == 0) = true ↔ index = 0 := by simp
  have ends : decide (index + 1 = fuCount payload) = true ↔ index + 1 = fuCount payload := decide_eq_true_iff
  refine ⟨⟨_, _, _, rfl, ?_, kept, kind, type, start.trans begins, stop.trans ends, ?_⟩⟩
  · apply List.ne_nil_of_length_pos
    rw [fuCount] at inside
    rw [fuFragment, List.length_take, List.length_drop]
    omega
  · rw [start, stop, begins, ends]
    omega

theorem packetise_fragments (long : 1200 < (header :: payload).length) :
    Fragments header payload ((packetise (header :: payload) isLastNalu).map Prod.snd) := by
  have several := fu_count_several header payload long
  rw [packetise_long header payload isLastNalu long, List.map_map]
  refine ⟨by simp [fuCount], by simpa using several, fun index packet found => ?_, ?_⟩
  · rw [List.getElem?_map, Option.map_eq_some_iff] at found
    obtain ⟨position, at_, rfl⟩ := found
    obtain ⟨inside, rfl⟩ := List.getElem?_eq_some_iff.mp at_
    rw [List.length_range] at inside
    rw [List.getElem_range, List.length_map, List.length_range]
    exact nalu_part_packet header payload isLastNalu index several inside
  · rw [List.map_map]
    exact fu_fragments_whole (fuCount payload) payload (by rw [fuCount]; omega)

theorem nalu_part_marks (count : Nat) (some : count ≠ 0) :
    (List.range count).map (fun index => decide (index + 1 = count) && isLastNalu) =
      List.replicate (count - 1) false ++ [isLastNalu] := by
  obtain ⟨early, rfl⟩ := Nat.exists_eq_succ_of_ne_zero some
  have unmarked : (List.range early).map (fun index => decide (index + 1 = early.succ) && isLastNalu) =
      (List.range early).map fun _ => false :=
    List.map_congr_left fun index inside => by
      have below := List.mem_range.mp inside
      rw [decide_eq_false (by omega), Bool.false_and]
  rw [List.range_succ, List.map_append, unmarked, List.map_const', List.length_range]
  simp

end Unit

theorem packetise_marks (nalu : Bytes) (isLastNalu : Bool) (filled : nalu ≠ []) :
    (packetise nalu isLastNalu).map Prod.fst =
      List.replicate ((packetise nalu isLastNalu).length - 1) false ++ [isLastNalu] := by
  cases nalu with
  | nil => exact absurd rfl filled
  | cons header payload =>
      by_cases long : 1200 < (header :: payload).length
      · have several := fu_count_several header payload long
        rw [packetise_long header payload isLastNalu long, List.map_map, List.length_map, List.length_range]
        exact nalu_part_marks isLastNalu (fuCount payload) (by omega)
      · rw [packetise, if_pos (by rw [rtpMtu]; omega)]
        rfl

theorem packetise_nalu (nalu : Bytes) (isLastNalu : Bool) (filled : nalu ≠ []) :
    NaluPackets nalu ((packetise nalu isLastNalu).map Prod.snd) := by
  cases nalu with
  | nil => exact absurd rfl filled
  | cons header payload =>
      refine ⟨fun short => ?_, fun long => ⟨header, payload, rfl, packetise_fragments header payload isLastNalu long⟩⟩
      rw [packetise, if_pos (by rw [rtpMtu]; exact short)]
      rfl

theorem marks_append (early late : Nat) (some : 0 < early) (other : 0 < late) :
    (List.replicate (early - 1) false ++ [false]) ++ (List.replicate (late - 1) false ++ [true]) =
      List.replicate (early + late - 1) false ++ [true] := by
  have count : early - 1 + 1 + (late - 1) = early + late - 1 := by omega
  rw [← List.append_assoc, ← List.replicate_succ', List.replicate_append_replicate, count]

theorem packetise_frame_marks (nalus : List Bytes) (some : nalus ≠ []) (filled : ∀ nalu ∈ nalus, nalu ≠ []) :
    (packetiseFrame nalus).map Prod.fst = List.replicate ((packetiseFrame nalus).length - 1) false ++ [true] := by
  induction nalus with
  | nil => exact absurd rfl some
  | cons nalu rest ih =>
      have here := packetise_marks nalu rest.isEmpty (filled nalu List.mem_cons_self)
      have sent := List.length_pos_of_ne_nil (packetise_some nalu rest.isEmpty (filled nalu List.mem_cons_self))
      cases rest with
      | nil => simpa [packetiseFrame] using here
      | cons other rest =>
          have later := ih (List.cons_ne_nil _ _) fun unit member => filled unit (List.mem_cons_of_mem _ member)
          have left := List.length_pos_of_ne_nil (packetise_frame_some (other :: rest) (List.cons_ne_nil _ _)
            fun unit member => filled unit (List.mem_cons_of_mem _ member))
          rw [packetiseFrame, List.map_append, here, later, List.length_append]
          exact marks_append _ _ sent left

theorem packetise_frame_groups (nalus : List Bytes) (filled : ∀ nalu ∈ nalus, nalu ≠ []) :
    ∃ groups, List.Forall₂ NaluPackets nalus groups ∧ (packetiseFrame nalus).map Prod.snd = groups.flatten := by
  induction nalus with
  | nil => exact ⟨[], .nil, rfl⟩
  | cons nalu rest ih =>
      obtain ⟨groups, formed, joined⟩ := ih fun unit member => filled unit (List.mem_cons_of_mem _ member)
      refine ⟨(packetise nalu rest.isEmpty).map Prod.snd :: groups,
        .cons (packetise_nalu nalu _ (filled nalu List.mem_cons_self)) formed, ?_⟩
      rw [packetiseFrame, List.map_append, joined, List.flatten_cons]

theorem frame_packets_conform (cli : RtspClient) (sess : Session) (nalus : List Bytes) (some : nalus ≠ [])
    (filled : ∀ nalu ∈ nalus, nalu ≠ []) :
    ∃ (parts : List (Bool × Bytes)) (groups : List (List Bytes)),
      (frameToClient cli nalus.length 0 nalus).2.map Out.part? = parts.map Option.some ∧
      (frameRtp sess nalus.length 0 nalus).2.map Out.part? = parts.map Option.some ∧
      (∀ nalu isLastNalu, (h264NaluRtp sess nalu isLastNalu).2.map Out.part? =
        (h264NaluToClient cli nalu isLastNalu).2.map Out.part?) ∧
      parts.map Prod.snd = groups.flatten ∧ List.Forall₂ NaluPackets nalus groups ∧
      (∀ part ∈ parts, 1 ≤ part.2.length ∧ part.2.length ≤ 1200) ∧
      parts.map Prod.fst = List.replicate (parts.length - 1) false ++ [true] := by
  obtain ⟨groups, formed, joined⟩ := packetise_frame_groups nalus filled
  refine ⟨packetiseFrame nalus, groups, ?_, ?_, fun nalu isLastNalu => ?_, joined, formed, packetise_frame_sizes nalus,
    packetise_frame_marks nalus some filled⟩
  · have whole := frame_to_client cli 0 nalus
    rw [Nat.zero_add] at whole
    rw [whole, send_nalus_parts, parts_to_client]
  · have whole := frame_rtp sess 0 nalus
    rw [Nat.zero_add] at whole
    rw [whole, parts_session_nalus]
  · rw [h264_nalu_to_client, h264_nalu_rtp, sendH264NaluToClient, sendH264NaluRtp, parts_to_client, parts_rtp]

-- A parameter set and a slice that fills two fragments exactly leave as three packets.
theorem frame_packets_three : ∃ parts : List (Bool × Bytes),
    (frameToClient { tc := 0, peer := ⟨0, 0⟩ } 2 0 [[103, 66], 101 :: List.replicate 2396 7]).2.map Out.part? =
      parts.map some ∧
    parts.map Prod.fst = [false, false, true] := by
  obtain ⟨parts, groups, sent, _, _, joined, formed, _, marks⟩ :=
    frame_packets_conform { tc := 0, peer := ⟨0, 0⟩ } { peerAddr := ⟨0, 0⟩, localPort := 0, videoSsrc := 0 }
      [[103, 66], 101 :: List.replicate 2396 7] (List.cons_ne_nil _ _) (by
        intro nalu member
        rcases List.mem_pair.mp member with rfl | rfl
        · exact List.cons_ne_nil _ _
        · exact List.cons_ne_nil _ _)
  refine ⟨parts, sent, ?_⟩
  obtain ⟨small, others, first, rest, rfl⟩ := List.forall₂_cons_left_iff.mp formed
  obtain ⟨large, others, second, ends, rfl⟩ := List.forall₂_cons_left_iff.mp rest
  have none := List.forall₂_nil_left_iff.mp ends
  obtain ⟨header, payload, same, fragments⟩ := second.2 (by rw [List.length_cons, List.length_replicate]; omega)
  obtain ⟨-, rfl⟩ := List.cons.inj same
  have count := fragments.count
  rw [List.length_replicate] at count
  have length : parts.length = 3 := by
    have total := congrArg List.length joined
    rw [none, first.1 (by decide)] at total
    simpa [count] using total
  rw [marks, length]
  rfl

end Intercom
