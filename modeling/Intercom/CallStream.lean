import Intercom.Fanout
import Intercom.Ownership
import Mathlib.Data.List.ModifyLast

set_option autoImplicit false

/- The video of the calls along a run. A call is what was asked for and the frames its timer pulled; what session.c
   sends for it is said from these alone and compared with the counters of the session. -/
namespace Intercom

open ByteText

def Out.calls : Out → Option (Sa × RtpPacket)
  | .callPacket dest packet => some (dest, packet)
  | _ => none

def callPackets (outs : List Out) : List (Sa × RtpPacket) := outs.filterMap Out.calls

structure CallRecord where
  peer : Sa
  ssrc : UInt32
  frames : List (List Bytes) := []
deriving DecidableEq, Repr

-- The fragments of all frames, each with the number of its frame.
def CallRecord.parts (call : CallRecord) : List (Nat × Bool × Bytes) :=
  call.frames.zipIdx.flatMap fun frame => (packetiseFrame frame.1).map fun part => (frame.2, part)

def CallRecord.packet (call : CallRecord) (index frame : Nat) (part : Bool × Bytes) : Sa × RtpPacket :=
  (call.peer, { hdr := { m := part.1, pt := ptH264, seq := UInt16.ofNat index, ts := UInt32.ofNat (6000 * frame), ssrc := call.ssrc }
                payload := part.2 })

def CallRecord.stream (call : CallRecord) : List (Sa × RtpPacket) :=
  call.parts.mapIdx fun index part => call.packet index part.1 part.2

def CallRecord.grown (frames : List (List Bytes)) (call : CallRecord) : CallRecord := { call with frames := call.frames ++ frames }

-- A call is made by a POST that is answered 201; from then on the timer of its session pulls for it.
def noteCall (w : World) (d : Device) (calls : List CallRecord) : Action → List CallRecord
  | .callCreate body behind =>
      if (handleCallCreate w d body behind).2 = [.http 201] then
        calls ++ (w.saDecode (peerText body behind)).toList.map fun peer => { peer, ssrc := w.randU32 (d.calls + 1) }
      else calls
  | .sessionVideoTimer => calls.modifyLast (CallRecord.grown (pulledIn (sessionVideoTimer w d).2))
  | _ => calls

def noteCalls (w : World) (seen : Device × List CallRecord) (action : Action) : Device × List CallRecord :=
  (deviceStep w seen.1 action, noteCall w seen.1 seen.2 action)

def callsMade (w : World) (start : Device) (actions : List Action) : List CallRecord :=
  (Runs.run (noteCalls w) (start, []) actions).2

def Uncalled (outs : List Out) : Prop := ∀ out ∈ outs, out.calls = none

theorem uncalled_packets (outs : List Out) (uncalled : Uncalled outs) : callPackets outs = [] := by
  rw [callPackets, List.filterMap_eq_nil_iff]
  exact uncalled

theorem uncalled_append (left right : List Out) (first : Uncalled left) (second : Uncalled right) : Uncalled (left ++ right) := by
  intro out member
  cases List.mem_append.mp member with
  | inl early => exact first out early
  | inr late => exact second out late

theorem carried_uncalled (cli : RtspClient) (track : RtpTrack) (pt : UInt8) (outs : List Out)
    (carried : Carried cli track pt outs) : Uncalled outs := by
  intro out member
  obtain ⟨packet, _, sent⟩ := carried out member
  rcases mem_send_rtp cli track packet out sent with rfl | rfl | rfl <;> rfl

theorem get_frame_uncalled (w : World) (d : Device) : Uncalled (getFrame w d).2.2 := by
  intro out member
  obtain ⟨nalus, rfl⟩ := mem_get_frame w d out member
  rfl

theorem next_block_uncalled (w : World) (d : Device) : Uncalled (nextBlock w d).2.2 := by
  intro out member
  obtain ⟨samples, rfl⟩ := mem_next_block w d out member
  rfl

theorem send_to_all_uncalled (send : RtspClient → RtspClient × List Out) (d : Device) (each : ∀ cli, Uncalled (send cli).2) :
    Uncalled (sendToAll send d).2 := by
  intro out member
  obtain ⟨cli, _, sent⟩ := List.mem_flatMap.mp member
  exact each cli out sent

-- A step beside the call: the session is as it was, and no packet of it leaves.
structure BesideCall (d : Device) (result : Device × List Out) : Prop where
  sess : result.1.sess = d.sess
  uncalled : Uncalled result.2

theorem discard_loop_sess (w : World) (fuel : Nat) (d : Device) (skip : Nat) : (discardLoop w fuel d skip).sess = d.sess := by
  induction fuel generalizing d skip with
  | zero => rfl
  | succ fuel ih =>
      rw [discardLoop]
      dsimp only
      split
      · rfl
      · split
        · rfl
        · exact ih _ _

theorem drain_excess_sess (w : World) (d : Device) : (drainExcess w d).sess = d.sess := by
  rw [drainExcess]
  dsimp only
  split
  · split
    · exact discard_loop_sess w _ _ _
    · rfl
  · rfl

theorem next_block_sess (w : World) (d : Device) : (nextBlock w d).1.sess = d.sess := by
  rw [nextBlock]
  split <;> rfl

theorem audio_timer_beside (w : World) (d : Device) : BesideCall d (audioSendTimer w d) := by
  rw [audioSendTimer]
  dsimp only
  split
  · refine ⟨(next_block_sess w _).trans (drain_excess_sess w _), uncalled_append _ _ (next_block_uncalled w _) ?_⟩
    apply send_to_all_uncalled
    exact fun cli => carried_uncalled cli _ _ _ (send_audio_to_carried _ cli)
  · exact ⟨rfl, fun _ member => absurd member List.not_mem_nil⟩

theorem force_keyframe_sess (d : Device) : (forceKeyframe d).sess = d.sess := by
  rw [forceKeyframe]
  split <;> rfl

theorem video_timer_beside (w : World) (d : Device) : BesideCall d (videoSendTimer w d) := by
  have keyed := force_keyframe_sess { d with tmrVideo := true }
  rw [videoSendTimer]
  dsimp only
  split
  · split
    · exact ⟨keyed, get_frame_uncalled w _⟩
    · refine ⟨keyed, uncalled_append _ _ (get_frame_uncalled w _) ?_⟩
      apply send_to_all_uncalled
      exact fun cli => carried_uncalled cli _ _ _ (send_frame_to_carried _ cli)
  · exact ⟨rfl, fun _ member => absurd member List.not_mem_nil⟩

theorem maybe_stop_sess (d : Device) : (maybeStopMedia d).sess = d.sess := by
  rw [maybeStopMedia]
  split <;> rfl

theorem open_mic_sess (w : World) (d : Device) : (openMic w d).sess = d.sess := by
  rw [openMic]
  split <;> rfl

theorem ensure_media_sess (w : World) (d : Device) : (ensureMediaStarted w d).sess = d.sess := by
  rw [ensureMediaStarted]
  split
  · exact open_mic_sess w d
  · dsimp only
    split
    · rfl
    · exact open_mic_sess w _

theorem open_backchannel_sess (w : World) (d : Device) (cli : RtspClient) : (openBackchannel w d cli).1.sess = d.sess := by
  rw [openBackchannel]
  split <;> rfl

theorem immediate_video_beside (w : World) (d : Device) (cli : RtspClient) :
    (immediateVideo w d cli).1.sess = d.sess ∧ Uncalled (immediateVideo w d cli).2.2 := by
  rw [immediateVideo]
  dsimp only
  split
  · exact ⟨rfl, get_frame_uncalled w d⟩
  · exact ⟨rfl, uncalled_append _ _ (get_frame_uncalled w d) (carried_uncalled cli _ _ _ (send_frame_carried cli _))⟩

theorem immediate_audio_beside (w : World) (d : Device) (cli : RtspClient) :
    (immediateAudio w d cli).1.sess = d.sess ∧ Uncalled (immediateAudio w d cli).2.2 := by
  rw [immediateAudio]
  split
  · exact ⟨next_block_sess w d,
      uncalled_append _ _ (next_block_uncalled w d) (carried_uncalled cli _ _ _ (send_audio_carried cli _))⟩
  · exact ⟨rfl, fun _ member => absurd member List.not_mem_nil⟩

theorem reply_uncalled (cli : RtspClient) (cseq : Int) (code : Nat) (reason : String) (extra : Extra) (body : Bytes) :
    Uncalled [rtspReply cli cseq code reason extra body] := by
  intro out member
  rw [List.mem_singleton.mp member]
  rfl

theorem play_beside (w : World) (d : Device) (cli : RtspClient) (req : RtspReq) :
    (handlePlay w d cli req).1.sess = d.sess ∧ Uncalled (handlePlay w d cli req).2.2 := by
  rw [handlePlay]
  split
  · exact ⟨rfl, reply_uncalled _ _ _ _ _ _⟩
  · dsimp only
    generalize started : ensureMediaStarted w d = media
    have same : media.sess = d.sess := by
      rw [← started]
      exact ensure_media_sess w d
    generalize talked : openBackchannel w { media with cam := cameraRequestKeyframe media.cam } { cli with state := .playing } = talk
    have talking : talk.1.sess = media.sess := by
      rw [← talked]
      exact open_backchannel_sess w _ _
    have video := immediate_video_beside w talk.1 talk.2
    have audio := immediate_audio_beside w (immediateVideo w talk.1 talk.2).1 (immediateVideo w talk.1 talk.2).2.1
    refine ⟨audio.1.trans (video.1.trans (talking.trans same)), ?_⟩
    rw [← List.singleton_append]
    exact uncalled_append _ _ (reply_uncalled _ _ _ _ _ _) (uncalled_append _ _ video.2 audio.2)

theorem describe_beside (w : World) (d : Device) (cli : RtspClient) (req : RtspReq) :
    (handleDescribe w d cli req).1.sess = d.sess ∧ Uncalled (handleDescribe w d cli req).2 := by
  have fetched : (fetchParams w d).1.sess = d.sess := by
    rw [fetchParams]
    split
    · rfl
    · dsimp only
      split <;> rfl
  refine ⟨fetched, uncalled_append _ _ ?_ (reply_uncalled _ _ _ _ _ _)⟩
  intro out member
  obtain ⟨nalus, rfl⟩ := mem_fetch_params w d out member
  rfl

theorem served_beside (w : World) (d : Device) (cli : RtspClient) (request : Option RtspReq) (result : Device × List Out)
    (served : Served w d cli request result) : BesideCall d result := by
  have admitted : ∀ req, (admittedDevice w d req).sess = d.sess := by
    intro req
    obtain ⟨auth, calls, _, device⟩ := admitted_device w d req
    rw [device]
  have front : ∀ text, Uncalled (.request cli.tc text :: acceptMarks d cli) := by
    intro text out member
    rcases List.mem_cons.mp member with rfl | mark
    · rfl
    · rw [mem_accept_marks d cli out mark]
      rfl
  cases served with
  | frame channel data =>
      refine ⟨rfl, fun out member => ?_⟩
      rcases List.mem_cons.mp member with rfl | played
      · rfl
      · obtain ⟨pcmu, rfl⟩ := mem_play_backchannel cli channel data out played
        rfl
  | denied text cseq => exact ⟨rfl, by simp [Uncalled, Out.calls, rtspReply]⟩
  | answered text req code reason extra marks auth calls same fixed marked other =>
      refine ⟨rfl, ?_⟩
      intro out member
      rcases List.mem_cons.mp member with rfl | later
      · rfl
      · rcases List.mem_append.mp later with mark | reply
        · rw [marked out mark]
          rfl
        · exact reply_uncalled _ _ _ _ _ _ out reply
  | described text req method =>
      have handled := describe_beside w (admittedDevice w d req) cli req
      exact ⟨handled.1.trans (admitted req), uncalled_append _ _ (front text) handled.2⟩
  | setUp text req method =>
      obtain ⟨calls, same⟩ := handle_setup_calls w (admittedDevice w d req) cli req
      refine ⟨?_, uncalled_append _ _ (front text) ?_⟩
      · have kept : (handleSetup w (admittedDevice w d req) cli req).1.sess = (admittedDevice w d req).sess := by rw [same]
        exact kept.trans (admitted req)
      · rcases handle_setup_outcome w (admittedDevice w d req) cli req with ⟨code, reason, _, outs⟩ | ⟨track, transport, after, _, outs⟩
        · rw [outs]
          exact reply_uncalled _ _ _ _ _ _
        · rw [outs]
          exact reply_uncalled _ _ _ _ _ _
  | played text req method =>
      have handled := play_beside w (admittedDevice w d req) cli req
      exact ⟨handled.1.trans (admitted req), uncalled_append _ _ (front text) handled.2⟩
  | tornDown text req method =>
      exact ⟨(maybe_stop_sess _).trans (admitted req), uncalled_append _ _ (front text) (reply_uncalled _ _ _ _ _ _)⟩

theorem process_beside (w : World) (d : Device) (conn : ConnId) : BesideCall d (processMessage w d conn) := by
  rcases process_cases w d conn with ⟨idle, _⟩ | ⟨cli, result, rest, _, _, served, same⟩
  · rw [idle]
    exact ⟨rfl, fun _ member => absurd member List.not_mem_nil⟩
  · have beside := served_beside w _ _ _ _ served
    rw [same]
    exact ⟨beside.sess, beside.uncalled⟩

theorem drop_client_sess (d : Device) (conn : ConnId) : (dropClient d conn).sess = d.sess := by
  rw [dropClient]
  split
  · rfl
  · split
    · exact maybe_stop_sess _
    · rfl

def touchesCall : Action → Bool
  | .callCreate _ _ => true
  | .callDelete => true
  | .sessionVideoTimer => true
  | _ => false

theorem step_beside (w : World) (d : Device) (action : Action) (aside : touchesCall action = false) : BesideCall d (step w d action) := by
  have nothing : Uncalled [] := fun _ member => absurd member List.not_mem_nil
  cases action with
  | connect peer => exact ⟨rfl, nothing⟩
  | relayConnect peer => exact ⟨rfl, nothing⟩
  | receive conn chunk =>
      refine ⟨?_, nothing⟩
      rw [step, appendChunk]
      split
      · rfl
      · split <;> rfl
  | process conn => exact process_beside w d conn
  | close conn => exact ⟨drop_client_sess d conn, nothing⟩
  | timeout conn => exact ⟨drop_client_sess d conn, nothing⟩
  | audioTimer =>
      rw [step]
      split
      · exact audio_timer_beside w d
      · exact ⟨rfl, nothing⟩
  | videoTimer =>
      rw [step]
      split
      · exact video_timer_beside w d
      · exact ⟨rfl, nothing⟩
  | callCreate body behind => cases aside
  | callDelete => cases aside
  | sessionVideoTimer => cases aside

theorem session_parts_result (sess : Session) (parts : List (Bool × Bytes)) :
    (sendSessionParts sess parts).1 = { sess with videoSeq := sess.videoSeq + UInt16.ofNat parts.length } ∧
      callPackets (sendSessionParts sess parts).2 = parts.mapIdx fun index part =>
        (sess.peerAddr, sessionPacket { sess with videoSeq := sess.videoSeq + UInt16.ofNat index } part) := by
  induction parts generalizing sess with
  | nil => simp [sendSessionParts, callPackets]
  | cons part rest ih =>
      obtain ⟨state, packets⟩ := ih { sess with videoSeq := sess.videoSeq + 1 }
      have further : ∀ count : Nat, sess.videoSeq + 1 + UInt16.ofNat count = sess.videoSeq + UInt16.ofNat (count + 1) := by
        intro count
        rw [Nat.add_comm, UInt16.ofNat_add, UInt16.add_assoc]
        rfl
      constructor
      · rw [sendSessionParts, state, further, List.length_cons]
      · have first : callPackets (sendSessionParts sess (part :: rest)).2 =
            (sess.peerAddr, sessionPacket sess part) :: callPackets (sendSessionParts { sess with videoSeq := sess.videoSeq + 1 } rest).2 :=
          List.filterMap_cons_some rfl
        rw [first, packets, List.mapIdx_cons]
        simp only [further]
        simp

theorem session_nalus_parts (sess : Session) (nalus : List Bytes) :
    sendSessionNalus sess nalus = sendSessionParts sess (packetiseFrame nalus) := by
  have append : ∀ (sess : Session) (early late : List (Bool × Bytes)), sendSessionParts sess (early ++ late) =
      ((sendSessionParts (sendSessionParts sess early).1 late).1,
        (sendSessionParts sess early).2 ++ (sendSessionParts (sendSessionParts sess early).1 late).2) := by
    intro sess early late
    induction early generalizing sess with
    | nil => rfl
    | cons part rest ih => simp [sendSessionParts, ih]
  induction nalus generalizing sess with
  | nil => rfl
  | cons nalu rest ih => simp [sendSessionNalus, packetiseFrame, append, sendH264NaluRtp, ih]

theorem call_parts_grown (call : CallRecord) (nalus : List Bytes) :
    (call.grown [nalus]).parts = call.parts ++ (packetiseFrame nalus).map fun part => (call.frames.length, part) := by
  simp [CallRecord.parts, CallRecord.grown, List.zipIdx_append]

theorem call_stream_grown (call : CallRecord) (nalus : List Bytes) :
    (call.grown [nalus]).stream = call.stream ++ (packetiseFrame nalus).mapIdx fun index part =>
      call.packet (call.parts.length + index) call.frames.length part := by
  rw [CallRecord.stream, call_parts_grown, List.mapIdx_append, CallRecord.stream]
  congr 1
  apply List.ext_getElem?
  intro index
  simp only [List.getElem?_mapIdx, List.getElem?_map, Option.map_map, Nat.add_comm index]
  rfl

-- The counters of the session are those of the last call.
structure Counts (sess : Session) (call : CallRecord) : Prop where
  peer : sess.peerAddr = call.peer
  ssrc : sess.videoSsrc = call.ssrc
  seq : sess.videoSeq = UInt16.ofNat call.parts.length
  ts : sess.videoTs = UInt32.ofNat (6000 * call.frames.length)

structure CallsNoted (d : Device) (calls : List CallRecord) : Prop where
  last : ∀ sess, d.sess = some sess → ∃ earlier call, calls = earlier ++ [call] ∧ Counts sess call

theorem counts_packet (sess : Session) (call : CallRecord) (counts : Counts sess call) (index : Nat) (part : Bool × Bytes) :
    (sess.peerAddr, sessionPacket { sess with videoSeq := sess.videoSeq + UInt16.ofNat index } part) =
      call.packet (call.parts.length + index) call.frames.length part := by
  rw [sessionPacket, CallRecord.packet]
  simp only [counts.peer, counts.ssrc, counts.seq, counts.ts, UInt16.ofNat_add]

theorem pull_frame (w : World) (d : Device) : pulledIn (getFrame w d).2.2 = (getFrame w d).2.1.toList :=
  (get_frame_delivery w d).frames

theorem session_timer_noted (w : World) (d : Device) (calls : List CallRecord) (noted : CallsNoted d calls) :
    CallsNoted (sessionVideoTimer w d).1 (noteCall w d calls .sessionVideoTimer) ∧
      (noteCall w d calls .sessionVideoTimer).flatMap CallRecord.stream =
        calls.flatMap CallRecord.stream ++ callPackets (sessionVideoTimer w d).2 := by
  have still : calls.modifyLast (CallRecord.grown []) = calls := by
    rcases List.eq_nil_or_concat calls with rfl | ⟨earlier, call, rfl⟩
    · rfl
    · simp [List.modifyLast_concat, CallRecord.grown]
  rw [noteCall, sessionVideoTimer]
  cases live : d.sess with
  | none =>
      refine ⟨⟨fun sess found => ?_⟩, ?_⟩
      · rw [live] at found
        cases found
      · dsimp only
        rw [pulledIn, List.filterMap_nil, still]
        simp [callPackets]
  | some sess =>
      obtain ⟨earlier, call, rfl, counts⟩ := noted.last sess live
      dsimp only
      split
      · have silent := uncalled_packets _ (get_frame_uncalled w d)
        have frame := pull_frame w d
        split
        · rename_i missing
          rw [missing] at frame
          dsimp only
          rw [frame, silent]
          rw [Option.toList_none, still, List.append_nil]
          exact ⟨⟨noted.last⟩, rfl⟩
        · rename_i nalus pulled
          rw [pulled] at frame
          obtain ⟨state, packets⟩ := session_parts_result sess (packetiseFrame nalus)
          rw [session_nalus_parts]
          have others : pulledIn (sendSessionParts sess (packetiseFrame nalus)).2 = [] := by
            rw [pulledIn, List.filterMap_eq_nil_iff]
            intro out member
            obtain ⟨dest, packet, rfl⟩ := mem_session_parts sess _ out member
            rfl
          have grown : pulledIn ((getFrame w d).2.2 ++ (sendSessionParts sess (packetiseFrame nalus)).2) = [nalus] := by
            rw [pulledIn, List.filterMap_append]
            rw [pulledIn] at frame others
            rw [frame, others]
            rfl
          have sent : callPackets ((getFrame w d).2.2 ++ (sendSessionParts sess (packetiseFrame nalus)).2) =
              (packetiseFrame nalus).mapIdx fun index part => call.packet (call.parts.length + index) call.frames.length part := by
            rw [callPackets, List.filterMap_append]
            rw [callPackets] at silent packets
            rw [silent, packets, List.nil_append]
            simp only [counts_packet sess call counts]
          dsimp only
          rw [grown, sent, List.modifyLast_concat]
          constructor
          · constructor
            intro later found
            cases found
            refine ⟨earlier, _, rfl, ?_⟩
            rw [state]
            constructor
            · exact counts.peer
            · exact counts.ssrc
            · rw [call_parts_grown]
              simp [counts.seq]
            · simp [counts.ts, CallRecord.grown, videoTick, Nat.mul_add, UInt32.ofNat_add]
          · rw [List.flatMap_append, List.flatMap_append, List.flatMap_singleton, List.flatMap_singleton, call_stream_grown,
              List.append_assoc]
      · dsimp only
        rw [pulledIn, List.filterMap_nil, still]
        exact ⟨⟨noted.last⟩, by simp [callPackets]⟩

theorem call_created_noted (w : World) (d : Device) (calls : List CallRecord) (body behind : Bytes) :
    CallsNoted (handleCallCreate w d body behind).1 (noteCall w d calls (.callCreate body behind)) ∧
      (noteCall w d calls (.callCreate body behind)).flatMap CallRecord.stream =
        calls.flatMap CallRecord.stream ++ callPackets (handleCallCreate w d body behind).2 := by
  have ended := (end_session_result d).1
  have counter : (endSession d).calls = d.calls := by
    rw [endSession]
    split <;> rfl
  have answer : Uncalled (handleCallCreate w d body behind).2 := by
    intro out member
    obtain ⟨code, rfl⟩ := mem_call_create w d body behind out member
    rfl
  have fresh : ∀ peer ssrc, (CallRecord.mk peer ssrc []).stream = [] := fun _ _ => rfl
  rw [uncalled_packets _ answer, List.append_nil, noteCall]
  cases decoded : w.saDecode (peerText body behind) with
  | none =>
      have refused : handleCallCreate w d body behind = (endSession d, [.http 400]) := by simp [handleCallCreate, decoded]
      rw [refused]
      refine ⟨⟨fun sess found => ?_⟩, by simp⟩
      dsimp only at found
      rw [ended] at found
      cases found
  | some peer =>
      have taken : handleCallCreate w d body behind =
          ((sessionAlloc w (endSession d) peer).1, [.http (if (sessionAlloc w (endSession d) peer).2 then 201 else 500)]) := by
        simp [handleCallCreate, decoded]
      rw [taken]
      cases result : (sessionAlloc w (endSession d) peer).2 with
      | false =>
          refine ⟨⟨fun sess found => ?_⟩, by simp⟩
          dsimp only at found
          rw [(session_alloc_failed w _ peer result).1, ended] at found
          cases found
      | true =>
          have allocated : ∃ port, (sessionAlloc w (endSession d) peer).1.sess =
              some { peerAddr := peer, localPort := port, videoSsrc := w.randU32 (d.calls + 1) } := by
            rw [sessionAlloc] at result ⊢
            dsimp only at result ⊢
            split
            · rename_i opened
              rw [if_pos opened] at result
              split
              · rename_i port
                rw [port] at result
                cases result
              · rw [counter]
                exact ⟨_, rfl⟩
            · rename_i failed
              rw [if_neg failed] at result
              cases result
          obtain ⟨port, made⟩ := allocated
          simp only [if_true, Option.toList_some, List.map_cons, List.map_nil]
          refine ⟨⟨fun sess found => ?_⟩, by simp [fresh]⟩
          rw [made] at found
          cases found
          exact ⟨calls, _, rfl, rfl, rfl, rfl, rfl⟩

theorem step_noted (w : World) (d : Device) (calls : List CallRecord) (action : Action) (noted : CallsNoted d calls) :
    CallsNoted (step w d action).1 (noteCall w d calls action) ∧
      (noteCall w d calls action).flatMap CallRecord.stream = calls.flatMap CallRecord.stream ++ callPackets (step w d action).2 := by
  cases call : touchesCall action with
  | false =>
      have beside := step_beside w d action call
      have same : noteCall w d calls action = calls := by
        cases action with
        | callCreate body behind => cases call
        | callDelete => cases call
        | sessionVideoTimer => cases call
        | _ => rfl
      rw [same, uncalled_packets _ beside.uncalled, List.append_nil]
      exact ⟨⟨fun sess found => noted.last sess (beside.sess ▸ found)⟩, rfl⟩
  | true =>
      cases action with
      | callCreate body behind => exact call_created_noted w d calls body behind
      | callDelete =>
          refine ⟨⟨fun sess found => ?_⟩, by simp [noteCall, step, handleCallDelete, callPackets, Out.calls]⟩
          have ended : (step w d .callDelete).1.sess = none := (end_session_result d).1
          rw [ended] at found
          cases found
      | sessionVideoTimer => exact session_timer_noted w d calls noted
      | _ => cases call

-- Induction on the run: the packets so far are those of the calls so far.
theorem run_noted (w : World) (d : Device) (calls : List CallRecord) (actions : List Action) (noted : CallsNoted d calls) :
    (Runs.run (noteCalls w) (d, calls) actions).2.flatMap CallRecord.stream =
      calls.flatMap CallRecord.stream ++ callPackets (reached w d actions).2 := by
  induction actions generalizing d calls with
  | nil => simp [Runs.run, reached, callPackets]
  | cons action rest ih =>
      obtain ⟨later, sent⟩ := step_noted w d calls action noted
      have outs : (reached w d (action :: rest)).2 = (step w d action).2 ++ (reached w (deviceStep w d action) rest).2 :=
        Runs.record_outputs (step w) (step w d action).1 (step w d action).2 rest
      have next := ih (deviceStep w d action) (noteCall w d calls action) later
      rw [sent] at next
      rw [outs, callPackets, List.filterMap_append, ← List.append_assoc]
      exact next

theorem call_streams (w : World) (localIp username password : Bytes) (actions : List Action) :
    callPackets (reached w (initial w localIp username password) actions).2 =
      (callsMade w (initial w localIp username password) actions).flatMap CallRecord.stream := by
  have noted : CallsNoted (initial w localIp username password) [] := ⟨fun sess found => by cases found⟩
  have whole := run_noted w _ [] actions noted
  rw [callsMade, whole, List.flatMap_nil, List.nil_append]

end Intercom
