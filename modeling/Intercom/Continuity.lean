import Intercom.Fanout
import Intercom.Rtsp.Replies

set_option autoImplicit false

/- The numbering of RTP packets. Sequence numbers and timestamps live in the client record and wrap; a tally kept
   beside the log counts without wrapping what was built for one connection. -/
namespace Intercom

open ByteText

-- A packet handed to tcp_interleaved_send or udp_send for the connection, whether or not it got out.
def Out.built? (pt : UInt8) (conn : ConnId) : Out → Option RtpPacket
  | .interleaved target _ packet => if target = conn ∧ packet.hdr.pt = pt then some packet else none
  | .datagram target _ packet => if target = conn ∧ packet.hdr.pt = pt then some packet else none
  | .undelivered target packet => if target = conn ∧ packet.hdr.pt = pt then some packet else none
  | _ => none

def builtFor (pt : UInt8) (conn : ConnId) (outs : List Out) : List RtpPacket := outs.filterMap (Out.built? pt conn)

def Out.isPull : Out → Bool
  | .pulled _ => true
  | _ => false

-- The frames of which packets were built for the connection: what lies between one camera frame and the next.
def framesFor (conn : ConnId) (outs : List Out) : List (List RtpPacket) :=
  ((outs.splitOnP Out.isPull).map (builtFor ptH264 conn)).filter (· ≠ [])

-- fed: a frame was pulled since the last reply; begun: packets of the frame at hand were built.
structure Tally where
  video : Nat := 0
  audio : Nat := 0
  frame : Nat := 0
  begun : Bool := false
  fed : Bool := false
deriving DecidableEq, Repr

def Tally.nextFrame (tally : Tally) : Nat := if tally.begun then tally.frame + 1 else tally.frame

def countVideo (tally : Tally) : Tally := { tally with video := tally.video + 1, begun := true }

def count (conn : ConnId) (tally : Tally) (out : Out) : Tally :=
  match out with
  | .pulled _ => { tally with frame := tally.nextFrame, begun := false, fed := true }
  | .reply _ _ => { tally with fed := false }
  | out =>
      if (out.built? ptH264 conn).isSome then countVideo tally
      else if (out.built? ptPcmu conn).isSome then { tally with audio := tally.audio + 1 }
      else tally

def Tally.seqs (tally : Tally) (extra : Extra) : Prop :=
  ∀ uri videoSeq videoTs audioSeq audioTs backchannel, extra = .rtpInfo uri videoSeq videoTs audioSeq audioTs backchannel →
    videoSeq = UInt16.ofNat tally.video ∧ videoTs = UInt32.ofNat (6000 * tally.nextFrame) ∧
      audioSeq = UInt16.ofNat tally.audio ∧ audioTs = UInt32.ofNat (160 * tally.audio)

structure InOrder (conn : ConnId) (tally : Tally) (out : Out) : Prop where
  video : ∀ packet, out.built? ptH264 conn = some packet → tally.fed = true ∧ packet.hdr.seq = UInt16.ofNat tally.video ∧
    packet.hdr.ts = UInt32.ofNat (6000 * tally.frame)
  audio : ∀ packet, out.built? ptPcmu conn = some packet → packet.hdr.seq = UInt16.ofNat tally.audio ∧
    packet.hdr.ts = UInt32.ofNat (160 * tally.audio)
  info : ∀ answer, out = .reply conn answer → tally.seqs answer.extra

def Numbered (conn : ConnId) (tally : Tally) (outs : List Out) : Prop := Runs.EachStep (count conn) (InOrder conn) tally outs

def tallied (conn : ConnId) (tally : Tally) (outs : List Out) : Tally := Runs.run (count conn) tally outs

theorem built_packet (pt : UInt8) (conn : ConnId) (out : Out) (packet : RtpPacket) (built : out.built? pt conn = some packet) :
    packet.hdr.pt = pt ∧ out.isPull = false ∧ ∀ other, other ≠ pt → out.built? other conn = none := by
  have here : ∀ target (sent : RtpPacket), (if target = conn ∧ sent.hdr.pt = pt then some sent else none) = some packet →
      packet.hdr.pt = pt ∧ ∀ other, other ≠ pt → (if target = conn ∧ sent.hdr.pt = other then some sent else none) = none := by
    intro target sent taken
    by_cases hit : target = conn ∧ sent.hdr.pt = pt
    · rw [if_pos hit] at taken
      cases taken
      exact ⟨hit.2, fun other away => if_neg fun both => away (both.2.symm.trans hit.2)⟩
    · rw [if_neg hit] at taken
      cases taken
  cases out with
  | interleaved target channel sent => exact ⟨(here target sent built).1, rfl, (here target sent built).2⟩
  | datagram target dest sent => exact ⟨(here target sent built).1, rfl, (here target sent built).2⟩
  | undelivered target sent => exact ⟨(here target sent built).1, rfl, (here target sent built).2⟩
  | _ => cases built

-- What one output does to the tally, by what it is.
inductive Counted (conn : ConnId) (tally : Tally) (out : Out) : Tally → Prop where
  | video (packet : RtpPacket) (built : out.built? ptH264 conn = some packet) (quiet : out.built? ptPcmu conn = none)
      (media : out.isPull = false) : Counted conn tally out (countVideo tally)
  | audio (packet : RtpPacket) (quiet : out.built? ptH264 conn = none) (built : out.built? ptPcmu conn = some packet)
      (media : out.isPull = false) : Counted conn tally out { tally with audio := tally.audio + 1 }
  | pulled (video : out.built? ptH264 conn = none) (audio : out.built? ptPcmu conn = none) (pull : out.isPull = true) :
      Counted conn tally out { tally with frame := tally.nextFrame, begun := false, fed := true }
  | replied (video : out.built? ptH264 conn = none) (audio : out.built? ptPcmu conn = none) (other : out.isPull = false) :
      Counted conn tally out { tally with fed := false }
  | passed (video : out.built? ptH264 conn = none) (audio : out.built? ptPcmu conn = none) (other : out.isPull = false) :
      Counted conn tally out tally

theorem counted (conn : ConnId) (tally : Tally) (out : Out) : Counted conn tally out (count conn tally out) := by
  have packets : out.isPull = false → Counted conn tally out
      (if (out.built? ptH264 conn).isSome then countVideo tally
        else if (out.built? ptPcmu conn).isSome then { tally with audio := tally.audio + 1 } else tally) := by
    intro media
    cases video : out.built? ptH264 conn with
    | some packet => exact .video packet video ((built_packet _ conn out packet video).2.2 _ (by decide)) media
    | none =>
        cases audio : out.built? ptPcmu conn with
        | some packet => exact .audio packet video audio media
        | none => exact .passed video audio media
  cases out with
  | pulled nalus => exact .pulled rfl rfl rfl
  | reply target answer => exact .replied rfl rfl rfl
  | _ => exact packets rfl

theorem built_cons (pt : UInt8) (conn : ConnId) (out : Out) (rest : List Out) :
    builtFor pt conn (out :: rest) = (out.built? pt conn).toList ++ builtFor pt conn rest := by
  cases built : out.built? pt conn with
  | none => exact List.filterMap_cons_none built
  | some packet => exact List.filterMap_cons_some built

theorem video_sequence (conn : ConnId) (tally : Tally) (outs : List Out) (numbered : Numbered conn tally outs) (index : Nat)
    (packet : RtpPacket) (here : (builtFor ptH264 conn outs)[index]? = some packet) :
    packet.hdr.seq = UInt16.ofNat (tally.video + index) := by
  induction outs generalizing tally index with
  | nil => cases here
  | cons out rest ih =>
      obtain ⟨fits, later⟩ := numbered
      have step := counted conn tally out
      rw [built_cons] at here
      generalize count conn tally out = after at later step
      cases step with
      | video sent built quiet media =>
          rw [built] at here
          cases index with
          | zero =>
              cases here
              exact (fits.video packet built).2.1
          | succ index =>
              have same : (countVideo tally).video + index = tally.video + (index + 1) := by simp only [countVideo]; omega
              rw [← same]
              exact ih _ later index here
      | audio sent quiet built media =>
          rw [quiet] at here
          exact ih _ later index here
      | pulled video audio pull =>
          rw [video] at here
          exact ih _ later index here
      | replied video audio other =>
          rw [video] at here
          exact ih _ later index here
      | passed video audio other =>
          rw [video] at here
          exact ih _ later index here

theorem audio_sequence (conn : ConnId) (tally : Tally) (outs : List Out) (numbered : Numbered conn tally outs) (index : Nat)
    (packet : RtpPacket) (here : (builtFor ptPcmu conn outs)[index]? = some packet) :
    packet.hdr.seq = UInt16.ofNat (tally.audio + index) ∧ packet.hdr.ts = UInt32.ofNat (160 * (tally.audio + index)) := by
  induction outs generalizing tally index with
  | nil => cases here
  | cons out rest ih =>
      obtain ⟨fits, later⟩ := numbered
      have step := counted conn tally out
      rw [built_cons] at here
      generalize count conn tally out = after at later step
      cases step with
      | video sent built quiet media =>
          rw [quiet] at here
          exact ih _ later index here
      | audio sent quiet built media =>
          rw [built] at here
          cases index with
          | zero =>
              cases here
              exact fits.audio packet built
          | succ index =>
              have same : tally.audio + 1 + index = tally.audio + (index + 1) := by omega
              rw [← same]
              exact ih _ later index here
      | pulled video audio pull =>
          rw [audio] at here
          exact ih _ later index here
      | replied video audio other =>
          rw [audio] at here
          exact ih _ later index here
      | passed video audio other =>
          rw [audio] at here
          exact ih _ later index here

-- The number of the frame that follows the packets built since the last pull.
def Tally.following (tally : Tally) (pending : List RtpPacket) : Nat :=
  if pending = [] then tally.nextFrame else tally.frame + 1

theorem frame_times (conn : ConnId) (tally : Tally) (outs : List Out) (numbered : Numbered conn tally outs) :
    ∃ pending later, (outs.splitOnP Out.isPull).map (builtFor ptH264 conn) = pending :: later ∧
      (∀ packet ∈ pending, packet.hdr.ts = UInt32.ofNat (6000 * tally.frame)) ∧
      ∀ index frame, (later.filter (· ≠ []))[index]? = some frame →
        ∀ packet ∈ frame, packet.hdr.ts = UInt32.ofNat (6000 * (tally.following pending + index)) := by
  induction outs generalizing tally with
  | nil =>
      refine ⟨[], [], rfl, fun _ member => absurd member List.not_mem_nil, ?_⟩
      intro index frame none
      cases none
  | cons out rest ih =>
      obtain ⟨fits, numberedRest⟩ := numbered
      obtain ⟨pending, later, groups, now, behind⟩ := ih _ numberedRest
      have step := counted conn tally out
      generalize count conn tally out = after at now behind step
      have passes : out.isPull = false → ((out :: rest).splitOnP Out.isPull).map (builtFor ptH264 conn) =
          ((out.built? ptH264 conn).toList ++ pending) :: later := by
        intro media
        rw [List.splitOnP_cons_eq_if_modifyHead, if_neg (by rw [media]; exact Bool.false_ne_true)]
        cases pieces : rest.splitOnP Out.isPull with
        | nil =>
            rw [pieces] at groups
            cases groups
        | cons piece others =>
            rw [pieces, List.map_cons] at groups
            obtain ⟨first, behindIt⟩ := List.cons.inj groups
            rw [List.modifyHead_cons, List.map_cons, built_cons, first, behindIt]
      cases step with
      | video sent built quiet media =>
          refine ⟨_, later, passes media, ?_, ?_⟩
          · intro packet member
            rw [built] at member
            rcases List.mem_cons.mp member with rfl | old
            · exact (fits.video packet built).2.2
            · exact now packet old
          · have same : (countVideo tally).following pending = tally.following ((out.built? ptH264 conn).toList ++ pending) := by
              simp [Tally.following, Tally.nextFrame, countVideo, built]
            rw [← same]
            exact behind
      | audio sent quiet built media =>
          rw [quiet] at passes
          exact ⟨pending, later, passes media, now, behind⟩
      | pulled video audio pull =>
          refine ⟨[], pending :: later, ?_, fun _ member => absurd member List.not_mem_nil, ?_⟩
          · rw [List.splitOnP_cons_eq_if_modifyHead, if_pos pull, List.map_cons, groups]
            rfl
          · intro index frame found
            have start : tally.following [] = tally.nextFrame := if_pos rfl
            rw [start]
            by_cases none : pending = []
            · rw [List.filter_cons_of_neg (by simp [none])] at found
              have same := behind index frame found
              rw [Tally.following, if_pos none] at same
              exact same
            · rw [List.filter_cons_of_pos (by simp [none])] at found
              cases index with
              | zero =>
                  cases found
                  exact now
              | succ index =>
                  have same := behind index frame found
                  rw [Tally.following, if_neg none] at same
                  rw [Nat.add_comm index 1, ← Nat.add_assoc]
                  exact same
      | replied video audio other =>
          rw [video] at passes
          exact ⟨pending, later, passes other, now, behind⟩
      | passed video audio other =>
          rw [video] at passes
          exact ⟨pending, later, passes other, now, behind⟩

-- After a reply the next video packet opens a new frame.
theorem next_video_packet (conn : ConnId) (tally : Tally) (outs : List Out) (numbered : Numbered conn tally outs)
    (waiting : tally.fed = true → tally.begun = false) (packet : RtpPacket)
    (first : (builtFor ptH264 conn outs).head? = some packet) :
    packet.hdr.seq = UInt16.ofNat tally.video ∧ packet.hdr.ts = UInt32.ofNat (6000 * tally.nextFrame) := by
  induction outs generalizing tally with
  | nil => cases first
  | cons out rest ih =>
      obtain ⟨fits, later⟩ := numbered
      have step := counted conn tally out
      rw [built_cons] at first
      generalize count conn tally out = after at later step
      cases step with
      | video sent built quiet media =>
          rw [built] at first
          cases first
          obtain ⟨fed, seq, ts⟩ := fits.video packet built
          rw [Tally.nextFrame, waiting fed]
          exact ⟨seq, ts⟩
      | audio sent quiet built media =>
          rw [quiet] at first
          have same := ih _ later waiting first
          exact same
      | pulled video audio pull =>
          rw [video] at first
          have same := ih _ later (fun _ => rfl) first
          exact same
      | replied video audio other =>
          rw [video] at first
          have same := ih _ later (fun fed => absurd fed Bool.false_ne_true) first
          exact same
      | passed video audio other =>
          rw [video] at first
          exact ih _ later waiting first

theorem numbered_append (conn : ConnId) (tally : Tally) (early late : List Out) :
    Numbered conn tally (early ++ late) ↔ Numbered conn tally early ∧ Numbered conn (tallied conn tally early) late :=
  Runs.each_step_append (count conn) (InOrder conn) tally early late

theorem tallied_append (conn : ConnId) (tally : Tally) (early late : List Out) :
    tallied conn tally (early ++ late) = tallied conn (tallied conn tally early) late :=
  Runs.run_append (count conn) tally early late

-- The counts that the records of the device are compared with.
structure SameCounts (before after : Tally) : Prop where
  video : after.video = before.video
  audio : after.audio = before.audio
  frame : after.nextFrame = before.nextFrame

theorem same_counts_refl (tally : Tally) : SameCounts tally tally := ⟨rfl, rfl, rfl⟩

theorem same_counts_trans (a b c : Tally) (first : SameCounts a b) (second : SameCounts b c) : SameCounts a c :=
  ⟨second.video.trans first.video, second.audio.trans first.audio, second.frame.trans first.frame⟩

structure CountsMatch (cli : RtspClient) (tally : Tally) : Prop where
  videoSeq : cli.video.seq = UInt16.ofNat tally.video
  videoTs : cli.video.ts = UInt32.ofNat (6000 * tally.nextFrame)
  audioSeq : cli.audio.seq = UInt16.ofNat tally.audio
  audioTs : cli.audio.ts = UInt32.ofNat (160 * tally.audio)

theorem match_same (cli : RtspClient) (before after : Tally) (same : SameCounts before after) (fine : CountsMatch cli before) :
    CountsMatch cli after := by
  refine ⟨?_, ?_, ?_, ?_⟩
  · rw [same.video]
    exact fine.videoSeq
  · rw [same.frame]
    exact fine.videoTs
  · rw [same.audio]
    exact fine.audioSeq
  · rw [same.audio]
    exact fine.audioTs

def Extra.isInfo : Extra → Bool
  | .rtpInfo _ _ _ _ _ _ => true
  | _ => false

theorem fixed_no_info (extra : Extra) (fixed : extra.isFixed = true) : extra.isInfo = false := by
  cases extra with
  | rtpInfo _ _ _ _ _ _ => cases fixed
  | _ => rfl

structure Uncounted (conn : ConnId) (out : Out) : Prop where
  video : out.built? ptH264 conn = none
  audio : out.built? ptPcmu conn = none
  info : ∀ answer, out = .reply conn answer → answer.extra.isInfo = false

theorem uncounted_in_order (conn : ConnId) (tally : Tally) (out : Out) (quiet : Uncounted conn out) : InOrder conn tally out := by
  refine ⟨?_, ?_, ?_⟩
  · intro packet built
    rw [quiet.video] at built
    cases built
  · intro packet built
    rw [quiet.audio] at built
    cases built
  · intro answer same uri videoSeq videoTs audioSeq audioTs backchannel info
    have other := quiet.info answer same
    rw [info] at other
    cases other

theorem uncounted_same (conn : ConnId) (tally : Tally) (out : Out) (quiet : Uncounted conn out) :
    SameCounts tally (count conn tally out) := by
  have step := counted conn tally out
  generalize count conn tally out = after at step
  cases step with
  | video packet built _ _ =>
      rw [quiet.video] at built
      cases built
  | audio packet _ built _ =>
      rw [quiet.audio] at built
      cases built
  | pulled _ _ _ => exact ⟨rfl, rfl, rfl⟩
  | replied _ _ _ => exact ⟨rfl, rfl, rfl⟩
  | passed _ _ _ => exact ⟨rfl, rfl, rfl⟩

theorem uncounted_numbered (conn : ConnId) (tally : Tally) (outs : List Out) (quiet : ∀ out ∈ outs, Uncounted conn out) :
    Numbered conn tally outs ∧ SameCounts tally (tallied conn tally outs) := by
  induction outs generalizing tally with
  | nil => exact ⟨trivial, same_counts_refl tally⟩
  | cons out rest ih =>
      have now := quiet out List.mem_cons_self
      obtain ⟨later, same⟩ := ih (count conn tally out) fun other member => quiet other (List.mem_cons_of_mem out member)
      exact ⟨⟨uncounted_in_order conn tally out now, later⟩, same_counts_trans _ _ _ (uncounted_same conn tally out now) same⟩

theorem count_video (conn : ConnId) (tally : Tally) (out : Out) (packet : RtpPacket) (built : out.built? ptH264 conn = some packet) :
    count conn tally out = countVideo tally := by
  have step := counted conn tally out
  generalize count conn tally out = after at step
  cases step with
  | video _ _ _ _ => rfl
  | audio _ quiet _ _ => rw [quiet] at built; cases built
  | pulled quiet _ _ => rw [quiet] at built; cases built
  | replied quiet _ _ => rw [quiet] at built; cases built
  | passed quiet _ _ => rw [quiet] at built; cases built

theorem count_audio (conn : ConnId) (tally : Tally) (out : Out) (packet : RtpPacket) (built : out.built? ptPcmu conn = some packet) :
    count conn tally out = { tally with audio := tally.audio + 1 } := by
  have step := counted conn tally out
  generalize count conn tally out = after at step
  cases step with
  | video _ _ quiet _ => rw [quiet] at built; cases built
  | audio _ _ _ _ => rfl
  | pulled _ quiet _ => rw [quiet] at built; cases built
  | replied _ quiet _ => rw [quiet] at built; cases built
  | passed _ quiet _ => rw [quiet] at built; cases built

theorem send_rtp_built (cli : RtspClient) (track : RtpTrack) (packet : RtpPacket) :
    ∃ out, sendRtp cli track packet = [out] ∧ out.built? packet.hdr.pt cli.tc = some packet ∧ ∀ answer, out ≠ .reply cli.tc answer := by
  rw [sendRtp]
  split
  · exact ⟨_, rfl, if_pos ⟨rfl, rfl⟩, fun _ => Out.noConfusion⟩
  · split
    · exact ⟨_, rfl, if_pos ⟨rfl, rfl⟩, fun _ => Out.noConfusion⟩
    · exact ⟨_, rfl, if_pos ⟨rfl, rfl⟩, fun _ => Out.noConfusion⟩

theorem video_in_order (conn : ConnId) (tally : Tally) (out : Out) (packet : RtpPacket) (built : out.built? ptH264 conn = some packet)
    (fed : tally.fed = true) (seq : packet.hdr.seq = UInt16.ofNat tally.video)
    (ts : packet.hdr.ts = UInt32.ofNat (6000 * tally.frame)) : InOrder conn tally out := by
  refine ⟨?_, ?_, ?_⟩
  · intro other same
    rw [built] at same
    cases same
    exact ⟨fed, seq, ts⟩
  · intro other same
    rw [(built_packet _ conn out packet built).2.2 ptPcmu (by decide)] at same
    cases same
  · rintro answer rfl
    cases built

theorem audio_in_order (conn : ConnId) (tally : Tally) (out : Out) (packet : RtpPacket) (built : out.built? ptPcmu conn = some packet)
    (seq : packet.hdr.seq = UInt16.ofNat tally.audio) (ts : packet.hdr.ts = UInt32.ofNat (160 * tally.audio)) :
    InOrder conn tally out := by
  refine ⟨?_, ?_, ?_⟩
  · intro other same
    rw [(built_packet _ conn out packet built).2.2 ptH264 (by decide)] at same
    cases same
  · intro other same
    rw [built] at same
    cases same
    exact ⟨seq, ts⟩
  · rintro answer rfl
    cases built

-- One packet more: the wrapped number in the record and the tally move together.
theorem video_parts_numbered (cli : RtspClient) (parts : List (Bool × Bytes)) (tally : Tally) (fed : tally.fed = true)
    (seq : cli.video.seq = UInt16.ofNat tally.video) (ts : cli.video.ts = UInt32.ofNat (6000 * tally.frame)) :
    Numbered cli.tc tally (sendVideoParts cli parts).2 ∧
      tallied cli.tc tally (sendVideoParts cli parts).2 =
        { tally with video := tally.video + parts.length, begun := tally.begun || decide (parts ≠ []) } ∧
      (sendVideoParts cli parts).1.video.seq = UInt16.ofNat (tally.video + parts.length) ∧
      (sendVideoParts cli parts).1.video.ts = cli.video.ts ∧ (sendVideoParts cli parts).1.audio = cli.audio := by
  induction parts generalizing cli tally with
  | nil => exact ⟨trivial, by simp [sendVideoParts, tallied, Runs.run], by simpa [sendVideoParts] using seq, rfl, rfl⟩
  | cons part rest ih =>
      obtain ⟨out, single, built, _⟩ := send_rtp_built cli cli.video (videoPacket cli part)
      have more : (sendVideoPart cli part).1.video.seq = UInt16.ofNat (countVideo tally).video := by
        rw [countVideo, UInt16.ofNat_add, ← seq]
        rfl
      obtain ⟨later, counts, last, time, audio⟩ := ih (sendVideoPart cli part).1 (countVideo tally) fed more ts
      have outs : (sendVideoParts cli (part :: rest)).2 = out :: (sendVideoParts (sendVideoPart cli part).1 rest).2 := by
        rw [sendVideoParts, sendVideoPart]
        dsimp only
        rw [single]
        rfl
      have first : count cli.tc tally out = countVideo tally := count_video cli.tc tally out _ built
      rw [outs]
      refine ⟨⟨video_in_order cli.tc tally out _ built fed seq ts, ?_⟩, ?_, ?_, time, audio⟩
      · rw [first]
        exact later
      · rw [tallied, Runs.run, List.foldl_cons, first]
        rw [tallied, Runs.run] at counts
        refine counts.trans ?_
        simp [countVideo, Nat.add_comm, Nat.add_left_comm]
      · rw [List.length_cons, Nat.add_comm rest.length 1, ← Nat.add_assoc]
        exact last

theorem send_frame_numbered (cli : RtspClient) (nalus : List Bytes) (tally : Tally) (fed : tally.fed = true)
    (fresh : tally.begun = false) (packets : packetiseFrame nalus ≠ []) (fine : CountsMatch cli tally) :
    Numbered cli.tc tally (sendFrame cli nalus).2 ∧
      CountsMatch (sendFrame cli nalus).1 (tallied cli.tc tally (sendFrame cli nalus).2) := by
  have frame : tally.nextFrame = tally.frame := by rw [Tally.nextFrame, fresh]; rfl
  obtain ⟨numbered, counts, seq, ts, audio⟩ :=
    video_parts_numbered cli (packetiseFrame nalus) tally fed fine.videoSeq (frame ▸ fine.videoTs)
  have later : (tallied cli.tc tally (sendVideoParts cli (packetiseFrame nalus)).2).nextFrame = tally.nextFrame + 1 := by
    rw [counts, frame]
    simp [Tally.nextFrame, packets]
  rw [sendFrame, send_nalus_parts]
  refine ⟨numbered, ?_, ?_, ?_, ?_⟩
  · rw [counts]
    exact seq
  · dsimp only
    rw [later, Nat.mul_succ, UInt32.ofNat_add, ← fine.videoTs, ts]
    rfl
  · rw [counts]
    exact (congrArg RtpTrack.seq audio).trans fine.audioSeq
  · rw [counts]
    exact (congrArg RtpTrack.ts audio).trans fine.audioTs

theorem send_audio_numbered (cli : RtspClient) (pcmu : Bytes) (tally : Tally) (fine : CountsMatch cli tally) :
    Numbered cli.tc tally (sendAudioBlock cli pcmu).2 ∧
      CountsMatch (sendAudioBlock cli pcmu).1 (tallied cli.tc tally (sendAudioBlock cli pcmu).2) := by
  obtain ⟨out, single, built, _⟩ := send_rtp_built cli cli.audio (audioPacket cli pcmu)
  have counts : tallied cli.tc tally [out] = { tally with audio := tally.audio + 1 } := count_audio cli.tc tally out _ built
  rw [sendAudioBlock, single]
  refine ⟨⟨audio_in_order cli.tc tally out _ built fine.audioSeq fine.audioTs, trivial⟩, ?_, ?_, ?_, ?_⟩
  · rw [counts]
    exact fine.videoSeq
  · rw [counts]
    exact fine.videoTs
  · rw [counts, UInt16.ofNat_add, ← fine.audioSeq]
    rfl
  · rw [counts, Nat.mul_succ, UInt32.ofNat_add, ← fine.audioTs]
    rfl

theorem carried_uncounted (conn : ConnId) (cli : RtspClient) (track : RtpTrack) (pt : UInt8) (outs : List Out)
    (carried : Carried cli track pt outs) (away : cli.tc ≠ conn) : ∀ out ∈ outs, Uncounted conn out := by
  intro out member
  obtain ⟨packet, _, sent⟩ := carried out member
  have miss : ∀ other, ¬ (cli.tc = conn ∧ packet.hdr.pt = other) := fun other both => away both.1
  rcases mem_send_rtp cli track packet out sent with rfl | rfl | rfl
  · exact ⟨if_neg (miss _), if_neg (miss _), fun _ same => Out.noConfusion same⟩
  · exact ⟨if_neg (miss _), if_neg (miss _), fun _ same => Out.noConfusion same⟩
  · exact ⟨if_neg (miss _), if_neg (miss _), fun _ same => Out.noConfusion same⟩

-- The packets of another connection leave the tally exactly as it is.
theorem carried_passed (conn : ConnId) (tally : Tally) (cli : RtspClient) (track : RtpTrack) (pt : UInt8) (outs : List Out)
    (carried : Carried cli track pt outs) (away : cli.tc ≠ conn) :
    Numbered conn tally outs ∧ tallied conn tally outs = tally := by
  refine ⟨(uncounted_numbered conn tally outs (carried_uncounted conn cli track pt outs carried away)).1, ?_⟩
  induction outs with
  | nil => rfl
  | cons out rest ih =>
      obtain ⟨packet, _, sent⟩ := carried out List.mem_cons_self
      have miss : ∀ other, ¬ (cli.tc = conn ∧ packet.hdr.pt = other) := fun other both => away both.1
      have still : count conn tally out = tally := by
        rcases mem_send_rtp cli track packet out sent with rfl | rfl | rfl <;> simp [count, Out.built?, miss]
      rw [tallied, Runs.run, List.foldl_cons, still]
      exact ih fun other member => carried other (List.mem_cons_of_mem out member)

theorem all_passed (conn : ConnId) (send : RtspClient → RtspClient × List Out) (clients : List RtspClient)
    (others : ∀ cli current, cli.tc ≠ conn → Numbered conn current (send cli).2 ∧ tallied conn current (send cli).2 = current)
    (strangers : ∀ cli ∈ clients, cli.tc ≠ conn) (tally : Tally) :
    Numbered conn tally (clients.flatMap fun cli => (send cli).2) ∧
      tallied conn tally (clients.flatMap fun cli => (send cli).2) = tally := by
  induction clients with
  | nil => exact ⟨trivial, rfl⟩
  | cons head rest ih =>
      obtain ⟨first, kept⟩ := others head tally (strangers head List.mem_cons_self)
      obtain ⟨later, still⟩ := ih fun cli member => strangers cli (List.mem_cons_of_mem head member)
      rw [List.flatMap_cons, numbered_append, tallied_append, kept]
      exact ⟨⟨first, later⟩, still⟩

-- One packet or frame to everybody: the record of the connection counts its own, the others pass.
theorem to_all_numbered (conn : ConnId) (tally : Tally) (send : RtspClient → RtspClient × List Out) (clients : List RtspClient)
    (unique : (clients.map RtspClient.tc).Nodup)
    (others : ∀ cli current, cli.tc ≠ conn → Numbered conn current (send cli).2 ∧ tallied conn current (send cli).2 = current)
    (own : ∀ cli ∈ clients, cli.tc = conn → Numbered conn tally (send cli).2 ∧
      CountsMatch (send cli).1 (tallied conn tally (send cli).2)) :
    Numbered conn tally (clients.flatMap fun cli => (send cli).2) ∧
      ∀ cli ∈ clients, cli.tc = conn → CountsMatch (send cli).1 (tallied conn tally (clients.flatMap fun cli => (send cli).2)) := by
  induction clients with
  | nil => exact ⟨trivial, fun _ member => absurd member List.not_mem_nil⟩
  | cons head rest ih =>
      rw [List.map_cons, List.nodup_cons] at unique
      rw [List.flatMap_cons, numbered_append, tallied_append]
      by_cases mine : head.tc = conn
      · obtain ⟨numbered, matched⟩ := own head List.mem_cons_self mine
        have strangers : ∀ cli ∈ rest, cli.tc ≠ conn := by
          intro cli member same
          exact unique.1 (List.mem_map.mpr ⟨cli, member, same.trans mine.symm⟩)
        obtain ⟨later, kept⟩ := all_passed conn send rest others strangers (tallied conn tally (send head).2)
        rw [kept]
        refine ⟨⟨numbered, later⟩, ?_⟩
        intro cli member same
        rcases List.mem_cons.mp member with rfl | inRest
        · exact matched
        · exact absurd same (strangers cli inRest)
      · obtain ⟨first, kept⟩ := others head tally mine
        obtain ⟨later, matched⟩ := ih unique.2 fun cli member => own cli (List.mem_cons_of_mem head member)
        rw [kept]
        refine ⟨⟨first, later⟩, ?_⟩
        intro cli member same
        rcases List.mem_cons.mp member with rfl | inRest
        · exact absurd same mine
        · exact matched cli inRest same

-- What a step owes the connection whose tally stood here before it.
structure Advances (conn : ConnId) (tally : Tally) (d : Device) (result : Device × List Out) : Prop where
  numbered : Numbered conn tally result.2
  matched : ∀ cli ∈ result.1.clients, cli.tc = conn → CountsMatch cli (tallied conn tally result.2)
  absent : (∀ cli ∈ d.clients, cli.tc ≠ conn) → SameCounts tally (tallied conn tally result.2)

theorem uncounted_advances (conn : ConnId) (tally : Tally) (d next : Device) (outs : List Out)
    (quiet : ∀ out ∈ outs, Uncounted conn out) (matched : ∀ cli ∈ next.clients, cli.tc = conn → CountsMatch cli tally) :
    Advances conn tally d (next, outs) := by
  obtain ⟨numbered, same⟩ := uncounted_numbered conn tally outs quiet
  exact ⟨numbered, fun cli member named => match_same cli tally _ same (matched cli member named), fun _ => same⟩

theorem uncounted_pulled (conn : ConnId) (nalus : List Bytes) : Uncounted conn (.pulled nalus) :=
  ⟨rfl, rfl, fun _ same => Out.noConfusion same⟩

theorem uncounted_get_frame (w : World) (conn : ConnId) (d : Device) : ∀ out ∈ (getFrame w d).2.2, Uncounted conn out := by
  intro out member
  obtain ⟨nalus, rfl⟩ := mem_get_frame w d out member
  exact uncounted_pulled conn nalus

theorem uncounted_next_block (w : World) (conn : ConnId) (d : Device) : ∀ out ∈ (nextBlock w d).2.2, Uncounted conn out := by
  intro out member
  obtain ⟨samples, rfl⟩ := mem_next_block w d out member
  exact ⟨rfl, rfl, fun _ same => Out.noConfusion same⟩

theorem uncounted_reply (conn : ConnId) (cli : RtspClient) (cseq : Int) (code : Nat) (reason : String) (extra : Extra) (body : Bytes)
    (other : cli.tc ≠ conn ∨ extra.isInfo = false) : Uncounted conn (rtspReply cli cseq code reason extra body) := by
  refine ⟨rfl, rfl, ?_⟩
  intro answer same
  obtain ⟨named, rfl⟩ := Out.reply.inj same
  rcases other with away | plain
  · exact absurd named away
  · exact plain

theorem uncounted_front (conn : ConnId) (d : Device) (cli : RtspClient) (text : Bytes) :
    ∀ out ∈ Out.request cli.tc text :: acceptMarks d cli, Uncounted conn out := by
  intro out member
  rcases List.mem_cons.mp member with rfl | mark
  · exact ⟨rfl, rfl, fun _ same => Out.noConfusion same⟩
  · rw [mem_accept_marks d cli out mark]
    exact ⟨rfl, rfl, fun _ same => Out.noConfusion same⟩

theorem uncounted_append (conn : ConnId) (left right : List Out) (first : ∀ out ∈ left, Uncounted conn out)
    (second : ∀ out ∈ right, Uncounted conn out) : ∀ out ∈ left ++ right, Uncounted conn out := by
  intro out member
  rcases List.mem_append.mp member with early | late
  · exact first out early
  · exact second out late

theorem match_setup (cli done : RtspClient) (track : Track) (transport : Transport) (tally : Tally)
    (setup : SetupDone cli track transport done) (fine : CountsMatch cli tally) : CountsMatch done tally := by
  cases setup with
  | tcpVideo _ _ _ _ _ => exact ⟨fine.videoSeq, fine.videoTs, fine.audioSeq, fine.audioTs⟩
  | tcpAudio _ _ _ _ _ => exact ⟨fine.videoSeq, fine.videoTs, fine.audioSeq, fine.audioTs⟩
  | tcpBackchannel _ _ _ _ => exact ⟨fine.videoSeq, fine.videoTs, fine.audioSeq, fine.audioTs⟩
  | udpVideo _ _ _ _ _ _ _ _ => exact ⟨fine.videoSeq, fine.videoTs, fine.audioSeq, fine.audioTs⟩
  | udpAudio _ _ _ _ _ _ _ _ => exact ⟨fine.videoSeq, fine.videoTs, fine.audioSeq, fine.audioTs⟩

-- Every frame the camera gives holds at least one packet.
def WholeFrames (w : World) : Prop := ∀ call, ∀ layer ∈ (w.encode call).layers, IsLayer layer

theorem get_frame_packets (w : World) (whole : WholeFrames w) (d : Device) (nalus : List Bytes)
    (got : (getFrame w d).2.1 = some nalus) : packetiseFrame nalus ≠ [] ∧ (getFrame w d).2.2 = [.pulled nalus] := by
  simp only [getFrame, Option.map_eq_some_iff] at got ⊢
  obtain ⟨frame, taken, rfl⟩ := got
  obtain ⟨some, filled⟩ := camera_frame_units (w.encode d.calls) d.cam frame (whole d.calls) taken
  refine ⟨packetise_frame_some frame.nalus some filled, ?_⟩
  rw [taken]
  rfl

theorem pulled_counts (conn : ConnId) (tally : Tally) (nalus : List Bytes) :
    (tallied conn tally [.pulled nalus]).fed = true ∧ (tallied conn tally [.pulled nalus]).begun = false ∧
      SameCounts tally (tallied conn tally [.pulled nalus]) :=
  ⟨rfl, rfl, rfl, rfl, rfl⟩

theorem immediate_video_numbered (w : World) (whole : WholeFrames w) (d : Device) (cli : RtspClient) (tally : Tally)
    (fine : CountsMatch cli tally) :
    Numbered cli.tc tally (immediateVideo w d cli).2.2 ∧
      CountsMatch (immediateVideo w d cli).2.1 (tallied cli.tc tally (immediateVideo w d cli).2.2) := by
  have quiet := uncounted_numbered cli.tc tally _ (uncounted_get_frame w cli.tc d)
  rw [immediateVideo]
  dsimp only
  cases got : (getFrame w d).2.1 with
  | none => exact ⟨quiet.1, match_same cli tally _ quiet.2 fine⟩
  | some nalus =>
      obtain ⟨packets, pulled⟩ := get_frame_packets w whole d nalus got
      dsimp only
      rw [pulled] at quiet ⊢
      obtain ⟨fed, fresh, same⟩ := pulled_counts cli.tc tally nalus
      obtain ⟨numbered, matched⟩ := send_frame_numbered cli nalus _ fed fresh packets (match_same cli tally _ same fine)
      rw [numbered_append, tallied_append]
      exact ⟨⟨quiet.1, numbered⟩, matched⟩

theorem immediate_audio_numbered (w : World) (d : Device) (cli : RtspClient) (tally : Tally) (fine : CountsMatch cli tally) :
    Numbered cli.tc tally (immediateAudio w d cli).2.2 ∧
      CountsMatch (immediateAudio w d cli).2.1 (tallied cli.tc tally (immediateAudio w d cli).2.2) := by
  rw [immediateAudio]
  split
  · obtain ⟨front, same⟩ := uncounted_numbered cli.tc tally _ (uncounted_next_block w cli.tc d)
    obtain ⟨numbered, matched⟩ := send_audio_numbered cli (nextBlock w d).2.1 _ (match_same cli tally _ same fine)
    dsimp only
    rw [numbered_append, tallied_append]
    exact ⟨⟨front, numbered⟩, matched⟩
  · exact ⟨trivial, fine⟩

theorem play_info_numbered (cli : RtspClient) (uri : Bytes) (cseq : Int) (tally : Tally) (fine : CountsMatch cli tally) :
    Numbered cli.tc tally [rtspReply cli cseq 200 "OK" (playInfo cli uri) []] := by
  refine ⟨⟨fun _ none => (by cases none), fun _ none => (by cases none), ?_⟩, trivial⟩
  intro answer same _ videoSeq videoTs audioSeq audioTs _ info
  obtain ⟨_, rfl⟩ := Out.reply.inj same
  obtain ⟨_, rfl, rfl, rfl, rfl, _⟩ := Extra.rtpInfo.inj info
  exact ⟨fine.videoSeq, fine.videoTs, fine.audioSeq, fine.audioTs⟩

theorem play_outputs (w : World) (d : Device) (cli : RtspClient) (req : RtspReq) (ready : cli.state ≠ .idle) :
    (handlePlay w d cli req).2 =
      ((immediateAudio w (immediateVideo w (playDevice w d cli).1 (playDevice w d cli).2).1
          (immediateVideo w (playDevice w d cli).1 (playDevice w d cli).2).2.1).2.1,
        [rtspReply (playDevice w d cli).2 req.cseq 200 "OK" (playInfo (playDevice w d cli).2 req.uri) []] ++
          ((immediateVideo w (playDevice w d cli).1 (playDevice w d cli).2).2.2 ++
            (immediateAudio w (immediateVideo w (playDevice w d cli).1 (playDevice w d cli).2).1
              (immediateVideo w (playDevice w d cli).1 (playDevice w d cli).2).2.1).2.2)) := by
  have record := play_record w d cli
  have talks : (playDevice w d cli).2.backchannelSetup = cli.backchannelSetup := by
    rw [playDevice, openBackchannel]
    split <;> rfl
  rw [playInfo, record.2.2.2.1, record.2.2.2.2, talks, handlePlay, if_neg ready]
  rfl

-- The client that asked: the reply announces the numbers that the media behind it then bear.
theorem play_numbered (w : World) (whole : WholeFrames w) (d : Device) (cli : RtspClient) (req : RtspReq) (ready : cli.state ≠ .idle)
    (tally : Tally) (fine : CountsMatch cli tally) :
    Numbered cli.tc tally (handlePlay w d cli req).2.2 ∧
      CountsMatch (handlePlay w d cli req).2.1 (tallied cli.tc tally (handlePlay w d cli req).2.2) := by
  have record := play_record w d cli
  rw [play_outputs w d cli req ready]
  generalize playDevice w d cli = talk at record
  obtain ⟨started, asker⟩ := talk
  dsimp only at record ⊢
  have talking : CountsMatch asker tally := by
    refine ⟨?_, ?_, ?_, ?_⟩
    · rw [record.2.2.2.1]
      exact fine.videoSeq
    · rw [record.2.2.2.1]
      exact fine.videoTs
    · rw [record.2.2.2.2]
      exact fine.audioSeq
    · rw [record.2.2.2.2]
      exact fine.audioTs
  rw [← record.1]
  have info := play_info_numbered asker req.uri req.cseq tally talking
  have same : SameCounts tally (tallied asker.tc tally [rtspReply asker req.cseq 200 "OK" (playInfo asker req.uri) []]) :=
    ⟨rfl, rfl, rfl⟩
  obtain ⟨video, filmed⟩ := immediate_video_numbered w whole started asker _ (match_same asker tally _ same talking)
  have named := (identity_fields _ _ (immediate_video_identity w started asker)).1
  obtain ⟨audio, heard⟩ := immediate_audio_numbered w (immediateVideo w started asker).1 (immediateVideo w started asker).2.1 _ filmed
  rw [named] at audio heard
  simp only [numbered_append, tallied_append]
  exact ⟨⟨info, video, audio⟩, heard⟩

theorem play_uncounted (w : World) (conn : ConnId) (d : Device) (cli : RtspClient) (req : RtspReq) (ready : cli.state ≠ .idle)
    (away : cli.tc ≠ conn) : ∀ out ∈ (handlePlay w d cli req).2.2, Uncounted conn out := by
  have record := play_record w d cli
  rw [play_outputs w d cli req ready]
  generalize playDevice w d cli = talk at record
  obtain ⟨started, asker⟩ := talk
  dsimp only at record ⊢
  have other : asker.tc ≠ conn := record.1 ▸ away
  have named := (identity_fields _ _ (immediate_video_identity w started asker)).1
  have reply : ∀ out ∈ [rtspReply asker req.cseq 200 "OK" (playInfo asker req.uri) []], Uncounted conn out := by
    intro out member
    rw [List.mem_singleton.mp member]
    exact uncounted_reply conn asker _ _ _ _ _ (Or.inl other)
  have video : ∀ out ∈ (immediateVideo w started asker).2.2, Uncounted conn out := by
    rw [immediateVideo]
    dsimp only
    split
    · exact uncounted_get_frame w conn started
    · exact uncounted_append conn _ _ (uncounted_get_frame w conn started)
        (carried_uncounted conn asker _ _ _ (send_frame_carried asker _) other)
  have audio : ∀ out ∈ (immediateAudio w (immediateVideo w started asker).1 (immediateVideo w started asker).2.1).2.2,
      Uncounted conn out := by
    rw [immediateAudio]
    split
    · exact uncounted_append conn _ _ (uncounted_next_block w conn _)
        (carried_uncounted conn _ _ _ _ (send_audio_carried _ _) (named ▸ other))
    · exact fun _ none => absurd none List.not_mem_nil
  exact uncounted_append conn _ _ reply (uncounted_append conn _ _ video audio)

theorem put_matched (conn : ConnId) (tally : Tally) (d : Device) (record : RtspClient)
    (others : ∀ cli ∈ d.clients, cli.tc = conn → CountsMatch cli tally) (own : record.tc = conn → CountsMatch record tally) :
    ∀ cli ∈ (d.put record).clients, cli.tc = conn → CountsMatch cli tally := by
  intro cli member named
  rcases mem_put d record cli member with rfl | ⟨old, _⟩
  · exact own named
  · exact others cli old named

theorem play_advances (w : World) (whole : WholeFrames w) (conn : ConnId) (tally : Tally) (d : Device) (cli : RtspClient)
    (present : cli ∈ d.clients) (req : RtspReq) (front : List Out) (quiet : ∀ out ∈ front, Uncounted conn out)
    (matched : ∀ cli ∈ d.clients, cli.tc = conn → CountsMatch cli tally) :
    Advances conn tally d ((handlePlay w d cli req).1.put (handlePlay w d cli req).2.1, front ++ (handlePlay w d cli req).2.2) := by
  have clients := (handle_play_kept w d cli req).clients
  have named := (handle_play_fields w d cli req).1
  by_cases idle : cli.state = .idle
  · rw [handlePlay, if_pos idle]
    refine uncounted_advances conn tally d _ _ ?_ (put_matched conn tally d cli matched (matched cli present))
    refine uncounted_append conn _ _ quiet ?_
    intro out member
    rw [List.mem_singleton.mp member]
    exact uncounted_reply conn cli _ _ _ _ _ (Or.inr rfl)
  · by_cases mine : cli.tc = conn
    · obtain ⟨early, same⟩ := uncounted_numbered conn tally front quiet
      obtain ⟨numbered, heard⟩ := play_numbered w whole d cli req idle (tallied conn tally front)
        (match_same cli tally _ same (matched cli present mine))
      rw [mine] at numbered heard
      refine ⟨?_, ?_, fun none => absurd mine (none cli present)⟩
      · rw [numbered_append]
        exact ⟨early, numbered⟩
      · intro after member here
        rw [tallied_append]
        rcases mem_put _ _ after member with rfl | ⟨_, away⟩
        · exact heard
        · exact absurd (here.trans (named.trans mine).symm) away
    · refine uncounted_advances conn tally d _ _ (uncounted_append conn _ _ quiet (play_uncounted w conn d cli req idle mine)) ?_
      exact put_matched conn tally _ _ (clients ▸ matched) fun here => absurd (named.symm.trans here) mine

theorem stop_free_matched (conn : ConnId) (tally : Tally) (d : Device) (idle cli : RtspClient) (named : idle.tc = cli.tc)
    (matched : ∀ cli ∈ d.clients, cli.tc = conn → CountsMatch cli tally) :
    ∀ after ∈ ((maybeStopMedia (d.put idle)).free cli).clients, after.tc = conn → CountsMatch after tally := by
  intro after member here
  obtain ⟨present, away⟩ := mem_free _ cli after member
  rw [maybe_stop_media_clients] at present
  rcases mem_put d idle after present with rfl | ⟨old, _⟩
  · exact absurd named away
  · exact matched after old here

theorem served_advances (w : World) (whole : WholeFrames w) (conn : ConnId) (tally : Tally) (d : Device) (cli : RtspClient)
    (request : Option RtspReq) (result : Device × List Out) (served : Served w d cli request result) (present : cli ∈ d.clients)
    (matched : ∀ cli ∈ d.clients, cli.tc = conn → CountsMatch cli tally) : Advances conn tally d result := by
  cases served with
  | frame channel data =>
      refine uncounted_advances conn tally d d _ ?_ matched
      intro out member
      rcases List.mem_cons.mp member with rfl | played
      · exact ⟨rfl, rfl, fun _ same => Out.noConfusion same⟩
      · obtain ⟨pcmu, rfl⟩ := mem_play_backchannel cli channel data out played
        exact ⟨rfl, rfl, fun _ same => Out.noConfusion same⟩
  | denied text cseq =>
      refine uncounted_advances conn tally d d _ ?_ matched
      intro out member
      rcases List.mem_cons.mp member with rfl | reply
      · exact ⟨rfl, rfl, fun _ same => Out.noConfusion same⟩
      · rw [List.mem_singleton.mp reply]
        exact uncounted_reply conn cli _ _ _ _ _ (Or.inr rfl)
  | answered text req code reason extra marks auth calls same fixed marked other =>
      refine uncounted_advances conn tally d _ _ ?_ matched
      intro out member
      rcases List.mem_cons.mp member with rfl | later
      · exact ⟨rfl, rfl, fun _ same => Out.noConfusion same⟩
      · rcases List.mem_append.mp later with mark | reply
        · rw [marked out mark]
          exact ⟨rfl, rfl, fun _ same => Out.noConfusion same⟩
        · rw [List.mem_singleton.mp reply]
          exact uncounted_reply conn cli _ _ _ _ _ (Or.inr (fixed_no_info extra fixed))
  | described text req method =>
      have clients := (handle_describe_kept w (admittedDevice w d req) cli req).clients.trans (admitted_clients w d req)
      refine uncounted_advances conn tally d _ _ ?_ (clients ▸ matched)
      refine uncounted_append conn (_ :: acceptMarks d cli) _ (uncounted_front conn d cli text) ?_
      intro out member
      rcases List.mem_append.mp member with fetched | reply
      · obtain ⟨nalus, rfl⟩ := mem_fetch_params w _ out fetched
        exact uncounted_pulled conn nalus
      · rw [List.mem_singleton.mp reply]
        exact uncounted_reply conn cli _ _ _ _ _ (Or.inr rfl)
  | setUp text req method =>
      have clients := (handle_setup_kept w (admittedDevice w d req) cli req).clients.trans (admitted_clients w d req)
      have outcome := handle_setup_outcome w (admittedDevice w d req) cli req
      generalize handleSetup w (admittedDevice w d req) cli req = handled at clients outcome
      obtain ⟨base, record, outs⟩ := handled
      rcases outcome with ⟨code, reason, _, refused⟩ | ⟨track, transport, done, setup, granted⟩
      · obtain ⟨rfl, rfl⟩ : record = cli ∧ outs = [rtspReply cli req.cseq code reason .none []] := Prod.mk.inj refused
        refine uncounted_advances conn tally d _ _ ?_ (put_matched conn tally base record (clients ▸ matched) (matched record present))
        refine uncounted_append conn (_ :: acceptMarks d record) _ (uncounted_front conn d record text) ?_
        intro out member
        rw [List.mem_singleton.mp member]
        exact uncounted_reply conn record _ _ _ _ _ (Or.inr rfl)
      · obtain ⟨rfl, rfl⟩ : record = done ∧ outs = [rtspReply done req.cseq 200 "OK" (.setup track transport) []] :=
          Prod.mk.inj granted
        refine uncounted_advances conn tally d _ _ ?_ (put_matched conn tally base record (clients ▸ matched) ?_)
        · refine uncounted_append conn (_ :: acceptMarks d cli) _ (uncounted_front conn d cli text) ?_
          intro out member
          rw [List.mem_singleton.mp member]
          exact uncounted_reply conn record _ _ _ _ _ (Or.inr rfl)
        · intro named
          have asker : cli.tc = conn := (setup_done_tc cli record track transport setup).symm.trans named
          exact match_setup cli record track transport tally setup (matched cli present asker)
  | played text req method =>
      have clients := admitted_clients w d req
      have played := play_advances w whole conn tally (admittedDevice w d req) cli (clients ▸ present) req _
        (uncounted_front conn d cli text) (clients ▸ matched)
      exact ⟨played.numbered, played.matched, fun none => played.absent (clients ▸ none)⟩
  | tornDown text req method =>
      refine uncounted_advances conn tally d _ _ ?_ (stop_free_matched conn tally _ _ _ rfl (admitted_clients w d req ▸ matched))
      refine uncounted_append conn (_ :: acceptMarks d cli) _ (uncounted_front conn d cli text) ?_
      intro out member
      rw [List.mem_singleton.mp member]
      exact uncounted_reply conn cli _ _ _ _ _ (Or.inr rfl)

theorem set_rbuf_matched (conn target : ConnId) (tally : Tally) (d : Device) (rest : Bytes)
    (matched : ∀ cli ∈ d.clients, cli.tc = conn → CountsMatch cli tally) :
    ∀ cli ∈ (d.setRbuf target rest).clients, cli.tc = conn → CountsMatch cli tally := by
  intro copy member named
  obtain ⟨old, present, rfl⟩ := List.mem_map.mp member
  by_cases hit : old.tc = target
  · rw [if_pos hit] at named ⊢
    have fine := matched old present named
    exact ⟨fine.videoSeq, fine.videoTs, fine.audioSeq, fine.audioTs⟩
  · rw [if_neg hit] at named ⊢
    exact matched old present named

theorem process_advances (w : World) (whole : WholeFrames w) (conn target : ConnId) (tally : Tally) (d : Device)
    (matched : ∀ cli ∈ d.clients, cli.tc = conn → CountsMatch cli tally) :
    Advances conn tally d (processMessage w d target) := by
  rcases process_cases w d target with ⟨idle, _⟩ | ⟨cli, result, rest, found, named, served, same⟩
  · rw [idle]
    exact uncounted_advances conn tally d d [] (fun _ member => absurd member List.not_mem_nil) matched
  · have present : { cli with rbuf := [] } ∈ (d.setRbuf target []).clients := by
      refine List.mem_map.mpr ⟨cli, (find_client d target cli found).1, ?_⟩
      rw [if_pos named]
    have advances := served_advances w whole conn tally _ _ _ result served present
      (set_rbuf_matched conn target tally d [] matched)
    rw [same]
    refine ⟨advances.numbered, set_rbuf_matched conn target _ result.1 rest advances.matched, ?_⟩
    intro none
    refine advances.absent ?_
    intro copy member
    obtain ⟨before, earlier, shape⟩ := set_rbuf_shape d target [] copy member
    rw [(shape_fields _ _ shape).1]
    exact none before earlier

theorem send_audio_to_passed (conn : ConnId) (pcmu : Bytes) (cli : RtspClient) (tally : Tally) (away : cli.tc ≠ conn) :
    Numbered conn tally (sendAudioTo pcmu cli).2 ∧ tallied conn tally (sendAudioTo pcmu cli).2 = tally := by
  rw [sendAudioTo]
  split
  · exact carried_passed conn tally cli _ _ _ (send_audio_carried cli pcmu) away
  · exact ⟨trivial, rfl⟩

theorem send_frame_to_passed (conn : ConnId) (nalus : List Bytes) (cli : RtspClient) (tally : Tally) (away : cli.tc ≠ conn) :
    Numbered conn tally (sendFrameTo nalus cli).2 ∧ tallied conn tally (sendFrameTo nalus cli).2 = tally := by
  rw [sendFrameTo]
  split
  · exact carried_passed conn tally cli _ _ _ (send_frame_carried cli nalus) away
  · exact ⟨trivial, rfl⟩

-- A front that is not counted, then one packet or frame for everybody.
theorem to_all_advances (conn : ConnId) (tally : Tally) (d base : Device) (inv : RecordsKept d) (kept : base.clients = d.clients)
    (front : List Out) (quiet : ∀ out ∈ front, Uncounted conn out) (send : RtspClient → RtspClient × List Out)
    (named : ∀ cli, (send cli).1.tc = cli.tc)
    (others : ∀ cli current, cli.tc ≠ conn → Numbered conn current (send cli).2 ∧ tallied conn current (send cli).2 = current)
    (own : ∀ cli ∈ d.clients, cli.tc = conn → Numbered conn (tallied conn tally front) (send cli).2 ∧
      CountsMatch (send cli).1 (tallied conn (tallied conn tally front) (send cli).2)) :
    Advances conn tally d ((sendToAll send base).1, front ++ (sendToAll send base).2) := by
  obtain ⟨early, same⟩ := uncounted_numbered conn tally front quiet
  obtain ⟨numbered, matched⟩ := to_all_numbered conn (tallied conn tally front) send d.clients inv.unique others own
  rw [sendToAll, kept]
  refine ⟨?_, ?_, ?_⟩
  · rw [numbered_append]
    exact ⟨early, numbered⟩
  · intro after member here
    obtain ⟨cli, present, rfl⟩ := List.mem_map.mp member
    rw [tallied_append]
    exact matched cli present ((named cli).symm.trans here)
  · intro none
    rw [tallied_append, (all_passed conn send d.clients others none _).2]
    exact same

theorem audio_timer_advances (w : World) (conn : ConnId) (tally : Tally) (d : Device) (inv : RecordsKept d)
    (matched : ∀ cli ∈ d.clients, cli.tc = conn → CountsMatch cli tally) : Advances conn tally d (audioSendTimer w d) := by
  have kept := kept_trans _ _ _ (drain_excess_kept w { d with tmrAudio := true }) (next_block_kept w _)
  rw [audioSendTimer]
  dsimp only
  split
  · have quiet := uncounted_next_block w conn (drainExcess w { d with tmrAudio := true })
    have same := (uncounted_numbered conn tally _ quiet).2
    refine to_all_advances conn tally d _ inv kept.clients _ quiet _
      (fun cli => (identity_fields _ _ (send_audio_to_identity _ cli)).1) (fun cli current => send_audio_to_passed conn _ cli current) ?_
    rintro cli member rfl
    have fine := match_same cli tally _ same (matched cli member rfl)
    rw [sendAudioTo]
    split
    · exact send_audio_numbered cli _ _ fine
    · exact ⟨trivial, fine⟩
  · exact uncounted_advances conn tally d _ [] (fun _ member => absurd member List.not_mem_nil) matched

theorem video_timer_advances (w : World) (whole : WholeFrames w) (conn : ConnId) (tally : Tally) (d : Device) (inv : RecordsKept d)
    (matched : ∀ cli ∈ d.clients, cli.tc = conn → CountsMatch cli tally) : Advances conn tally d (videoSendTimer w d) := by
  have kept := kept_trans _ _ _ (force_keyframe_kept { d with tmrVideo := true }) (get_frame_kept w _)
  have quiet := uncounted_get_frame w conn (forceKeyframe { d with tmrVideo := true })
  rw [videoSendTimer]
  dsimp only
  split
  · cases got : (getFrame w (forceKeyframe { d with tmrVideo := true })).2.1 with
    | none =>
        refine uncounted_advances conn tally d _ _ quiet ?_
        rw [kept.clients]
        exact matched
    | some nalus =>
        obtain ⟨packets, pulled⟩ := get_frame_packets w whole _ nalus got
        obtain ⟨fed, fresh, same⟩ := pulled_counts conn tally nalus
        have advances := to_all_advances conn tally d _ inv kept.clients [.pulled nalus] (pulled ▸ quiet) (sendFrameTo nalus)
          (fun cli => (identity_fields _ _ (send_frame_to_identity nalus cli)).1)
          (fun cli current => send_frame_to_passed conn nalus cli current) ?_
        · dsimp only
          rw [pulled]
          exact ⟨advances.numbered, advances.matched, advances.absent⟩
        · rintro cli member rfl
          have fine := match_same cli tally _ same (matched cli member rfl)
          rw [sendFrameTo]
          split
          · exact send_frame_numbered cli nalus _ fed fresh packets fine
          · exact ⟨trivial, fine⟩
  · exact uncounted_advances conn tally d _ [] (fun _ member => absurd member List.not_mem_nil) matched

theorem step_advances (w : World) (whole : WholeFrames w) (conn : ConnId) (tally : Tally) (d : Device) (action : Action)
    (inv : RecordsKept d) (matched : ∀ cli ∈ d.clients, cli.tc = conn → CountsMatch cli tally)
    (blank : d.nextConn ≤ conn → SameCounts {} tally) : Advances conn tally d (step w d action) := by
  have silent : ∀ next : Device, (∀ cli ∈ next.clients, cli.tc = conn → CountsMatch cli tally) → Advances conn tally d (next, []) :=
    fun next fine => uncounted_advances conn tally d next [] (fun _ member => absurd member List.not_mem_nil) fine
  have accepted : ∀ peer, Advances conn tally d (accept d peer, []) := by
    intro peer
    refine silent _ ?_
    intro cli member named
    rcases List.mem_append.mp member with old | new
    · exact matched cli old named
    · rw [List.mem_singleton.mp new] at named ⊢
      exact match_same _ {} tally (blank (Nat.le_of_eq named)) ⟨rfl, rfl, rfl, rfl⟩
  have dropped : ∀ target, Advances conn tally d (dropClient d target, []) := by
    intro target
    refine silent _ ?_
    rw [dropClient]
    split
    · exact matched
    · split
      · exact stop_free_matched conn tally d _ _ rfl matched
      · exact fun cli member => matched cli (mem_free d _ cli member).1
  cases action with
  | connect peer => exact accepted peer
  | relayConnect peer => exact accepted peer
  | receive target chunk =>
      refine silent _ ?_
      rw [appendChunk]
      split
      · exact matched
      · split
        · exact fun cli member => matched cli (mem_free d _ cli member).1
        · exact set_rbuf_matched conn target tally d _ matched
  | process target => exact process_advances w whole conn target tally d matched
  | close target => exact dropped target
  | timeout target => exact dropped target
  | audioTimer =>
      cases armed : d.tmrAudio with
      | true => simpa [step, armed] using audio_timer_advances w conn tally d inv matched
      | false => simpa [step, armed] using silent d matched
  | videoTimer =>
      cases armed : d.tmrVideo with
      | true => simpa [step, armed] using video_timer_advances w whole conn tally d inv matched
      | false => simpa [step, armed] using silent d matched
  | callCreate body behind =>
      refine uncounted_advances conn tally d _ _ ?_ ((call_create_kept w d body behind).clients ▸ matched)
      intro out member
      obtain ⟨code, rfl⟩ := mem_call_create w d body behind out member
      exact ⟨rfl, rfl, fun _ same => Out.noConfusion same⟩
  | callDelete =>
      refine uncounted_advances conn tally d _ _ ?_ ((end_session_kept d).clients ▸ matched)
      intro out member
      rw [List.mem_singleton.mp member]
      exact ⟨rfl, rfl, fun _ same => Out.noConfusion same⟩
  | sessionVideoTimer =>
      refine uncounted_advances conn tally d _ _ ?_ ((session_timer_kept w d).clients ▸ matched)
      intro out member
      rcases mem_session_timer w d out member with ⟨nalus, rfl⟩ | ⟨dest, packet, rfl⟩
      · exact uncounted_pulled conn nalus
      · exact ⟨rfl, rfl, fun _ same => Out.noConfusion same⟩

structure Counting (conn : ConnId) (reached : Device × List Out) : Prop where
  records : RecordsKept reached.1
  numbered : Numbered conn {} reached.2
  matched : ∀ cli ∈ reached.1.clients, cli.tc = conn → CountsMatch cli (tallied conn {} reached.2)
  blank : reached.1.nextConn ≤ conn → SameCounts {} (tallied conn {} reached.2)

theorem next_counting (w : World) (whole : WholeFrames w) (conn : ConnId) (reached : Device × List Out) (action : Action)
    (inv : Counting conn reached) : Counting conn (next w reached action) := by
  obtain ⟨d, log⟩ := reached
  have advances := step_advances w whole conn _ d action inv.records inv.matched inv.blank
  refine ⟨step_records w d action inv.records, ?_, ?_, ?_⟩
  · exact (numbered_append conn {} log _).mpr ⟨inv.numbered, advances.numbered⟩
  · intro cli member named
    rw [next, Runs.record, tallied_append]
    exact advances.matched cli member named
  · intro unused
    have before : d.nextConn ≤ conn := Nat.le_trans (next_conn_grows w d action) unused
    have strangers : ∀ cli ∈ d.clients, cli.tc ≠ conn := by
      intro cli member same
      have known := inv.records.known cli.tc (List.mem_map_of_mem member)
      rw [same] at known
      exact absurd known (Nat.not_lt_of_le before)
    rw [next, Runs.record, tallied_append]
    exact same_counts_trans _ _ _ (inv.blank before) (advances.absent strangers)

theorem reached_counting (w : World) (whole : WholeFrames w) (localIp username password : Bytes) (actions : List Action)
    (conn : ConnId) : Counting conn (reached w (initial w localIp username password) actions) := by
  have start : Counting conn (initial w localIp username password, []) :=
    ⟨initial_records w localIp username password, trivial, fun _ member => absurd member List.not_mem_nil, fun _ => ⟨rfl, rfl, rfl⟩⟩
  exact Runs.run_invariant (next w) (Counting conn) _ actions (fun current action => next_counting w whole conn current action) start

theorem frames_timed (conn : ConnId) (outs : List Out) (numbered : Numbered conn {} outs) (index : Nat) (frame : List RtpPacket)
    (here : (framesFor conn outs)[index]? = some frame) :
    ∀ packet ∈ frame, packet.hdr.ts = UInt32.ofNat (6000 * index) := by
  obtain ⟨pending, later, groups, now, behind⟩ := frame_times conn {} outs numbered
  rw [framesFor, groups] at here
  by_cases none : pending = []
  · rw [List.filter_cons_of_neg (by simp [none])] at here
    have same := behind index frame here
    rw [Tally.following, if_pos none, Tally.nextFrame, if_neg Bool.false_ne_true, Nat.zero_add] at same
    exact same
  · rw [List.filter_cons_of_pos (by simp [none])] at here
    cases index with
    | zero =>
        cases here
        exact now
    | succ index =>
        have same := behind index frame here
        rw [Tally.following, if_neg none, Nat.add_comm] at same
        exact same

theorem rtp_continuity (w : World) (whole : WholeFrames w) (localIp username password : Bytes) (actions : List Action)
    (conn : ConnId) (log : List Out) (ran : (reached w (initial w localIp username password) actions).2 = log) :
    (∀ index packet, (builtFor ptH264 conn log)[index]? = some packet → packet.hdr.seq = UInt16.ofNat index) ∧
    (∀ index frame, (framesFor conn log)[index]? = some frame →
      ∀ packet ∈ frame, packet.hdr.ts = UInt32.ofNat (6000 * index)) ∧
    (∀ index packet, (builtFor ptPcmu conn log)[index]? = some packet →
      packet.hdr.seq = UInt16.ofNat index ∧ packet.hdr.ts = UInt32.ofNat (160 * index)) ∧
    ∀ early answer late uri videoSeq videoTs audioSeq audioTs backchannel, log = early ++ .reply conn answer :: late →
      answer.extra = .rtpInfo uri videoSeq videoTs audioSeq audioTs backchannel →
      (∀ packet, (builtFor ptH264 conn late).head? = some packet → packet.hdr.seq = videoSeq ∧ packet.hdr.ts = videoTs) ∧
      ∀ packet, (builtFor ptPcmu conn late).head? = some packet → packet.hdr.seq = audioSeq ∧ packet.hdr.ts = audioTs := by
  have numbered : Numbered conn {} log := ran ▸ (reached_counting w whole localIp username password actions conn).numbered
  refine ⟨?_, frames_timed conn log numbered, ?_, ?_⟩
  · intro index packet here
    have same := video_sequence conn {} log numbered index packet here
    rw [Nat.zero_add] at same
    exact same
  · intro index packet here
    have same := audio_sequence conn {} log numbered index packet here
    rw [Nat.zero_add] at same
    exact same
  · rintro early answer late uri videoSeq videoTs audioSeq audioTs backchannel rfl info
    obtain ⟨_, fits, rest⟩ := (numbered_append conn {} early (.reply conn answer :: late)).mp numbered
    obtain ⟨video, frame, audio, time⟩ := fits.info answer rfl uri videoSeq videoTs audioSeq audioTs backchannel info
    refine ⟨?_, ?_⟩
    · intro packet first
      rw [video, frame]
      exact next_video_packet conn _ late rest (fun fed => absurd fed Bool.false_ne_true) packet first
    · intro packet first
      rw [audio, time]
      rw [List.head?_eq_getElem?] at first
      exact audio_sequence conn _ late rest 0 packet first

theorem sample_whole_frames : WholeFrames sampleWorld := by
  intro call layer member
  refine ⟨[([0, 0, 0, 1], [0x65, 0x88])], ?_, List.mem_singleton.mp member⟩
  intro unit present
  rw [List.mem_singleton.mp present]
  exact ⟨Or.inr rfl, List.cons_ne_nil _ _⟩

def watchText : Bytes := ascii "SETUP rtsp://h/trackID=0 RTSP/1.0\r\nCSeq: 1\r\nTransport: RTP/AVP/TCP\r\n\r\n"

-- The immediate frame of PLAY and one frame of the timer.
theorem two_frames_numbered :
    (framesFor 0 (reached sampleWorld (initial sampleWorld [] [] []) [.connect ⟨1, 1⟩, .receive 0 watchText, .process 0,
      .receive 0 playText, .process 0, .videoTimer]).2).length = 2 ∧
    ∀ index frame, (framesFor 0 (reached sampleWorld (initial sampleWorld [] [] []) [.connect ⟨1, 1⟩, .receive 0 watchText,
      .process 0, .receive 0 playText, .process 0, .videoTimer]).2)[index]? = some frame →
        ∀ packet ∈ frame, packet.hdr.ts = UInt32.ofNat (6000 * index) :=
  ⟨by decide +kernel, (rtp_continuity sampleWorld sample_whole_frames [] [] [] [.connect ⟨1, 1⟩, .receive 0 watchText, .process 0,
    .receive 0 playText, .process 0, .videoTimer] 0 _ rfl).2.1⟩

end Intercom
