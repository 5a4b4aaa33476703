import Intercom.Fanout
import Intercom.Session
import Intercom.Media.Microphone

set_option autoImplicit false

/- How far behind the microphone runs, and in which order its samples go out. Three readers share the ring: the drain
   loop of audio_send_timer, the block it sends and the block of handle_play. -/
namespace Intercom

open ByteText

-- What the capture thread has put into the ring when a locked call of the event loop gets to it.
def hears (w : World) (d : Device) : List Int := (w.captured d.calls).map gain

def discardHears (w : World) : Nat → Device → Nat → List Int
  | 0, _, _ => []
  | fuel + 1, d, skip =>
      if skip = 0 then []
      else
        let got := readMic w d (min skip audioSamples)
        hears w d ++ (if got.2 = [] then [] else discardHears w fuel got.1 (skip - got.2.length))

def drainHears (w : World) (d : Device) : List Int :=
  if d.micOpened then
    let avail := micAvailable w d
    hears w d ++ (if audioSamples * 2 < avail.2 then discardHears w avail.2 avail.1 (avail.2 - audioSamples) else [])
  else []

def blockHears (w : World) (d : Device) : List Int := if d.micOpened then hears w d else []

def rearmed (d : Device) : Device := { d with tmrAudio := true }

-- The amplified samples captured while one tick of audio_send_timer runs.
def tickHears (w : World) (d : Device) : List Int :=
  if hasPlayingClients d then drainHears w (rearmed d) ++ blockHears w (drainExcess w (rearmed d)) else []

def playHears (w : World) (d : Device) (cli : RtspClient) : List Int :=
  if cli.state = .idle then []
  else if cli.audio.setup then blockHears w (getFrame w (playDevice w d cli).1).1
  else []

def requestHears (w : World) (d : Device) (cli : RtspClient) (req : RtspReq) : List Int :=
  if req.method = ascii "PLAY" then playHears w (admittedDevice w d req) cli else []

def stepHears (w : World) (d : Device) : Action → List Int
  | .audioTimer => if d.tmrAudio then tickHears w d else []
  | .process conn =>
      match d.client? conn, asked w d conn with
      | some cli, some req => requestHears w (d.setRbuf conn []) { cli with rbuf := [] } req
      | _, _ => []
  | _ => []

def runHears (w : World) : Device → List Action → List Int
  | _, [] => []
  | d, action :: rest => stepHears w d action ++ runHears w (deviceStep w d action) rest

-- The drain loop as the source writes it: it ends when nothing is left to skip or a read comes back empty.
inductive Discards (w : World) : Device → Nat → Device → Prop where
  | done (d : Device) : Discards w d 0 d
  | dry (d : Device) (skip : Nat) (more : skip ≠ 0) (empty : (readMic w d (min skip audioSamples)).2 = []) :
      Discards w d skip (readMic w d (min skip audioSamples)).1
  | round (d after : Device) (skip : Nat) (more : skip ≠ 0) (some : (readMic w d (min skip audioSamples)).2 ≠ [])
      (rest : Discards w (readMic w d (min skip audioSamples)).1
        (skip - (readMic w d (min skip audioSamples)).2.length) after) : Discards w d skip after

-- Every round that goes on takes at least one sample, whatever the capture thread does.
theorem discard_loop_ends (w : World) (fuel : Nat) (d : Device) (skip : Nat) (enough : skip ≤ fuel) :
    Discards w d skip (discardLoop w fuel d skip) := by
  induction fuel generalizing d skip with
  | zero =>
      cases Nat.le_zero.mp enough
      exact .done d
  | succ fuel ih =>
      rw [discardLoop]
      by_cases more : skip = 0
      · rw [if_pos more, more]
        exact .done d
      · rw [if_neg more]
        dsimp only
        by_cases empty : (readMic w d (min skip audioSamples)).2 = []
        · rw [if_pos empty]
          exact .dry d skip more empty
        · have taken : 0 < (readMic w d (min skip audioSamples)).2.length := List.length_pos_iff.mpr empty
          rw [if_neg empty]
          exact .round d _ skip more empty (ih _ _ (by omega))

-- A stretch of ring calls: what it sends and what it leaves come, in this order, out of what was there and what it hears.
structure Draws (before after : AudioIn) (sent heard : List Int) : Prop where
  indexed : Indexed after
  ordered : (sent ++ ringContents after).Sublist (ringContents before ++ heard)

theorem draws_nothing (ain : AudioIn) (indexed : Indexed ain) : Draws ain ain [] [] :=
  ⟨indexed, by simp⟩

theorem draws_trans (a b c : AudioIn) (sent more heard later : List Int) (first : Draws a b sent heard)
    (second : Draws b c more later) : Draws a c (sent ++ more) (heard ++ later) where
  indexed := second.indexed
  ordered := by
    have front : (sent ++ (more ++ ringContents c)).Sublist (sent ++ (ringContents b ++ later)) :=
      List.Sublist.append_left second.ordered sent
    have back : (sent ++ ringContents b ++ later).Sublist (ringContents a ++ heard ++ later) :=
      List.Sublist.append_right first.ordered later
    rw [List.append_assoc] at back ⊢
    rw [← List.append_assoc (ringContents a)]
    exact front.trans back

theorem enqueue_draws (ain : AudioIn) (samples : List Int) (indexed : Indexed ain) :
    Draws ain (enqueueToRing ain samples) [] (samples.map gain) := by
  obtain ⟨kept, contents, -⟩ := enqueue_contents samples ain indexed
  refine ⟨kept, ?_⟩
  rw [contents, List.nil_append]
  exact List.drop_sublist _ _

theorem read_draws (ain : AudioIn) (count : Nat) (indexed : Indexed ain) :
    Draws ain (audioInRead count ain).1 (audioInRead count ain).2 [] := by
  obtain ⟨kept, got, left, -⟩ := read_contents count ain indexed
  refine ⟨kept, ?_⟩
  rw [got, left, List.take_append_drop, List.append_nil]

-- A block that is thrown away.
theorem draws_discarded (before after : AudioIn) (sent heard : List Int) (draws : Draws before after sent heard) :
    Draws before after [] heard :=
  ⟨draws.indexed, (List.sublist_append_right sent _).trans draws.ordered⟩

theorem read_mic_draws (w : World) (d : Device) (count : Nat) (indexed : Indexed d.ain) :
    Draws d.ain (readMic w d count).1.ain (readMic w d count).2 (hears w d) := by
  have captured := enqueue_draws d.ain (w.captured d.calls) indexed
  have both := draws_trans _ _ _ _ _ _ _ captured (read_draws _ count captured.indexed)
  rw [List.nil_append, List.append_nil] at both
  exact both

theorem mic_available_draws (w : World) (d : Device) (indexed : Indexed d.ain) :
    Draws d.ain (micAvailable w d).1.ain [] (hears w d) :=
  enqueue_draws d.ain (w.captured d.calls) indexed

theorem discard_loop_draws (w : World) (fuel : Nat) (d : Device) (skip : Nat) (indexed : Indexed d.ain) :
    Draws d.ain (discardLoop w fuel d skip).ain [] (discardHears w fuel d skip) := by
  induction fuel generalizing d skip with
  | zero => exact draws_nothing d.ain indexed
  | succ fuel ih =>
      rw [discardLoop, discardHears]
      by_cases more : skip = 0
      · rw [if_pos more, if_pos more]
        exact draws_nothing d.ain indexed
      · rw [if_neg more, if_neg more]
        dsimp only
        have first := draws_discarded _ _ _ _ (read_mic_draws w d (min skip audioSamples) indexed)
        by_cases empty : (readMic w d (min skip audioSamples)).2 = []
        · rw [if_pos empty, if_pos empty, List.append_nil]
          exact first
        · rw [if_neg empty, if_neg empty]
          exact draws_trans _ _ _ _ _ _ _ first (ih _ _ first.indexed)

theorem drain_excess_draws (w : World) (d : Device) (indexed : Indexed d.ain) :
    Draws d.ain (drainExcess w d).ain [] (drainHears w d) := by
  rw [drainExcess, drainHears]
  by_cases live : d.micOpened = true
  · rw [if_pos live, if_pos live]
    dsimp only
    have first := mic_available_draws w d indexed
    by_cases late : audioSamples * 2 < (micAvailable w d).2
    · rw [if_pos late, if_pos late]
      exact draws_trans _ _ _ _ _ _ _ first (discard_loop_draws w _ _ _ first.indexed)
    · rw [if_neg late, if_neg late, List.append_nil]
      exact first
  · rw [if_neg live, if_neg live]
    exact draws_nothing d.ain indexed

theorem next_block_draws (w : World) (d : Device) (indexed : Indexed d.ain) :
    Draws d.ain (nextBlock w d).1.ain (micBlock w d).flatten (blockHears w d) := by
  rw [nextBlock, micBlock, blockHears]
  by_cases live : d.micOpened = true
  · rw [if_pos live, if_pos live, if_pos live, List.flatten_singleton]
    exact read_mic_draws w d audioSamples indexed
  · rw [if_neg live, if_neg live, if_neg live]
    exact draws_nothing d.ain indexed

theorem hears_nothing (w : World) (d : Device) (quiet : hears w d = []) : w.captured d.calls = [] := List.map_eq_nil_iff.mp quiet

theorem quiet_read (w : World) (d : Device) (count : Nat) (indexed : Indexed d.ain) (quiet : hears w d = []) :
    (readMic w d count).2 = (ringContents d.ain).take count ∧
      ringContents (readMic w d count).1.ain = (ringContents d.ain).drop count := by
  obtain ⟨-, got, left, -⟩ := read_contents count d.ain indexed
  simp only [readMic, hears_nothing w d quiet, enqueueToRing, List.foldl_nil]
  exact ⟨got, left⟩

theorem quiet_discard (w : World) (fuel : Nat) (d : Device) (skip : Nat) (indexed : Indexed d.ain) (enough : skip ≤ fuel)
    (present : skip ≤ (ringContents d.ain).length) (quiet : discardHears w fuel d skip = []) :
    ringContents (discardLoop w fuel d skip).ain = (ringContents d.ain).drop skip := by
  induction fuel generalizing d skip with
  | zero =>
      cases Nat.le_zero.mp enough
      rfl
  | succ fuel ih =>
      rw [discardLoop]
      rw [discardHears] at quiet
      by_cases more : skip = 0
      · rw [if_pos more, more, List.drop_zero]
      · rw [if_neg more] at quiet ⊢
        dsimp only at quiet ⊢
        obtain ⟨silent, later⟩ := List.append_eq_nil_iff.mp quiet
        obtain ⟨got, left⟩ := quiet_read w d (min skip audioSamples) indexed silent
        have size : (readMic w d (min skip audioSamples)).2.length = min skip audioSamples := by
          rw [got, List.length_take]
          omega
        have positive : 0 < min skip audioSamples := by
          have block : audioSamples = 160 := rfl
          omega
        have some : (readMic w d (min skip audioSamples)).2 ≠ [] := by
          apply List.ne_nil_of_length_pos
          omega
        rw [if_neg some] at later ⊢
        rw [ih _ _ (read_mic_draws w d _ indexed).indexed (by omega) (by rw [left, List.length_drop]; omega) later, left,
          List.drop_drop, size]
        congr 1
        omega

theorem discard_loop_mic (w : World) (fuel : Nat) (d : Device) (skip : Nat) :
    (discardLoop w fuel d skip).micOpened = d.micOpened := by
  induction fuel generalizing d skip with
  | zero => rfl
  | succ fuel ih =>
      rw [discardLoop]
      split
      · rfl
      · dsimp only
        split
        · rfl
        · exact ih _ _

theorem drain_excess_mic (w : World) (d : Device) : (drainExcess w d).micOpened = d.micOpened := by
  rw [drainExcess]
  split
  · dsimp only
    split
    · exact discard_loop_mic w _ _ _
    · rfl
  · rfl

-- More than two blocks behind, the drain leaves the last block; otherwise it leaves all there is.
theorem quiet_drain (w : World) (d : Device) (live : d.micOpened = true) (indexed : Indexed d.ain) (quiet : drainHears w d = []) :
    ringContents (drainExcess w d).ain =
      if 320 < (ringContents d.ain).length then (ringContents d.ain).drop ((ringContents d.ain).length - 160)
      else ringContents d.ain := by
  rw [drainHears, if_pos live] at quiet
  dsimp only at quiet
  obtain ⟨silent, later⟩ := List.append_eq_nil_iff.mp quiet
  have same : (micAvailable w d).1.ain = d.ain := by
    simp [micAvailable, hears_nothing w d silent, enqueueToRing]
  have count : (micAvailable w d).2 = (ringContents d.ain).length := (available_contents _).trans (congrArg _ (congrArg _ same))
  rw [drainExcess, if_pos live]
  dsimp only
  by_cases late : audioSamples * 2 < (micAvailable w d).2
  · have behind : 320 < (ringContents d.ain).length := count ▸ late
    rw [if_pos late] at later ⊢
    rw [if_pos behind, quiet_discard w _ _ _ (same ▸ indexed) (Nat.sub_le _ _) (by rw [same, count]; exact Nat.sub_le _ _) later,
      same, count]
    rfl
  · have near : ¬ 320 < (ringContents d.ain).length := count ▸ late
    rw [if_neg late, if_neg near, same]

def tickSamples (contents : List Int) : List Int :=
  if 320 < contents.length then contents.drop (contents.length - 160) else contents.take (min contents.length 160)

theorem quiet_tick_block (w : World) (d : Device) (live : d.micOpened = true) (indexed : Indexed d.ain)
    (quietDrain : drainHears w d = []) (quietBlock : blockHears w (drainExcess w d) = []) :
    (readMic w (drainExcess w d) audioSamples).2 = tickSamples (ringContents d.ain) ∧
      (ringContents (readMic w (drainExcess w d) audioSamples).1.ain).length ≤ 160 := by
  have opened : (drainExcess w d).micOpened = true := (drain_excess_mic w d).trans live
  rw [blockHears, if_pos opened] at quietBlock
  obtain ⟨got, left⟩ := quiet_read w (drainExcess w d) audioSamples (drain_excess_draws w d indexed).indexed quietBlock
  have kept := quiet_drain w d live indexed quietDrain
  have block : audioSamples = 160 := rfl
  by_cases behind : 320 < (ringContents d.ain).length
  · rw [if_pos behind] at kept
    have size : (ringContents (drainExcess w d).ain).length = 160 := by
      rw [kept, List.length_drop]
      omega
    refine ⟨?_, ?_⟩
    · rw [got, tickSamples, if_pos behind, ← kept, List.take_of_length_le (by omega)]
    · rw [left, List.length_drop]
      omega
  · rw [if_neg behind] at kept
    refine ⟨?_, ?_⟩
    · rw [got, kept, tickSamples, if_neg behind, block, Nat.min_comm, ← List.take_eq_take_min]
    · rw [left, kept, List.length_drop]
      omega

-- What a tick with an open microphone and somebody playing does.
structure TickSends (w : World) (d : Device) (samples : List Int) : Prop where
  sent : (audioSendTimer w d).2 = .block samples :: d.clients.flatMap fun cli =>
    (sendAudioTo ((samples ++ List.replicate (160 - samples.length) 0).map w.pcm2ulaw) cli).2
  left : (ringContents (audioSendTimer w d).1.ain).length ≤ 160

theorem quiet_tick (w : World) (d : Device) (live : d.micOpened = true) (playing : hasPlayingClients d = true)
    (indexed : Indexed d.ain) (quiet : tickHears w d = []) : TickSends w d (tickSamples (ringContents d.ain)) := by
  rw [tickHears, if_pos playing] at quiet
  obtain ⟨quietDrain, quietBlock⟩ := List.append_eq_nil_iff.mp quiet
  obtain ⟨block, left⟩ := quiet_tick_block w (rearmed d) live indexed quietDrain quietBlock
  have opened : (drainExcess w (rearmed d)).micOpened = true := (drain_excess_mic w _).trans live
  have clients : (drainExcess w (rearmed d)).clients = d.clients := (drain_excess_kept w (rearmed d)).clients
  have rearm : { d with tmrAudio := true } = rearmed d := rfl
  have plays : hasPlayingClients (rearmed d) = true := playing
  have sends : nextBlock w (drainExcess w (rearmed d)) = ((readMic w (drainExcess w (rearmed d)) audioSamples).1,
      encodeBlock w (tickSamples (ringContents d.ain)), [.block (tickSamples (ringContents d.ain))]) := by
    rw [nextBlock, if_pos opened]
    dsimp only
    rw [block]
    rfl
  exact {
    sent := by
      rw [audioSendTimer]
      dsimp only
      rw [rearm, if_pos plays, sends]
      simp only [sendToAll, readMic, clients]
      rfl
    left := by
      rw [audioSendTimer]
      dsimp only
      rw [rearm, if_pos plays, sends]
      exact left }

-- One step of the process as far as the microphone is concerned: what it takes out of the ring, and what it sends of it.
structure MicStep (w : World) (d : Device) (result : Device × List Out) (heard : List Int) : Prop where
  draws : Draws d.ain result.1.ain (blocksIn result.2).flatten heard
  carried : ∀ conn, ∃ mine : List (List Int), sentTo ptPcmu conn result.2 = mine.map (fun samples => (false, encodeBlock w samples)) ∧
    mine.flatten.Sublist (blocksIn result.2).flatten

theorem silent_mic_step (w : World) (d after : Device) (outs : List Out) (frames : List (List Bytes))
    (video : ConnId → List (Bool × Bytes)) (delivery : Delivery outs frames [] video fun _ => []) (same : after.ain = d.ain)
    (indexed : Indexed d.ain) : MicStep w d (after, outs) [] where
  draws := by
    rw [delivery.blocks]
    dsimp only
    rw [same]
    exact draws_nothing d.ain indexed
  carried := fun conn => ⟨[], delivery.audio conn, List.nil_sublist _⟩

theorem plain_mic_step (w : World) (d after : Device) (outs : List Out) (plain : ∀ out ∈ outs, out.isPlain = true)
    (same : after.ain = d.ain) (indexed : Indexed d.ain) : MicStep w d (after, outs) [] :=
  silent_mic_step w d after outs [] _ (plain_delivery outs plain) same indexed

theorem nothing_plain : ∀ out ∈ ([] : List Out), out.isPlain = true := fun _ member => absurd member List.not_mem_nil

-- A client is sent the block once or not at all.
theorem audio_block_once (pcmu : Bytes) (cli : RtspClient) (conn : ConnId) :
    sentTo ptPcmu conn (sendAudioBlock cli pcmu).2 = [] ∨ sentTo ptPcmu conn (sendAudioBlock cli pcmu).2 = [(false, pcmu)] := by
  by_cases here : cli.tc = conn
  · cases mode : cli.interleaved with
    | true => exact Or.inr (by simp [sendAudioBlock, sendRtp, mode, sentTo, Out.payloadFor, here, audioPacket])
    | false =>
        cases sock : cli.audio.sock with
        | none => exact Or.inl (by simp [sendAudioBlock, sendRtp, mode, sock, sentTo, Out.payloadFor])
        | some port => exact Or.inr (by simp [sendAudioBlock, sendRtp, mode, sock, sentTo, Out.payloadFor, here, audioPacket])
  · exact Or.inl (carried_elsewhere cli _ _ _ _ _ (send_audio_carried cli pcmu) (Or.inl here))

theorem audio_to_all_once (pcmu : Bytes) (d : Device) (inv : RecordsKept d) (conn : ConnId) :
    sentTo ptPcmu conn (sendToAll (sendAudioTo pcmu) d).2 = [] ∨
      sentTo ptPcmu conn (sendToAll (sendAudioTo pcmu) d).2 = [(false, pcmu)] := by
  by_cases known : ∃ cli ∈ d.clients, cli.tc = conn
  · obtain ⟨cli, member, named⟩ := known
    have others : ∀ other : RtspClient, other.tc ≠ cli.tc → sentTo ptPcmu cli.tc (sendAudioTo pcmu other).2 = [] :=
      fun other away => carried_elsewhere other _ _ _ _ _ (send_audio_to_carried pcmu other) (Or.inl away)
    have mine := flat_map_key ptPcmu d.clients (sendAudioTo pcmu) cli inv.unique member others
    rw [← named, sendToAll]
    dsimp only
    rw [mine, sendAudioTo]
    split
    · exact audio_block_once pcmu cli cli.tc
    · exact Or.inl rfl
  · refine Or.inl (sent_nothing _ _ _ ?_)
    intro out member
    obtain ⟨cli, present, sent⟩ := List.mem_flatMap.mp member
    have away : cli.tc ≠ conn := fun here => known ⟨cli, present, here⟩
    have none := carried_elsewhere cli _ _ _ _ _ (send_audio_to_carried pcmu cli) (Or.inl away : cli.tc ≠ conn ∨ ptPcmu ≠ ptPcmu)
    exact List.filterMap_eq_nil_iff.mp none out sent

-- The packets of a step carry the block it has read, or silence.
theorem block_carried (w : World) (d : Device) (conn : ConnId) (outs : List Out)
    (once : sentTo ptPcmu conn outs = [] ∨ sentTo ptPcmu conn outs = [(false, (nextBlock w d).2.1)]) :
    ∃ mine : List (List Int), sentTo ptPcmu conn outs = mine.map (fun samples => (false, encodeBlock w samples)) ∧
      mine.flatten.Sublist (micBlock w d).flatten := by
  rcases once with none | one
  · exact ⟨[], none, List.nil_sublist _⟩
  · by_cases live : d.micOpened = true
    · refine ⟨[(readMic w d audioSamples).2], ?_, ?_⟩
      · rw [one, nextBlock, if_pos live]
        rfl
      · rw [micBlock, if_pos live]
    · refine ⟨[[]], ?_, List.nil_sublist _⟩
      rw [one, nextBlock, if_neg live]
      rfl

theorem audio_timer_mic_step (w : World) (d : Device) (inv : RecordsKept d) (indexed : Indexed d.ain) :
    MicStep w d (audioSendTimer w d) (tickHears w d) := by
  have rearm : { d with tmrAudio := true } = rearmed d := rfl
  rw [audioSendTimer, tickHears]
  dsimp only
  rw [rearm]
  by_cases playing : hasPlayingClients d = true
  · have plays : hasPlayingClients (rearmed d) = true := playing
    rw [if_pos plays, if_pos playing]
    have armed : Kept d (rearmed d) := ⟨rfl, rfl, rfl, rfl⟩
    have kept := kept_trans _ _ _ armed (kept_trans _ _ _ (drain_excess_kept w _) (next_block_kept w _))
    have records := records_kept d _ kept inv
    have drained := drain_excess_draws w (rearmed d) indexed
    generalize drainExcess w (rearmed d) = base at records drained
    have delivery := delivery_append _ _ _ _ _ _ _ _ _ _ (next_block_delivery w base)
      (audio_to_all_delivery (nextBlock w base).2.1 (nextBlock w base).1)
    have blocks : blocksIn ((nextBlock w base).2.2 ++ (sendToAll (sendAudioTo (nextBlock w base).2.1) (nextBlock w base).1).2) =
        micBlock w base := delivery.blocks.trans (List.append_nil _)
    constructor
    · dsimp only
      rw [blocks]
      exact draws_trans _ _ _ _ _ _ _ drained (next_block_draws w base drained.indexed)
    · intro conn
      dsimp only
      rw [blocks]
      apply block_carried
      rw [delivery.audio]
      exact audio_to_all_once (nextBlock w base).2.1 (nextBlock w base).1 records conn
  · have still : ¬ hasPlayingClients (rearmed d) = true := playing
    rw [if_neg still, if_neg playing]
    exact plain_mic_step w d _ [] nothing_plain rfl indexed

theorem open_mic_draws (w : World) (d : Device) (indexed : Indexed d.ain) : Draws d.ain (openMic w d).ain [] [] := by
  rw [openMic]
  split
  · exact draws_nothing d.ain indexed
  · dsimp only
    rw [audioInOpen]
    split
    · exact draws_nothing d.ain indexed
    · have empty := empty_ring_holds (w.micReady d.calls)
      refine ⟨empty.toIndexed, ?_⟩
      dsimp only
      rw [empty.queued]
      exact List.nil_sublist _

theorem ensure_media_draws (w : World) (d : Device) (indexed : Indexed d.ain) : Draws d.ain (ensureMediaStarted w d).ain [] [] := by
  rw [ensureMediaStarted]
  split
  · exact open_mic_draws w d indexed
  · dsimp only
    split
    · exact draws_nothing d.ain indexed
    · exact open_mic_draws w { (openCamera w d).1 with cameraOpened := true } indexed

theorem play_device_draws (w : World) (d : Device) (cli : RtspClient) (indexed : Indexed d.ain) :
    Draws d.ain (playDevice w d cli).1.ain [] [] := by
  rw [playDevice, openBackchannel]
  dsimp only
  split
  · exact ensure_media_draws w d indexed
  · exact ensure_media_draws w d indexed

theorem immediate_video_mic (w : World) (d : Device) (cli : RtspClient) :
    (immediateVideo w d cli).1.ain = d.ain ∧ blockHears w (immediateVideo w d cli).1 = blockHears w (getFrame w d).1 := by
  rw [immediateVideo]
  split <;> exact ⟨rfl, rfl⟩

theorem immediate_audio_draws (w : World) (d : Device) (cli : RtspClient) (indexed : Indexed d.ain) :
    Draws d.ain (immediateAudio w d cli).1.ain (if cli.audio.setup then micBlock w d else []).flatten
      (if cli.audio.setup then blockHears w d else []) := by
  rw [immediateAudio]
  split
  · exact next_block_draws w d indexed
  · exact draws_nothing d.ain indexed

theorem immediate_audio_once (w : World) (d : Device) (cli : RtspClient) (conn : ConnId) :
    sentTo ptPcmu conn (immediateAudio w d cli).2.2 = [] ∨
      cli.audio.setup = true ∧ sentTo ptPcmu conn (immediateAudio w d cli).2.2 = [(false, (nextBlock w d).2.1)] := by
  have quiet := (next_block_delivery w d).audio conn
  rw [immediateAudio]
  by_cases setup : cli.audio.setup = true
  · rw [if_pos setup]
    dsimp only
    rw [sent_append, quiet, List.nil_append]
    cases audio_block_once (nextBlock w d).2.1 cli conn with
    | inl none => exact Or.inl none
    | inr one => exact Or.inr ⟨setup, one⟩
  · rw [if_neg setup]
    exact Or.inl rfl

theorem play_mic_step (w : World) (d : Device) (cli : RtspClient) (req : RtspReq) (front : List Out)
    (plain : ∀ out ∈ front, out.isPlain = true) (indexed : Indexed d.ain) :
    MicStep w d ((handlePlay w d cli req).1.put (handlePlay w d cli req).2.1, front ++ (handlePlay w d cli req).2.2)
      (playHears w d cli) := by
  by_cases idle : cli.state = .idle
  · rw [handlePlay, if_pos idle, playHears, if_pos idle]
    refine plain_mic_step w d _ _ ?_ rfl indexed
    rw [List.forall_mem_append]
    exact ⟨plain, by simp [rtspReply, Out.isPlain]⟩
  · have started := play_device_draws w d cli indexed
    have record := play_record w d cli
    have delivery := play_delivery w d cli req front plain idle _ rfl
    have device : (handlePlay w d cli req).1 = (immediateAudio w (immediateVideo w (playDevice w d cli).1 (playDevice w d cli).2).1
        (immediateVideo w (playDevice w d cli).1 (playDevice w d cli).2).2.1).1 := by
      rw [handlePlay, if_neg idle]
      rfl
    rw [playHears, if_neg idle]
    generalize playDevice w d cli = talk at started record delivery device
    have seen := immediate_video_mic w talk.1 talk.2
    have tracks := identity_tracks _ _ (immediate_video_identity w talk.1 talk.2)
    have setup : (immediateVideo w talk.1 talk.2).2.1.audio.setup = cli.audio.setup := by
      rw [tracks.2.2.2.2.2.2.2, record.2.2.2.2]
    have sent := immediate_audio_draws w (immediateVideo w talk.1 talk.2).1 (immediateVideo w talk.1 talk.2).2.1
      (by rw [seen.1]; exact started.indexed)
    rw [setup, immediate_mic, seen.1, seen.2] at sent
    constructor
    · rw [delivery.blocks]
      exact draws_trans _ _ _ _ _ _ _ started (by rw [← device] at sent; exact sent)
    · intro conn
      rw [delivery.blocks, delivery.audio]
      cases immediate_audio_once w (immediateVideo w talk.1 talk.2).1 (immediateVideo w talk.1 talk.2).2.1 conn with
      | inl none => exact ⟨[], none, List.nil_sublist _⟩
      | inr one =>
          rw [setup] at one
          rw [if_pos one.1, ← immediate_mic]
          exact block_carried w _ conn _ (Or.inr one.2)

theorem admitted_ain (w : World) (d : Device) (req : RtspReq) : (admittedDevice w d req).ain = d.ain := by
  obtain ⟨auth, calls, _, device⟩ := admitted_device w d req
  rw [device]

theorem fetch_params_ain (w : World) (d : Device) : (fetchParams w d).1.ain = d.ain := by
  rw [fetchParams]
  split
  · rfl
  · dsimp only
    split <;> rfl

theorem handle_setup_ain (w : World) (d : Device) (cli : RtspClient) (req : RtspReq) : (handleSetup w d cli req).1.ain = d.ain := by
  obtain ⟨calls, same⟩ := handle_setup_calls w d cli req
  rw [same]

theorem maybe_stop_ain (d : Device) : (maybeStopMedia d).ain = d.ain := by
  rw [maybeStopMedia]
  split <;> rfl

theorem end_session_ain (d : Device) : (endSession d).ain = d.ain := by
  rw [endSession]
  split <;> rfl

theorem session_alloc_ain (w : World) (d : Device) (peer : Sa) : (sessionAlloc w d peer).1.ain = d.ain := by
  rw [sessionAlloc]
  dsimp only
  split
  · split <;> rfl
  · rfl

theorem call_create_ain (w : World) (d : Device) (body behind : Bytes) : (handleCallCreate w d body behind).1.ain = d.ain := by
  rw [handleCallCreate]
  dsimp only
  split
  · exact end_session_ain d
  · exact (session_alloc_ain w _ _).trans (end_session_ain d)

theorem append_chunk_ain (d : Device) (conn : ConnId) (chunk : Bytes) : (appendChunk d conn chunk).ain = d.ain := by
  rw [appendChunk]
  split
  · rfl
  · split <;> rfl

theorem drop_client_ain (d : Device) (conn : ConnId) : (dropClient d conn).ain = d.ain := by
  rw [dropClient]
  split
  · rfl
  · split
    · exact maybe_stop_ain _
    · rfl

theorem video_timer_mic_step (w : World) (d : Device) (indexed : Indexed d.ain) : MicStep w d (videoSendTimer w d) [] := by
  have keyed : (forceKeyframe { d with tmrVideo := true }).ain = d.ain := by
    rw [forceKeyframe]
    split <;> rfl
  rw [videoSendTimer]
  dsimp only
  split
  · generalize forceKeyframe { d with tmrVideo := true } = base at keyed
    have pulled := get_frame_delivery w base
    cases got : (getFrame w base).2.1 with
    | none => exact silent_mic_step w d _ _ _ _ pulled keyed indexed
    | some nalus =>
        have both := delivery_append _ _ _ _ _ _ _ _ _ _ pulled (frame_to_all_delivery nalus (getFrame w base).1)
        exact silent_mic_step w d _ _ _ _ both keyed indexed
  · exact plain_mic_step w d _ [] nothing_plain rfl indexed

theorem session_timer_mic_step (w : World) (d : Device) (indexed : Indexed d.ain) : MicStep w d (sessionVideoTimer w d) [] := by
  rw [sessionVideoTimer]
  split
  · exact plain_mic_step w d _ [] nothing_plain rfl indexed
  · rename_i sess _
    split
    · have pulled := get_frame_delivery w d
      dsimp only
      cases got : (getFrame w d).2.1 with
      | none => exact silent_mic_step w d _ _ _ _ pulled rfl indexed
      | some nalus =>
          have both := delivery_append _ _ _ _ _ _ _ _ _ _ pulled (plain_delivery _ (session_nalus_plain sess nalus))
          exact silent_mic_step w d _ _ _ _ both rfl indexed
    · exact plain_mic_step w d _ [] nothing_plain rfl indexed

def servedHears (w : World) (d : Device) (cli : RtspClient) : Option RtspReq → List Int
  | none => []
  | some req => requestHears w d cli req

theorem served_mic_step (w : World) (d : Device) (cli : RtspClient) (request : Option RtspReq) (result : Device × List Out)
    (served : Served w d cli request result) (indexed : Indexed d.ain) :
    MicStep w d result (servedHears w d cli request) := by
  have unplayed : ∀ req : RtspReq, req.method ≠ ascii "PLAY" → servedHears w d cli (some req) = [] :=
    fun req other => if_neg other
  have marks := mark_plain d cli
  cases served with
  | frame channel data =>
      refine plain_mic_step w d _ _ ?_ rfl indexed
      intro out member
      rcases List.mem_cons.mp member with rfl | played
      · rfl
      · obtain ⟨pcmu, rfl⟩ := mem_play_backchannel cli channel data out played
        rfl
  | denied text cseq => exact plain_mic_step w d _ _ (by simp [Out.isPlain, rtspReply]) rfl indexed
  | answered text req code reason extra marks auth calls same fixed marked other =>
      rw [unplayed req (fun play => other (by rw [play]; decide))]
      refine plain_mic_step w d _ _ ?_ rfl indexed
      intro out member
      rcases List.mem_cons.mp member with rfl | later
      · rfl
      · rcases List.mem_append.mp later with mark | reply
        · rw [marked out mark]
          rfl
        · rw [List.mem_singleton.mp reply]
          rfl
  | described text req method =>
      rw [unplayed req (by rw [method]; decide), ← List.cons_append]
      have delivery := delivery_front _ _ _ _ _ _ (marks text) (describe_delivery w (admittedDevice w d req) cli req)
      exact silent_mic_step w d _ _ _ _ delivery ((fetch_params_ain w _).trans (admitted_ain w d req)) indexed
  | setUp text req method =>
      rw [unplayed req (by rw [method]; decide), ← List.cons_append]
      refine plain_mic_step w d _ _ ?_ ((handle_setup_ain w _ cli req).trans (admitted_ain w d req)) indexed
      rw [List.forall_mem_append]
      exact ⟨marks text, setup_plain w _ cli req⟩
  | played text req method =>
      have heard : servedHears w d cli (some req) = playHears w (admittedDevice w d req) cli := if_pos method
      have same := admitted_ain w d req
      have play := play_mic_step w (admittedDevice w d req) cli req _ (marks text) (same.symm ▸ indexed)
      rw [heard, ← List.cons_append]
      exact ⟨same ▸ play.draws, play.carried⟩
  | tornDown text req method =>
      rw [unplayed req (by rw [method]; decide), ← List.cons_append]
      refine plain_mic_step w d _ _ ?_ ((maybe_stop_ain _).trans (admitted_ain w d req)) indexed
      rw [List.forall_mem_append]
      exact ⟨marks text, by simp [handleTeardown, rtspReply, Out.isPlain]⟩

theorem process_mic_step (w : World) (d : Device) (conn : ConnId) (indexed : Indexed d.ain) :
    MicStep w d (processMessage w d conn) (stepHears w d (.process conn)) := by
  rcases process_cases w d conn with ⟨idle, nothing⟩ | ⟨cli, result, rest, found, named, served, same⟩
  · have unheard : stepHears w d (.process conn) = [] := by
      rw [stepHears, nothing]
      split
      · rename_i none
        cases none
      · rfl
    rw [idle, unheard]
    exact plain_mic_step w d _ [] nothing_plain rfl indexed
  · have heard : stepHears w d (.process conn) = servedHears w (d.setRbuf conn []) { cli with rbuf := [] } (asked w d conn) := by
      rw [stepHears, found]
      cases asked w d conn <;> rfl
    have stepped := served_mic_step w _ _ _ _ served indexed
    rw [same, heard]
    exact ⟨stepped.draws, stepped.carried⟩

theorem step_mic_step (w : World) (d : Device) (action : Action) (inv : RecordsKept d) (indexed : Indexed d.ain) :
    MicStep w d (step w d action) (stepHears w d action) := by
  cases action with
  | connect peer => exact plain_mic_step w d _ [] nothing_plain rfl indexed
  | relayConnect peer => exact plain_mic_step w d _ [] nothing_plain rfl indexed
  | receive conn chunk => exact plain_mic_step w d _ [] nothing_plain (append_chunk_ain d conn chunk) indexed
  | process conn => exact process_mic_step w d conn indexed
  | close conn => exact plain_mic_step w d _ [] nothing_plain (drop_client_ain d conn) indexed
  | timeout conn => exact plain_mic_step w d _ [] nothing_plain (drop_client_ain d conn) indexed
  | audioTimer =>
      rw [step, stepHears]
      split
      · exact audio_timer_mic_step w d inv indexed
      · exact plain_mic_step w d _ [] nothing_plain rfl indexed
  | videoTimer =>
      rw [step]
      split
      · exact video_timer_mic_step w d indexed
      · exact plain_mic_step w d _ [] nothing_plain rfl indexed
  | callCreate body behind =>
      refine plain_mic_step w d _ _ ?_ (call_create_ain w d body behind) indexed
      intro out member
      obtain ⟨code, rfl⟩ := mem_call_create w d body behind out member
      rfl
  | callDelete => exact plain_mic_step w d _ _ (by simp [Out.isPlain]) (end_session_ain d) indexed
  | sessionVideoTimer => exact session_timer_mic_step w d indexed

-- Induction on the run: the samples sent so far, then those still in the ring, are part of what was captured.
theorem run_mic_steps (w : World) (d : Device) (actions : List Action) (inv : RecordsKept d) (indexed : Indexed d.ain) :
    MicStep w d (reached w d actions) (runHears w d actions) := by
  induction actions generalizing d with
  | nil => exact plain_mic_step w d d [] nothing_plain rfl indexed
  | cons action rest ih =>
      have first := step_mic_step w d action inv indexed
      have later := ih (deviceStep w d action) (step_records w d action inv) first.draws.indexed
      have state : (reached w d (action :: rest)).1 = (reached w (deviceStep w d action) rest).1 :=
        Runs.record_state (step w) (step w d action).1 (step w d action).2 rest
      have outs : (reached w d (action :: rest)).2 = (step w d action).2 ++ (reached w (deviceStep w d action) rest).2 :=
        Runs.record_outputs (step w) (step w d action).1 (step w d action).2 rest
      have blocks : blocksIn (reached w d (action :: rest)).2 =
          blocksIn (step w d action).2 ++ blocksIn (reached w (deviceStep w d action) rest).2 := by
        rw [outs, blocksIn, List.filterMap_append]
        rfl
      constructor
      · rw [blocks, state, List.flatten_append, runHears]
        exact draws_trans _ _ _ _ _ _ _ first.draws later.draws
      · intro conn
        obtain ⟨mine, sent, ordered⟩ := first.carried conn
        obtain ⟨more, sentLater, orderedLater⟩ := later.carried conn
        refine ⟨mine ++ more, ?_, ?_⟩
        · rw [outs, sent_append, sent, sentLater, List.map_append]
        · rw [blocks, List.flatten_append, List.flatten_append]
          exact ordered.append orderedLater

theorem microphone_bounded_and_ordered (w : World) :
    (∀ d : Device, Indexed d.ain → d.micOpened = true → hasPlayingClients d = true →
      (320 < (micAvailable w (rearmed d)).2 →
        Discards w (micAvailable w (rearmed d)).1 ((micAvailable w (rearmed d)).2 - 160) (drainExcess w (rearmed d))) ∧
      (tickHears w d = [] → TickSends w d (tickSamples (ringContents d.ain)))) ∧
    ∀ (localIp username password : Bytes) (actions : List Action),
      (blocksIn (reached w (initial w localIp username password) actions).2).flatten.Sublist
        (runHears w (initial w localIp username password) actions) ∧
      ∀ conn, ∃ mine : List (List Int),
        sentTo ptPcmu conn (reached w (initial w localIp username password) actions).2 =
          mine.map (fun samples => (false, encodeBlock w samples)) ∧
        mine.flatten.Sublist (runHears w (initial w localIp username password) actions) := by
  refine ⟨?_, ?_⟩
  · intro d indexed live playing
    refine ⟨?_, quiet_tick w d live playing indexed⟩
    intro late
    have opened : (rearmed d).micOpened = true := live
    have behind : audioSamples * 2 < (micAvailable w (rearmed d)).2 := late
    rw [drainExcess, if_pos opened]
    dsimp only
    rw [if_pos behind]
    exact discard_loop_ends w _ _ _ (Nat.sub_le _ _)
  · intro localIp username password actions
    have start := empty_ring_holds false
    have whole := run_mic_steps w (initial w localIp username password) actions (initial_records w localIp username password)
      start.toIndexed
    have ordered : (blocksIn (reached w (initial w localIp username password) actions).2).flatten.Sublist
        (runHears w (initial w localIp username password) actions) := by
      have all := (List.sublist_append_left _ _).trans whole.draws.ordered
      have empty : ringContents (initial w localIp username password).ain = [] := start.queued
      rw [empty] at all
      exact all
    refine ⟨ordered, ?_⟩
    intro conn
    obtain ⟨mine, sent, within⟩ := whole.carried conn
    exact ⟨mine, sent, within.trans ordered⟩

end Intercom
