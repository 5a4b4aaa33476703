import Intercom.Android.Downstream
import Intercom.Media.G711
import Mathlib.Data.Nat.Log

set_option autoImplicit false

/- AudioPlayer.kt at the end of the way from the device's microphone: the block that audio_send_timer encodes, the RTP
   packet on the connection, the read loop and the samples written to the AudioTrack. -/
namespace Intercom.Android

open ByteText

def decodeBufferSize : Nat := 960

def ulawDecode (ulawByte : UInt8) : Int16 :=
  let ulaw := ulawByte ^^^ 0xFF
  let exponent := ((ulaw >>> 4) &&& 0x07).toNat
  let mantissa := (ulaw &&& 0x0F).toNat
  let sample : Int := (((mantissa <<< 3) + 0x84) <<< exponent : Nat) - 0x84
  if ulaw &&& 0x80 ≠ 0 then Int16.ofInt (-sample) else Int16.ofInt sample

-- What one call writes to the AudioTrack; audioTrack is null before start and after stop.
def feedPcmu (audioTrack : Bool) (data : Bytes) : List Int16 :=
  if !audioTrack || decodeBufferSize < data.length then [] else data.map ulawDecode

theorem ulaw_decoders_agree : ∀ byte : UInt8, ulawDecode byte = ulawToPcm byte := by decide +kernel

def heardBelow (sample : Int16) : Int16 := ulawDecode (g711Pcm2ulaw sample)

theorem heard_below_clipped (sample : Int16) : (heardBelow sample).toInt = heard (clipped sample) := by
  rw [heardBelow, ulaw_decoders_agree, pcm2ulaw_clips, heard]

theorem clipped_quiet (sample : Int16) : (clipped sample).toInt.natAbs ≤ 32635 := by
  rw [clipped_magnitude]
  exact Nat.min_le_right _ _

-- The segment of a sample goes from one power of two to the next above its biased magnitude, in sixteen steps; half of one.
def halfStep (sample : Int16) : Nat := 2 ^ (Nat.log 2 (min sample.toInt.natAbs 32635 + 132) - 5)

theorem level_close (pcm exponent : Nat) (segment : Segment pcm exponent) :
    level pcm ≤ pcm + 2 ^ (exponent + 2) ∧ pcm ≤ level pcm + 2 ^ (exponent + 2) := by
  obtain ⟨found, bounded, above, below⟩ := segment
  rw [level, found]
  interval_cases exponent <;> omega

theorem half_step_segment (sample : Int16) (exponent : Nat) (segment : Segment (min sample.toInt.natAbs 32635 + 132) exponent) :
    halfStep sample = 2 ^ (exponent + 2) := by
  rw [halfStep, Nat.log_eq_of_pow_le_of_lt_pow segment.above segment.below]
  rfl

theorem heard_close (sample : Int16) (quiet : sample.toInt.natAbs ≤ 32635) : |heard sample - sample.toInt| ≤ halfStep sample := by
  have unclipped : min sample.toInt.natAbs 32635 = sample.toInt.natAbs := Nat.min_eq_left quiet
  obtain ⟨exponent, segment⟩ := segment_of (min sample.toInt.natAbs 32635 + 132) (by omega) (by omega)
  rw [half_step_segment sample exponent segment]
  obtain ⟨high, low⟩ := level_close _ _ segment
  rw [unclipped] at high low
  rw [abs_le, heard_level sample quiet, signOf]
  generalize 2 ^ (exponent + 2) = half at high low ⊢
  split <;> omega

theorem heard_below_close (sample : Int16) : |(heardBelow sample).toInt - clip sample.toInt| ≤ halfStep sample := by
  have near := heard_close (clipped sample) (clipped_quiet sample)
  have same : halfStep (clipped sample) = halfStep sample := by
    rw [halfStep, halfStep, clipped_magnitude, Nat.min_assoc, Nat.min_self]
  rw [clipped_value, same] at near
  rw [heard_below_clipped]
  exact near

theorem heard_below_mono (low high : Int16) (ordered : low.toInt ≤ high.toInt) :
    (heardBelow low).toInt ≤ (heardBelow high).toInt := by
  rw [heard_below_clipped, heard_below_clipped]
  apply heard_mono (clipped low) (clipped high) (clipped_quiet low) (clipped_quiet high)
  rw [clipped_value, clipped_value, clip, clip]
  omega

-- Sample by sample within half a step of its segment, the loudest clipped, and none above a louder one.
structure FaithfulBySegment (samples played : List Int16) : Prop where
  close : List.Forall₂ (fun sample sound => |sound.toInt - clip sample.toInt| ≤ halfStep sample) samples played
  ordered : ∀ (i j : Nat) (x y u v : Int16), samples[i]? = some x → samples[j]? = some y → played[i]? = some u →
    played[j]? = some v → x.toInt ≤ y.toInt → u.toInt ≤ v.toInt

theorem heard_below_faithful (samples : List Int16) : FaithfulBySegment samples (samples.map heardBelow) := by
  refine ⟨?_, ?_⟩
  · apply List.forall₂_map_right_iff.mpr
    apply List.forall₂_same.mpr
    intro sample _
    exact heard_below_close sample
  · intro i j x y u v first second firstHeard secondHeard ordered
    rw [List.getElem?_map, first] at firstHeard
    rw [List.getElem?_map, second] at secondHeard
    cases firstHeard
    cases secondHeard
    exact heard_below_mono x y ordered

inductive Sound where
  | frame (nalus : List Bytes)
  | block (samples : List Int)
  | keepalive (cseq : Int)
deriving DecidableEq, Repr

def Sound.downlink (w : World) : Sound → Downlink
  | .frame nalus => .frame nalus
  | .block samples => .audio (encodeBlock w samples)
  | .keepalive cseq => .keepalive cseq

def Sound.samples : Sound → List Int16
  | .block samples => (samples ++ List.replicate (audioSamples - samples.length) 0).map Int16.ofInt
  | _ => []

def Sound.Fits : Sound → Prop
  | .frame nalus => ∀ nalu ∈ nalus, PlainNalu nalu
  | .block samples => samples.length ≤ audioSamples
  | .keepalive _ => True

section Speech

variable (w : World) (codec : ∀ sample, w.pcm2ulaw sample = g711Pcm2ulaw (Int16.ofInt sample))

theorem encode_block_length (samples : List Int) (fits : samples.length ≤ audioSamples) :
    (encodeBlock w samples).length = audioSamples := by
  simp only [encodeBlock, List.length_map, List.length_append, List.length_replicate]
  omega

theorem sound_fits (sound : Sound) (fits : sound.Fits) : (sound.downlink w).Fits := by
  cases sound with
  | frame nalus => exact fits
  | block samples => exact encode_block_length w samples fits
  | keepalive cseq => trivial

include codec

theorem block_played (samples : List Int) (fits : samples.length ≤ audioSamples) :
    feedPcmu true (encodeBlock w samples) = (Sound.block samples).samples.map heardBelow := by
  have size := encode_block_length w samples fits
  have short : ¬ decodeBufferSize < (encodeBlock w samples).length := by
    rw [size]
    decide
  simp only [feedPcmu, Bool.not_true, Bool.false_or, decide_eq_true_eq, if_neg short]
  simp only [encodeBlock, Sound.samples, List.map_map]
  apply List.map_congr_left
  intro sample _
  exact congrArg ulawDecode (codec sample)

theorem sounds_played (sounds : List Sound) (fits : ∀ sound ∈ sounds, sound.Fits) :
    ((sounds.map (Sound.downlink w)).flatMap Downlink.pcmu).flatMap (feedPcmu true) =
      (sounds.flatMap Sound.samples).map heardBelow := by
  induction sounds with
  | nil => rfl
  | cons sound rest ih =>
      have later := ih fun other member => fits other (List.mem_cons_of_mem sound member)
      have first : (sound.downlink w).pcmu.flatMap (feedPcmu true) = sound.samples.map heardBelow := by
        cases sound with
        | frame nalus => rfl
        | block samples =>
            have here := block_played w codec samples (fits (.block samples) List.mem_cons_self)
            simpa [Sound.downlink, Downlink.pcmu] using here
        | keepalive cseq => rfl
      rw [List.map_cons, List.flatMap_cons, List.flatMap_append, List.flatMap_cons, List.map_append, first, later]

theorem downstream_speech_faithful (pick : Nat → Nat) (cli : RtspClient) (sounds : List Sound) (decoder : VideoDecoder)
    (watching : Watching cli) (fits : ∀ sound ∈ sounds, sound.Fits) :
    FaithfulBySegment (sounds.flatMap Sound.samples)
      ((readLoop pick (written cli.tc (downlinks cli (sounds.map (Sound.downlink w))).2)
        { decoder := decoder }).1.screen.audio.flatMap (feedPcmu true)) := by
  have each : ∀ action ∈ sounds.map (Sound.downlink w), action.Fits := by
    intro action member
    obtain ⟨sound, inside, rfl⟩ := List.mem_map.mp member
    exact sound_fits w sound (fits sound inside)
  obtain ⟨last, shown, ended⟩ := actions_shown pick cli (sounds.map (Sound.downlink w))
    { input := ⟨written cli.tc (downlinks cli (sounds.map (Sound.downlink w))).2, 0⟩, screen := { decoder := decoder } } watching
    List.length_replicate each rfl
  have loop := read_loop_turns pick _ last shown.turns ended _ (Nat.lt_succ_self _)
  have audio : last.screen.audio = (sounds.map (Sound.downlink w)).flatMap Downlink.pcmu := shown.audio
  rw [readLoop, loop, audio, sounds_played w codec sounds fits]
  exact heard_below_faithful _

end Speech

def codecWorld : World := { sampleWorld with pcm2ulaw := fun sample => g711Pcm2ulaw (Int16.ofInt sample) }

theorem loud_speech_faithful :
    FaithfulBySegment ((Sound.block [32767, -32768, 0, 100]).samples)
      ((readLoop (fun call => 7 * call) (written viewer.tc (downlinks viewer [.audio (encodeBlock codecWorld [32767, -32768, 0, 100])]).2)
        {}).1.screen.audio.flatMap (feedPcmu true)) := by
  have fits : ∀ sound ∈ [Sound.block [32767, -32768, 0, 100]], sound.Fits := by
    intro sound member
    obtain rfl := List.mem_singleton.mp member
    show (4 : Nat) ≤ 160
    decide
  have heard := downstream_speech_faithful codecWorld (fun _ => rfl) (fun call => 7 * call) viewer
    [.block [32767, -32768, 0, 100]] {} ⟨rfl, rfl, rfl, rfl, rfl, rfl⟩ fits
  simpa [Sound.downlink] using heard

end Intercom.Android
