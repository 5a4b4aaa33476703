import Intercom.Lib.Bytes
import Mathlib.Data.FinEnum
import Mathlib.Data.Nat.Bitwise
import Mathlib.Tactic.IntervalCases

set_option autoImplicit false

/- Talk-back audio: AudioCapture.kt encodes what the microphone gives, audio_out_win.c decodes it again. The encoder
   sorts a biased magnitude p into the segment e with 2^(e+7) ≤ p < 2^(e+8) and keeps four bits below the leading
   one; the decoder answers with the middle of that cell. -/
namespace Intercom

open ByteText

def maxSamples : Nat := 960

def ulawToPcm (u : UInt8) : Int16 :=
  let u := ~~~u
  let sign : Int := if u &&& 0x80 ≠ 0 then -1 else 1
  let exponent := ((u >>> 4) &&& 0x07).toNat
  let mantissa := (u &&& 0x0F).toNat
  let magnitude : Int := (((mantissa <<< 3) + 0x84) <<< exponent : Nat)
  Int16.ofInt (sign * (magnitude - 0x84))

def audioOutSamples (pcmu : Bytes) : List Int16 := (pcmu.take maxSamples).map ulawToPcm

end Intercom

namespace Intercom.Android

open ByteText

def samplesPerFrame : Nat := 320

structure PcmBuffer where
  samples : List Int16
  fits : samples.length ≤ samplesPerFrame

def exponentLoop (pcm : Nat) : Nat → Nat → Nat
  | 0, _ => 0
  | exponent + 1, mask => if pcm &&& mask = 0 then exponentLoop pcm exponent (mask >>> 1) else exponent + 1

def ulawByte (sign exponent mantissa : Nat) : UInt8 := UInt8.ofNat ((sign ||| (exponent <<< 4) ||| mantissa) ^^^ 0xFF)

def ulawEncode (sample : Int16) : UInt8 :=
  let sign := if sample.toInt < 0 then 0x80 else 0
  let pcm := sample.toInt.natAbs
  let pcm := if 0x7FFF < pcm then 0x7FFF else pcm
  let pcm := pcm + 0x84
  let exponent := exponentLoop pcm 7 0x4000
  let mantissa := (pcm >>> (exponent + 3)) &&& 0x0F
  ulawByte sign exponent mantissa

def captureFrame (buffer : PcmBuffer) : Bytes := buffer.samples.map ulawEncode

def clip (sample : Int) : Int := max (-32635) (min 32635 sample)

def heard (sample : Int16) : Int := (ulawToPcm (ulawEncode sample)).toInt

theorem ulaw_byte_decodes : ∀ (negative : Bool) (exponent : Fin 8) (mantissa : Fin 16),
    (ulawToPcm (ulawByte (if negative then 0x80 else 0) exponent mantissa)).toInt =
      (if negative then -1 else 1) * (((8 * mantissa.val + 132) * 2 ^ exponent.val : Nat) - 132) := by
  decide +kernel

theorem bit_clear (pcm bit : Nat) : pcm &&& 2 ^ bit = 0 ↔ pcm.testBit bit = false := by
  rw [Nat.and_two_pow]
  cases pcm.testBit bit <;> simp

theorem next_mask (exponent : Nat) : 2 ^ (exponent + 1 + 7) >>> 1 = 2 ^ (exponent + 7) := by
  rw [Nat.shiftRight_eq_div_pow, Nat.pow_div (by omega) (by omega)]
  rfl

theorem exponent_loop_segment (pcm exponent : Nat) (above : 128 ≤ pcm) (below : pcm < 2 ^ (exponent + 8)) :
    exponentLoop pcm exponent (2 ^ (exponent + 7)) ≤ exponent ∧
      2 ^ (exponentLoop pcm exponent (2 ^ (exponent + 7)) + 7) ≤ pcm ∧
      pcm < 2 ^ (exponentLoop pcm exponent (2 ^ (exponent + 7)) + 8) := by
  induction exponent with
  | zero =>
      rw [exponentLoop]
      exact ⟨Nat.le_refl _, above, below⟩
  | succ exponent ih =>
      rw [exponentLoop, next_mask]
      by_cases high : 2 ^ (exponent + 8) ≤ pcm
      · have set := Nat.testBit_of_two_pow_le_and_two_pow_add_one_gt high below
        rw [if_neg (by rw [bit_clear, set]; exact Bool.noConfusion)]
        exact ⟨Nat.le_refl _, high, below⟩
      · have lower : pcm < 2 ^ (exponent + 8) := Nat.lt_of_not_le high
        rw [if_pos ((bit_clear _ _).mpr (Nat.testBit_lt_two_pow lower))]
        obtain ⟨bounded, segment⟩ := ih lower
        exact ⟨Nat.le_succ_of_le bounded, segment⟩

-- The bias carries out of the top segment: bits 8 to 14 are all clear and the search runs down to segment 0.
theorem exponent_loop_carry (low exponent : Nat) (small : low < 256) (bounded : exponent ≤ 7) :
    exponentLoop (2 ^ 15 + low) exponent (2 ^ (exponent + 7)) = 0 := by
  induction exponent with
  | zero => rfl
  | succ exponent ih =>
      have clear : (2 ^ 15 + low).testBit (exponent + 1 + 7) = false := by
        rw [Nat.testBit_two_pow_add_gt (by omega)]
        exact Nat.testBit_lt_two_pow (Nat.lt_of_lt_of_le small (Nat.pow_le_pow_right (n := 2) (by decide) (by omega : 8 ≤ exponent + 1 + 7)))
      rw [exponentLoop, next_mask, if_pos ((bit_clear _ _).mpr clear)]
      exact ih (by omega)

def level (pcm : Nat) : Nat :=
  let exponent := exponentLoop pcm 7 0x4000
  (8 * (pcm / 2 ^ (exponent + 3)) + 4) * 2 ^ exponent

structure Segment (pcm exponent : Nat) : Prop where
  found : exponentLoop pcm 7 0x4000 = exponent
  bounded : exponent ≤ 7
  above : 2 ^ (exponent + 7) ≤ pcm
  below : pcm < 2 ^ (exponent + 8)

theorem segment_of (pcm : Nat) (above : 128 ≤ pcm) (below : pcm < 32768) : ∃ exponent, Segment pcm exponent := by
  obtain ⟨bounded, low, high⟩ := exponent_loop_segment pcm 7 above below
  exact ⟨_, rfl, bounded, low, high⟩

theorem segment_quotient (pcm exponent : Nat) (segment : Segment pcm exponent) :
    16 ≤ pcm / 2 ^ (exponent + 3) ∧ pcm / 2 ^ (exponent + 3) < 32 := by
  obtain ⟨_, bounded, above, below⟩ := segment
  interval_cases exponent <;> omega

theorem level_near (pcm exponent : Nat) (segment : Segment pcm exponent) :
    level pcm ≤ pcm + 512 ∧ pcm ≤ level pcm + 512 ∧ 2 ^ (exponent + 7) ≤ level pcm ∧ level pcm < 2 ^ (exponent + 8) := by
  obtain ⟨found, bounded, above, below⟩ := segment
  rw [level, found]
  interval_cases exponent <;> omega

theorem level_mono (low high : Nat) (above : 128 ≤ low) (below : high < 32768) (ordered : low ≤ high) : level low ≤ level high := by
  obtain ⟨first, lower⟩ := segment_of low above (by omega)
  obtain ⟨second, upper⟩ := segment_of high (by omega) below
  have inLower := (level_near low first lower).2.2.2
  have inUpper := (level_near high second upper).2.2.1
  rcases Nat.lt_trichotomy first second with under | same | beyond
  · have apart : 2 ^ (first + 8) ≤ 2 ^ (second + 7) := Nat.pow_le_pow_right (by decide) (by omega)
    omega
  · rw [level, level, lower.found, upper.found, same]
    have quotient : low / 2 ^ (second + 3) ≤ high / 2 ^ (second + 3) := Nat.div_le_div_right ordered
    exact Nat.mul_le_mul_right _ (by omega)
  · have apart : 2 ^ (second + 8) ≤ 2 ^ (first + 7) := Nat.pow_le_pow_right (by decide) (by omega)
    have under := upper.below
    have over_ := lower.above
    omega

def signOf (sample : Int16) : Int := if sample.toInt < 0 then -1 else 1

theorem encode_decodes (sample : Int16) (pcm exponent mantissa : Nat)
    (biased : pcm = (if 0x7FFF < sample.toInt.natAbs then 0x7FFF else sample.toInt.natAbs) + 0x84)
    (found : exponentLoop pcm 7 0x4000 = exponent) (kept : (pcm >>> (exponent + 3)) &&& 0x0F = mantissa)
    (segments : exponent < 8) (steps : mantissa < 16) :
    heard sample = signOf sample * (((8 * mantissa + 132) * 2 ^ exponent : Nat) - 132) := by
  have decoded := ulaw_byte_decodes (decide (sample.toInt < 0)) ⟨exponent, segments⟩ ⟨mantissa, steps⟩
  simp only [decide_eq_true_eq] at decoded
  rw [heard, ulawEncode, ← biased, found, kept, decoded, signOf]

theorem heard_level (sample : Int16) (quiet : sample.toInt.natAbs ≤ 32635) :
    heard sample = signOf sample * ((level (sample.toInt.natAbs + 132) : Int) - 132) := by
  obtain ⟨exponent, segment⟩ := segment_of (sample.toInt.natAbs + 132) (by omega) (by omega)
  obtain ⟨least, most⟩ := segment_quotient _ _ segment
  have mantissa : (sample.toInt.natAbs + 132) >>> (exponent + 3) &&& 0x0F =
      (sample.toInt.natAbs + 132) / 2 ^ (exponent + 3) - 16 := by
    rw [Nat.shiftRight_eq_div_pow, Nat.and_two_pow_sub_one_eq_mod _ 4]
    omega
  have decoded := encode_decodes sample _ exponent _ (by rw [if_neg (by omega)]) segment.found mantissa
    (Nat.lt_succ_of_le segment.bounded) (by omega)
  have cell : 8 * ((sample.toInt.natAbs + 132) / 2 ^ (exponent + 3) - 16) + 132 =
      8 * ((sample.toInt.natAbs + 132) / 2 ^ (exponent + 3)) + 4 := by omega
  rw [decoded, cell, level, segment.found]

theorem heard_folded (sample : Int16) (loud : 32635 < sample.toInt.natAbs) :
    heard sample ≤ 120 ∧ -120 ≤ heard sample := by
  obtain ⟨low, small, biased⟩ : ∃ low, low < 256 ∧
      (if 0x7FFF < sample.toInt.natAbs then 0x7FFF else sample.toInt.natAbs) + 0x84 = 2 ^ 15 + low := by
    split
    · exact ⟨131, by decide, rfl⟩
    · exact ⟨sample.toInt.natAbs - 32636, by omega, by omega⟩
  have masked : ((2 ^ 15 + low) >>> (0 + 3)) &&& 0x0F < 16 := Nat.and_lt_two_pow (n := 4) _ (by decide)
  have decoded := encode_decodes sample _ 0 _ biased.symm (exponent_loop_carry low 7 small (Nat.le_refl _)) rfl (by decide) masked
  rw [decoded, signOf]
  split <;> omega

theorem heard_accurate (sample : Int16) : |heard sample - clip sample.toInt| ≤ 512 ↔ sample.toInt.natAbs ≤ 32635 := by
  rw [abs_le, clip]
  by_cases quiet : sample.toInt.natAbs ≤ 32635
  · obtain ⟨exponent, segment⟩ := segment_of (sample.toInt.natAbs + 132) (by omega) (by omega)
    obtain ⟨high, low, _⟩ := level_near _ _ segment
    rw [heard_level sample quiet, signOf]
    split <;> omega
  · obtain ⟨high, low⟩ := heard_folded sample (by omega)
    omega

theorem heard_mono (low high : Int16) (lowQuiet : low.toInt.natAbs ≤ 32635) (highQuiet : high.toInt.natAbs ≤ 32635)
    (ordered : low.toInt ≤ high.toInt) : heard low ≤ heard high := by
  have floor (sample : Int16) (quiet : sample.toInt.natAbs ≤ 32635) : 132 ≤ level (sample.toInt.natAbs + 132) :=
    level_mono 132 _ (by decide) (by omega) (Nat.le_add_left _ _)
  have lowFloor := floor low lowQuiet
  have highFloor := floor high highQuiet
  rw [heard_level low lowQuiet, heard_level high highQuiet, signOf, signOf]
  by_cases negative : low.toInt < 0
  · rw [if_pos negative]
    by_cases both : high.toInt < 0
    · have mono := level_mono (high.toInt.natAbs + 132) (low.toInt.natAbs + 132) (by omega) (by omega) (by omega)
      rw [if_pos both]
      omega
    · rw [if_neg both]
      omega
  · have mono := level_mono (low.toInt.natAbs + 132) (high.toInt.natAbs + 132) (by omega) (by omega) (by omega)
    rw [if_neg negative, if_neg (by omega)]
    omega

structure Faithful (samples played : List Int16) : Prop where
  accurate : List.Forall₂ (fun sample sound => |sound.toInt - clip sample.toInt| ≤ 512) samples played
  ordered : ∀ (i j : Nat) (x y u v : Int16), samples[i]? = some x → samples[j]? = some y → played[i]? = some u →
    played[j]? = some v → x.toInt ≤ y.toInt → u.toInt ≤ v.toInt

theorem talk_back_samples (buffer : PcmBuffer) :
    audioOutSamples (captureFrame buffer) = buffer.samples.map fun sample => ulawToPcm (ulawEncode sample) := by
  have fits := buffer.fits
  rw [samplesPerFrame] at fits
  rw [audioOutSamples, captureFrame, List.take_of_length_le (by rw [List.length_map, maxSamples]; omega), List.map_map]
  rfl

theorem talk_back_faithful (buffer : PcmBuffer) :
    Faithful buffer.samples (audioOutSamples (captureFrame buffer)) ↔
      ∀ sample ∈ buffer.samples, -32635 ≤ sample.toInt ∧ sample.toInt ≤ 32635 := by
  rw [talk_back_samples]
  refine ⟨fun faithful sample member => ?_, fun quiet => ⟨?_, ?_⟩⟩
  · have accurate := List.forall₂_map_right_iff.mp faithful.accurate
    have near := (heard_accurate sample).mp (List.forall₂_same.mp accurate sample member)
    omega
  · apply List.forall₂_map_right_iff.mpr
    apply List.forall₂_same.mpr
    intro sample member
    have bounds := quiet sample member
    exact (heard_accurate sample).mpr (by omega)
  · intro i j x y u v first second firstHeard secondHeard ordered
    rw [List.getElem?_map, first] at firstHeard
    rw [List.getElem?_map, second] at secondHeard
    cases firstHeard
    cases secondHeard
    have xBounds := quiet x (List.mem_of_getElem? first)
    have yBounds := quiet y (List.mem_of_getElem? second)
    exact heard_mono x y (by omega) (by omega) ordered

-- The loudest sample comes out as silence, the one below it near full scale.
theorem talk_back_folds :
    audioOutSamples (captureFrame ⟨[32000, 32767], by decide⟩) = [32124, 0] ∧
      ¬Faithful [32000, 32767] (audioOutSamples (captureFrame ⟨[32000, 32767], by decide⟩)) := by
  have played : audioOutSamples (captureFrame ⟨[32000, 32767], by decide⟩) = [32124, 0] := by decide +kernel
  refine ⟨played, fun faithful => ?_⟩
  rw [played] at faithful
  exact absurd (faithful.ordered 0 1 32000 32767 32124 0 rfl rfl rfl rfl (by decide)) (by decide)

end Intercom.Android
