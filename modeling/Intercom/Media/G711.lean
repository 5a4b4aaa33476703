import Intercom.Android.AudioCapture

set_option autoImplicit false

/- The encoder of libre (rem_g711.h and its table in rem/g711/g711.c) that the device uses for its microphone. It sorts
   by the same cells as the phone's encoder, and it clips. -/
namespace Intercom

open Android

-- The entries of g711_l2u, from 0xfe down to 0x80, stand in runs; every sixteen steps the runs double.
def runLength (step : Nat) : Nat := if step = 126 then 145 else 2 ^ ((step + 1) / 16)

def g711L2u : List UInt8 := (List.range 127).flatMap fun step => List.replicate (runLength step) (UInt8.ofNat (0xfe - step))

def g711Pcm2ulaw (lx : Int16) : UInt8 :=
  let mask : UInt8 := if lx.toInt < 0 then 0x7f else 0xff
  let l := lx.toInt.natAbs
  if l < 4 then 0xff &&& mask else g711L2u.getD ((l - 4) >>> 3) 0 &&& mask

theorem runs_entry {Value : Type} (lengths : Nat → Nat) (values : Nat → Value) (total step index : Nat) (inside : step < total)
    (above : ((List.range step).map lengths).sum ≤ index) (below : index < ((List.range step).map lengths).sum + lengths step) :
    ((List.range total).flatMap fun step => List.replicate (lengths step) (values step))[index]? = some (values step) := by
  obtain ⟨more, rfl⟩ : ∃ more, total = step + (1 + more) := ⟨total - step - 1, by omega⟩
  have front : ((List.range step).flatMap fun step => List.replicate (lengths step) (values step)).length =
      ((List.range step).map lengths).sum := by
    simp [List.length_flatMap]
  rw [List.range_add, List.flatMap_append, List.getElem?_append_right (by rw [front]; exact above), front, Nat.add_comm 1 more,
    List.range_succ_eq_map, List.map_cons, List.flatMap_cons, List.getElem?_append_left (by simp; omega),
    List.getElem?_replicate, if_pos (by simp; omega)]
  rfl

theorem runs_before : ∀ step : Fin 127,
    ((List.range step).map runLength).sum + 17 = (16 + (step.val + 1) % 16) * 2 ^ ((step.val + 1) / 16) := by
  decide +kernel

-- The last run takes in what lies above the top cell.
theorem table_entry (exponent mantissa index : Nat) (segments : exponent ≤ 7) (steps : mantissa < 16)
    (positive : 1 ≤ 16 * exponent + mantissa) (above : (16 + mantissa) * 2 ^ exponent ≤ index + 17)
    (below : index + 17 < (17 + mantissa) * 2 ^ exponent ∨ 16 * exponent + mantissa = 127 ∧ index < 4096) :
    g711L2u[index]? = some (UInt8.ofNat (0xff - (16 * exponent + mantissa))) := by
  have start := runs_before ⟨16 * exponent + mantissa - 1, by omega⟩
  have step : 16 * exponent + mantissa - 1 + 1 = 16 * exponent + mantissa := by omega
  have upper : (16 * exponent + mantissa) / 16 = exponent := by omega
  have lower : (16 * exponent + mantissa) % 16 = mantissa := by omega
  simp only [step, upper, lower] at start
  have entry := runs_entry runLength (fun step => UInt8.ofNat (0xfe - step)) 127 (16 * exponent + mantissa - 1) index
    (by omega) (by omega) ?_
  · have value : 0xfe - (16 * exponent + mantissa - 1) = 0xff - (16 * exponent + mantissa) := by omega
    rw [value] at entry
    exact entry
  · rw [runLength, step, upper]
    rcases below with inside | ⟨top, bounded⟩
    · rw [Nat.add_mul] at start above inside
      split
      case isTrue last =>
        obtain rfl : exponent = 7 := by omega
        omega
      case isFalse => omega
    · rw [if_pos (by omega)]
      obtain rfl : exponent = 7 := by omega
      omega

theorem ulaw_byte_table : ∀ (negative : Bool) (exponent : Fin 8) (mantissa : Fin 16),
    ulawByte (if negative then 0x80 else 0) exponent mantissa =
      UInt8.ofNat (0xff - (16 * exponent.val + mantissa.val)) &&& (if negative then 0x7f else 0xff) := by
  decide +kernel

def clipped (sample : Int16) : Int16 := Int16.ofInt (clip sample.toInt)

theorem int16_bounds (sample : Int16) : -32768 ≤ sample.toInt ∧ sample.toInt ≤ 32767 := by
  have low := Int16.minValue_le_toInt sample
  have high := Int16.toInt_le sample
  have least : Int16.minValue.toInt = -32768 := by decide
  have most : Int16.maxValue.toInt = 32767 := by decide
  omega

theorem clipped_value (sample : Int16) : (clipped sample).toInt = clip sample.toInt := by
  apply Int16.toInt_ofInt_of_le
  · rw [clip]
    omega
  · rw [clip]
    omega

theorem clipped_magnitude (sample : Int16) : (clipped sample).toInt.natAbs = min sample.toInt.natAbs 32635 := by
  rw [clipped_value, clip]
  omega

theorem clipped_sign (sample : Int16) : (clipped sample).toInt < 0 ↔ sample.toInt < 0 := by
  rw [clipped_value, clip]
  omega

theorem encode_clipped (sample : Int16) (exponent mantissa : Nat)
    (segment : Segment (min sample.toInt.natAbs 32635 + 132) exponent)
    (cell : mantissa = (min sample.toInt.natAbs 32635 + 132) / 2 ^ (exponent + 3) - 16) :
    ulawEncode (clipped sample) = ulawByte (if sample.toInt < 0 then 0x80 else 0) exponent mantissa := by
  obtain ⟨sixteen, thirty⟩ := segment_quotient _ _ segment
  have kept : (min sample.toInt.natAbs 32635 + 132) >>> (exponent + 3) &&& 0x0F = mantissa := by
    rw [Nat.shiftRight_eq_div_pow, Nat.and_two_pow_sub_one_eq_mod _ 4]
    omega
  have quiet : ¬ 0x7FFF < min sample.toInt.natAbs 32635 := by omega
  simp only [ulawEncode, clipped_magnitude, clipped_sign, if_neg quiet, segment.found, kept]

theorem table_cell (sample : Int16) (exponent mantissa : Nat) (loud : 4 ≤ sample.toInt.natAbs)
    (segment : Segment (min sample.toInt.natAbs 32635 + 132) exponent)
    (cell : mantissa = (min sample.toInt.natAbs 32635 + 132) / 2 ^ (exponent + 3) - 16) :
    g711L2u[(sample.toInt.natAbs - 4) >>> 3]? = some (UInt8.ofNat (0xff - (16 * exponent + mantissa))) := by
  obtain ⟨least, most⟩ := int16_bounds sample
  obtain ⟨sixteen, thirty⟩ := segment_quotient _ _ segment
  obtain ⟨_, bounded, above, below⟩ := segment
  rw [Nat.shiftRight_eq_div_pow]
  apply table_entry exponent mantissa _ bounded (by omega)
  · interval_cases exponent <;> omega
  · interval_cases exponent <;> omega
  · interval_cases exponent <;> omega

-- The table and the search for the segment find one cell; above the top cell the table stays there.
theorem pcm2ulaw_clips (sample : Int16) : g711Pcm2ulaw sample = ulawEncode (clipped sample) := by
  obtain ⟨exponent, segment⟩ := segment_of (min sample.toInt.natAbs 32635 + 132) (by omega) (by omega)
  obtain ⟨sixteen, thirty⟩ := segment_quotient _ _ segment
  generalize cell : (min sample.toInt.natAbs 32635 + 132) / 2 ^ (exponent + 3) - 16 = mantissa
  have encoded := encode_clipped sample exponent mantissa segment cell.symm
  have byte := ulaw_byte_table (decide (sample.toInt < 0)) ⟨exponent, Nat.lt_succ_of_le segment.bounded⟩
    ⟨mantissa, by omega⟩
  simp only [decide_eq_true_eq] at byte
  rw [encoded, byte, g711Pcm2ulaw]
  by_cases small : sample.toInt.natAbs < 4
  · obtain ⟨_, bounded, above, below⟩ := segment
    have bottom : exponent = 0 ∧ mantissa = 0 := by
      interval_cases exponent <;> omega
    simp [small, bottom.1, bottom.2]
  · have entry := table_cell sample exponent mantissa (by omega) segment cell.symm
    simp [small, List.getD_eq_getElem?_getD, entry]

end Intercom
