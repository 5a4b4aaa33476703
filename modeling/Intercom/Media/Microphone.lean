import Intercom.Lib.Circular
import Intercom.Lib.Runs
import Intercom.Media.Audio

set_option autoImplicit false

/- The ring of audio_in_win.c as a bounded queue of amplified samples. -/
namespace Intercom

def ringContents (ain : AudioIn) : List Int := Circular.contents ringSize ain.ring ain.rd ain.wr

def ringLimit : Nat := ringSize - 1

theorem ring_limit_value : ringLimit = 7999 := by decide

structure Indexed (ain : AudioIn) : Prop where
  readable : ain.rd < ringSize
  writable : ain.wr < ringSize

theorem ring_next (index : Nat) : (index + 1) % ringSize < ringSize := Nat.mod_lt _ (by decide)

theorem ring_contents_bound (ain : AudioIn) (indexed : Indexed ain) : (ringContents ain).length ≤ ringLimit := by
  rw [ringContents, Circular.contents_length]
  exact Circular.occupied_bound ringSize ain.rd ain.wr indexed.readable indexed.writable

theorem available_contents (ain : AudioIn) : audioInAvailable ain = (ringContents ain).length := by
  rw [ringContents, Circular.contents_length]
  rfl

theorem enqueue_sample_indexed (ain : AudioIn) (sample : Int) (indexed : Indexed ain) : Indexed (enqueueSample ain sample) := by
  by_cases full : (ain.wr + 1) % ringSize = ain.rd
  · simp only [enqueueSample, if_pos full]
    exact ⟨ring_next ain.rd, ring_next ain.wr⟩
  · simp only [enqueueSample, if_neg full]
    exact ⟨indexed.readable, ring_next ain.wr⟩

theorem enqueue_sample_room (ain : AudioIn) (sample : Int) (indexed : Indexed ain) (room : (ain.wr + 1) % ringSize ≠ ain.rd) :
    ringContents (enqueueSample ain sample) = ringContents ain ++ [gain sample] := by
  simp only [enqueueSample, if_neg room]
  exact Circular.contents_write ringSize ain.rd ain.wr indexed.readable indexed.writable ain.ring (gain sample) room

-- The writer moves the reader on by one cell, which makes the room it writes to.
theorem enqueue_sample_full (ain : AudioIn) (sample : Int) (indexed : Indexed ain) (full : (ain.wr + 1) % ringSize = ain.rd) :
    ringContents (enqueueSample ain sample) = (ringContents ain).tail ++ [gain sample] := by
  have filled : ain.rd ≠ ain.wr := by
    intro empty
    have none := (Circular.occupied_empty ringSize ain.rd ain.wr indexed.readable indexed.writable).mpr empty
    have most := (Circular.occupied_full ringSize ain.rd ain.wr indexed.readable indexed.writable).mp full
    rw [none] at most
    exact absurd most (by decide)
  have front := Circular.contents_read ringSize ain.rd ain.wr indexed.readable indexed.writable ain.ring filled
  have room : (ain.wr + 1) % ringSize ≠ (ain.rd + 1) % ringSize := by
    rw [full, Circular.next_index ringSize ain.rd indexed.readable]
    split
    · intro zero
      have size : ringSize = 8000 := rfl
      omega
    · omega
  have wrote := Circular.contents_write ringSize ((ain.rd + 1) % ringSize) ain.wr (ring_next ain.rd) indexed.writable ain.ring
    (gain sample) room
  have tail : (ringContents ain).tail = Circular.contents ringSize ain.ring ((ain.rd + 1) % ringSize) ain.wr :=
    congrArg List.tail front
  rw [tail, ← wrote]
  simp only [ringContents, enqueueSample, if_pos full]

theorem enqueue_sample_contents (ain : AudioIn) (sample : Int) (indexed : Indexed ain) :
    ringContents (enqueueSample ain sample) = Circular.newest ringLimit (ringContents ain ++ [gain sample]) ∧
      (enqueueSample ain sample).dropCount = ain.dropCount + UInt32.ofNat ((ringContents ain).length + 1 - ringLimit) := by
  have most := Circular.occupied_full ringSize ain.rd ain.wr indexed.readable indexed.writable
  have size : (ringContents ain).length = Circular.occupied ringSize ain.rd ain.wr := Circular.contents_length ..
  have bound := ring_contents_bound ain indexed
  by_cases full : (ain.wr + 1) % ringSize = ain.rd
  · have count : (ringContents ain).length = ringLimit := size.trans (most.mp full)
    have one : (ringContents ain ++ [gain sample]).length - ringLimit = 1 := by
      rw [List.length_append, count, List.length_singleton]
      omega
    refine ⟨?_, ?_⟩
    · have some : 1 ≤ (ringContents ain).length := by
        rw [count]
        decide
      rw [enqueue_sample_full ain sample indexed full, Circular.newest, one, List.drop_append_of_le_length some, List.drop_one]
    · rw [count, Nat.add_sub_cancel_left]
      simp only [enqueueSample, if_pos full]
      rfl
  · have room : (ringContents ain).length ≠ ringLimit := fun same => full (most.mpr (size.symm.trans same))
    have none : (ringContents ain).length + 1 - ringLimit = 0 := by omega
    refine ⟨?_, ?_⟩
    · rw [enqueue_sample_room ain sample indexed full, Circular.newest_whole]
      rw [List.length_append, List.length_singleton]
      omega
    · rw [none]
      simp only [enqueueSample, if_neg full]
      exact (UInt32.add_zero _).symm

-- Induction on the samples of one capture buffer, which may be longer than the ring.
theorem enqueue_contents (samples : List Int) (ain : AudioIn) (indexed : Indexed ain) :
    Indexed (enqueueToRing ain samples) ∧
      ringContents (enqueueToRing ain samples) = Circular.newest ringLimit (ringContents ain ++ samples.map gain) ∧
      (enqueueToRing ain samples).dropCount =
        ain.dropCount + UInt32.ofNat ((ringContents ain).length + samples.length - ringLimit) := by
  have bound := ring_contents_bound ain indexed
  induction samples generalizing ain with
  | nil =>
      have none : (ringContents ain).length + 0 - ringLimit = 0 := by omega
      refine ⟨indexed, ?_, ?_⟩
      · rw [List.map_nil, List.append_nil, Circular.newest_whole ringLimit _ bound]
        rfl
      · rw [List.length_nil, none]
        exact (UInt32.add_zero _).symm
  | cons sample rest ih =>
      have one := enqueue_sample_indexed ain sample indexed
      obtain ⟨stored, dropped⟩ := enqueue_sample_contents ain sample indexed
      obtain ⟨kept, contents, count⟩ := ih (enqueueSample ain sample) one (ring_contents_bound _ one)
      have size : (ringContents (enqueueSample ain sample)).length = min ((ringContents ain).length + 1) ringLimit := by
        rw [stored, Circular.newest_length, List.length_append, List.length_singleton]
      refine ⟨kept, ?_, ?_⟩
      · have split : ringContents ain ++ (sample :: rest).map gain = ringContents ain ++ [gain sample] ++ rest.map gain := by
          simp
        rw [split, ← Circular.newest_append, ← stored]
        exact contents
      · have total : (ringContents ain).length + (sample :: rest).length - ringLimit =
            (ringContents ain).length + 1 - ringLimit +
              ((ringContents (enqueueSample ain sample)).length + rest.length - ringLimit) := by
          rw [size, List.length_cons]
          omega
        rw [total, UInt32.ofNat_add, ← UInt32.add_assoc, ← dropped]
        exact count

-- Induction on the count asked for: each round takes the front of the queue.
theorem read_contents (count : Nat) (ain : AudioIn) (indexed : Indexed ain) :
    Indexed (audioInRead count ain).1 ∧ (audioInRead count ain).2 = (ringContents ain).take count ∧
      ringContents (audioInRead count ain).1 = (ringContents ain).drop count ∧
      (audioInRead count ain).1.dropCount = ain.dropCount := by
  induction count generalizing ain with
  | zero => exact ⟨indexed, rfl, rfl, rfl⟩
  | succ count ih =>
      by_cases empty : ain.rd = ain.wr
      · have none : ringContents ain = [] :=
          Circular.contents_empty ringSize ain.rd ain.wr indexed.readable indexed.writable ain.ring empty
        rw [audioInRead, if_pos empty, none]
        exact ⟨indexed, rfl, rfl, rfl⟩
      · have front : ringContents ain = ain.ring ain.rd :: ringContents { ain with rd := (ain.rd + 1) % ringSize } :=
          Circular.contents_read ringSize ain.rd ain.wr indexed.readable indexed.writable ain.ring empty
        obtain ⟨kept, got, left, dropped⟩ := ih { ain with rd := (ain.rd + 1) % ringSize } ⟨ring_next ain.rd, indexed.writable⟩
        rw [audioInRead, if_neg empty, front]
        exact ⟨kept, congrArg (ain.ring ain.rd :: ·) got, left, dropped⟩

inductive MicOp where
  | enqueue (samples : List Int)
  | read (count : Nat)
deriving DecidableEq, Repr

-- What a read hands out is the output of the step.
def micStep (ain : AudioIn) : MicOp → AudioIn × List (List Int)
  | .enqueue samples => (enqueueToRing ain samples, [])
  | .read count => ((audioInRead count ain).1, [(audioInRead count ain).2])

-- The queue that the ring stands for, and how many samples it has had to let go.
structure BoundedFifo where
  queue : List Int := []
  discarded : Nat := 0
deriving DecidableEq, Repr

def clampedGain (sample : Int) : Int := max (-32768) (min 32767 (10 * sample))

def fifoStep (fifo : BoundedFifo) : MicOp → BoundedFifo × List (List Int)
  | .enqueue samples =>
      let whole := fifo.queue ++ samples.map clampedGain
      ({ queue := whole.drop (whole.length - 7999), discarded := fifo.discarded + (whole.length - 7999) }, [])
  | .read count => ({ fifo with queue := fifo.queue.drop count }, [fifo.queue.take (min count fifo.queue.length)])

theorem gain_clamped (sample : Int) : gain sample = clampedGain sample := by
  simp only [gain, clampedGain]
  split
  · omega
  · split <;> omega

structure RingHolds (ain : AudioIn) (fifo : BoundedFifo) : Prop extends Indexed ain where
  queued : ringContents ain = fifo.queue
  dropped : ain.dropCount = UInt32.ofNat fifo.discarded

theorem mic_step_refines (ain : AudioIn) (fifo : BoundedFifo) (op : MicOp) (holds : RingHolds ain fifo) :
    RingHolds (micStep ain op).1 (fifoStep fifo op).1 ∧ (micStep ain op).2 = (fifoStep fifo op).2 := by
  cases op with
  | enqueue samples =>
      obtain ⟨indexed, contents, count⟩ := enqueue_contents samples ain holds.toIndexed
      have amplified : samples.map gain = samples.map clampedGain := List.map_congr_left fun sample _ => gain_clamped sample
      rw [amplified, holds.queued, Circular.newest, ring_limit_value] at contents
      rw [holds.queued, holds.dropped, ← UInt32.ofNat_add, ring_limit_value] at count
      refine ⟨⟨indexed, ?_, ?_⟩, rfl⟩
      · rw [micStep, fifoStep, contents]
      · simp only [micStep, fifoStep, List.length_append, List.length_map]
        exact count
  | read count =>
      obtain ⟨indexed, got, left, dropped⟩ := read_contents count ain holds.toIndexed
      refine ⟨⟨indexed, ?_, ?_⟩, ?_⟩
      · exact left.trans (congrArg (List.drop count) holds.queued)
      · exact dropped.trans holds.dropped
      · rw [micStep, fifoStep, got, holds.queued, List.take_eq_take_min]

theorem empty_ring_holds (opened : Bool) : RingHolds { opened := opened } {} where
  readable := Nat.mod_lt 0 (by decide)
  writable := Nat.mod_lt 0 (by decide)
  queued := Circular.contents_empty ringSize 0 0 (by decide) (by decide) _ rfl
  dropped := rfl

def micRun (opened : Bool) (ops : List MicOp) : AudioIn × List (List Int) :=
  Runs.run (Runs.record micStep) ({ opened := opened }, []) ops

def fifoRun (ops : List MicOp) : BoundedFifo × List (List Int) := Runs.run (Runs.record fifoStep) ({}, []) ops

theorem mic_ring_refines_fifo (opened : Bool) (ops : List MicOp) :
    (micRun opened ops).2 = (fifoRun ops).2 ∧
      ringContents (micRun opened ops).1 = (fifoRun ops).1.queue ∧
      audioInAvailable (micRun opened ops).1 = (fifoRun ops).1.queue.length ∧
      (micRun opened ops).1.rd < 8000 ∧ (micRun opened ops).1.wr < 8000 ∧
      (micRun opened ops).1.dropCount.toNat = (fifoRun ops).1.discarded % 2 ^ 32 := by
  obtain ⟨holds, same⟩ := Runs.record_simulates micStep fifoStep RingHolds mic_step_refines { opened := opened } {} ops
    (empty_ring_holds opened)
  have dropped := congrArg UInt32.toNat holds.dropped
  rw [UInt32.toNat_ofNat'] at dropped
  exact ⟨same, holds.queued, (available_contents _).trans (congrArg List.length holds.queued), holds.readable, holds.writable,
    dropped⟩

end Intercom
