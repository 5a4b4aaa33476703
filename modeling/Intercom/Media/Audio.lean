import Intercom.Lib.Bytes

set_option autoImplicit false

/- audio_in_win.c and the state of audio_out_win.c. The capture thread and the event loop meet only inside
   the critical section, so each ring operation is one step. -/
namespace Intercom

open ByteText

def ringSize : Nat := 8000
def audioSamples : Nat := 160

structure AudioIn where
  opened : Bool := false
  ring : Nat → Int := fun _ => 0
  wr : Nat := 0
  rd : Nat := 0
  dropCount : UInt32 := 0

def gain (sample : Int) : Int :=
  let amplified := sample * 10
  if 32767 < amplified then 32767 else if amplified < -32768 then -32768 else amplified

def enqueueSample (ain : AudioIn) (sample : Int) : AudioIn :=
  let next := (ain.wr + 1) % ringSize
  let ain := if next = ain.rd then { ain with rd := (ain.rd + 1) % ringSize, dropCount := ain.dropCount + 1 } else ain
  { ain with ring := fun index => if index = ain.wr then gain sample else ain.ring index, wr := next }

def enqueueToRing (ain : AudioIn) (samples : List Int) : AudioIn := samples.foldl enqueueSample ain

def audioInOpen (deviceReady : Bool) (ain : AudioIn) : AudioIn × Bool :=
  if ain.opened then (ain, true) else ({ opened := deviceReady }, deviceReady)

def audioInRead : Nat → AudioIn → AudioIn × List Int
  | 0, ain => (ain, [])
  | count + 1, ain =>
      if ain.rd = ain.wr then (ain, [])
      else
        let rest := audioInRead count { ain with rd := (ain.rd + 1) % ringSize }
        (rest.1, ain.ring ain.rd :: rest.2)

def audioInAvailable (ain : AudioIn) : Nat := (ain.wr + ringSize - ain.rd) % ringSize

-- g_aout: only whether the device is open is ever asked by the rest of the program.
structure AudioOut where
  opened : Bool := false
deriving DecidableEq, Repr

def audioOutOpen (deviceReady : Bool) (aout : AudioOut) : AudioOut × Bool :=
  if aout.opened then (aout, true) else ({ opened := deviceReady }, deviceReady)

def audioOutClose (_aout : AudioOut) : AudioOut := {}

@[simp] theorem enqueue_to_ring_opened (samples : List Int) (ain : AudioIn) :
    (enqueueToRing ain samples).opened = ain.opened := by
  induction samples generalizing ain with
  | nil => rfl
  | cons sample rest ih =>
      rw [enqueueToRing, List.foldl_cons]
      refine (ih (enqueueSample ain sample)).trans ?_
      unfold enqueueSample
      dsimp only
      split <;> rfl

@[simp] theorem audio_in_read_opened (count : Nat) (ain : AudioIn) : (audioInRead count ain).1.opened = ain.opened := by
  induction count generalizing ain with
  | zero => rfl
  | succ count ih =>
      by_cases empty : ain.rd = ain.wr
      · simp [audioInRead, empty]
      · simpa [audioInRead, empty] using ih _

theorem audio_in_open_opened (ready : Bool) (ain : AudioIn) :
    (audioInOpen ready ain).1.opened = (ain.opened || ready) ∧ (audioInOpen ready ain).2 = (ain.opened || ready) := by
  unfold audioInOpen
  cases live : ain.opened <;> simp [live]

theorem audio_out_open_opened (ready : Bool) (aout : AudioOut) :
    (audioOutOpen ready aout).1.opened = (aout.opened || ready) ∧ (audioOutOpen ready aout).2 = (aout.opened || ready) := by
  unfold audioOutOpen
  cases live : aout.opened <;> simp [live]

@[simp] theorem audio_out_close_opened (aout : AudioOut) : (audioOutClose aout).opened = false := rfl

end Intercom
