import Mathlib.Logic.Relation
import Intercom.Rtsp.Wire
import Intercom.Android.Stream
import Intercom.Android.VideoDecoder

set_option autoImplicit false

/- readLoop and dispatchRtpFrame of RtspClient.kt, with MainActivity as the listener, while running stays set. -/
namespace Intercom.Android

open ByteText

inductive RtpEvent where
  | video (offset length timestamp : Nat) (marker : Bool)
  | audio (offset length timestamp : Nat)
deriving DecidableEq, Repr

def videoRtpCh : UInt8 := 0
def audioRtpCh : UInt8 := 2

-- A header extension is only read where the frame holds its four bytes.
def headerLength (buf : Bytes) (frameLen : Nat) (flags : UInt8) : Option Nat :=
  let hdrLen := 12 + (flags &&& 0x0F).toNat * 4
  if (flags >>> 4) &&& 0x01 ≠ 0 ∧ hdrLen + 4 ≤ frameLen then
    match buf[hdrLen + 2]?, buf[hdrLen + 3]? with
    | some hi, some lo => some (hdrLen + 4 + (hi.toNat * 256 + lo.toNat) * 4)
    | _, _ => none
  else some hdrLen

def readTimestamp (buf : Bytes) : Option Nat :=
  match buf[4]?, buf[5]?, buf[6]?, buf[7]? with
  | some a, some b, some c, some d => some (((a.toNat * 256 + b.toNat) * 256 + c.toNat) * 256 + d.toNat)
  | _, _, _, _ => none

-- The outer none is an index out of bounds, the inner one a frame that goes to nobody.
def dispatchRtpFrame (channel : UInt8) (buf : Bytes) (frameLen : Nat) : Option (Option RtpEvent) :=
  match buf[0]?, buf[1]?, readTimestamp buf with
  | some flags, some second, some timestamp =>
      (headerLength buf frameLen flags).map fun hdrLen =>
        if frameLen ≤ hdrLen then none
        else if channel = videoRtpCh then some (.video hdrLen (frameLen - hdrLen) timestamp (second &&& 0x80 != 0))
        else if channel = audioRtpCh then some (.audio hdrLen (frameLen - hdrLen) timestamp)
        else none
  | _, _, _ => none

-- What reaches the decoder and the player: the calls of enqueueNal and the payloads passed to onAudioRtp.
structure Screen where
  decoder : VideoDecoder := {}
  nals : List Bytes := []
  audio : List Bytes := []
deriving DecidableEq, Repr

def onVideoRtp (screen : Screen) (data : Bytes) (offset length : Nat) (marker : Bool) : Option Screen :=
  (feedRtpPayload screen.decoder data offset length marker).map fun fed =>
    { screen with decoder := fed.1, nals := screen.nals ++ fed.2 }

def onAudioRtp (screen : Screen) (data : Bytes) (offset length : Nat) : Screen :=
  { screen with audio := screen.audio ++ [(data.drop offset).take length] }

def deliver (screen : Screen) (buf : Bytes) : Option RtpEvent → Option Screen
  | none => some screen
  | some (.video offset length _ marker) => onVideoRtp screen buf offset length marker
  | some (.audio offset length _) => some (onAudioRtp screen buf offset length)

def maxFrameSize : Nat := 100000
def bufSize : Nat := 65536

structure ReadState where
  buf : Bytes := newArray bufSize
  input : Input
  screen : Screen := {}

inductive Ending where
  | eof
  | ioException
  | indexOutOfBounds
deriving DecidableEq, Repr

-- readFully overwrites the front of buf; what stood behind stays.
def readFrame (pick : Nat → Nat) (state : ReadState) (channel : UInt8) (frameLen : Nat) : ReadState × Option Ending :=
  match readFully pick state.input frameLen with
  | none => (state, some .ioException)
  | some (data, input) =>
      let state := { state with buf := overlay state.buf data, input := input }
      match (dispatchRtpFrame channel state.buf frameLen).bind (deliver state.screen state.buf) with
      | none => (state, some .indexOutOfBounds)
      | some screen => ({ state with screen := screen }, none)

-- readByte throws where the stream ends inside the frame header.
def readInterleaved (pick : Nat → Nat) (state : ReadState) : ReadState × Option Ending :=
  match state.input.bytes with
  | channel :: lenHi :: lenLo :: rest =>
      let frameLen := lenHi.toNat * 256 + lenLo.toNat
      let state := { state with input.bytes := rest }
      if maxFrameSize < frameLen ∨ frameLen < 12 then ({ state with input := skipBytes pick state.input frameLen }, none)
      else if state.buf.length < frameLen then ({ state with input := skipBytes pick state.input frameLen }, none)
      else readFrame pick state channel frameLen
  | _ => ({ state with input.bytes := [] }, some .ioException)

def readTurn (pick : Nat → Nat) (state : ReadState) : ReadState × Option Ending :=
  match state.input.bytes with
  | [] => (state, some .eof)
  | first :: rest =>
      let state := { state with input.bytes := rest }
      if first = 0x24 then readInterleaved pick state
      else if first = 0x52 then ({ state with input := skipRtspMessage state.input first }, none)
      else (state, none)

def readLoopFrom (pick : Nat → Nat) : Nat → ReadState → ReadState × Ending
  | 0, state => (state, .eof)
  | fuel + 1, state =>
      match readTurn pick state with
      | (next, none) => readLoopFrom pick fuel next
      | (next, some ending) => (next, ending)

-- Every turn takes a byte, so the fuel lasts until the stream ends.
def readLoop (pick : Nat → Nat) (bytes : Bytes) (screen : Screen) : ReadState × Ending :=
  readLoopFrom pick (bytes.length + 1) { input := ⟨bytes, 0⟩, screen := screen }

theorem read_some_shrinks (pick : Nat → Nat) (input rest : Input) (len : Nat) (part : Bytes)
    (read : readSome pick input len = some (part, rest)) : rest.bytes.length ≤ input.bytes.length := by
  unfold readSome at read
  split at read
  · cases read
  · cases read
    simp

theorem read_fully_loop_shrinks (pick : Nat → Nat) (fuel : Nat) (input rest : Input) (remaining : Nat) (got whole : Bytes)
    (read : readFullyLoop pick fuel input remaining got = some (whole, rest)) :
    rest.bytes.length ≤ input.bytes.length := by
  induction fuel generalizing input remaining got with
  | zero =>
      cases read
      exact Nat.le_refl _
  | succ fuel ih =>
      by_cases done : remaining = 0
      · rw [readFullyLoop, if_pos done] at read
        cases read
        exact Nat.le_refl _
      · rw [readFullyLoop, if_neg done] at read
        cases taken : readSome pick input remaining with
        | none => simp [taken] at read
        | some result =>
            rw [taken] at read
            exact Nat.le_trans (ih _ _ _ read) (read_some_shrinks pick input result.2 remaining result.1 taken)

theorem skip_bytes_loop_shrinks (pick : Nat → Nat) (fuel : Nat) (input : Input) (remaining : Nat) :
    (skipBytesLoop pick fuel input remaining).bytes.length ≤ input.bytes.length := by
  induction fuel generalizing input remaining with
  | zero => exact Nat.le_refl _
  | succ fuel ih =>
      by_cases done : remaining = 0
      · rw [skipBytesLoop, if_pos done]
      · rw [skipBytesLoop, if_neg done]
        cases taken : readSome pick input (min remaining 4096) with
        | none => exact Nat.le_refl _
        | some result => exact Nat.le_trans (ih _ _) (read_some_shrinks pick input result.2 _ result.1 taken)

theorem header_loop_shrinks (prev : UInt8) (crlfCount : Nat) (bytes : Bytes) (read : Bytes × Bytes)
    (found : headerLoop prev crlfCount bytes = some read) : read.2.length ≤ bytes.length := by
  induction bytes generalizing prev crlfCount read with
  | nil => cases found
  | cons byte rest ih =>
      simp only [headerLoop] at found
      split at found
      · split at found
        · cases found
          simp
        · obtain ⟨later, foundLater, rfl⟩ := Option.map_eq_some_iff.mp found
          exact Nat.le_succ_of_le (ih _ _ later foundLater)
      · obtain ⟨later, foundLater, rfl⟩ := Option.map_eq_some_iff.mp found
        exact Nat.le_succ_of_le (ih _ _ later foundLater)

theorem read_frame_shrinks (pick : Nat → Nat) (state : ReadState) (channel : UInt8) (frameLen : Nat) :
    (readFrame pick state channel frameLen).1.input.bytes.length ≤ state.input.bytes.length := by
  unfold readFrame
  split
  · exact Nat.le_refl _
  · rename_i data input read
    have shorter := read_fully_loop_shrinks pick _ _ _ _ _ _ read
    dsimp only
    split <;> exact shorter

theorem read_interleaved_shrinks (pick : Nat → Nat) (state : ReadState) :
    (readInterleaved pick state).1.input.bytes.length ≤ state.input.bytes.length := by
  unfold readInterleaved
  split
  · rename_i channel lenHi lenLo rest bytes
    rw [bytes]
    dsimp only
    split
    · exact Nat.le_trans (skip_bytes_loop_shrinks pick _ _ _) (by simp; omega)
    · split
      · exact Nat.le_trans (skip_bytes_loop_shrinks pick _ _ _) (by simp; omega)
      · exact Nat.le_trans (read_frame_shrinks pick _ _ _) (by simp; omega)
  · simp

theorem read_turn_shrinks (pick : Nat → Nat) (state next : ReadState) (turned : readTurn pick state = (next, none)) :
    next.input.bytes.length < state.input.bytes.length := by
  unfold readTurn at turned
  split at turned
  · cases turned
  · rename_i first rest bytes
    rw [bytes, List.length_cons]
    dsimp only at turned
    split at turned
    · have shorter := read_interleaved_shrinks pick { state with input.bytes := rest }
      rw [turned] at shorter
      exact Nat.lt_succ_of_le shorter
    · split at turned
      · cases turned
        unfold skipRtspMessage
        split
        · simp
        · rename_i read found
          exact Nat.lt_succ_of_le (header_loop_shrinks _ _ _ read found)
      · cases turned
        simp

def Turns (pick : Nat → Nat) : ReadState → ReadState → Prop :=
  Relation.ReflTransGen fun state next => readTurn pick state = (next, none)

theorem read_loop_turns (pick : Nat → Nat) (state last : ReadState) (turns : Turns pick state last)
    (ended : last.input.bytes = []) (fuel : Nat) (enough : state.input.bytes.length < fuel) :
    readLoopFrom pick fuel state = (last, .eof) := by
  induction turns using Relation.ReflTransGen.head_induction_on generalizing fuel with
  | refl =>
      cases fuel with
      | zero => omega
      | succ fuel => simp [readLoopFrom, readTurn, ended]
  | head turned _ ih =>
      cases fuel with
      | zero => omega
      | succ fuel =>
          have shorter := read_turn_shrinks pick _ _ turned
          rw [readLoopFrom, turned]
          exact ih fuel (by omega)

end Intercom.Android
