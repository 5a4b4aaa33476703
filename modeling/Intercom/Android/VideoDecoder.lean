import Mathlib.Data.FinEnum
import Intercom.Media.H264

set_option autoImplicit false

/- The RTP side of VideoDecoder.kt: single NAL units, STAP-A and FU-A. A result is the decoder afterwards and the
   NAL units handed to enqueueNal; none stands for an index out of bounds. -/
namespace Intercom.Android

open ByteText

def newArray (size : Nat) : Bytes := List.replicate size 0

-- System.arraycopy, with the destination as it is afterwards.
def arraycopy (src : Bytes) (srcPos : Nat) (dest : Bytes) (destPos len : Nat) : Option Bytes :=
  if srcPos + len ≤ src.length ∧ destPos + len ≤ dest.length then
    some (dest.take destPos ++ (src.drop srcPos).take len ++ dest.drop (destPos + len))
  else none

structure VideoDecoder where
  fuBuffer : Option Bytes := none
  fuOffset : Nat := 0
deriving DecidableEq, Repr

def fuCapacity : Nat := 65536

-- Start of a fragmented NAL unit: the header is put together from the NRI bits and the type.
def fuStart (data : Bytes) (offset length : Nat) (header : UInt8) : Option VideoDecoder :=
  (arraycopy data (offset + 2) ((newArray fuCapacity).set 0 header) 1 (length - 2)).map fun buffer =>
    { fuBuffer := some buffer, fuOffset := 1 + (length - 2) }

-- A fragment that does not fit is passed over; its end bit still counts.
def fuAppend (dec : VideoDecoder) (buffer data : Bytes) (offset payloadLen : Nat) : Option VideoDecoder :=
  if dec.fuOffset + payloadLen ≤ buffer.length then
    (arraycopy data (offset + 2) buffer dec.fuOffset payloadLen).map fun buffer =>
      { fuBuffer := some buffer, fuOffset := dec.fuOffset + payloadLen }
  else some dec

def fuFinish (dec : VideoDecoder) : Option (VideoDecoder × List Bytes) :=
  match dec.fuBuffer with
  | none => none
  | some buffer => (arraycopy buffer 0 (newArray dec.fuOffset) 0 dec.fuOffset).map fun nal => ({}, [nal])

def fuContinue (dec : VideoDecoder) (data : Bytes) (offset length : Nat) (finish : Bool) :
    Option (VideoDecoder × List Bytes) :=
  match dec.fuBuffer with
  | none => some (dec, [])
  | some buffer =>
      match fuAppend dec buffer data offset (length - 2) with
      | none => none
      | some grown => if finish then fuFinish grown else some (grown, [])

def handleFuA (dec : VideoDecoder) (data : Bytes) (offset length : Nat) (marker : Bool) :
    Option (VideoDecoder × List Bytes) :=
  if length < 2 then some (dec, [])
  else
    match data[offset]?, data[offset + 1]? with
    | some fuIndicator, some fuHeader =>
        let startBit := fuHeader &&& 0x80 != 0
        let endBit := fuHeader &&& 0x40 != 0
        if startBit then
          (fuStart data offset length ((fuIndicator &&& 0x60) ||| (fuHeader &&& 0x1F))).map fun started => (started, [])
        else fuContinue dec data offset length (endBit || marker)
    | _, _ => none

def stapLoop (data : Bytes) (stop : Nat) : Nat → Nat → Option (List Bytes)
  | 0, _ => some []
  | fuel + 1, pos =>
      if pos + 2 ≤ stop then
        match data[pos]?, data[pos + 1]? with
        | some hi, some lo =>
            let nalSize := hi.toNat * 256 + lo.toNat
            if nalSize = 0 ∨ stop < pos + 2 + nalSize then some []
            else
              match arraycopy data (pos + 2) (newArray nalSize) 0 nalSize with
              | none => none
              | some nal => (stapLoop data stop fuel (pos + 2 + nalSize)).map fun later => nal :: later
        | _, _ => none
      else some []

-- Every turn moves the position by at least three bytes.
def handleStapA (dec : VideoDecoder) (data : Bytes) (offset length : Nat) : Option (VideoDecoder × List Bytes) :=
  (stapLoop data (offset + length) length (offset + 1)).map fun nals => (dec, nals)

def feedRtpPayload (dec : VideoDecoder) (data : Bytes) (offset length : Nat) (marker : Bool) :
    Option (VideoDecoder × List Bytes) :=
  if length < 1 then some (dec, [])
  else
    match data[offset]? with
    | none => none
    | some nalHeader =>
        let nalType := nalHeader &&& 0x1F
        if nalType = 28 then handleFuA dec data offset length marker
        else if nalType = 24 then handleStapA dec data offset length
        else (arraycopy data offset (newArray length) 0 length).map fun nal => (dec, [nal])

section Position

-- The payload lies somewhere inside the read buffer.
variable (before payload after : Bytes)

theorem get_inside (index : Nat) (inside : index < payload.length) :
    (before ++ payload ++ after)[before.length + index]? = payload[index]? := by
  rw [List.append_assoc, List.getElem?_append_right (by omega), Nat.add_sub_cancel_left,
    List.getElem?_append_left inside]

theorem arraycopy_inside (dest : Bytes) (index pos len : Nat) (inside : index + len ≤ payload.length) :
    arraycopy (before ++ payload ++ after) (before.length + index) dest pos len = arraycopy payload index dest pos len := by
  have source : before.length + index + len ≤ (before ++ payload ++ after).length := by
    simp only [List.length_append]
    omega
  have same : ((before ++ payload ++ after).drop (before.length + index)).take len = (payload.drop index).take len := by
    rw [List.append_assoc, List.drop_append, List.drop_of_length_le (by omega), List.nil_append, Nat.add_sub_cancel_left,
      List.drop_append_of_le_length (by omega), List.take_append_of_le_length (by rw [List.length_drop]; omega)]
  simp only [arraycopy, source, inside, same, true_and]

theorem handle_fu_a_inside (dec : VideoDecoder) (marker : Bool) :
    handleFuA dec (before ++ payload ++ after) before.length payload.length marker =
      handleFuA dec payload 0 payload.length marker := by
  by_cases short : payload.length < 2
  · simp only [handleFuA, if_pos short]
  · have first := get_inside before payload after 0 (by omega)
    have second := get_inside before payload after 1 (by omega)
    have copied := fun dest pos => arraycopy_inside before payload after dest 2 pos (payload.length - 2) (by omega)
    simp only [Nat.add_zero] at first
    simp only [handleFuA, if_neg short, first, second, fuStart, fuContinue, fuAppend, copied, Nat.zero_add]

theorem stap_loop_inside (fuel index : Nat) :
    stapLoop (before ++ payload ++ after) (before.length + payload.length) fuel (before.length + index) =
      stapLoop payload payload.length fuel index := by
  induction fuel generalizing index with
  | zero => rfl
  | succ fuel ih =>
      by_cases room : index + 2 ≤ payload.length
      · have roomInside : before.length + index + 2 ≤ before.length + payload.length := by omega
        have first := get_inside before payload after index (by omega)
        have second := get_inside before payload after (index + 1) (by omega)
        rw [← Nat.add_assoc] at second
        rw [stapLoop, stapLoop, if_pos room, if_pos roomInside, first, second]
        cases high : payload[index]? with
        | none => rfl
        | some hi =>
            cases low : payload[index + 1]? with
            | none => rfl
            | some lo =>
                simp only
                generalize hi.toNat * 256 + lo.toNat = nalSize
                have later := ih (index + 2 + nalSize)
                by_cases refused : nalSize = 0 ∨ payload.length < index + 2 + nalSize
                · have also : nalSize = 0 ∨ before.length + payload.length < before.length + index + 2 + nalSize := by omega
                  rw [if_pos refused, if_pos also]
                · have also : ¬ (nalSize = 0 ∨ before.length + payload.length < before.length + index + 2 + nalSize) := by omega
                  have copied := arraycopy_inside before payload after (newArray nalSize) (index + 2) 0 nalSize (by omega)
                  simp only [← Nat.add_assoc] at copied later
                  rw [if_neg refused, if_neg also, copied, later]
      · have roomInside : ¬ before.length + index + 2 ≤ before.length + payload.length := by omega
        rw [stapLoop, stapLoop, if_neg room, if_neg roomInside]

theorem feed_inside (dec : VideoDecoder) (marker : Bool) :
    feedRtpPayload dec (before ++ payload ++ after) before.length payload.length marker =
      feedRtpPayload dec payload 0 payload.length marker := by
  by_cases short : payload.length < 1
  · simp only [feedRtpPayload, if_pos short]
  · have first := get_inside before payload after 0 (by omega)
    have copied := fun dest pos => arraycopy_inside before payload after dest 0 pos payload.length (by omega)
    have stap := stap_loop_inside before payload after payload.length 1
    simp only [Nat.add_zero] at first copied
    simp only [feedRtpPayload, if_neg short, first, handle_fu_a_inside, handleStapA, stap, copied, Nat.zero_add]

end Position

theorem feed_single (dec : VideoDecoder) (rest : Bytes) (header : UInt8) (marker : Bool)
    (notFuA : header &&& 0x1F ≠ 28) (notStapA : header &&& 0x1F ≠ 24) :
    feedRtpPayload dec (header :: rest) 0 (header :: rest).length marker = some (dec, [header :: rest]) := by
  have long : ¬ (header :: rest).length < 1 := by simp
  rw [feedRtpPayload, if_neg long]
  simp [notFuA, notStapA, arraycopy, newArray]

def Collected (dec : VideoDecoder) (got : Bytes) : Prop :=
  ∃ buffer, dec.fuBuffer = some buffer ∧ buffer.length = fuCapacity ∧ dec.fuOffset = got.length ∧
    got.length ≤ fuCapacity ∧ buffer.take got.length = got

section Fragments

variable (chunk : Bytes) (indicator fu : UInt8)

theorem fragment_copy (dest : Bytes) (pos : Nat) (fits : pos + chunk.length ≤ dest.length) :
    arraycopy (indicator :: fu :: chunk) (0 + 2) dest pos chunk.length =
      some (dest.take pos ++ chunk ++ dest.drop (pos + chunk.length)) := by
  have inside : 0 + 2 + chunk.length ≤ (indicator :: fu :: chunk).length := by
    simp only [List.length_cons]
    omega
  rw [arraycopy, if_pos ⟨inside, fits⟩]
  simp

theorem fu_start_collected (header : UInt8) (fits : chunk.length < fuCapacity) :
    ∃ started, fuStart (indicator :: fu :: chunk) 0 (chunk.length + 2) header = some started ∧
      Collected started (header :: chunk) := by
  have size : ((newArray fuCapacity).set 0 header).length = fuCapacity := by simp [newArray]
  have one : ((newArray fuCapacity).set 0 header).take 1 = [header] := by
    rw [newArray, fuCapacity, List.replicate_succ]
    rfl
  have copied := fragment_copy chunk indicator fu ((newArray fuCapacity).set 0 header) 1 (by omega)
  rw [one] at copied
  refine ⟨_, by rw [fuStart, Nat.add_sub_cancel, copied]; rfl, _, rfl, ?_, ?_, ?_, ?_⟩
  · simp only [List.length_append, List.length_drop, size, List.length_cons, List.length_nil]
    omega
  · simp only [List.length_cons]
    omega
  · simp only [List.length_cons]
    omega
  · simp

theorem fu_append_collected (dec : VideoDecoder) (got buffer : Bytes) (held : dec.fuBuffer = some buffer)
    (collected : Collected dec got) (fits : got.length + chunk.length ≤ fuCapacity) :
    ∃ grown, fuAppend dec buffer (indicator :: fu :: chunk) 0 chunk.length = some grown ∧ Collected grown (got ++ chunk) := by
  obtain ⟨other, also, size, offset, _, front⟩ := collected
  have same : buffer = other := Option.some.inj (held.symm.trans also)
  subst same
  have room : got.length + chunk.length ≤ buffer.length := by omega
  have copied := fragment_copy chunk indicator fu buffer got.length room
  rw [front] at copied
  refine ⟨_, by rw [fuAppend, offset, if_pos room, copied]; rfl, _, rfl, ?_, ?_, ?_, ?_⟩
  · simp only [List.length_append, List.length_drop]
    omega
  · simp
  · simpa using fits
  · exact List.take_left

theorem fu_finish_collected (dec : VideoDecoder) (got : Bytes) (collected : Collected dec got) :
    fuFinish dec = some ({}, [got]) := by
  obtain ⟨buffer, held, size, offset, bounded, front⟩ := collected
  have room : got.length ≤ buffer.length := by omega
  rw [fuFinish, held]
  simp [offset, arraycopy, front, newArray, room]

end Fragments

def feedParts : VideoDecoder → List (Bool × Bytes) → Option (VideoDecoder × List Bytes)
  | dec, [] => some (dec, [])
  | dec, part :: rest =>
      match feedRtpPayload dec part.2 0 part.2.length part.1 with
      | none => none
      | some (next, nals) => (feedParts next rest).map fun later => (later.1, nals ++ later.2)

theorem feed_parts_append (dec mid last : VideoDecoder) (early late : List (Bool × Bytes)) (before after : List Bytes)
    (first : feedParts dec early = some (mid, before)) (second : feedParts mid late = some (last, after)) :
    feedParts dec (early ++ late) = some (last, before ++ after) := by
  induction early generalizing dec before with
  | nil =>
      cases first
      exact second
  | cons part rest ih =>
      cases fed : feedRtpPayload dec part.2 0 part.2.length part.1 with
      | none => simp [feedParts, fed] at first
      | some result =>
          obtain ⟨next, nals⟩ := result
          simp only [feedParts, fed, Option.map_eq_some_iff] at first
          obtain ⟨⟨reached, later⟩, tail, whole⟩ := first
          cases whole
          have rest := ih next later tail
          simp [feedParts, fed, rest]

-- The two FU-A bytes as the packetiser writes them and as the decoder reads them.
theorem fu_bits : ∀ (header : UInt8) (first lastFrag : Bool),
    ((header &&& 0xE0) ||| 28) &&& 0x1F = 28 ∧
    ((fuHeader (header &&& 0x1F) first lastFrag &&& 0x80 != 0) = first) ∧
    ((fuHeader (header &&& 0x1F) first lastFrag &&& 0x40 != 0) = lastFrag) ∧
    (header &&& 0x80 = 0 →
      (((header &&& 0xE0) ||| 28) &&& 0x60) ||| (fuHeader (header &&& 0x1F) first lastFrag &&& 0x1F) = header) := by
  decide +kernel

section Reassembly

variable (header : UInt8)

theorem feed_first_fragment (dec : VideoDecoder) (chunk : Bytes) (clear : header &&& 0x80 = 0)
    (fits : chunk.length < fuCapacity) :
    ∃ started, feedRtpPayload dec (((header &&& 0xE0) ||| 28) :: fuHeader (header &&& 0x1F) true false :: chunk) 0
        (chunk.length + 2) false = some (started, []) ∧ Collected started (header :: chunk) := by
  obtain ⟨kind, start, _, rebuilt⟩ := fu_bits header true false
  obtain ⟨started, begun, collected⟩ := fu_start_collected chunk ((header &&& 0xE0) ||| 28)
    (fuHeader (header &&& 0x1F) true false) header fits
  refine ⟨started, ?_, collected⟩
  simp [feedRtpPayload, kind, handleFuA, start, rebuilt clear, begun]

theorem feed_later_fragment (dec : VideoDecoder) (got chunk : Bytes) (lastFrag marker : Bool) (collected : Collected dec got)
    (fits : got.length + chunk.length ≤ fuCapacity) (marked : marker = true → lastFrag = true) :
    ∃ next, feedRtpPayload dec (((header &&& 0xE0) ||| 28) :: fuHeader (header &&& 0x1F) false lastFrag :: chunk) 0
        (chunk.length + 2) marker = some (next, if lastFrag then [got ++ chunk] else []) ∧
      (lastFrag = false → Collected next (got ++ chunk)) ∧ (lastFrag = true → next = {}) := by
  obtain ⟨kind, start, stop, _⟩ := fu_bits header false lastFrag
  have current := collected
  obtain ⟨buffer, held, _⟩ := collected
  obtain ⟨grown, appended, longer⟩ := fu_append_collected chunk ((header &&& 0xE0) ||| 28)
    (fuHeader (header &&& 0x1F) false lastFrag) dec got buffer held current fits
  have entered : feedRtpPayload dec (((header &&& 0xE0) ||| 28) :: fuHeader (header &&& 0x1F) false lastFrag :: chunk) 0
      (chunk.length + 2) marker =
      fuContinue dec (((header &&& 0xE0) ||| 28) :: fuHeader (header &&& 0x1F) false lastFrag :: chunk) 0
        (chunk.length + 2) (lastFrag || marker) := by
    simp [feedRtpPayload, kind, handleFuA, start, stop]
  rw [entered, fuContinue, held]
  simp only [Nat.add_sub_cancel, appended]
  cases lastFrag with
  | false =>
      have unmarked : marker = false := by
        cases marker with
        | false => rfl
        | true => exact absurd (marked rfl) (by simp)
      exact ⟨grown, by simp [unmarked], fun _ => longer, fun impossible => absurd impossible (by simp)⟩
  | true =>
      refine ⟨{}, ?_, fun impossible => absurd impossible (by simp), fun _ => rfl⟩
      simp [fu_finish_collected grown (got ++ chunk) longer]

-- Induction on the fuel of the send loop; what is collected is the NAL unit up to the current offset.
theorem feed_fragments (isLastNalu : Bool) (fuel : Nat) (dec : VideoDecoder) (got payload : Bytes) (more : payload ≠ [])
    (enough : payload.length ≤ fuel) (collected : Collected dec got) (fits : got.length + payload.length ≤ fuCapacity) :
    ∃ final, feedParts dec (fuLoop ((header &&& 0xE0) ||| 28) (header &&& 0x1F) isLastNalu fuel false payload) =
      some (final, [got ++ payload]) := by
  induction fuel generalizing dec got payload with
  | zero =>
      have : payload.length = 0 := by omega
      exact absurd (List.length_eq_zero_iff.mp this) more
  | succ fuel ih =>
      have size : (payload.take (rtpMtu - 2)).length ≤ payload.length := List.length_take_le' _ _
      obtain ⟨next, fed, stillCollected, _⟩ := feed_later_fragment header dec got (payload.take (rtpMtu - 2))
        (decide (payload.length ≤ rtpMtu - 2)) (decide (payload.length ≤ rtpMtu - 2) && isLastNalu) collected (by omega)
        (fun both => (Bool.and_eq_true_iff.mp both).1)
      rw [fuLoop, if_neg more]
      simp only [feedParts, List.length_cons, fed]
      by_cases last : payload.length ≤ rtpMtu - 2
      · have nothing : payload.drop (rtpMtu - 2) = [] := List.drop_of_length_le last
        have everything : payload.take (rtpMtu - 2) = payload := List.take_of_length_le last
        refine ⟨next, ?_⟩
        cases fuel <;> simp [fuLoop, feedParts, nothing, everything, last]
      · have longer := stillCollected (by simpa using last)
        have rest : payload.drop (rtpMtu - 2) ≠ [] := by
          intro empty
          have := congrArg List.length empty
          simp at this
          omega
        have shorter : (payload.drop (rtpMtu - 2)).length ≤ fuel := by
          have : 0 < rtpMtu - 2 := by decide
          rw [List.length_drop]
          omega
        have total : (got ++ payload.take (rtpMtu - 2)).length + (payload.drop (rtpMtu - 2)).length ≤ fuCapacity := by
          rw [List.length_append, List.length_take, List.length_drop]
          omega
        obtain ⟨final, done⟩ := ih next (got ++ payload.take (rtpMtu - 2)) (payload.drop (rtpMtu - 2)) rest shorter longer total
        exact ⟨final, by simp [done, last]⟩

end Reassembly

-- The NAL units a frame may hold: not empty, small enough for the buffer, forbidden bit clear, no packet type.
def PlainNalu (nalu : Bytes) : Prop :=
  ∃ header rest, nalu = header :: rest ∧ nalu.length ≤ fuCapacity ∧ header &&& 0x80 = 0 ∧
    header &&& 0x1F ≠ 24 ∧ header &&& 0x1F ≠ 28

theorem feed_nalu (dec : VideoDecoder) (nalu : Bytes) (isLastNalu : Bool) (plain : PlainNalu nalu) :
    ∃ final, feedParts dec (packetise nalu isLastNalu) = some (final, [nalu]) := by
  obtain ⟨header, payload, rfl, bounded, clear, notStapA, notFuA⟩ := plain
  by_cases small : (header :: payload).length ≤ rtpMtu
  · refine ⟨dec, ?_⟩
    rw [packetise, if_pos small]
    simp only [feedParts, feed_single dec payload header isLastNalu notFuA notStapA, Option.map_some, List.append_nil]
  · have large : ¬ payload.length ≤ rtpMtu - 2 := by
      simp only [List.length_cons, rtpMtu] at small ⊢
      omega
    have more : payload ≠ [] := by
      intro empty
      simp [empty] at large
    have some_left : payload.drop (rtpMtu - 2) ≠ [] := by
      intro empty
      have := congrArg List.length empty
      simp at this
      omega
    have whole : (header :: payload).length ≤ fuCapacity := bounded
    simp only [List.length_cons] at whole
    have first_size : (payload.take (rtpMtu - 2)).length < fuCapacity := by
      rw [List.length_take]
      omega
    obtain ⟨started, begun, collected⟩ := feed_first_fragment header dec (payload.take (rtpMtu - 2)) clear first_size
    have left : (payload.drop (rtpMtu - 2)).length ≤ payload.length - 1 := by
      rw [List.length_drop, rtpMtu]
      omega
    have total : (header :: payload.take (rtpMtu - 2)).length + (payload.drop (rtpMtu - 2)).length ≤ fuCapacity := by
      rw [List.length_cons, List.length_take, List.length_drop]
      omega
    obtain ⟨final, done⟩ := feed_fragments header isLastNalu (payload.length - 1) started (header :: payload.take (rtpMtu - 2))
      (payload.drop (rtpMtu - 2)) some_left left collected total
    have fuel : payload.length = (payload.length - 1) + 1 := by omega
    refine ⟨final, ?_⟩
    rw [packetise, if_neg small, fuel, fuLoop, if_neg more]
    simp only [large, decide_false, Bool.false_and, feedParts, List.length_cons, begun]
    simp [done]

theorem feed_frame (dec : VideoDecoder) (nalus : List Bytes) (plain : ∀ nalu ∈ nalus, PlainNalu nalu) :
    ∃ final, feedParts dec (packetiseFrame nalus) = some (final, nalus) := by
  induction nalus generalizing dec with
  | nil => exact ⟨dec, rfl⟩
  | cons nalu rest ih =>
      obtain ⟨mid, first⟩ := feed_nalu dec nalu rest.isEmpty (plain nalu (by simp))
      obtain ⟨final, later⟩ := ih mid fun other member => plain other (by simp [member])
      exact ⟨final, feed_parts_append dec mid final _ _ [nalu] rest first later⟩

end Intercom.Android
