import Intercom.Lib.Runs
import Intercom.Android.VideoDecoder

set_option autoImplicit false

/- The FU-A reassembly of VideoDecoder.kt when packets are missing. The decoder looks at the start and end bits only,
   never at the sequence numbers, so what it collects between two of them need not be one NAL unit. -/
namespace Intercom.Android

open ByteText

def isFirstFragment (part : Bool × Bytes) : Bool := part.2.getD 1 0 &&& 0x80 != 0

def isLastFragment (part : Bool × Bytes) : Bool := part.2.getD 1 0 &&& 0x40 != 0

-- One NAL unit, as send_h264_nalu_to_client is given it, and those of its packets that arrive. What arrives of a stream
-- is cut into such pieces, one for each NAL unit.
structure Sending where
  nalu : Bytes
  isLastNalu : Bool
  arrived : List (Bool × Bytes)
  filled : nalu ≠ []
  clear : nalu.headD 0 &&& 0x80 = 0
  notStapA : nalu.headD 0 &&& 0x1F ≠ 24
  notFuA : nalu.headD 0 &&& 0x1F ≠ 28
  inOrder : arrived.Sublist (packetise nalu isLastNalu)

def Sending.complete (sending : Sending) : Prop := sending.arrived = packetise sending.nalu sending.isLastNalu

def Sending.fits (sending : Sending) : Prop := sending.nalu.length ≤ fuCapacity

-- What may reach enqueueNal while the packets of a NAL unit arrive: that unit, and nothing when it is incomplete or too long.
structure Sending.Faithful (sending : Sending) (nals : List Bytes) : Prop where
  intact : ∀ nal ∈ nals, nal = sending.nalu
  dropped : ¬ sending.complete ∨ ¬ sending.fits → nals = []

-- The last fragment arrives while a reassembly is going on, begun by this NAL unit or by an earlier one.
def Sending.finishes (sending : Sending) (dec : VideoDecoder) : Bool :=
  decide (rtpMtu < sending.nalu.length) && sending.arrived.any isLastFragment &&
    (dec.fuBuffer.isSome || sending.arrived.any isFirstFragment)

def Sending.Sound (sending : Sending) (dec : VideoDecoder) : Prop := sending.finishes dec = true → sending.complete ∧ sending.fits

def Ready (dec : VideoDecoder) : Prop := dec.fuBuffer = none ∨ ∃ got, Collected dec got

structure Fragment (header : UInt8) (part : Bool × Bytes) : Prop where
  shape : ∃ chunk, part.2 = ((header &&& 0xE0) ||| 28) :: fuHeader (header &&& 0x1F) (isFirstFragment part) (isLastFragment part) :: chunk ∧
    chunk.length ≤ rtpMtu
  marked : part.1 = true → isLastFragment part = true
  several : isFirstFragment part = true → isLastFragment part = false

theorem fragment_bits (header : UInt8) (first lastFrag marker : Bool) (chunk : Bytes) :
    isFirstFragment (marker, ((header &&& 0xE0) ||| 28) :: fuHeader (header &&& 0x1F) first lastFrag :: chunk) = first ∧
      isLastFragment (marker, ((header &&& 0xE0) ||| 28) :: fuHeader (header &&& 0x1F) first lastFrag :: chunk) = lastFrag := by
  obtain ⟨_, start, stop, _⟩ := fu_bits header first lastFrag
  exact ⟨start, stop⟩

theorem feed_skipped_fragment (header : UInt8) (dec : VideoDecoder) (got chunk : Bytes) (lastFrag marker : Bool)
    (collected : Collected dec got) (full : ¬ got.length + chunk.length ≤ fuCapacity) (marked : marker = true → lastFrag = true) :
    ∃ next, feedRtpPayload dec (((header &&& 0xE0) ||| 28) :: fuHeader (header &&& 0x1F) false lastFrag :: chunk) 0
        (chunk.length + 2) marker = some (next, if lastFrag then [got] else []) ∧ next = if lastFrag then {} else dec := by
  obtain ⟨kind, start, stop, _⟩ := fu_bits header false lastFrag
  have finish := fu_finish_collected dec got collected
  obtain ⟨buffer, held, size, offset, _, _⟩ := collected
  have skipped : fuAppend dec buffer (((header &&& 0xE0) ||| 28) :: fuHeader (header &&& 0x1F) false lastFrag :: chunk) 0
      chunk.length = some dec := by
    rw [fuAppend, offset, size, if_neg full]
  have same : (lastFrag || marker) = lastFrag := by
    cases marker with
    | false => exact Bool.or_false _
    | true => rw [marked rfl]; rfl
  have entered : feedRtpPayload dec (((header &&& 0xE0) ||| 28) :: fuHeader (header &&& 0x1F) false lastFrag :: chunk) 0
      (chunk.length + 2) marker =
      fuContinue dec (((header &&& 0xE0) ||| 28) :: fuHeader (header &&& 0x1F) false lastFrag :: chunk) 0
        (chunk.length + 2) lastFrag := by
    simp [feedRtpPayload, kind, handleFuA, start, stop, same]
  rw [entered, fuContinue, held]
  simp only [Nat.add_sub_cancel, skipped]
  cases lastFrag with
  | false => exact ⟨dec, rfl, rfl⟩
  | true => exact ⟨{}, finish, rfl⟩

structure FragmentFed (dec : VideoDecoder) (part : Bool × Bytes) (next : VideoDecoder) (nals : List Bytes) : Prop where
  fed : feedRtpPayload dec part.2 0 part.2.length part.1 = some (next, nals)
  ready : Ready next
  held : next.fuBuffer.isSome = (isFirstFragment part || dec.fuBuffer.isSome && !isLastFragment part)
  count : nals.length = if !isFirstFragment part && dec.fuBuffer.isSome && isLastFragment part then 1 else 0

theorem collected_held (dec : VideoDecoder) (got : Bytes) (collected : Collected dec got) : dec.fuBuffer.isSome = true := by
  obtain ⟨buffer, held, _⟩ := collected
  rw [held]
  rfl

theorem first_fragment_fed (header : UInt8) (dec : VideoDecoder) (part : Bool × Bytes) (clear : header &&& 0x80 = 0)
    (fragment : Fragment header part) (first : isFirstFragment part = true) : ∃ next nals, FragmentFed dec part next nals := by
  obtain ⟨chunk, shape, small⟩ := fragment.shape
  have unlast := fragment.several first
  have unmarked : part.1 = false := by
    cases mark : part.1 with
    | false => rfl
    | true =>
        have last := fragment.marked mark
        rw [unlast] at last
        cases last
  have room : chunk.length < fuCapacity := Nat.lt_of_le_of_lt small (by decide)
  obtain ⟨started, begun, collected⟩ := feed_first_fragment header dec chunk clear room
  refine ⟨started, [], ?_, Or.inr ⟨_, collected⟩, ?_, ?_⟩
  · rw [shape, first, unlast, unmarked]
    exact begun
  · rw [collected_held started _ collected, first]
    rfl
  · rw [first]
    rfl

theorem stray_fragment_fed (header : UInt8) (dec : VideoDecoder) (part : Bool × Bytes) (fragment : Fragment header part)
    (later : isFirstFragment part = false) (free : dec.fuBuffer = none) : ∃ next nals, FragmentFed dec part next nals := by
  obtain ⟨chunk, shape, _⟩ := fragment.shape
  obtain ⟨kind, start, stop, _⟩ := fu_bits header false (isLastFragment part)
  refine ⟨dec, [], ?_, Or.inl free, ?_, ?_⟩
  · rw [shape, later]
    simp [feedRtpPayload, kind, handleFuA, start, fuContinue, free]
  · rw [later, free]
    rfl
  · rw [later, free]
    rfl

theorem later_fragment_fed (header : UInt8) (dec : VideoDecoder) (part : Bool × Bytes) (got : Bytes) (fragment : Fragment header part)
    (later : isFirstFragment part = false) (collected : Collected dec got) : ∃ next nals, FragmentFed dec part next nals := by
  obtain ⟨chunk, shape, _⟩ := fragment.shape
  have busy := collected_held dec got collected
  by_cases room : got.length + chunk.length ≤ fuCapacity
  · obtain ⟨next, fed, still, done⟩ := feed_later_fragment header dec got chunk (isLastFragment part) part.1 collected room fragment.marked
    cases last : isLastFragment part with
    | false =>
        rw [last] at fed still
        have longer := still rfl
        refine ⟨next, [], ?_, Or.inr ⟨_, longer⟩, ?_, ?_⟩
        · rw [shape, later, last]
          exact fed
        · rw [collected_held next _ longer, later, busy, last]
          rfl
        · rw [later, busy, last]
          rfl
    | true =>
        rw [last] at fed done
        have emptied := done rfl
        refine ⟨next, [got ++ chunk], ?_, Or.inl (by rw [emptied]), ?_, ?_⟩
        · rw [shape, later, last]
          exact fed
        · rw [later, emptied, last, busy]
          rfl
        · rw [later, busy, last]
          rfl
  · obtain ⟨next, fed, same⟩ := feed_skipped_fragment header dec got chunk (isLastFragment part) part.1 collected room fragment.marked
    cases last : isLastFragment part with
    | false =>
        rw [last] at fed same
        refine ⟨next, [], ?_, Or.inr ⟨got, same ▸ collected⟩, ?_, ?_⟩
        · rw [shape, later, last]
          exact fed
        · rw [later, same, last]
          simp [busy]
        · rw [later, busy, last]
          rfl
    | true =>
        rw [last] at fed same
        refine ⟨next, [got], ?_, Or.inl (by rw [same]; rfl), ?_, ?_⟩
        · rw [shape, later, last]
          exact fed
        · rw [later, same, last, busy]
          rfl
        · rw [later, busy, last]
          rfl

theorem fragment_fed (header : UInt8) (dec : VideoDecoder) (part : Bool × Bytes) (clear : header &&& 0x80 = 0)
    (fragment : Fragment header part) (ready : Ready dec) : ∃ next nals, FragmentFed dec part next nals := by
  cases first : isFirstFragment part with
  | true => exact first_fragment_fed header dec part clear fragment first
  | false =>
      cases ready with
      | inl free => exact stray_fragment_fed header dec part fragment first free
      | inr busy =>
          obtain ⟨got, collected⟩ := busy
          exact later_fragment_fed header dec part got fragment first collected

-- Only the first fragment of a NAL unit has the start bit, only the last one the end bit.
def FragmentOrder (early late : Bool × Bytes) : Prop := isLastFragment early = false ∧ isFirstFragment late = false

theorem unordered_first (part : Bool × Bytes) (rest : List (Bool × Bytes)) (behind : ∀ other ∈ rest, FragmentOrder part other) :
    rest.any isFirstFragment = false := by
  rw [List.any_eq_false]
  intro other member
  rw [(behind other member).2]
  exact Bool.false_ne_true

theorem fragment_count : ∀ first last held more : Bool, (first = true → last = false) → (last = true → more = false) →
    (if !first && held && last then 1 else 0) + (if more && (first || held && !last || false) then 1 else 0) =
      if (last || more) && (held || (first || false)) then 1 else 0 := by decide

-- Induction on the packets that arrive: a NAL unit is handed on when the last fragment meets a reassembly, and only then.
theorem fragments_fed (header : UInt8) (arrived : List (Bool × Bytes)) (dec : VideoDecoder) (clear : header &&& 0x80 = 0)
    (fragments : ∀ part ∈ arrived, Fragment header part) (ordered : arrived.Pairwise FragmentOrder) (ready : Ready dec) :
    ∃ next nals, feedParts dec arrived = some (next, nals) ∧ Ready next ∧
      nals.length = if arrived.any isLastFragment && (dec.fuBuffer.isSome || arrived.any isFirstFragment) then 1 else 0 := by
  induction arrived generalizing dec with
  | nil => exact ⟨dec, [], rfl, ready, rfl⟩
  | cons part rest ih =>
      obtain ⟨behind, orderedRest⟩ := List.pairwise_cons.mp ordered
      obtain ⟨next, nals, step⟩ := fragment_fed header dec part clear (fragments part List.mem_cons_self) ready
      obtain ⟨final, later, fed, readyLater, count⟩ := ih next (fun other member => fragments other (List.mem_cons_of_mem part member))
        orderedRest step.ready
      have none := unordered_first part rest behind
      have alone : isLastFragment part = true → rest = [] := by
        intro last
        cases rest with
        | nil => rfl
        | cons other tail =>
            have not := (behind other List.mem_cons_self).1
            rw [last] at not
            cases not
      refine ⟨final, nals ++ later, ?_, readyLater, ?_⟩
      · simp [feedParts, step.fed, fed]
      · have apart := (fragments part List.mem_cons_self).several
        have ended : isLastFragment part = true → rest.any isLastFragment = false := fun last => by rw [alone last]; rfl
        rw [List.length_append, count, step.count, step.held, none, List.any_cons, List.any_cons, none]
        exact fragment_count _ _ dec.fuBuffer.isSome _ apart ended

theorem fu_loop_fragments (header : UInt8) (isLastNalu : Bool) (fuel : Nat) (first : Bool) (payload : Bytes)
    (several : first = true → rtpMtu - 2 < payload.length) :
    (∀ part ∈ fuLoop ((header &&& 0xE0) ||| 28) (header &&& 0x1F) isLastNalu fuel first payload,
      Fragment header part ∧ (first = false → isFirstFragment part = false)) ∧
      (fuLoop ((header &&& 0xE0) ||| 28) (header &&& 0x1F) isLastNalu fuel first payload).Pairwise FragmentOrder := by
  induction fuel generalizing first payload with
  | zero => exact ⟨fun _ member => absurd member List.not_mem_nil, List.Pairwise.nil⟩
  | succ fuel ih =>
      obtain ⟨later, ordered⟩ := ih false (payload.drop (rtpMtu - 2)) (fun impossible => absurd impossible (by simp))
      rw [fuLoop]
      by_cases done : payload = []
      · rw [if_pos done]
        exact ⟨fun _ member => absurd member List.not_mem_nil, List.Pairwise.nil⟩
      · rw [if_neg done]
        dsimp only
        have bits := fragment_bits header first (decide (payload.length ≤ rtpMtu - 2))
          (decide (payload.length ≤ rtpMtu - 2) && isLastNalu) (payload.take (rtpMtu - 2))
        refine ⟨?_, List.pairwise_cons.mpr ⟨?_, ordered⟩⟩
        · intro part member
          cases List.mem_cons.mp member with
          | inr rest => exact ⟨(later part rest).1, fun _ => (later part rest).2 rfl⟩
          | inl here =>
              rw [here]
              refine ⟨⟨⟨payload.take (rtpMtu - 2), ?_, ?_⟩, ?_, ?_⟩, fun unset => bits.1.trans unset⟩
              · rw [bits.1, bits.2]
              · rw [List.length_take]
                exact Nat.le_trans (Nat.min_le_left _ _) (by decide)
              · intro mark
                rw [bits.2]
                exact (Bool.and_eq_true_iff.mp mark).1
              · intro start
                rw [bits.1] at start
                rw [bits.2, decide_eq_false_iff_not]
                exact Nat.not_le.mpr (several start)
        · intro other member
          refine ⟨?_, (later other member).2 rfl⟩
          rw [bits.2, decide_eq_false_iff_not]
          intro last
          rw [List.drop_of_length_le last] at member
          cases fuel <;> simp [fuLoop] at member

theorem whole_nalu_plain (sending : Sending) (fits : sending.fits) : PlainNalu sending.nalu := by
  obtain ⟨nalu, isLastNalu, arrived, filled, clear, notStapA, notFuA, inOrder⟩ := sending
  cases nalu with
  | nil => exact absurd rfl filled
  | cons header rest => exact ⟨header, rest, rfl, fits, clear, notStapA, notFuA⟩

theorem small_sending_fed (sending : Sending) (dec : VideoDecoder) (ready : Ready dec) (small : sending.nalu.length ≤ rtpMtu) :
    ∃ next nals, feedParts dec sending.arrived = some (next, nals) ∧ Ready next ∧ (sending.Faithful nals ↔ sending.Sound dec) := by
  have single : packetise sending.nalu sending.isLastNalu = [(sending.isLastNalu, sending.nalu)] := by
    cases shape : sending.nalu with
    | nil => exact absurd shape sending.filled
    | cons header rest => rw [packetise, if_pos (shape ▸ small)]
  have sound : sending.Sound dec := by
    intro finishes
    simp [Sending.finishes, Nat.not_lt.mpr small] at finishes
  have inOrder := sending.inOrder
  rw [single] at inOrder
  rcases List.sublist_singleton.mp inOrder with none | one
  · refine ⟨dec, [], by rw [none]; rfl, ready, iff_of_true ?_ sound⟩
    exact ⟨fun _ member => absurd member List.not_mem_nil, fun _ => rfl⟩
  · have fits : sending.fits := Nat.le_trans small (by decide)
    have complete : sending.complete := one.trans single.symm
    obtain ⟨header, rest, shape, _, _, notStapA, notFuA⟩ := whole_nalu_plain sending fits
    have fed := feed_single dec rest header sending.isLastNalu notFuA notStapA
    rw [← shape] at fed
    refine ⟨dec, [sending.nalu], ?_, ready, iff_of_true ⟨?_, ?_⟩ sound⟩
    · rw [one]
      simp only [feedParts, fed, Option.map_some, List.append_nil]
    · exact fun nal member => List.mem_singleton.mp member
    · intro wrong
      cases wrong with
      | inl incomplete => exact absurd complete incomplete
      | inr long => exact absurd fits long

theorem large_sending_fed (sending : Sending) (dec : VideoDecoder) (ready : Ready dec) (large : rtpMtu < sending.nalu.length) :
    ∃ next nals, feedParts dec sending.arrived = some (next, nals) ∧ Ready next ∧ (sending.Faithful nals ↔ sending.Sound dec) := by
  have fragmented : ∃ header, header &&& 0x80 = 0 ∧ (∀ part ∈ sending.arrived, Fragment header part) ∧
      sending.arrived.Pairwise FragmentOrder := by
    have clear := sending.clear
    have inOrder := sending.inOrder
    cases shape : sending.nalu with
    | nil => exact absurd shape sending.filled
    | cons header payload =>
        rw [shape] at clear inOrder large
        have several : rtpMtu - 2 < payload.length := by
          have size : rtpMtu = 1200 := rfl
          rw [List.length_cons] at large
          omega
        rw [packetise, if_neg (Nat.not_le.mpr large)] at inOrder
        obtain ⟨fragments, ordered⟩ := fu_loop_fragments header sending.isLastNalu payload.length true payload (fun _ => several)
        exact ⟨header, clear, fun part member => (fragments part (inOrder.subset member)).1, ordered.sublist inOrder⟩
  obtain ⟨header, clear, fragments, ordered⟩ := fragmented
  obtain ⟨next, nals, fed, readyNext, count⟩ := fragments_fed header sending.arrived dec clear fragments ordered ready
  refine ⟨next, nals, fed, readyNext, ?_⟩
  have same : (sending.arrived.any isLastFragment && (dec.fuBuffer.isSome || sending.arrived.any isFirstFragment)) =
      sending.finishes dec := by
    simp [Sending.finishes, large]
  rw [same] at count
  by_cases finishes : sending.finishes dec = true
  · rw [if_pos finishes] at count
    have some : nals ≠ [] := List.ne_nil_of_length_pos (by omega)
    constructor
    · intro faithful _
      by_contra wrong
      exact some (faithful.dropped (not_and_or.mp wrong))
    · intro sound
      obtain ⟨complete, fits⟩ := sound finishes
      obtain ⟨final, whole⟩ := feed_nalu dec sending.nalu sending.isLastNalu (whole_nalu_plain sending fits)
      rw [← complete, fed] at whole
      have only : nals = [sending.nalu] := congrArg Prod.snd (Option.some.inj whole)
      refine ⟨?_, ?_⟩
      · intro nal member
        rw [only] at member
        exact List.mem_singleton.mp member
      · intro wrong
        cases wrong with
        | inl incomplete => exact absurd complete incomplete
        | inr long => exact absurd fits long
  · rw [if_neg finishes] at count
    have none : nals = [] := List.eq_nil_of_length_eq_zero count
    refine iff_of_true ⟨?_, fun _ => none⟩ (fun impossible => absurd impossible finishes)
    intro nal member
    rw [none] at member
    exact absurd member List.not_mem_nil

theorem sending_fed (sending : Sending) (dec : VideoDecoder) (ready : Ready dec) :
    ∃ next nals, feedParts dec sending.arrived = some (next, nals) ∧ Ready next ∧ (sending.Faithful nals ↔ sending.Sound dec) := by
  by_cases small : sending.nalu.length ≤ rtpMtu
  · exact small_sending_fed sending dec ready small
  · exact large_sending_fed sending dec ready (Nat.not_le.mp small)

-- The packets of one NAL unit after the other. An exception of the decoder would leave it as it was and hand on nothing.
def decodeSending (dec : VideoDecoder) (sending : Sending) : VideoDecoder := ((feedParts dec sending.arrived).map Prod.fst).getD dec

def IntactStep (dec : VideoDecoder) (sending : Sending) : Prop :=
  ∃ next nals, feedParts dec sending.arrived = some (next, nals) ∧ sending.Faithful nals

theorem intact_step_iff (dec : VideoDecoder) (sending : Sending) (ready : Ready dec) :
    IntactStep dec sending ↔ sending.Sound dec := by
  obtain ⟨next, nals, fed, _, decided⟩ := sending_fed sending dec ready
  rw [← decided]
  constructor
  · rintro ⟨other, more, also, faithful⟩
    rw [fed] at also
    cases also
    exact faithful
  · exact fun faithful => ⟨next, nals, fed, faithful⟩

theorem decode_ready (dec : VideoDecoder) (sending : Sending) (ready : Ready dec) : Ready (decodeSending dec sending) := by
  obtain ⟨next, nals, fed, readyNext, _⟩ := sending_fed sending dec ready
  rw [decodeSending, fed]
  exact readyNext

theorem nals_intact_iff_sound (sendings : List Sending) :
    Runs.EachStep decodeSending IntactStep {} sendings ↔
      Runs.EachStep decodeSending (fun dec sending => sending.Sound dec) {} sendings :=
  Runs.each_step_congr decodeSending Ready _ _ {} sendings decode_ready intact_step_iff (Or.inl rfl)

-- A start and an end are enough for the decoder, whatever should have stood between them.
theorem two_fragments_fed (header : UInt8) (front back : Bytes) (clear : header &&& 0x80 = 0)
    (fits : front.length + 1 + back.length ≤ fuCapacity) :
    ∃ final, feedParts {} [(false, ((header &&& 0xE0) ||| 28) :: fuHeader (header &&& 0x1F) true false :: front),
      (true, ((header &&& 0xE0) ||| 28) :: fuHeader (header &&& 0x1F) false true :: back)] =
        some (final, [header :: (front ++ back)]) := by
  obtain ⟨started, begun, collected⟩ := feed_first_fragment header {} front clear (by omega)
  obtain ⟨final, ended, _⟩ := feed_later_fragment header started (header :: front) back true true collected
    (by rw [List.length_cons]; exact fits) (fun same => same)
  refine ⟨final, ?_⟩
  simp only [feedParts, List.length_cons, begun, ended, Option.map_some, if_true, List.cons_append, List.nil_append]

def slice : Bytes := 0x65 :: List.replicate 3000 7

def sliceStart : Bool × Bytes := (false, ((0x65 &&& 0xE0) ||| 28) :: fuHeader (0x65 &&& 0x1F) true false :: List.replicate 1198 7)

def sliceMiddle : Bool × Bytes := (false, ((0x65 &&& 0xE0) ||| 28) :: fuHeader (0x65 &&& 0x1F) false false :: List.replicate 1198 7)

def sliceEnd : Bool × Bytes := (true, ((0x65 &&& 0xE0) ||| 28) :: fuHeader (0x65 &&& 0x1F) false true :: List.replicate 604 7)

theorem slice_packets : packetise slice true = [sliceStart, sliceMiddle, sliceEnd] := by decide +kernel

def holedSlice : Sending where
  nalu := slice
  isLastNalu := true
  arrived := [sliceStart, sliceEnd]
  filled := List.cons_ne_nil _ _
  clear := by decide
  notStapA := by decide
  notFuA := by decide
  inOrder := by
    rw [slice_packets]
    exact ((List.Sublist.refl [sliceEnd]).cons sliceMiddle).cons_cons sliceStart

theorem missing_fragment_leaves_hole : ¬ Runs.EachStep decodeSending IntactStep {} [holedSlice] := by
  rintro ⟨⟨next, nals, fed, faithful⟩, _⟩
  obtain ⟨final, holed⟩ := two_fragments_fed 0x65 (List.replicate 1198 7) (List.replicate 604 7) (by decide)
    (by rw [List.length_replicate, List.length_replicate]; decide)
  have arrived : feedParts {} holedSlice.arrived = some (final, [0x65 :: (List.replicate 1198 7 ++ List.replicate 604 7)]) := holed
  rw [arrived] at fed
  cases fed
  have same : 0x65 :: (List.replicate 1198 7 ++ List.replicate 604 7) = slice := faithful.intact _ List.mem_cons_self
  have sizes := congrArg List.length same
  rw [slice, List.length_cons, List.length_cons, List.length_append, List.length_replicate, List.length_replicate,
    List.length_replicate] at sizes
  omega

end Intercom.Android
