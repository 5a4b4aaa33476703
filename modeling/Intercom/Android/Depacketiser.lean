import Intercom.Android.Downstream

set_option autoImplicit false

/- The receiving half of the app against any bytes at all: no index leaves its array, the reassembly buffer keeps its
   bounds from frame to frame, and an aggregation packet yields its units up to the first that does not fit. -/
namespace Intercom.Android

open ByteText

-- What holds between two frames.
structure Intact (dec : VideoDecoder) : Prop where
  capacity : ∀ buffer, dec.fuBuffer = some buffer → buffer.length = fuCapacity
  offset : dec.fuBuffer ≠ none → 1 ≤ dec.fuOffset ∧ dec.fuOffset ≤ 65536

def Sized (nals : List Bytes) : Prop := ∀ nal ∈ nals, 1 ≤ nal.length ∧ nal.length ≤ 65536

def Fed (result : Option (VideoDecoder × List Bytes)) : Prop :=
  ∃ next nals, result = some (next, nals) ∧ Intact next ∧ Sized nals

theorem intact_empty : Intact {} := ⟨fun _ held => (by cases held), fun held => absurd rfl held⟩

theorem sized_nil : Sized [] := fun _ member => absurd member List.not_mem_nil

theorem sized_single (nal : Bytes) (some : 1 ≤ nal.length) (bounded : nal.length ≤ 65536) : Sized [nal] := by
  intro other member
  rw [List.mem_singleton.mp member]
  exact ⟨some, bounded⟩

theorem arraycopy_fits (src dest : Bytes) (srcPos destPos len : Nat) (source : srcPos + len ≤ src.length)
    (target : destPos + len ≤ dest.length) :
    ∃ copy, arraycopy src srcPos dest destPos len = some copy ∧ copy.length = dest.length := by
  refine ⟨_, if_pos ⟨source, target⟩, ?_⟩
  simp only [List.length_append, List.length_take, List.length_drop]
  omega

theorem arraycopy_new (src : Bytes) (pos len : Nat) (source : pos + len ≤ src.length) :
    arraycopy src pos (newArray len) 0 len = some ((src.drop pos).take len) := by
  rw [arraycopy, if_pos ⟨source, by simp [newArray]⟩]
  simp [newArray]

section Payload

-- The payload lies inside the array.
variable (data : Bytes) (offset length : Nat)

theorem fu_start_fed (header : UInt8) (long : 2 ≤ length) (inside : offset + length ≤ data.length) (bounded : length ≤ 65535) :
    Fed ((fuStart data offset length header).map fun started => (started, [])) := by
  have size : ((newArray fuCapacity).set 0 header).length = fuCapacity := by simp [newArray]
  obtain ⟨copy, copied, same⟩ := arraycopy_fits data ((newArray fuCapacity).set 0 header) (offset + 2) 1 (length - 2)
    (by omega) (by rw [size, fuCapacity]; omega)
  refine ⟨_, [], by rw [fuStart, copied]; rfl, ⟨?_, fun _ => ?_⟩, sized_nil⟩
  · intro buffer held
    cases held
    exact same.trans size
  · dsimp only
    omega

theorem fu_append_intact (dec : VideoDecoder) (buffer : Bytes) (intact : Intact dec) (held : dec.fuBuffer = some buffer)
    (long : 2 ≤ length) (inside : offset + length ≤ data.length) :
    ∃ grown, fuAppend dec buffer data offset (length - 2) = some grown ∧ Intact grown ∧ grown.fuBuffer ≠ none := by
  have capacity := intact.capacity buffer held
  have bounds := intact.offset (by rw [held]; exact Option.some_ne_none _)
  rw [fuAppend]
  by_cases room : dec.fuOffset + (length - 2) ≤ buffer.length
  · obtain ⟨copy, copied, same⟩ := arraycopy_fits data buffer (offset + 2) dec.fuOffset (length - 2) (by omega) room
    rw [if_pos room, copied]
    refine ⟨_, rfl, ⟨?_, fun _ => ?_⟩, Option.some_ne_none _⟩
    · intro other taken
      cases taken
      exact same.trans capacity
    · rw [fuCapacity] at capacity
      dsimp only
      omega
  · rw [if_neg room]
    exact ⟨dec, rfl, intact, by rw [held]; exact Option.some_ne_none _⟩

theorem fu_finish_fed (dec : VideoDecoder) (intact : Intact dec) (held : dec.fuBuffer ≠ none) : Fed (fuFinish dec) := by
  have bounds := intact.offset held
  rw [fuFinish]
  cases kept : dec.fuBuffer with
  | none => exact absurd kept held
  | some buffer =>
      have capacity := intact.capacity buffer kept
      rw [fuCapacity] at capacity
      have copied := arraycopy_new buffer 0 dec.fuOffset (by omega)
      dsimp only
      rw [copied]
      refine ⟨{}, _, rfl, intact_empty, ?_⟩
      apply sized_single
      · rw [List.length_take, List.length_drop]
        omega
      · rw [List.length_take, List.length_drop]
        omega

theorem handle_fu_a_fed (dec : VideoDecoder) (marker : Bool) (intact : Intact dec) (inside : offset + length ≤ data.length)
    (bounded : length ≤ 65535) : Fed (handleFuA dec data offset length marker) := by
  rw [handleFuA]
  by_cases short : length < 2
  · rw [if_pos short]
    exact ⟨dec, [], rfl, intact, sized_nil⟩
  · have first : offset < data.length := by omega
    have second : offset + 1 < data.length := by omega
    rw [if_neg short, List.getElem?_eq_getElem first, List.getElem?_eq_getElem second]
    dsimp only
    split
    · exact fu_start_fed data offset length _ (by omega) inside bounded
    · rw [fuContinue]
      cases held : dec.fuBuffer with
      | none => exact ⟨dec, [], rfl, intact, sized_nil⟩
      | some buffer =>
          obtain ⟨grown, appended, kept, filled⟩ := fu_append_intact data offset length dec buffer intact held (by omega) inside
          dsimp only
          rw [appended]
          dsimp only
          split
          · exact fu_finish_fed grown kept filled
          · exact ⟨grown, [], rfl, kept, sized_nil⟩

end Payload

-- A whole run of the loop of handleStapA from this position: it ends after finitely many turns, none of which reads
-- outside the array.
inductive StapRun (data : Bytes) (stop : Nat) : Nat → List Bytes → Prop where
  | leave (pos : Nat) (full : ¬pos + 2 ≤ stop) : StapRun data stop pos []
  | refuse (pos : Nat) (hi lo : UInt8) (room : pos + 2 ≤ stop) (high : data[pos]? = some hi) (low : data[pos + 1]? = some lo)
      (refused : hi.toNat * 256 + lo.toNat = 0 ∨ stop < pos + 2 + (hi.toNat * 256 + lo.toNat)) : StapRun data stop pos []
  | unit (pos : Nat) (hi lo : UInt8) (nal : Bytes) (later : List Bytes) (room : pos + 2 ≤ stop) (high : data[pos]? = some hi)
      (low : data[pos + 1]? = some lo)
      (fits : ¬(hi.toNat * 256 + lo.toNat = 0 ∨ stop < pos + 2 + (hi.toNat * 256 + lo.toNat)))
      (copied : arraycopy data (pos + 2) (newArray (hi.toNat * 256 + lo.toNat)) 0 (hi.toNat * 256 + lo.toNat) = some nal)
      (rest : StapRun data stop (pos + 2 + (hi.toNat * 256 + lo.toNat)) later) : StapRun data stop pos (nal :: later)

theorem stap_run_exists (data : Bytes) (stop : Nat) (inside : stop ≤ data.length) (fuel pos : Nat) (enough : stop - pos ≤ fuel) :
    ∃ nals, StapRun data stop pos nals := by
  induction fuel generalizing pos with
  | zero => exact ⟨[], .leave pos (by omega)⟩
  | succ fuel ih =>
      by_cases room : pos + 2 ≤ stop
      · have high := List.getElem?_eq_getElem (by omega : pos < data.length)
        have low := List.getElem?_eq_getElem (by omega : pos + 1 < data.length)
        by_cases refused : data[pos].toNat * 256 + data[pos + 1].toNat = 0 ∨
            stop < pos + 2 + (data[pos].toNat * 256 + data[pos + 1].toNat)
        · exact ⟨[], .refuse pos _ _ room high low refused⟩
        · obtain ⟨later, rest⟩ := ih (pos + 2 + (data[pos].toNat * 256 + data[pos + 1].toNat)) (by omega)
          exact ⟨_, .unit pos _ _ _ later room high low refused (arraycopy_new data _ _ (by omega)) rest⟩
      · exact ⟨[], .leave pos room⟩

theorem stap_loop_run (data : Bytes) (stop pos fuel : Nat) (nals : List Bytes) (run : StapRun data stop pos nals)
    (enough : stop - pos ≤ fuel) : stapLoop data stop fuel pos = some nals := by
  induction run generalizing fuel with
  | leave pos full =>
      cases fuel with
      | zero => rfl
      | succ fuel => rw [stapLoop, if_neg full]
  | refuse pos hi lo room high low refused =>
      cases fuel with
      | zero => omega
      | succ fuel =>
          rw [stapLoop, if_pos room, high, low]
          dsimp only
          rw [if_pos refused]
  | unit pos hi lo nal later room high low fits copied rest ih =>
      cases fuel with
      | zero => omega
      | succ fuel =>
          rw [stapLoop, if_pos room, high, low]
          dsimp only
          rw [if_neg fits, copied]
          dsimp only
          rw [ih fuel (by omega)]
          rfl

def aggregate (nal : Bytes) : Bytes := be16 nal.length ++ nal

def Filled (units : List Bytes) : Prop := ∀ unit ∈ units, unit ≠ [] ∧ unit.length < 65536

-- The longest row of non-empty units that stand in the payload from its front on.
def LongestUnits (body : Bytes) (nals : List Bytes) : Prop :=
  Filled nals ∧ nals.flatMap aggregate <+: body ∧
    ∀ units, Filled units → units.flatMap aggregate <+: body → units <+: nals

theorem be16_bytes (hi lo : UInt8) : be16 (hi.toNat * 256 + lo.toNat) = [hi, lo] := by
  have high := hi.toNat_lt
  have low := lo.toNat_lt
  have first : (hi.toNat * 256 + lo.toNat) / 256 % 256 = hi.toNat := by omega
  have second : (hi.toNat * 256 + lo.toNat) % 256 = lo.toNat := by omega
  rw [be16, first, second, UInt8.ofNat_toNat, UInt8.ofNat_toNat]

theorem aggregate_front (unit tail rest : Bytes) (hi lo : UInt8) (bounded : unit.length < 65536)
    (front : aggregate unit ++ tail <+: hi :: lo :: rest) :
    unit.length = hi.toNat * 256 + lo.toNat ∧ unit ++ tail <+: rest := by
  have value := be16_value unit.length bounded
  rw [aggregate, be16, List.cons_append, List.cons_append, List.cons_append, List.cons_append, List.cons_prefix_cons,
    List.cons_prefix_cons] at front
  obtain ⟨high, low, front⟩ := front
  rw [high, low] at value
  exact ⟨value.symm, front⟩

theorem units_front (units : List Bytes) (body : Bytes) (filled : Filled units) (front : units.flatMap aggregate <+: body)
    (unit : Bytes) (others : List Bytes) (some : units = unit :: others) :
    ∃ hi lo rest, body = hi :: lo :: rest ∧ unit.length = hi.toNat * 256 + lo.toNat ∧ unit ≠ [] ∧
      Filled others ∧ unit ++ others.flatMap aggregate <+: rest := by
  subst some
  obtain ⟨nonempty, bounded⟩ := filled unit List.mem_cons_self
  rw [List.flatMap_cons] at front
  match body, front with
  | [], front => exact absurd (List.prefix_nil.mp front) (by simp [aggregate, be16])
  | [only], front =>
      have length := front.length_le
      simp [aggregate, be16] at length
  | hi :: lo :: rest, front =>
      obtain ⟨length, behind⟩ := aggregate_front unit _ rest hi lo bounded front
      exact ⟨hi, lo, rest, rfl, length, nonempty, fun other member => filled other (List.mem_cons_of_mem _ member), behind⟩

section Body

variable (data : Bytes) (stop pos : Nat)

theorem body_pair (hi lo : UInt8) (room : pos + 2 ≤ stop) (high : data[pos]? = some hi) (low : data[pos + 1]? = some lo) :
    (data.take stop).drop pos = hi :: lo :: (data.take stop).drop (pos + 2) := by
  obtain ⟨first, rfl⟩ := List.getElem?_eq_some_iff.mp high
  obtain ⟨second, rfl⟩ := List.getElem?_eq_some_iff.mp low
  have bound (index : Nat) (inside : index < data.length) (before : index < stop) : index < (data.take stop).length := by
    rw [List.length_take]
    omega
  rw [List.drop_eq_getElem_cons (bound pos first (by omega)), List.drop_eq_getElem_cons (bound (pos + 1) second (by omega)),
    List.getElem_take, List.getElem_take]

theorem body_unit (size : Nat) (nal : Bytes) (inside : stop ≤ data.length) (fits : pos + size ≤ stop)
    (copied : arraycopy data pos (newArray size) 0 size = some nal) :
    (data.take stop).drop pos = nal ++ (data.take stop).drop (pos + size) ∧ nal.length = size := by
  rw [arraycopy_new data pos size (by omega)] at copied
  cases copied
  have same : (data.drop pos).take size = ((data.take stop).drop pos).take size := by
    rw [List.drop_take, List.take_take, Nat.min_eq_left (by omega)]
  refine ⟨?_, by rw [List.length_take, List.length_drop]; omega⟩
  rw [same, ← List.drop_drop, List.take_append_drop]

end Body

theorem stap_run_longest (data : Bytes) (stop pos : Nat) (nals : List Bytes) (inside : stop ≤ data.length)
    (run : StapRun data stop pos nals) : LongestUnits ((data.take stop).drop pos) nals := by
  induction run with
  | leave pos full =>
      refine ⟨fun _ member => absurd member List.not_mem_nil, List.nil_prefix, fun units filled front => ?_⟩
      cases units with
      | nil => exact List.nil_prefix
      | cons unit others =>
          obtain ⟨hi, lo, rest, shape, _⟩ := units_front _ _ filled front unit others rfl
          have length := congrArg List.length shape
          simp only [List.length_drop, List.length_take, List.length_cons] at length
          omega
  | refuse pos hi lo room high low refused =>
      refine ⟨fun _ member => absurd member List.not_mem_nil, List.nil_prefix, fun units filled front => ?_⟩
      cases units with
      | nil => exact List.nil_prefix
      | cons unit others =>
          have pair := body_pair data stop pos hi lo room high low
          obtain ⟨first, second, rest, shape, length, nonempty, _, behind⟩ := units_front _ _ filled front unit others rfl
          rw [pair] at shape
          cases shape
          have positive := List.length_pos_of_ne_nil nonempty
          have room := behind.length_le
          simp only [List.length_append, List.length_drop, List.length_take] at room
          omega
  | unit pos hi lo nal later room high low fits copied rest ih =>
      obtain ⟨filled, front, longest⟩ := ih
      have pair := body_pair data stop pos hi lo room high low
      obtain ⟨split, length⟩ := body_unit data stop (pos + 2) _ nal inside (by omega) copied
      have whole : (data.take stop).drop pos = aggregate nal ++ (data.take stop).drop (pos + 2 + (hi.toNat * 256 + lo.toNat)) := by
        rw [pair, split, aggregate, length, be16_bytes]
        rfl
      refine ⟨?_, ?_, fun units unitsFilled unitsFront => ?_⟩
      · intro unit member
        rcases List.mem_cons.mp member with rfl | member
        · have high := hi.toNat_lt
          have low := lo.toNat_lt
          exact ⟨List.ne_nil_of_length_pos (by omega), by omega⟩
        · exact filled unit member
      · rw [whole, List.flatMap_cons]
        exact List.prefix_append_right_inj _ |>.mpr front
      · cases units with
        | nil => exact List.nil_prefix
        | cons unit others =>
            obtain ⟨first, second, tail, shape, size, _, othersFilled, behind⟩ :=
              units_front _ _ unitsFilled unitsFront unit others rfl
            rw [pair] at shape
            cases shape
            rw [split] at behind
            obtain ⟨extra, joined⟩ := behind
            rw [List.append_assoc] at joined
            obtain ⟨rfl, further⟩ := List.append_inj joined (by omega)
            exact List.cons_prefix_cons.mpr ⟨rfl, longest others othersFilled ⟨extra, further⟩⟩

theorem filled_sized (nals : List Bytes) (filled : Filled nals) : Sized nals := by
  intro nal member
  obtain ⟨nonempty, bounded⟩ := filled nal member
  exact ⟨List.length_pos_of_ne_nil nonempty, by omega⟩

-- An aggregation packet at this place of the read buffer.
theorem handle_stap_a_units (dec : VideoDecoder) (data : Bytes) (offset length : Nat) (some : 1 ≤ length)
    (inside : offset + length ≤ data.length) :
    ∃ nals, handleStapA dec data offset length = Option.some (dec, nals) ∧ StapRun data (offset + length) (offset + 1) nals ∧
      LongestUnits (((data.drop offset).take length).drop 1) nals := by
  obtain ⟨nals, run⟩ := stap_run_exists data (offset + length) inside length (offset + 1) (by omega)
  have longest := stap_run_longest data _ _ nals inside run
  have body : (data.take (offset + length)).drop (offset + 1) = ((data.drop offset).take length).drop 1 := by
    rw [List.drop_take, List.drop_take, List.drop_drop]
    congr 1
    omega
  rw [body] at longest
  refine ⟨nals, ?_, run, longest⟩
  rw [handleStapA, stap_loop_run data _ _ length nals run (by omega)]
  rfl

theorem feed_fed (dec : VideoDecoder) (data : Bytes) (offset length : Nat) (marker : Bool) (intact : Intact dec)
    (inside : offset + length ≤ data.length) (bounded : length ≤ 65535) : Fed (feedRtpPayload dec data offset length marker) := by
  rw [feedRtpPayload]
  by_cases short : length < 1
  · rw [if_pos short]
    exact ⟨dec, [], rfl, intact, sized_nil⟩
  · rw [if_neg short, List.getElem?_eq_getElem (by omega : offset < data.length)]
    dsimp only
    split
    · exact handle_fu_a_fed data offset length dec marker intact inside bounded
    · split
      · obtain ⟨nals, handled, _, filled, _⟩ := handle_stap_a_units dec data offset length (by omega) inside
        exact ⟨dec, nals, handled, intact, filled_sized nals filled⟩
      · rw [arraycopy_new data offset length inside]
        refine ⟨dec, _, rfl, intact, sized_single _ ?_ ?_⟩
        · rw [List.length_take, List.length_drop]
          omega
        · rw [List.length_take]
          omega

theorem header_length_found (buf : Bytes) (frameLen : Nat) (flags : UInt8) (held : frameLen ≤ buf.length) :
    ∃ hdrLen, headerLength buf frameLen flags = some hdrLen := by
  rw [headerLength]
  split
  · rename_i extended
    rw [List.getElem?_eq_getElem (by omega), List.getElem?_eq_getElem (by omega)]
    exact ⟨_, rfl⟩
  · exact ⟨_, rfl⟩

def RtpEvent.Within (size : Nat) : RtpEvent → Prop
  | .video offset length _ _ => offset + length = size ∧ length ≤ size
  | .audio offset length _ => offset + length = size ∧ length ≤ size

-- Whatever stands in the frame, its payload is looked for inside it.
theorem dispatch_within (channel : UInt8) (buf : Bytes) (frameLen : Nat) (long : 12 ≤ frameLen) (held : frameLen ≤ buf.length) :
    ∃ event, dispatchRtpFrame channel buf frameLen = some event ∧ ∀ found ∈ event, found.Within frameLen := by
  have byte (index : Nat) (early : index < 12) : ∃ value, buf[index]? = some value := ⟨_, List.getElem?_eq_getElem (by omega)⟩
  obtain ⟨flags, first⟩ := byte 0 (by decide)
  obtain ⟨second, marked⟩ := byte 1 (by decide)
  obtain ⟨a, four⟩ := byte 4 (by decide)
  obtain ⟨b, five⟩ := byte 5 (by decide)
  obtain ⟨c, six⟩ := byte 6 (by decide)
  obtain ⟨d, seven⟩ := byte 7 (by decide)
  obtain ⟨hdrLen, header⟩ := header_length_found buf frameLen flags held
  rw [dispatchRtpFrame, first, marked, readTimestamp, four, five, six, seven]
  dsimp only
  rw [header, Option.map_some]
  by_cases short : frameLen ≤ hdrLen
  · exact ⟨none, by rw [if_pos short], fun _ member => (by cases member)⟩
  · have bounds : hdrLen + (frameLen - hdrLen) = frameLen ∧ frameLen - hdrLen ≤ frameLen := by omega
    rw [if_neg short]
    split
    · exact ⟨_, rfl, fun found member => Option.mem_some.mp member ▸ bounds⟩
    · split
      · exact ⟨_, rfl, fun found member => Option.mem_some.mp member ▸ bounds⟩
      · exact ⟨none, rfl, fun _ member => (by cases member)⟩

structure Safe (state : ReadState) : Prop where
  buffer : state.buf.length = bufSize
  decoder : Intact state.screen.decoder
  nals : Sized state.screen.nals

theorem deliver_safe (screen : Screen) (buf : Bytes) (event : Option RtpEvent) (size : Nat) (held : size ≤ buf.length)
    (bounded : size ≤ 65535) (within : ∀ found ∈ event, found.Within size) (intact : Intact screen.decoder)
    (sized : Sized screen.nals) :
    ∃ next, deliver screen buf event = some next ∧ Intact next.decoder ∧ Sized next.nals := by
  cases event with
  | none => exact ⟨screen, rfl, intact, sized⟩
  | some found =>
      cases found with
      | audio offset length timestamp => exact ⟨_, rfl, intact, sized⟩
      | video offset length timestamp marker =>
          obtain ⟨ends, short⟩ : offset + length = size ∧ length ≤ size := within _ rfl
          obtain ⟨next, nals, fed, kept, added⟩ := feed_fed screen.decoder buf offset length marker intact (by omega) (by omega)
          refine ⟨{ screen with decoder := next, nals := screen.nals ++ nals }, by rw [deliver, onVideoRtp, fed]; rfl, kept, ?_⟩
          intro nal member
          rcases List.mem_append.mp member with old | fresh
          · exact sized nal old
          · exact added nal fresh

theorem read_fully_loop_length (pick : Nat → Nat) (fuel : Nat) (input rest : Input) (remaining : Nat) (got whole : Bytes)
    (enough : remaining < fuel) (read : readFullyLoop pick fuel input remaining got = some (whole, rest)) :
    whole.length = got.length + remaining := by
  induction fuel generalizing input remaining got with
  | zero => omega
  | succ fuel ih =>
      by_cases done : remaining = 0
      · rw [readFullyLoop, if_pos done] at read
        cases read
        omega
      · rw [readFullyLoop, if_neg done] at read
        by_cases more : input.bytes = []
        · rw [readSome, if_pos more] at read
          cases read
        · obtain ⟨part, later, taken, _, some, bounded⟩ := read_some_parts pick input remaining (by omega) more
          rw [taken] at read
          have longer := ih later (remaining - part.length) (got ++ part) (by omega) read
          rw [List.length_append] at longer
          omega

def Uneventful (result : ReadState × Option Ending) : Prop := Safe result.1 ∧ result.2 ≠ some .indexOutOfBounds

theorem read_frame_safe (pick : Nat → Nat) (state : ReadState) (channel : UInt8) (frameLen : Nat) (safe : Safe state)
    (long : 12 ≤ frameLen) (bounded : frameLen ≤ 65535) : Uneventful (readFrame pick state channel frameLen) := by
  rw [readFrame]
  cases read : readFully pick state.input frameLen with
  | none => exact ⟨safe, by simp⟩
  | some result =>
      obtain ⟨data, input⟩ := result
      have length := read_fully_loop_length pick _ _ _ _ _ _ (Nat.lt_succ_self _) read
      rw [List.length_nil, Nat.zero_add] at length
      have size : (overlay state.buf data).length = bufSize := by
        have buffer := safe.buffer
        rw [bufSize] at buffer ⊢
        rw [overlay, List.length_append, List.length_drop]
        omega
      dsimp only
      obtain ⟨event, dispatched, within⟩ := dispatch_within channel (overlay state.buf data) frameLen long (by rw [size, bufSize]; omega)
      obtain ⟨screen, delivered, intact, sized⟩ := deliver_safe state.screen (overlay state.buf data) event frameLen
        (by rw [size, bufSize]; omega) bounded within safe.decoder safe.nals
      rw [dispatched, Option.bind_some, delivered]
      exact ⟨⟨size, intact, sized⟩, by simp⟩

theorem read_turn_safe (pick : Nat → Nat) (state : ReadState) (safe : Safe state) : Uneventful (readTurn pick state) := by
  rw [readTurn]
  cases bytes : state.input.bytes with
  | nil => exact ⟨safe, by simp⟩
  | cons first rest =>
      have moved : Safe { state with input.bytes := rest } := ⟨safe.buffer, safe.decoder, safe.nals⟩
      dsimp only
      split
      · rw [readInterleaved]
        dsimp only
        split
        · rename_i channel hi lo later
          have high := hi.toNat_lt
          have low := lo.toNat_lt
          split
          · exact ⟨⟨safe.buffer, safe.decoder, safe.nals⟩, by simp⟩
          · rename_i inRange
            split
            · exact ⟨⟨safe.buffer, safe.decoder, safe.nals⟩, by simp⟩
            · exact read_frame_safe pick _ channel _ ⟨safe.buffer, safe.decoder, safe.nals⟩ (by omega) (by omega)
        · exact ⟨⟨safe.buffer, safe.decoder, safe.nals⟩, by simp⟩
      · split
        · exact ⟨⟨safe.buffer, safe.decoder, safe.nals⟩, by simp⟩
        · exact ⟨moved, by simp⟩

theorem read_loop_from_safe (pick : Nat → Nat) (fuel : Nat) (state : ReadState) (safe : Safe state) :
    Safe (readLoopFrom pick fuel state).1 ∧ (readLoopFrom pick fuel state).2 ≠ .indexOutOfBounds := by
  induction fuel generalizing state with
  | zero => exact ⟨safe, by simp [readLoopFrom]⟩
  | succ fuel ih =>
      obtain ⟨kept, bounds⟩ := read_turn_safe pick state safe
      rw [readLoopFrom]
      cases turned : readTurn pick state with
      | mk next ending =>
          rw [turned] at kept bounds
          cases ending with
          | none => exact ih next kept
          | some ending => exact ⟨kept, fun same => bounds (congrArg some same)⟩

theorem turns_safe (pick : Nat → Nat) (state last : ReadState) (turns : Turns pick state last) (safe : Safe state) : Safe last := by
  induction turns with
  | refl => exact safe
  | tail _ turned ih =>
      have kept := (read_turn_safe pick _ ih).1
      rw [turned] at kept
      exact kept

theorem start_safe (bytes : Bytes) : Safe { input := ⟨bytes, 0⟩ } := ⟨by simp [newArray], intact_empty, sized_nil⟩

theorem depacketiser_robust (pick : Nat → Nat) (bytes : Bytes) :
    (readLoop pick bytes {}).2 ≠ .indexOutOfBounds ∧
    (∀ state, Turns pick { input := ⟨bytes, 0⟩ } state →
      (readTurn pick state).2 ≠ some .indexOutOfBounds ∧
      (state.screen.decoder.fuBuffer ≠ none → 1 ≤ state.screen.decoder.fuOffset ∧ state.screen.decoder.fuOffset ≤ 65536) ∧
      ∀ nal ∈ state.screen.nals, 1 ≤ nal.length ∧ nal.length ≤ 65536) ∧
    ∀ (screen : Screen) (data : Bytes) (offset length : Nat) (marker : Bool) (header : UInt8),
      1 ≤ length → offset + length ≤ data.length → data[offset]? = some header → header &&& 0x1F = 24 →
      ∃ nals, onVideoRtp screen data offset length marker = some { screen with nals := screen.nals ++ nals } ∧
        StapRun data (offset + length) (offset + 1) nals ∧ LongestUnits (((data.drop offset).take length).drop 1) nals := by
  refine ⟨(read_loop_from_safe pick _ _ (start_safe bytes)).2, fun state turns => ?_, ?_⟩
  · have safe := turns_safe pick _ state turns (start_safe bytes)
    exact ⟨(read_turn_safe pick state safe).2, safe.decoder.offset, safe.nals⟩
  · intro screen data offset length marker header some inside first stapA
    obtain ⟨nals, handled, run, longest⟩ := handle_stap_a_units screen.decoder data offset length some inside
    refine ⟨nals, ?_, run, longest⟩
    rw [onVideoRtp, feedRtpPayload, if_neg (by omega), first]
    dsimp only
    rw [if_neg (by rw [stapA]; decide), if_pos stapA, handled]
    rfl

end Intercom.Android
