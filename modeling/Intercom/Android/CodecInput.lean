import Intercom.Android.Decoder
import Intercom.Lib.History

set_option autoImplicit false

/- What the codecs of VideoDecoder.kt are given: their buffers, in order, and the presentation times. -/
namespace Intercom.Android.Decoding

open ByteText

def Note.sumsBefore (thread : Nat) : Note → Bool
  | .counted earlier => decide (earlier < thread)
  | _ => false

def Note.resets (thread : Nat) : Note → Bool
  | .reset feeder => feeder == thread
  | _ => false

-- Whether the thread of an earlier codec has written its sum to framePtsUs since start set it to 0 for this one.
def overwritten (thread : Nat) (log : List Note) : Bool := History.raised (Note.sumsBefore thread) (Note.resets thread) log

def InOrder (pc : LoopPc) (taken : List Bytes) (given : List (Bytes × Nat)) : Prop :=
  ∃ nals, given.map Prod.fst = nals.map addStartCode ∧ (nals ++ pc.held).Sublist taken

def Evenly (given : List (Bytes × Nat)) : Prop := given.map Prod.snd = (List.range given.length).map (· * frameUs)

def ControlPc.opens : ControlPc → Bool
  | .created | .marked | .reset => true
  | _ => false

-- At most the thread that was started last has a codec that is not released.
structure Owned (dec : Decoder) : Prop where
  unstarted : ∀ thread, dec.started ≤ thread → (dec.feeders thread).pc = .ended
  live : ∀ thread, thread < dec.started → (dec.feeders thread).released = false →
    dec.feedThread = some thread ∧ thread + 1 = dec.started
  parked : dec.running = false → dec.control = .idle → dec.feedThread = none
  opening : dec.control.opens = true → dec.feedThread = none
  marked : dec.control = .marked ∨ dec.control = .reset → dec.running = true

structure Fed (dec : Decoder) (log : List Note) : Prop where
  unfed : ∀ thread, dec.started ≤ thread → inputs thread log = []
  order : ∀ thread, InOrder (dec.feeders thread).pc (takenBy thread log) (inputs thread log)
  even : ∀ thread, overwritten thread log = false → Evenly (inputs thread log)
  timed : ∀ thread, thread < dec.started → (dec.feeders thread).released = false → overwritten thread log = false →
    Timed dec.framePtsUs ((inputs thread log).length * frameUs) (dec.feeders thread).pc
  begun : dec.control = .reset → overwritten dec.started log = false → dec.framePtsUs = 0

@[simp] theorem overwritten_snoc (thread : Nat) (log : List Note) (note : Note) :
    overwritten thread (log ++ [note]) =
      if note.sumsBefore thread then true else if note.resets thread then false else overwritten thread log :=
  History.raised_snoc _ _ log note

theorem overwritten_append (thread : Nat) (log more : List Note)
    (quiet : ∀ note ∈ more, note.sumsBefore thread = false ∧ note.resets thread = false) :
    overwritten thread (log ++ more) = overwritten thread log := by
  induction more using List.reverseRecOn with
  | nil => rw [List.append_nil]
  | append_singleton more note ih =>
      obtain ⟨unsummed, unreset⟩ := quiet note (by simp)
      rw [← List.append_assoc, overwritten_snoc, unsummed, unreset]
      exact ih fun early member => quiet early (List.mem_append_left _ member)

theorem in_order_moved (pc next : LoopPc) (taken : List Bytes) (given : List (Bytes × Nat)) (order : InOrder pc taken given)
    (held : next.held.Sublist pc.held) : InOrder next taken given := by
  obtain ⟨nals, bytes, sub⟩ := order
  exact ⟨nals, bytes, ((List.Sublist.refl nals).append held).trans sub⟩

theorem in_order_taken (nal : Bytes) (taken : List Bytes) (given : List (Bytes × Nat)) (order : InOrder .polling taken given) :
    InOrder (.holding nal) (taken ++ [nal]) given := by
  obtain ⟨nals, bytes, sub⟩ := order
  have earlier : nals.Sublist taken := by simpa [LoopPc.held] using sub
  exact ⟨nals, bytes, earlier.append (List.Sublist.refl [nal])⟩

theorem in_order_fed (nal : Bytes) (ptsUs : Nat) (taken : List Bytes) (given : List (Bytes × Nat))
    (order : InOrder (.queueing nal ptsUs) taken given) : InOrder .counting taken (given ++ [(addStartCode nal, ptsUs)]) := by
  obtain ⟨nals, bytes, sub⟩ := order
  refine ⟨nals ++ [nal], by simp [bytes], ?_⟩
  simpa [LoopPc.held] using sub

theorem in_order_nothing (pc : LoopPc) (taken : List Bytes) (idle : pc.held = []) : InOrder pc taken [] := by
  refine ⟨[], rfl, ?_⟩
  rw [idle]
  exact List.nil_sublist taken

theorem evenly_fed (given : List (Bytes × Nat)) (buffer : Bytes) (even : Evenly given) :
    Evenly (given ++ [(buffer, given.length * frameUs)]) := by
  rw [Evenly, List.map_append, even, List.length_append, List.length_singleton, List.range_succ, List.map_append]
  rfl

theorem owned_initial : Owned {} := by
  refine ⟨fun _ _ => rfl, ?_, fun _ _ => rfl, fun _ => rfl, ?_⟩
  · intro thread impossible
    exact absurd impossible (Nat.not_lt_zero thread)
  · rintro (opens | opens) <;> cases opens

theorem fed_initial : Fed {} [] := by
  refine ⟨fun _ _ => rfl, fun _ => in_order_nothing _ _ rfl, fun _ _ => rfl, ?_, ?_⟩
  · intro thread impossible
    exact absurd impossible (Nat.not_lt_zero thread)
  · intro opens
    cases opens

theorem owned_started (dec : Decoder) (thread : Nat) (owned : Owned dec) (going : (dec.feeders thread).pc ≠ .ended) :
    thread < dec.started := by
  by_contra beyond
  exact going (owned.unstarted thread (Nat.le_of_not_lt beyond))

-- A step that at most interrupts a thread or releases its codec.
theorem owned_frame (dec next : Decoder) (owned : Owned dec)
    (same : ∀ thread, (next.feeders thread).pc = (dec.feeders thread).pc ∧
      ((next.feeders thread).released = false → (dec.feeders thread).released = false ∧ next.feedThread = dec.feedThread))
    (started : next.started = dec.started) (parked : next.running = false → next.control = .idle → next.feedThread = none)
    (opening : next.control.opens = true → next.feedThread = none)
    (marked : next.control = .marked ∨ next.control = .reset → next.running = true) : Owned next := by
  refine ⟨?_, ?_, parked, opening, marked⟩
  · intro thread beyond
    rw [(same thread).1]
    exact owned.unstarted thread (started ▸ beyond)
  · intro thread within unreleased
    obtain ⟨before, named⟩ := (same thread).2 unreleased
    rw [named, started]
    exact owned.live thread (started ▸ within) before

-- Such a step, where it leaves framePtsUs alone and notes nothing of the codecs.
theorem fed_frame (dec next : Decoder) (log more : List Note) (kept : Fed dec log)
    (same : ∀ thread, (next.feeders thread).pc = (dec.feeders thread).pc ∧
      ((next.feeders thread).released = false → (dec.feeders thread).released = false))
    (started : next.started = dec.started) (pts : next.framePtsUs = dec.framePtsUs)
    (begun : next.control = .reset → dec.control = .reset)
    (quiet : ∀ thread, inputs thread more = [] ∧ takenBy thread more = [])
    (unsummed : ∀ thread, overwritten thread (log ++ more) = overwritten thread log) : Fed next (log ++ more) := by
  refine ⟨?_, ?_, ?_, ?_, ?_⟩
  · intro thread beyond
    rw [inputs_append, (quiet thread).1, List.append_nil]
    exact kept.unfed thread (started ▸ beyond)
  · intro thread
    rw [inputs_append, taken_by_append, (quiet thread).1, (quiet thread).2, List.append_nil, List.append_nil, (same thread).1]
    exact kept.order thread
  · intro thread
    rw [unsummed, inputs_append, (quiet thread).1, List.append_nil]
    exact kept.even thread
  · intro thread within unreleased
    rw [unsummed, inputs_append, (quiet thread).1, List.append_nil, (same thread).1, pts]
    exact kept.timed thread (started ▸ within) ((same thread).2 unreleased)
  · intro opens
    rw [unsummed, started, pts]
    exact kept.begun (begun opens)

theorem fed_still (dec next : Decoder) (log : List Note) (kept : Fed dec log) (feeders : next.feeders = dec.feeders)
    (started : next.started = dec.started) (pts : next.framePtsUs = dec.framePtsUs)
    (begun : next.control = .reset → dec.control = .reset) : Fed next (log ++ []) := by
  apply fed_frame dec next log [] kept ?_ started pts begun (fun _ => ⟨rfl, rfl⟩)
  · simp
  · simp [feeders]

theorem owned_moved (dec next : Decoder) (thread : Nat) (feeder : Feeder) (owned : Owned dec)
    (feeders : next.feeders = Function.update dec.feeders thread feeder) (started : next.started = dec.started)
    (feedThread : next.feedThread = dec.feedThread) (running : next.running = dec.running) (control : next.control = dec.control)
    (going : (dec.feeders thread).pc ≠ .ended) (same : feeder.released = (dec.feeders thread).released) : Owned next := by
  have within := owned_started dec thread owned going
  refine ⟨?_, ?_, ?_, ?_, ?_⟩
  · intro other beyond
    rw [started] at beyond
    have away : other ≠ thread := by omega
    rw [feeders, Function.update_of_ne away]
    exact owned.unstarted other beyond
  · intro other inside
    rw [started] at inside ⊢
    rw [feedThread, feeders]
    by_cases here : other = thread
    · subst here
      rw [Function.update_self, same]
      exact owned.live other inside
    · rw [Function.update_of_ne here]
      exact owned.live other inside
  · rw [running, control, feedThread]
    exact owned.parked
  · rw [control, feedThread]
    exact owned.opening
  · rw [control, running]
    exact owned.marked

theorem fed_moved (dec next : Decoder) (log more : List Note) (thread : Nat) (feeder : Feeder) (owned : Owned dec)
    (kept : Fed dec log) (feeders : next.feeders = Function.update dec.feeders thread feeder) (started : next.started = dec.started)
    (control : next.control = dec.control) (pts : next.framePtsUs = dec.framePtsUs) (going : (dec.feeders thread).pc ≠ .ended)
    (unsummed : ∀ other, overwritten other (log ++ more) = overwritten other log)
    (others : ∀ other, other ≠ thread → inputs other more = [] ∧ takenBy other more = [])
    (order : InOrder feeder.pc (takenBy thread log ++ takenBy thread more) (inputs thread log ++ inputs thread more))
    (even : overwritten thread log = false → Evenly (inputs thread log ++ inputs thread more))
    (timed : feeder.released = false → overwritten thread log = false →
      Timed dec.framePtsUs ((inputs thread log ++ inputs thread more).length * frameUs) feeder.pc) : Fed next (log ++ more) := by
  have within := owned_started dec thread owned going
  refine ⟨?_, ?_, ?_, ?_, ?_⟩
  · intro other beyond
    rw [started] at beyond
    have away : other ≠ thread := by omega
    rw [inputs_append, (others other away).1, List.append_nil]
    exact kept.unfed other beyond
  · intro other
    rw [inputs_append, taken_by_append, feeders]
    by_cases here : other = thread
    · subst here
      rwa [Function.update_self]
    · rw [Function.update_of_ne here, (others other here).1, (others other here).2, List.append_nil, List.append_nil]
      exact kept.order other
  · intro other
    rw [unsummed, inputs_append]
    by_cases here : other = thread
    · subst here
      exact even
    · rw [(others other here).1, List.append_nil]
      exact kept.even other
  · intro other inside
    rw [unsummed, inputs_append, feeders, pts]
    by_cases here : other = thread
    · subst here
      rwa [Function.update_self]
    · rw [Function.update_of_ne here, (others other here).1, List.append_nil]
      exact kept.timed other (started ▸ inside)
  · rw [control, unsummed, started, pts]
    exact kept.begun

theorem fed_go (dec : Decoder) (log : List Note) (thread : Nat) (pc : LoopPc) (owned : Owned dec) (kept : Fed dec log)
    (passes : Passes dec.framePtsUs (dec.feeders thread).pc pc) : Fed (dec.go thread pc) (log ++ []) := by
  have within := owned_started dec thread owned passes.going
  refine fed_moved dec _ log [] thread _ owned kept rfl rfl rfl rfl passes.going (by simp) (fun _ _ => ⟨rfl, rfl⟩) ?_ ?_ ?_
  · rw [inputs_nil, taken_by_nil, List.append_nil, List.append_nil]
    exact in_order_moved _ pc _ _ (kept.order thread) passes.held
  · rw [inputs_nil, List.append_nil]
    exact kept.even thread
  · rw [inputs_nil, List.append_nil]
    exact fun unreleased clean => passes.timed _ (kept.timed thread within unreleased clean)

theorem owned_go (dec : Decoder) (thread : Nat) (pc : LoopPc) (owned : Owned dec) (going : (dec.feeders thread).pc ≠ .ended) :
    Owned (dec.go thread pc) :=
  owned_moved dec _ thread _ owned rfl rfl rfl rfl rfl going rfl

theorem owned_codec_call (dec : Decoder) (thread : Nat) (pc : LoopPc) (owned : Owned dec)
    (going : (dec.feeders thread).pc ≠ .ended) : Owned (dec.codecCall thread pc) := by
  unfold Decoder.codecCall
  split
  case isTrue =>
    exact owned_frame dec _ owned (fun _ => ⟨rfl, fun unreleased => ⟨unreleased, rfl⟩⟩) rfl owned.parked owned.opening owned.marked
  case isFalse => exact owned_go dec thread pc owned going

theorem fed_codec_call (dec : Decoder) (log : List Note) (thread : Nat) (pc : LoopPc) (owned : Owned dec) (kept : Fed dec log)
    (passes : Passes dec.framePtsUs (dec.feeders thread).pc pc) : Fed (dec.codecCall thread pc) (log ++ []) := by
  unfold Decoder.codecCall
  split
  case isTrue => exact fed_still dec _ log kept rfl rfl rfl id
  case isFalse => exact fed_go dec log thread pc owned kept passes

theorem taking_fed (dec : Decoder) (log : List Note) (thread : Nat) (nal : Bytes) (rest : List Bytes) (owned : Owned dec)
    (kept : Fed dec log) (polls : (dec.feeders thread).pc = .polling) :
    Fed { dec.go thread (.holding nal) with nalQueue := rest } (log ++ [.left (.taken thread) nal]) := by
  have going : (dec.feeders thread).pc ≠ .ended := by simp [polls]
  have within := owned_started dec thread owned going
  have took : takenBy thread [.left (.taken thread) nal] = [nal] := by simp [takenBy, departures, Note.leaves]
  have unfed : inputs thread [.left (.taken thread) nal] = [] := rfl
  refine fed_moved dec _ log _ thread _ owned kept rfl rfl rfl rfl going ?_ ?_ ?_ ?_ ?_
  · exact fun other => overwritten_append other log _ (by simp [Note.sumsBefore, Note.resets])
  · intro other away
    exact ⟨rfl, by simp [takenBy, departures, Note.leaves, away.symm]⟩
  · rw [took, unfed, List.append_nil]
    exact in_order_taken nal _ _ (polls ▸ kept.order thread)
  · rw [unfed, List.append_nil]
    exact kept.even thread
  · rw [unfed, List.append_nil]
    intro unreleased clean
    simpa [polls, Timed] using kept.timed thread within unreleased clean

theorem queue_input_fed (dec : Decoder) (log : List Note) (thread : Nat) (nal : Bytes) (ptsUs : Nat) (owned : Owned dec)
    (kept : Fed dec log) (queues : (dec.feeders thread).pc = .queueing nal ptsUs) :
    Fed (queueInput dec thread nal ptsUs).1 (log ++ (queueInput dec thread nal ptsUs).2) := by
  have going : (dec.feeders thread).pc ≠ .ended := by simp [queues]
  have within := owned_started dec thread owned going
  by_cases past : (dec.feeders thread).released = true
  · simp only [queueInput, Decoder.codecCall, past, if_true]
    exact fed_still dec _ log kept rfl rfl rfl id
  · simp only [queueInput, Decoder.codecCall, past, Bool.false_eq_true, if_false]
    have given : inputs thread [.fed thread (addStartCode nal) ptsUs] = [(addStartCode nal, ptsUs)] := by
      simp [inputs, Note.feeds]
    have untaken : takenBy thread [.fed thread (addStartCode nal) ptsUs] = [] := rfl
    have due : overwritten thread log = false →
        ptsUs = (inputs thread log).length * frameUs ∧ dec.framePtsUs = (inputs thread log).length * frameUs := by
      intro clean
      simpa only [queues, Timed] using kept.timed thread within (Bool.eq_false_iff.mpr past) clean
    refine fed_moved dec _ log _ thread _ owned kept rfl rfl rfl rfl going ?_ ?_ ?_ ?_ ?_
    · exact fun other => overwritten_append other log _ (by simp [Note.sumsBefore, Note.resets])
    · intro other away
      exact ⟨by simp [inputs, Note.feeds, away.symm], rfl⟩
    · rw [given, untaken, List.append_nil]
      exact in_order_fed nal ptsUs _ _ (queues ▸ kept.order thread)
    · intro clean
      rw [given, (due clean).1]
      exact evenly_fed _ _ (kept.even thread clean)
    · intro _ clean
      rw [given, List.length_append, List.length_singleton, Nat.add_mul, Nat.one_mul]
      simp [Timed, (due clean).2]

-- A thread that writes its sum is either the one that was started last or one of an earlier codec.
theorem adding_fed (dec : Decoder) (log : List Note) (thread ptsUs : Nat) (owned : Owned dec) (kept : Fed dec log)
    (adds : (dec.feeders thread).pc = .adding ptsUs) :
    Fed { dec.go thread .draining with framePtsUs := ptsUs + frameUs } (log ++ [.counted thread]) := by
  have going : (dec.feeders thread).pc ≠ .ended := by simp [adds]
  have within := owned_started dec thread owned going
  have summed : ∀ other, overwritten other (log ++ [.counted thread]) = false → ¬thread < other ∧ overwritten other log = false := by
    intro other
    simp only [overwritten_snoc, Note.sumsBefore, Note.resets, decide_eq_true_eq]
    split
    · intro dirty
      cases dirty
    · exact fun clean => ⟨‹_›, clean⟩
  have unfed : ∀ other, inputs other (log ++ [.counted thread]) = inputs other log := by
    intro other
    rw [inputs_append]
    exact List.append_nil _
  refine ⟨?_, ?_, ?_, ?_, ?_⟩
  · intro other beyond
    rw [unfed]
    exact kept.unfed other beyond
  · intro other
    have untaken : takenBy other [.counted thread] = [] := rfl
    rw [unfed, taken_by_append, untaken, List.append_nil]
    by_cases here : other = thread
    · subst here
      have order := kept.order other
      rw [adds] at order
      simpa [Decoder.go, Decoder.setFeeder] using in_order_moved _ .draining _ _ order (List.Sublist.refl [])
    · simpa [Decoder.go, Decoder.setFeeder, here] using kept.order other
  · intro other clean
    rw [unfed]
    exact kept.even other (summed other clean).2
  · intro other inside unreleased clean
    obtain ⟨last, before⟩ := summed other clean
    rw [unfed]
    by_cases here : other = thread
    · subst here
      have due := kept.timed other within (by simpa [Decoder.go, Decoder.setFeeder] using unreleased) before
      rw [adds] at due
      simpa [Decoder.go, Decoder.setFeeder, Timed] using due
    · have newest := owned.live other inside (by simpa [Decoder.go, Decoder.setFeeder, here] using unreleased)
      omega
  · intro _ clean
    exact absurd within (summed dec.started clean).1

theorem loop_owned (dec : Decoder) (thread : Nat) (answer : CodecAnswer) (owned : Owned dec) :
    Owned (decodingLoop dec thread answer).1 := by
  have turn := loop_cases dec thread answer
  generalize decodingLoop dec thread answer = turned at turn ⊢
  cases turn with
  | stays _ => exact owned
  | moves pc passes => exact owned_go dec thread pc owned passes.going
  | calls pc passes => exact owned_codec_call dec thread pc owned passes.going
  | takes nal rest polls _ => exact owned_moved dec _ thread _ owned rfl rfl rfl rfl rfl (by simp [polls]) rfl
  | queues nal ptsUs place => exact owned_codec_call dec thread .counting owned (by simp [place])
  | adds ptsUs place => exact owned_moved dec _ thread _ owned rfl rfl rfl rfl rfl (by simp [place]) rfl

theorem loop_fed (dec : Decoder) (log : List Note) (thread : Nat) (answer : CodecAnswer) (owned : Owned dec) (kept : Fed dec log) :
    Fed (decodingLoop dec thread answer).1 (log ++ (decodingLoop dec thread answer).2) := by
  have turn := loop_cases dec thread answer
  generalize decodingLoop dec thread answer = turned at turn ⊢
  cases turn with
  | stays _ => simpa using kept
  | moves pc passes => exact fed_go dec log thread pc owned kept passes
  | calls pc passes => exact fed_codec_call dec log thread pc owned kept passes
  | takes nal rest polls _ => exact taking_fed dec log thread nal rest owned kept polls
  | queues nal ptsUs place => exact queue_input_fed dec log thread nal ptsUs owned kept place
  | adds ptsUs place => exact adding_fed dec log thread ptsUs owned kept place

theorem start_owned (dec : Decoder) (created : Bool) (owned : Owned dec) : Owned (start dec created).1 := by
  have still : ∀ thread, (dec.feeders thread).pc = (dec.feeders thread).pc ∧
      ((dec.feeders thread).released = false → (dec.feeders thread).released = false ∧ dec.feedThread = dec.feedThread) :=
    fun _ => ⟨rfl, fun unreleased => ⟨unreleased, rfl⟩⟩
  cases place : dec.control with
  | idle =>
      simp only [start, place]
      split
      case isTrue => exact owned
      case isFalse opening =>
        have off : dec.running = false := by
          simp only [Bool.or_eq_true, not_or, Bool.not_eq_true] at opening
          exact opening.1
        have nobody := owned.parked off place
        exact owned_frame dec _ owned still rfl (fun _ idle => (by cases idle)) (fun _ => nobody) (by simp)
  | created =>
      have nobody := owned.opening (by simp [place, ControlPc.opens])
      simp only [start, place]
      exact owned_frame dec _ owned still rfl (fun off => (by cases off)) (fun _ => nobody) (fun _ => rfl)
  | marked =>
      have nobody := owned.opening (by simp [place, ControlPc.opens])
      have runs := owned.marked (.inl place)
      simp only [start, place]
      exact owned_frame dec _ owned still rfl (fun _ idle => (by cases idle)) (fun _ => nobody) (fun _ => runs)
  | reset =>
      have nobody := owned.opening (by simp [place, ControlPc.opens])
      have runs := owned.marked (.inr place)
      simp only [start, place]
      refine ⟨?_, ?_, ?_, fun opens => (by cases opens), fun marks => (by simp at marks)⟩
      · intro thread beyond
        have away : thread ≠ dec.started := Nat.ne_of_gt beyond
        simpa [Decoder.setFeeder, away] using owned.unstarted thread (Nat.le_of_succ_le beyond)
      · intro thread within unreleased
        by_cases here : thread = dec.started
        · exact ⟨congrArg some here.symm, congrArg (· + 1) here⟩
        · have inside : thread < dec.started := Nat.lt_of_le_of_ne (Nat.le_of_lt_succ within) here
          simp only [Decoder.setFeeder, Function.update_of_ne here] at unreleased
          have named := (owned.live thread inside unreleased).1
          rw [nobody] at named
          cases named
      · intro off
        have on : dec.running = false := off
        rw [runs] at on
        cases on
  | _ => simpa [start, place] using owned

theorem start_fed (dec : Decoder) (log : List Note) (created : Bool) (owned : Owned dec) (kept : Fed dec log) :
    Fed (start dec created).1 (log ++ (start dec created).2) := by
  cases place : dec.control with
  | idle =>
      simp only [start, place]
      split
      case isTrue => simpa using kept
      case isFalse => exact fed_still dec _ log kept rfl rfl rfl (fun reset => (by cases reset))
  | created =>
      simp only [start, place]
      exact fed_still dec _ log kept rfl rfl rfl (fun reset => (by cases reset))
  | marked =>
      have nobody := owned.opening (by simp [place, ControlPc.opens])
      have unfed : ∀ thread, inputs thread (log ++ [.reset dec.started]) = inputs thread log := by
        intro thread
        rw [inputs_append]
        exact List.append_nil _
      simp only [start, place]
      refine ⟨?_, ?_, ?_, ?_, fun _ _ => rfl⟩
      · intro thread beyond
        rw [unfed]
        exact kept.unfed thread beyond
      · intro thread
        have untaken : takenBy thread [.reset dec.started] = [] := rfl
        rw [unfed, taken_by_append, untaken, List.append_nil]
        exact kept.order thread
      · intro thread clean
        rw [unfed]
        by_cases here : thread = dec.started
        · rw [kept.unfed thread (Nat.le_of_eq here.symm)]
          rfl
        · apply kept.even thread
          simpa [Note.sumsBefore, Note.resets, Ne.symm here] using clean
      · intro thread within unreleased
        have named := (owned.live thread within unreleased).1
        rw [nobody] at named
        cases named
  | reset =>
      have nobody := owned.opening (by simp [place, ControlPc.opens])
      simp only [start, place, List.append_nil]
      refine ⟨?_, ?_, kept.even, ?_, fun reset => (by cases reset)⟩
      · exact fun thread beyond => kept.unfed thread (Nat.le_of_succ_le beyond)
      · intro thread
        by_cases here : thread = dec.started
        · subst here
          rw [kept.unfed dec.started (Nat.le_refl _)]
          exact in_order_nothing _ _ (by simp [Decoder.setFeeder, LoopPc.held])
        · simpa [Decoder.setFeeder, here] using kept.order thread
      · intro thread within unreleased clean
        by_cases here : thread = dec.started
        · subst here
          simpa [Decoder.setFeeder, kept.unfed dec.started (Nat.le_refl _), Timed] using kept.begun place clean
        · have inside : thread < dec.started := Nat.lt_of_le_of_ne (Nat.le_of_lt_succ within) here
          simp only [Decoder.setFeeder, Function.update_of_ne here] at unreleased
          have named := (owned.live thread inside unreleased).1
          rw [nobody] at named
          cases named
  | _ => simpa [start, place] using kept

theorem interrupt_feeders (dec : Decoder) (thread : Nat) :
    (dec.interrupt.feeders thread).pc = (dec.feeders thread).pc ∧
      (dec.interrupt.feeders thread).released = (dec.feeders thread).released ∧ dec.interrupt.feedThread = dec.feedThread ∧
      dec.interrupt.started = dec.started ∧ dec.interrupt.framePtsUs = dec.framePtsUs ∧ dec.interrupt.running = dec.running := by
  unfold Decoder.interrupt
  split
  next => exact ⟨rfl, rfl, rfl, rfl, rfl, rfl⟩
  next current _ =>
    by_cases here : thread = current <;> simp [Decoder.setFeeder, here]

theorem release_feeders (dec : Decoder) (thread : Nat) :
    (dec.release.feeders thread).pc = (dec.feeders thread).pc ∧
      ((dec.release.feeders thread).released = false →
        (dec.feeders thread).released = false ∧ dec.feedThread ≠ some thread) ∧ dec.release.feedThread = none ∧
      dec.release.started = dec.started ∧ dec.release.framePtsUs = dec.framePtsUs ∧ dec.release.control = .idle := by
  unfold Decoder.release
  split
  next nobody => simp [nobody]
  next current named =>
    by_cases here : thread = current
    · simp [Decoder.setFeeder, here]
    · simp [Decoder.setFeeder, here, named, Ne.symm here]

theorem release_owned (dec : Decoder) (owned : Owned dec) : Owned dec.release := by
  have parked := (release_feeders dec 0).2.2.1
  obtain ⟨started, _, idle⟩ := (release_feeders dec 0).2.2.2
  refine ⟨?_, ?_, fun _ _ => parked, ?_, ?_⟩
  · intro thread beyond
    rw [(release_feeders dec thread).1]
    exact owned.unstarted thread (started ▸ beyond)
  · intro thread within unreleased
    obtain ⟨before, unnamed⟩ := (release_feeders dec thread).2.1 unreleased
    exact absurd (owned.live thread (started ▸ within) before).1 unnamed
  · exact fun _ => parked
  · rw [idle]
    rintro (marks | marks) <;> cases marks

theorem stop_owned (dec : Decoder) (timedOut : Bool) (owned : Owned dec) : Owned (stop dec timedOut).1 := by
  have still : ∀ thread, (dec.feeders thread).pc = (dec.feeders thread).pc ∧
      ((dec.feeders thread).released = false → (dec.feeders thread).released = false ∧ dec.feedThread = dec.feedThread) :=
    fun _ => ⟨rfl, fun unreleased => ⟨unreleased, rfl⟩⟩
  cases place : dec.control with
  | idle =>
      simp only [stop, place]
      exact owned_frame dec _ owned still rfl (fun _ idle => (by cases idle)) (fun opens => (by cases opens)) (by simp)
  | halted =>
      simp only [stop, place]
      exact owned_frame dec _ owned still rfl (fun _ idle => (by cases idle)) (fun opens => (by cases opens)) (by simp)
  | cleared =>
      simp only [stop, place]
      refine owned_frame dec _ owned ?_ (interrupt_feeders dec 0).2.2.2.1 (fun _ idle => (by cases idle))
        (fun opens => (by cases opens)) (by simp)
      intro thread
      obtain ⟨pc, released, named, -⟩ := interrupt_feeders dec thread
      exact ⟨pc, fun unreleased => ⟨released ▸ unreleased, named⟩⟩
  | joining =>
      simp only [stop, place]
      split
      case isTrue => exact owned_frame dec _ owned still rfl (fun _ idle => (by cases idle)) (fun opens => (by cases opens)) (by simp)
      case isFalse => exact owned
  | joined =>
      simp only [stop, place]
      exact release_owned dec owned
  | _ => simpa [stop, place] using owned

theorem stop_fed (dec : Decoder) (log : List Note) (timedOut : Bool) (kept : Fed dec log) :
    Fed (stop dec timedOut).1 (log ++ (stop dec timedOut).2) := by
  cases place : dec.control with
  | idle =>
      simp only [stop, place]
      exact fed_still dec _ log kept rfl rfl rfl (fun reset => (by cases reset))
  | halted =>
      simp only [stop, place]
      refine fed_frame dec _ log _ kept (fun _ => ⟨rfl, id⟩) rfl rfl (fun reset => (by cases reset)) ?_ ?_
      · intro thread
        obtain ⟨_, unfed, untaken, _⟩ := cleared_quiet dec.nalQueue thread
        exact ⟨unfed, untaken⟩
      · exact fun thread => overwritten_append thread log _ (by simp [Note.sumsBefore, Note.resets])
  | cleared =>
      simp only [stop, place]
      refine fed_frame dec _ log [] kept ?_ (interrupt_feeders dec 0).2.2.2.1 (interrupt_feeders dec 0).2.2.2.2.1
        (fun reset => (by cases reset)) (fun _ => ⟨rfl, rfl⟩) (by simp)
      intro thread
      obtain ⟨pc, released, -⟩ := interrupt_feeders dec thread
      exact ⟨pc, fun unreleased => released ▸ unreleased⟩
  | joining =>
      simp only [stop, place]
      split
      case isTrue => exact fed_still dec _ log kept rfl rfl rfl (fun reset => (by cases reset))
      case isFalse => simpa using kept
  | joined =>
      obtain ⟨started, pts, idle⟩ := (release_feeders dec 0).2.2.2
      simp only [stop, place]
      refine fed_frame dec _ log [] kept ?_ started pts ?_ (fun _ => ⟨rfl, rfl⟩) (by simp)
      · intro thread
        obtain ⟨pc, released, -⟩ := release_feeders dec thread
        exact ⟨pc, fun unreleased => (released unreleased).1⟩
      · rw [idle]
        exact fun reset => (by cases reset)
  | _ => simpa [stop, place] using kept

-- The receiving thread leaves the decoding threads alone.
structure Apart (dec next : Decoder) (more : List Note) : Prop where
  same : next = { dec with nalQueue := next.nalQueue, fu := next.fu, todo := next.todo, enqueue := next.enqueue }
  quiet : ∀ thread, inputs thread more = [] ∧ takenBy thread more = []
  silent : ∀ thread, ∀ note ∈ more, note.sumsBefore thread = false ∧ note.resets thread = false

theorem receive_apart (dec : Decoder) (data : Bytes) (offset length : Nat) (marker : Bool) :
    Apart dec (feed dec data offset length marker).1 (feed dec data offset length marker).2 := by
  unfold feed
  split
  case isTrue => exact ⟨rfl, fun _ => ⟨rfl, rfl⟩, by simp⟩
  case isFalse =>
    split
    next => exact ⟨rfl, fun _ => ⟨rfl, rfl⟩, by simp⟩
    next => exact ⟨rfl, fun _ => ⟨rfl, rfl⟩, by simp [Note.sumsBefore, Note.resets]⟩

theorem enqueue_apart (dec : Decoder) : Apart dec (enqueueNal dec).1 (enqueueNal dec).2 := by
  unfold enqueueNal
  split
  next => exact ⟨rfl, fun _ => ⟨rfl, rfl⟩, by simp⟩
  next => split <;> exact ⟨rfl, fun _ => ⟨rfl, rfl⟩, by simp⟩
  next => split <;> exact ⟨rfl, fun _ => ⟨rfl, rfl⟩, by simp [Note.sumsBefore, Note.resets]⟩
  next => split <;> exact ⟨rfl, fun _ => ⟨rfl, rfl⟩, by simp [Note.sumsBefore, Note.resets]⟩

theorem apart_owned (dec next : Decoder) (more : List Note) (apart : Apart dec next more) (owned : Owned dec) : Owned next := by
  rw [apart.same]
  exact ⟨owned.unstarted, owned.live, owned.parked, owned.opening, owned.marked⟩

theorem apart_fed (dec next : Decoder) (log more : List Note) (apart : Apart dec next more) (kept : Fed dec log) :
    Fed next (log ++ more) := by
  rw [apart.same]
  exact fed_frame dec _ log more kept (fun _ => ⟨rfl, id⟩) rfl rfl id apart.quiet
    (fun thread => overwritten_append thread log more (apart.silent thread))

theorem step_fed (dec : Decoder) (log : List Note) (act : Act) (owned : Owned dec) (kept : Fed dec log) :
    Owned (decoderStep dec act).1 ∧ Fed (decoderStep dec act).1 (log ++ (decoderStep dec act).2) := by
  unfold decoderStep
  split
  case isTrue => simpa using ⟨owned, kept⟩
  case isFalse =>
    cases act with
    | start created => exact ⟨start_owned dec created owned, start_fed dec log created owned kept⟩
    | stop timedOut => exact ⟨stop_owned dec timedOut owned, stop_fed dec log timedOut kept⟩
    | feedRtpPayload data offset length marker =>
        have apart := receive_apart dec data offset length marker
        exact ⟨apart_owned _ _ _ apart owned, apart_fed _ _ _ _ apart kept⟩
    | enqueueNal => exact ⟨apart_owned _ _ _ (enqueue_apart dec) owned, apart_fed _ _ _ _ (enqueue_apart dec) kept⟩
    | decodingLoop thread answer => exact ⟨loop_owned dec thread answer owned, loop_fed dec log thread answer owned kept⟩

structure RunKept (dec : Decoder) (log : List Note) : Prop where
  queued : Queued dec log
  owned : Owned dec
  fed : Fed dec log

theorem run_kept_next (reached : Decoder × List Note) (act : Act) (kept : RunKept reached.1 reached.2) :
    RunKept (Runs.record decoderStep reached act).1 (Runs.record decoderStep reached act).2 := by
  obtain ⟨owned, fed⟩ := step_fed reached.1 reached.2 act kept.owned kept.fed
  exact ⟨step_queued reached.1 reached.2 act kept.queued, owned, fed⟩

theorem decoder_run_kept (acts : List Act) : RunKept (decoderRun {} acts).1 (decoderRun {} acts).2 :=
  Runs.run_invariant (Runs.record decoderStep) (fun reached => RunKept reached.1 reached.2) ({}, []) acts run_kept_next
    ⟨queued_initial, owned_initial, fed_initial⟩

-- What a codec is given is found in what was received, in that order, and the newest NAL unit is never the dropped one.
-- A late thread may still put framePtsUs back; as long as none does, the buffers are one frame apart from zero.
theorem codec_input_order (acts : List Act) :
    let dec := (decoderRun {} acts).1
    let log := (decoderRun {} acts).2
    (departures log).map Prod.snd ++ dec.nalQueue ++ dec.todo = submissions log ∧
      dec.nalQueue.length ≤ queueCapacity ∧ (∀ nal, Note.refused nal ∉ log) ∧
      (dec.todo = [] → dec.nalQueue = [] → (departures log).getLast?.map Prod.fst ≠ some .dropped) ∧
      ∀ thread,
        (overwritten thread log = false →
          (inputs thread log).map Prod.snd = (List.range (inputs thread log).length).map (· * frameUs)) ∧
        ∃ nals : List Bytes, nals.Sublist (submissions log) ∧ (inputs thread log).map Prod.fst = nals.map addStartCode := by
  intro dec log
  have kept : RunKept dec log := decoder_run_kept acts
  obtain ⟨queued, owned, fed⟩ := kept
  refine ⟨queued.accounted, queued.room, ?_, ?_, ?_⟩
  · intro nal member
    have refuses : log.any Note.refuses = true := List.any_eq_true.mpr ⟨.refused nal, member, rfl⟩
    rw [queued.unrefused] at refuses
    cases refuses
  · intro idle empty
    apply queued.fresh ?_ empty
    by_contra away
    exact queued.busy away idle
  · intro thread
    obtain ⟨nals, bytes, sub⟩ := fed.order thread
    refine ⟨fed.even thread, nals, ?_, bytes⟩
    have departed : (takenBy thread log).Sublist ((departures log).map Prod.snd) := List.filter_sublist.map Prod.snd
    rw [← queued.accounted, List.append_assoc]
    exact ((List.sublist_append_left nals _).trans sub).trans (departed.trans (List.sublist_append_left _ _))

def turns (thread count : Nat) (answer : CodecAnswer) : List Act := List.replicate count (.decodingLoop thread answer)

-- The first thread is late: it has read framePtsUs before stop gives it up, and writes its sum between two buffers of the second.
def lateSum : List Act := List.flatten
  [List.replicate 4 (.start true), [.feedRtpPayload [0x67, 1] 0 2 false, .enqueueNal], turns 0 7 .buffer,
    List.replicate 5 (.stop true), List.replicate 4 (.start true),
    [.feedRtpPayload [0x67, 1] 0 2 false, .enqueueNal, .feedRtpPayload [0x65, 2] 0 2 true, .enqueueNal,
      .feedRtpPayload [0x41, 3] 0 2 true, .enqueueNal],
    turns 1 8 .buffer, turns 1 2 .nothing, turns 1 8 .buffer, turns 0 1 .nothing, turns 1 2 .nothing, turns 1 8 .buffer]

example : (inputs 1 (decoderRun {} lateSum).2).map Prod.snd = [0, 66666, 66666] := by decide +kernel

-- As long as every join has seen its thread end, one thread runs at a time and its codec is the current one.
structure Joined (dec : Decoder) (log : List Note) : Prop where
  calm : dec.crashed = false
  finished : ∀ thread, (dec.feeders thread).released = true → (dec.feeders thread).pc = .ended
  alone : ∀ thread, (dec.feeders thread).pc ≠ .ended → dec.feedThread = some thread
  waited : dec.control = .joined → dec.joinable = true
  clean : ∀ thread, thread < dec.started ∨ dec.control = .reset ∧ thread = dec.started → overwritten thread log = false

theorem joined_initial : Joined {} [] := by
  refine ⟨rfl, fun _ _ => rfl, fun _ going => absurd rfl going, fun joins => (by cases joins), ?_⟩
  rintro thread (impossible | ⟨reset, -⟩)
  · exact absurd impossible (Nat.not_lt_zero thread)
  · cases reset

theorem joined_frame (dec next : Decoder) (log more : List Note) (kept : Joined dec log)
    (same : ∀ thread, (next.feeders thread).pc = (dec.feeders thread).pc ∧
      (next.feeders thread).released = (dec.feeders thread).released)
    (feedThread : next.feedThread = dec.feedThread) (started : next.started = dec.started) (crashed : next.crashed = dec.crashed)
    (waited : next.control = .joined → dec.joinable = true) (reset : next.control = .reset → dec.control = .reset)
    (silent : ∀ thread, ∀ note ∈ more, note.sumsBefore thread = false ∧ note.resets thread = false) :
    Joined next (log ++ more) := by
  refine ⟨?_, ?_, ?_, ?_, ?_⟩
  · rw [crashed]
    exact kept.calm
  · intro thread
    rw [(same thread).1, (same thread).2]
    exact kept.finished thread
  · intro thread
    rw [(same thread).1, feedThread]
    exact kept.alone thread
  · intro joins
    have before := waited joins
    rw [Decoder.joinable, feedThread]
    rw [Decoder.joinable] at before
    split
    next => rfl
    next thread named =>
      rw [named] at before
      rwa [(same thread).1]
  · intro thread known
    rw [overwritten_append thread log more (silent thread)]
    apply kept.clean
    rw [started] at known
    exact known.imp_right (fun opens => ⟨reset opens.1, opens.2⟩)

theorem unreleased_running (dec : Decoder) (log : List Note) (thread : Nat) (kept : Joined dec log)
    (going : (dec.feeders thread).pc ≠ .ended) : (dec.feeders thread).released = false := by
  by_contra past
  exact going (kept.finished thread (Bool.eq_true_of_not_eq_false past))

theorem joined_moved (dec next : Decoder) (log more : List Note) (thread : Nat) (feeder : Feeder) (kept : Joined dec log)
    (feeders : next.feeders = Function.update dec.feeders thread feeder) (feedThread : next.feedThread = dec.feedThread)
    (started : next.started = dec.started) (control : next.control = dec.control) (crashed : next.crashed = dec.crashed)
    (going : (dec.feeders thread).pc ≠ .ended) (same : feeder.released = (dec.feeders thread).released)
    (clean : ∀ other, other < dec.started ∨ dec.control = .reset ∧ other = dec.started → overwritten other (log ++ more) = false) :
    Joined next (log ++ more) := by
  have current := kept.alone thread going
  have unreleased := unreleased_running dec log thread kept going
  refine ⟨?_, ?_, ?_, ?_, ?_⟩
  · rw [crashed]
    exact kept.calm
  · intro other
    rw [feeders]
    by_cases here : other = thread
    · subst here
      rw [Function.update_self, same, unreleased]
      intro past
      cases past
    · rw [Function.update_of_ne here]
      exact kept.finished other
  · intro other
    rw [feeders, feedThread]
    by_cases here : other = thread
    · subst here
      exact fun _ => current
    · rw [Function.update_of_ne here]
      exact kept.alone other
  · intro joins
    have ended := kept.waited (control ▸ joins)
    simp [Decoder.joinable, current, going] at ended
  · rw [started, control]
    exact clean

theorem joined_go (dec : Decoder) (log : List Note) (thread : Nat) (pc : LoopPc) (kept : Joined dec log)
    (going : (dec.feeders thread).pc ≠ .ended) : Joined (dec.go thread pc) (log ++ []) := by
  refine joined_moved dec _ log [] thread _ kept rfl rfl rfl rfl rfl going rfl ?_
  rw [List.append_nil]
  exact kept.clean

theorem joined_codec_call (dec : Decoder) (log : List Note) (thread : Nat) (pc : LoopPc) (kept : Joined dec log)
    (going : (dec.feeders thread).pc ≠ .ended) : Joined (dec.codecCall thread pc) (log ++ []) := by
  simp only [Decoder.codecCall, unreleased_running dec log thread kept going, Bool.false_eq_true, if_false]
  exact joined_go dec log thread pc kept going

theorem loop_joined (dec : Decoder) (log : List Note) (thread : Nat) (answer : CodecAnswer) (owned : Owned dec)
    (kept : Joined dec log) : Joined (decodingLoop dec thread answer).1 (log ++ (decodingLoop dec thread answer).2) := by
  have turn := loop_cases dec thread answer
  generalize decodingLoop dec thread answer = turned at turn ⊢
  cases turn with
  | stays _ => simpa using kept
  | moves pc passes => exact joined_go dec log thread pc kept passes.going
  | calls pc passes => exact joined_codec_call dec log thread pc kept passes.going
  | takes nal rest polls _ =>
      refine joined_moved dec _ log _ thread _ kept rfl rfl rfl rfl rfl (by simp [polls]) rfl ?_
      intro other known
      rw [overwritten_append other log _ (by simp [Note.sumsBefore, Note.resets])]
      exact kept.clean other known
  | queues nal ptsUs place =>
      have going : (dec.feeders thread).pc ≠ .ended := by simp [place]
      simp only [queueInput, Decoder.codecCall, unreleased_running dec log thread kept going, Bool.false_eq_true, if_false]
      refine joined_moved dec _ log _ thread _ kept rfl rfl rfl rfl rfl going rfl ?_
      intro other known
      rw [overwritten_append other log _ (by simp [Note.sumsBefore, Note.resets])]
      exact kept.clean other known
  | adds ptsUs place =>
      have going : (dec.feeders thread).pc ≠ .ended := by simp [place]
      refine joined_moved dec _ log _ thread _ kept rfl rfl rfl rfl rfl going rfl ?_
      intro other known
      have current := owned.live thread (owned_started dec thread owned going) (unreleased_running dec log thread kept going)
      have newest : ¬thread < other := by
        rcases known with inside | ⟨reset, -⟩
        · omega
        · rw [owned.opening (by simp [reset, ControlPc.opens])] at current
          cases current.1
      simpa [Note.sumsBefore, Note.resets, newest] using kept.clean other known

theorem start_joined (dec : Decoder) (log : List Note) (created : Bool) (owned : Owned dec) (kept : Joined dec log) :
    Joined (start dec created).1 (log ++ (start dec created).2) := by
  have still : ∀ thread, (dec.feeders thread).pc = (dec.feeders thread).pc ∧
      (dec.feeders thread).released = (dec.feeders thread).released := fun _ => ⟨rfl, rfl⟩
  cases place : dec.control with
  | idle =>
      simp only [start, place]
      split
      case isTrue => simpa using kept
      case isFalse =>
        exact joined_frame dec _ log [] kept still rfl rfl rfl (fun joins => (by cases joins)) (fun reset => (by cases reset)) (by simp)
  | created =>
      simp only [start, place]
      exact joined_frame dec _ log [] kept still rfl rfl rfl (fun joins => (by cases joins)) (fun reset => (by cases reset)) (by simp)
  | marked =>
      simp only [start, place]
      refine ⟨kept.calm, kept.finished, kept.alone, fun joins => (by cases joins), ?_⟩
      rintro thread (within | ⟨-, rfl⟩)
      · have away : dec.started ≠ thread := Nat.ne_of_gt within
        simpa [Note.sumsBefore, Note.resets, away] using kept.clean thread (.inl within)
      · simp [Note.sumsBefore, Note.resets]
  | reset =>
      have nobody := owned.opening (by simp [place, ControlPc.opens])
      simp only [start, place, List.append_nil]
      refine ⟨kept.calm, ?_, ?_, fun joins => (by cases joins), ?_⟩
      · intro thread past
        by_cases here : thread = dec.started
        · simp [Decoder.setFeeder, here] at past
        · simp only [Decoder.setFeeder, Function.update_of_ne here] at past ⊢
          exact kept.finished thread past
      · intro thread going
        by_cases here : thread = dec.started
        · exact congrArg some here.symm
        · simp only [Decoder.setFeeder, Function.update_of_ne here] at going
          have named := kept.alone thread going
          rw [nobody] at named
          cases named
      · rintro thread (within | ⟨reset, -⟩)
        · rcases Nat.lt_succ_iff_lt_or_eq.mp within with inside | here
          · exact kept.clean thread (.inl inside)
          · exact kept.clean thread (.inr ⟨place, here⟩)
        · cases reset
  | _ => simpa [start, place] using kept

theorem release_joined (dec : Decoder) (log : List Note) (kept : Joined dec log) (joined : dec.control = .joined) :
    Joined dec.release (log ++ []) := by
  obtain ⟨started, _, idle⟩ := (release_feeders dec 0).2.2.2
  have ended : ∀ thread, (dec.release.feeders thread).pc = .ended := by
    intro thread
    rw [(release_feeders dec thread).1]
    by_contra going
    have waited := kept.waited joined
    simp [Decoder.joinable, kept.alone thread going, going] at waited
  rw [List.append_nil]
  refine ⟨?_, ?_, ?_, ?_, ?_⟩
  · have same : dec.release.crashed = dec.crashed := by
      unfold Decoder.release
      split <;> rfl
    rw [same]
    exact kept.calm
  · exact fun thread _ => ended thread
  · exact fun thread going => absurd (ended thread) going
  · rw [idle]
    exact fun joins => (by cases joins)
  · rw [started, idle]
    rintro thread (within | ⟨reset, -⟩)
    · exact kept.clean thread (.inl within)
    · cases reset

theorem stop_joined (dec : Decoder) (log : List Note) (kept : Joined dec log) :
    Joined (stop dec false).1 (log ++ (stop dec false).2) := by
  have still : ∀ thread, (dec.feeders thread).pc = (dec.feeders thread).pc ∧
      (dec.feeders thread).released = (dec.feeders thread).released := fun _ => ⟨rfl, rfl⟩
  cases place : dec.control with
  | idle =>
      simp only [stop, place]
      exact joined_frame dec _ log [] kept still rfl rfl rfl (fun joins => (by cases joins)) (fun reset => (by cases reset)) (by simp)
  | halted =>
      simp only [stop, place]
      exact joined_frame dec _ log _ kept still rfl rfl rfl (fun joins => (by cases joins)) (fun reset => (by cases reset))
        (by simp [Note.sumsBefore, Note.resets])
  | cleared =>
      simp only [stop, place]
      have same := interrupt_feeders dec
      have calm : dec.interrupt.crashed = dec.crashed := by
        unfold Decoder.interrupt
        split <;> rfl
      exact joined_frame dec _ log [] kept (fun thread => ⟨(same thread).1, (same thread).2.1⟩) (same 0).2.2.1 (same 0).2.2.2.1 calm
        (fun joins => (by cases joins)) (fun reset => (by cases reset)) (by simp)
  | joining =>
      simp only [stop, place, Bool.or_false]
      split
      case isTrue joins => exact joined_frame dec _ log [] kept still rfl rfl rfl (fun _ => joins) (fun reset => (by cases reset)) (by simp)
      case isFalse => simpa using kept
  | joined =>
      simp only [stop, place]
      exact release_joined dec log kept place
  | _ => simpa [stop, place] using kept

theorem apart_joined (dec next : Decoder) (log more : List Note) (apart : Apart dec next more) (kept : Joined dec log) :
    Joined next (log ++ more) := by
  rw [apart.same]
  exact joined_frame dec _ log more kept (fun _ => ⟨rfl, rfl⟩) rfl rfl rfl kept.waited id apart.silent

theorem step_joined (dec : Decoder) (log : List Note) (act : Act) (owned : Owned dec) (kept : Joined dec log)
    (waits : act ≠ .stop true) : Joined (decoderStep dec act).1 (log ++ (decoderStep dec act).2) := by
  simp only [decoderStep, kept.calm, Bool.false_eq_true, if_false]
  cases act with
  | start created => exact start_joined dec log created owned kept
  | stop timedOut =>
      have inTime : timedOut = false := by
        by_contra late
        exact waits (congrArg Act.stop (Bool.eq_true_of_not_eq_false late))
      subst inTime
      exact stop_joined dec log kept
  | feedRtpPayload data offset length marker => exact apart_joined _ _ _ _ (receive_apart dec data offset length marker) kept
  | enqueueNal => exact apart_joined _ _ _ _ (enqueue_apart dec) kept
  | decodingLoop thread answer => exact loop_joined dec log thread answer owned kept

-- join(2000) is the only wait of stop: while it does not time out, no thread meets a released codec and every codec is
-- given its buffers one frame apart from zero.
theorem codec_input_times (acts : List Act) (waits : ∀ act ∈ acts, act ≠ .stop true) :
    let dec := (decoderRun {} acts).1
    let log := (decoderRun {} acts).2
    dec.crashed = false ∧
      (∀ one other, (dec.feeders one).pc ≠ .ended → (dec.feeders other).pc ≠ .ended → one = other) ∧
      ∀ thread, (inputs thread log).map Prod.snd = (List.range (inputs thread log).length).map (· * frameUs) := by
  intro dec log
  have kept : RunKept dec log ∧ Joined dec log := by
    refine Runs.run_kept (Runs.record decoderStep) (fun reached => RunKept reached.1 reached.2 ∧ Joined reached.1 reached.2)
      ({}, []) acts ?_ ⟨⟨queued_initial, owned_initial, fed_initial⟩, joined_initial⟩
    rintro reached act member ⟨kept, joined⟩
    exact ⟨run_kept_next reached act kept, step_joined reached.1 reached.2 act kept.owned joined (waits act member)⟩
  obtain ⟨⟨_, _, fed⟩, joined⟩ := kept
  refine ⟨joined.calm, ?_, ?_⟩
  · intro one other first second
    have named := joined.alone one first
    rw [joined.alone other second] at named
    exact (Option.some.inj named).symm
  · intro thread
    by_cases within : thread < dec.started
    · exact fed.even thread (joined.clean thread (.inl within))
    · rw [fed.unfed thread (Nat.le_of_not_lt within)]
      rfl

-- Three NAL units reach the codec, a fourth is in the queue when stop begins and is cleared there; then comes another start.
def stoppedInTime : List Act := List.flatten
  [List.replicate 4 (.start true),
    [.feedRtpPayload [0x67, 1] 0 2 false, .enqueueNal, .feedRtpPayload [0x65, 2] 0 2 true, .enqueueNal,
      .feedRtpPayload [0x41, 3] 0 2 true, .enqueueNal],
    turns 0 8 .buffer, turns 0 2 .nothing, turns 0 8 .buffer, turns 0 2 .nothing, turns 0 8 .buffer, turns 0 2 .nothing,
    [.feedRtpPayload [0x41, 4] 0 2 true, .enqueueNal, .stop false, .stop false, .stop false, .decodingLoop 0 .nothing, .stop false,
      .stop false],
    List.replicate 4 (.start true)]

theorem stopped_in_time_times :
    (decoderRun {} stoppedInTime).1.crashed = false ∧
      inputs 0 (decoderRun {} stoppedInTime).2 =
        [([0, 0, 0, 1, 0x67, 1], 0), ([0, 0, 0, 1, 0x65, 2], 66666), ([0, 0, 0, 1, 0x41, 3], 133332)] ∧
      (inputs 0 (decoderRun {} stoppedInTime).2).map Prod.snd =
        (List.range (inputs 0 (decoderRun {} stoppedInTime).2).length).map (· * frameUs) := by
  have waits : ∀ act ∈ stoppedInTime, act ≠ .stop true := by decide
  obtain ⟨calm, _, times⟩ := codec_input_times stoppedInTime waits
  exact ⟨calm, by decide +kernel, times 0⟩

end Intercom.Android.Decoding
