import Intercom.Android.VideoDecoder
import Intercom.Lib.Runs
import Mathlib.Data.List.Flatten
import Mathlib.Logic.Function.Basic

set_option autoImplicit false

/- VideoDecoder.kt between enqueueNal and the codec: the thread that receives RTP, the threads that run decodingLoop and
   the one that calls start and stop. A step is one call on nalQueue or on a codec, whose result the label gives, one read
   or write of running or framePtsUs, or one wait. That stop may reset fuBuffer in the midst of a feedRtpPayload is left
   out: the reassembly of a packet is one step. -/
namespace Intercom.Android.Decoding

open ByteText

def queueCapacity : Nat := 120

-- 1_000_000L / 15
def frameUs : Nat := 66666

def addStartCode (nal : Bytes) : Bytes := [0, 0, 0, 1] ++ nal

-- The sum framePtsUs += 1_000_000L / 15 is a read and a write.
inductive LoopPc where
  | top
  | polling
  | holding (nal : Bytes)
  | filling (nal : Bytes)
  | stamping (nal : Bytes)
  | queueing (nal : Bytes) (ptsUs : Nat)
  | counting
  | adding (ptsUs : Nat)
  | draining
  | dequeueing
  | rendering
  | ended
deriving DecidableEq, Repr

-- Every start makes one codec and one thread for it, and stop lets go of both.
structure Feeder where
  pc : LoopPc := .top
  interrupted : Bool := false
  released : Bool := false
deriving DecidableEq, Repr

-- Where start or stop is; created, marked and reset are places of start.
inductive ControlPc where
  | idle
  | created
  | marked
  | reset
  | halted
  | cleared
  | joining
  | joined
deriving DecidableEq, Repr

inductive EnqueuePc where
  | offer
  | poll
  | again
deriving DecidableEq, Repr

-- todo is what feedRtpPayload has still to enqueue. Threads are numbered in the order of their start.
structure Decoder where
  running : Bool := false
  nalQueue : List Bytes := []
  framePtsUs : Nat := 0
  fu : VideoDecoder := {}
  todo : List Bytes := []
  enqueue : EnqueuePc := .offer
  feeders : Nat → Feeder := fun _ => { pc := .ended }
  started : Nat := 0
  feedThread : Option Nat := none
  control : ControlPc := .idle
  crashed : Bool := false

-- An index or a buffer, INFO_OUTPUT_FORMAT_CHANGED, or anything else.
inductive CodecAnswer where
  | buffer
  | formatChanged
  | nothing
deriving DecidableEq, Repr

inductive Act where
  | start (created : Bool)
  | stop (timedOut : Bool)
  | feedRtpPayload (data : Bytes) (offset length : Nat) (marker : Bool)
  | enqueueNal
  | decodingLoop (thread : Nat) (answer : CodecAnswer)
deriving DecidableEq, Repr

inductive Fate where
  | taken (thread : Nat)
  | dropped
  | cleared
deriving DecidableEq, Repr

inductive Note where
  | submitted (nals : List Bytes)
  | left (fate : Fate) (nal : Bytes)
  | refused (nal : Bytes)
  | fed (thread : Nat) (buffer : Bytes) (ptsUs : Nat)
  | reset (thread : Nat)
  | counted (thread : Nat)
deriving DecidableEq, Repr

def Decoder.setFeeder (dec : Decoder) (thread : Nat) (feeder : Feeder) : Decoder :=
  { dec with feeders := Function.update dec.feeders thread feeder }

def Decoder.go (dec : Decoder) (thread : Nat) (pc : LoopPc) : Decoder :=
  dec.setFeeder thread { dec.feeders thread with pc }

def start (dec : Decoder) (created : Bool) : Decoder × List Note :=
  match dec.control with
  | .idle => (if dec.running || !created then dec else { dec with control := .created }, [])
  | .created => ({ dec with running := true, control := .marked }, [])
  | .marked => ({ dec with framePtsUs := 0, control := .reset }, [.reset dec.started])
  | .reset =>
      ({ dec.setFeeder dec.started {} with feedThread := some dec.started, started := dec.started + 1, control := .idle }, [])
  | _ => (dec, [])

def Decoder.interrupt (dec : Decoder) : Decoder :=
  match dec.feedThread with
  | none => dec
  | some thread => dec.setFeeder thread { dec.feeders thread with interrupted := true }

def Decoder.joinable (dec : Decoder) : Bool :=
  match dec.feedThread with
  | none => true
  | some thread => (dec.feeders thread).pc == .ended

-- The codec is released whether or not the thread has ended.
def Decoder.release (dec : Decoder) : Decoder :=
  match dec.feedThread with
  | none => { dec with fu := {}, control := .idle }
  | some thread =>
      { dec.setFeeder thread { dec.feeders thread with released := true } with
        feedThread := none, fu := {}, control := .idle }

def stop (dec : Decoder) (timedOut : Bool) : Decoder × List Note :=
  match dec.control with
  | .idle => ({ dec with running := false, control := .halted }, [])
  | .halted => ({ dec with nalQueue := [], control := .cleared }, dec.nalQueue.map (.left .cleared))
  | .cleared => ({ dec.interrupt with control := .joining }, [])
  | .joining => (if dec.joinable || timedOut then { dec with control := .joined } else dec, [])
  | .joined => (dec.release, [])
  | _ => (dec, [])

-- RtspClient hands over what lies within its buffer, and there feedRtpPayload does not fail.
def feed (dec : Decoder) (data : Bytes) (offset length : Nat) (marker : Bool) : Decoder × List Note :=
  if dec.todo ≠ [] then (dec, [])
  else
    match feedRtpPayload dec.fu data offset length marker with
    | none => (dec, [])
    | some (fu, nals) => ({ dec with fu, todo := nals }, [.submitted nals])

def enqueueNal (dec : Decoder) : Decoder × List Note :=
  match dec.todo, dec.enqueue with
  | [], _ => (dec, [])
  | nal :: rest, .offer =>
      if dec.nalQueue.length < queueCapacity then ({ dec with nalQueue := dec.nalQueue ++ [nal], todo := rest }, [])
      else ({ dec with enqueue := .poll }, [])
  | _ :: _, .poll =>
      match dec.nalQueue with
      | [] => ({ dec with enqueue := .again }, [])
      | oldest :: newer => ({ dec with nalQueue := newer, enqueue := .again }, [.left .dropped oldest])
  | nal :: rest, .again =>
      if dec.nalQueue.length < queueCapacity then
        ({ dec with nalQueue := dec.nalQueue ++ [nal], todo := rest, enqueue := .offer }, [])
      else ({ dec with todo := rest, enqueue := .offer }, [.refused nal])

def pollNal (dec : Decoder) (thread : Nat) : Decoder × List Note :=
  if (dec.feeders thread).interrupted then (dec.go thread .ended, [])
  else
    match dec.nalQueue with
    | [] => (dec.go thread .draining, [])
    | nal :: rest => ({ dec.go thread (.holding nal) with nalQueue := rest }, [.left (.taken thread) nal])

-- A released codec throws, and nothing catches it.
def Decoder.codecCall (dec : Decoder) (thread : Nat) (pc : LoopPc) : Decoder :=
  if (dec.feeders thread).released then { dec with crashed := true } else dec.go thread pc

def queueInput (dec : Decoder) (thread : Nat) (nal : Bytes) (ptsUs : Nat) : Decoder × List Note :=
  (dec.codecCall thread .counting, if (dec.feeders thread).released then [] else [.fed thread (addStartCode nal) ptsUs])

-- A NAL unit for which no buffer came is gone.
def decodingLoop (dec : Decoder) (thread : Nat) (answer : CodecAnswer) : Decoder × List Note :=
  match (dec.feeders thread).pc with
  | .top => (dec.go thread (if dec.running then .polling else .ended), [])
  | .polling => pollNal dec thread
  | .holding nal => (dec.codecCall thread (if answer = .buffer then .filling nal else .draining), [])
  | .filling nal => (dec.codecCall thread (if answer = .buffer then .stamping nal else .top), [])
  | .stamping nal => (dec.go thread (.queueing nal dec.framePtsUs), [])
  | .queueing nal ptsUs => queueInput dec thread nal ptsUs
  | .counting => (dec.go thread (.adding dec.framePtsUs), [])
  | .adding ptsUs => ({ dec.go thread .draining with framePtsUs := ptsUs + frameUs }, [.counted thread])
  | .draining => (dec.go thread (if dec.running then .dequeueing else .top), [])
  | .dequeueing =>
      match answer with
      | .buffer => (dec.codecCall thread .rendering, [])
      | .formatChanged => (dec.codecCall thread .draining, [])
      | .nothing => (dec.codecCall thread .top, [])
  | .rendering => (dec.codecCall thread .draining, [])
  | .ended => (dec, [])

-- An exception that leaves decodingLoop ends the process.
def decoderStep (dec : Decoder) (act : Act) : Decoder × List Note :=
  if dec.crashed then (dec, [])
  else
    match act with
    | .start created => start dec created
    | .stop timedOut => stop dec timedOut
    | .feedRtpPayload data offset length marker => feed dec data offset length marker
    | .enqueueNal => enqueueNal dec
    | .decodingLoop thread answer => decodingLoop dec thread answer

def decoderRun (dec : Decoder) (acts : List Act) : Decoder × List Note :=
  Runs.run (Runs.record decoderStep) (dec, []) acts

def Note.submits : Note → List Bytes
  | .submitted nals => nals
  | _ => []

def Note.leaves : Note → List (Fate × Bytes)
  | .left fate nal => [(fate, nal)]
  | _ => []

def Note.feeds (thread : Nat) : Note → List (Bytes × Nat)
  | .fed feeder buffer ptsUs => if feeder = thread then [(buffer, ptsUs)] else []
  | _ => []

def Note.refuses : Note → Bool
  | .refused _ => true
  | _ => false

def submissions (log : List Note) : List Bytes := log.flatMap Note.submits

def departures (log : List Note) : List (Fate × Bytes) := log.flatMap Note.leaves

def inputs (thread : Nat) (log : List Note) : List (Bytes × Nat) := log.flatMap (Note.feeds thread)

def takenBy (thread : Nat) (log : List Note) : List Bytes :=
  ((departures log).filter fun leaver => leaver.1 = .taken thread).map Prod.snd

@[simp] theorem submissions_append (log more : List Note) :
    submissions (log ++ more) = submissions log ++ submissions more := by
  simp [submissions]

@[simp] theorem departures_append (log more : List Note) :
    departures (log ++ more) = departures log ++ departures more := by
  simp [departures]

@[simp] theorem inputs_append (thread : Nat) (log more : List Note) :
    inputs thread (log ++ more) = inputs thread log ++ inputs thread more := by
  simp [inputs]

@[simp] theorem taken_by_append (thread : Nat) (log more : List Note) :
    takenBy thread (log ++ more) = takenBy thread log ++ takenBy thread more := by
  simp [takenBy]

theorem inputs_nil (thread : Nat) : inputs thread [] = [] := rfl

theorem taken_by_nil (thread : Nat) : takenBy thread [] = [] := rfl

theorem departures_cleared (nals : List Bytes) :
    departures (nals.map (.left .cleared)) = nals.map fun nal => (Fate.cleared, nal) := by
  induction nals with
  | nil => rfl
  | cons nal rest ih => exact congrArg (List.cons (Fate.cleared, nal)) ih

theorem cleared_quiet (nals : List Bytes) (thread : Nat) :
    submissions (nals.map (.left .cleared)) = [] ∧ inputs thread (nals.map (.left .cleared)) = [] ∧
      takenBy thread (nals.map (.left .cleared)) = [] ∧ (nals.map (Note.left .cleared)).any Note.refuses = false := by
  have none_taken : takenBy thread (nals.map (.left .cleared)) = [] := by
    simp [takenBy, departures_cleared]
  have none_refused : (nals.map (Note.left .cleared)).any Note.refuses = false := by
    simp [Note.refuses]
  exact ⟨by simp [submissions, Note.submits], by simp [inputs, Note.feeds], none_taken, none_refused⟩

def LoopPc.held : LoopPc → List Bytes
  | .holding nal | .filling nal | .stamping nal | .queueing nal _ => [nal]
  | _ => []

-- What leads to the time of the next buffer, where a thread finds framePtsUs as it left it.
def Timed (framePtsUs next : Nat) : LoopPc → Prop
  | .queueing _ ptsUs => ptsUs = next ∧ framePtsUs = next
  | .counting => framePtsUs + frameUs = next
  | .adding ptsUs => ptsUs + frameUs = next
  | _ => framePtsUs = next

structure Passes (framePtsUs : Nat) (pc next : LoopPc) : Prop where
  going : pc ≠ .ended
  held : next.held.Sublist pc.held
  timed : ∀ due, Timed framePtsUs due pc → Timed framePtsUs due next

-- All that one access of a decoding thread can do; most of them only take it to its next place.
inductive LoopStep (dec : Decoder) (thread : Nat) : Decoder × List Note → Prop where
  | stays (ended : (dec.feeders thread).pc = .ended) : LoopStep dec thread (dec, [])
  | moves (pc : LoopPc) (passes : Passes dec.framePtsUs (dec.feeders thread).pc pc) : LoopStep dec thread (dec.go thread pc, [])
  | calls (pc : LoopPc) (passes : Passes dec.framePtsUs (dec.feeders thread).pc pc) :
      LoopStep dec thread (dec.codecCall thread pc, [])
  | takes (nal : Bytes) (rest : List Bytes) (polls : (dec.feeders thread).pc = .polling) (front : dec.nalQueue = nal :: rest) :
      LoopStep dec thread ({ dec.go thread (.holding nal) with nalQueue := rest }, [.left (.taken thread) nal])
  | queues (nal : Bytes) (ptsUs : Nat) (place : (dec.feeders thread).pc = .queueing nal ptsUs) :
      LoopStep dec thread (queueInput dec thread nal ptsUs)
  | adds (ptsUs : Nat) (place : (dec.feeders thread).pc = .adding ptsUs) :
      LoopStep dec thread ({ dec.go thread .draining with framePtsUs := ptsUs + frameUs }, [.counted thread])

theorem poll_cases (dec : Decoder) (thread : Nat) (polls : (dec.feeders thread).pc = .polling) :
    LoopStep dec thread (pollNal dec thread) := by
  unfold pollNal
  split
  case isTrue => exact .moves .ended (by rw [polls]; exact ⟨by simp, List.Sublist.refl [], fun _ => id⟩)
  case isFalse =>
    split
    next => exact .moves .draining (by rw [polls]; exact ⟨by simp, List.Sublist.refl [], fun _ => id⟩)
    next nal rest front => exact .takes nal rest polls front

theorem loop_cases (dec : Decoder) (thread : Nat) (answer : CodecAnswer) : LoopStep dec thread (decodingLoop dec thread answer) := by
  have passes : ∀ pc next, (dec.feeders thread).pc = pc → Passes dec.framePtsUs pc next →
      Passes dec.framePtsUs (dec.feeders thread).pc next := fun pc next place passes => place ▸ passes
  cases place : (dec.feeders thread).pc with
  | top =>
      simp only [decodingLoop, place]
      refine .moves _ (passes _ _ place ?_)
      split <;> exact ⟨by simp, List.Sublist.refl [], fun _ => id⟩
  | polling =>
      simp only [decodingLoop, place]
      exact poll_cases dec thread place
  | holding nal =>
      simp only [decodingLoop, place]
      refine .calls _ (passes _ _ place ?_)
      split
      · exact ⟨by simp, List.Sublist.refl [nal], fun _ => id⟩
      · exact ⟨by simp, List.nil_sublist [nal], fun _ => id⟩
  | filling nal =>
      simp only [decodingLoop, place]
      refine .calls _ (passes _ _ place ?_)
      split
      · exact ⟨by simp, List.Sublist.refl [nal], fun _ => id⟩
      · exact ⟨by simp, List.nil_sublist [nal], fun _ => id⟩
  | stamping nal =>
      simp only [decodingLoop, place]
      exact .moves _ (passes _ _ place ⟨by simp, List.Sublist.refl [nal], fun _ same => ⟨same, same⟩⟩)
  | queueing nal ptsUs =>
      simp only [decodingLoop, place]
      exact .queues nal ptsUs place
  | counting =>
      simp only [decodingLoop, place]
      exact .moves _ (passes _ _ place ⟨by simp, List.Sublist.refl [], fun _ => id⟩)
  | adding ptsUs =>
      simp only [decodingLoop, place]
      exact .adds ptsUs place
  | draining =>
      simp only [decodingLoop, place]
      refine .moves _ (passes _ _ place ?_)
      split <;> exact ⟨by simp, List.Sublist.refl [], fun _ => id⟩
  | dequeueing =>
      simp only [decodingLoop, place]
      cases answer <;> exact .calls _ (passes _ _ place ⟨by simp, List.Sublist.refl [], fun _ => id⟩)
  | rendering =>
      simp only [decodingLoop, place]
      exact .calls _ (passes _ _ place ⟨by simp, List.Sublist.refl [], fun _ => id⟩)
  | ended =>
      simp only [decodingLoop, place]
      exact .stays place

-- Nothing is lost on the way into the queue: what leaves it does so at its front.
structure Queued (dec : Decoder) (log : List Note) : Prop where
  accounted : (departures log).map Prod.snd ++ dec.nalQueue ++ dec.todo = submissions log
  room : dec.nalQueue.length ≤ queueCapacity
  spare : dec.enqueue = .again → dec.nalQueue.length < queueCapacity
  busy : dec.enqueue ≠ .offer → dec.todo ≠ []
  unrefused : log.any Note.refuses = false
  fresh : dec.enqueue = .offer → dec.nalQueue = [] → (departures log).getLast?.map Prod.fst ≠ some .dropped

theorem queued_initial : Queued {} [] := by
  refine ⟨rfl, Nat.zero_le _, ?_, ?_, rfl, ?_⟩
  · intro again
    cases again
  · intro moved
    exact absurd rfl moved
  · intro _ _ last
    cases last

theorem queued_frame (dec next : Decoder) (log more : List Note) (kept : Queued dec log)
    (queue : next.nalQueue = dec.nalQueue) (todo : next.todo = dec.todo) (enqueue : next.enqueue = dec.enqueue)
    (submits : submissions more = []) (leaves : departures more = []) (refuses : more.any Note.refuses = false) :
    Queued next (log ++ more) := by
  refine ⟨?_, ?_, ?_, ?_, ?_, ?_⟩
  · simpa [queue, todo, submits, leaves] using kept.accounted
  · simpa [queue] using kept.room
  · simpa [queue, enqueue] using kept.spare
  · simpa [todo, enqueue] using kept.busy
  · simp [kept.unrefused, refuses]
  · simpa [queue, enqueue, leaves] using kept.fresh

theorem last_fate (log : List Note) (fate : Fate) (nal : Bytes) :
    (departures (log ++ [.left fate nal])).getLast?.map Prod.fst = some fate := by
  simp [departures, Note.leaves]

theorem queued_front (dec next : Decoder) (log : List Note) (fate : Fate) (nal : Bytes) (kept : Queued dec log)
    (queue : dec.nalQueue = nal :: next.nalQueue) (todo : next.todo = dec.todo)
    (moved : fate ≠ .dropped ∧ next.enqueue = dec.enqueue ∨ next.enqueue = .again ∧ dec.todo ≠ []) :
    Queued next (log ++ [.left fate nal]) := by
  have room := kept.room
  rw [queue, List.length_cons] at room
  refine ⟨?_, by omega, ?_, ?_, ?_, ?_⟩
  · have before := kept.accounted
    rw [queue] at before
    simpa [todo, submissions, departures, Note.submits, Note.leaves] using before
  · intro _
    omega
  · intro away
    rw [todo]
    rcases moved with ⟨_, same⟩ | ⟨_, some⟩
    · exact kept.busy (same ▸ away)
    · exact some
  · simp [kept.unrefused, Note.refuses]
  · intro offers _ last
    rw [last_fate] at last
    rcases moved with ⟨taken, _⟩ | ⟨again, _⟩
    · exact taken (Option.some.inj last)
    · rw [again] at offers
      cases offers

theorem queued_back (dec next : Decoder) (log : List Note) (nal : Bytes) (kept : Queued dec log)
    (todo : dec.todo = nal :: next.todo) (queue : next.nalQueue = dec.nalQueue ++ [nal]) (enqueue : next.enqueue = .offer)
    (fits : dec.nalQueue.length < queueCapacity) : Queued next (log ++ []) := by
  rw [List.append_nil]
  refine ⟨?_, ?_, ?_, ?_, kept.unrefused, ?_⟩
  · have before := kept.accounted
    rw [todo] at before
    simpa [queue] using before
  · rw [queue, List.length_append, List.length_singleton]
    exact fits
  · intro again
    rw [enqueue] at again
    cases again
  · intro away
    exact absurd enqueue away
  · intro _ empty
    rw [queue] at empty
    simp at empty

theorem enqueue_queued (dec : Decoder) (log : List Note) (kept : Queued dec log) :
    Queued (enqueueNal dec).1 (log ++ (enqueueNal dec).2) := by
  cases todo : dec.todo with
  | nil => simpa [enqueueNal, todo] using kept
  | cons nal rest =>
      cases place : dec.enqueue with
      | offer =>
          by_cases fits : dec.nalQueue.length < queueCapacity
          · simp only [enqueueNal, todo, place, if_pos fits]
            exact queued_back dec _ log nal kept todo rfl rfl fits
          · simp only [enqueueNal, todo, place, if_neg fits, List.append_nil]
            refine ⟨by simpa [todo] using kept.accounted, kept.room, ?_, ?_, kept.unrefused, ?_⟩
            · intro again
              cases again
            · intro _
              exact List.cons_ne_nil nal rest
            · intro offers
              cases offers
      | poll =>
          have some : dec.todo ≠ [] := by
            rw [todo]
            exact List.cons_ne_nil nal rest
          cases held : dec.nalQueue with
          | nil =>
              simp only [enqueueNal, todo, place, held, List.append_nil]
              refine ⟨by simpa [todo, held] using kept.accounted, Nat.zero_le _, ?_, ?_, kept.unrefused, ?_⟩
              · intro _
                exact Nat.zero_lt_succ 119
              · intro _
                exact List.cons_ne_nil nal rest
              · intro offers
                cases offers
          | cons oldest newer =>
              simp only [enqueueNal, todo, place, held]
              exact queued_front dec _ log .dropped oldest kept held todo.symm (.inr ⟨rfl, some⟩)
      | again =>
          have fits := kept.spare place
          simp only [enqueueNal, todo, place, if_pos fits]
          exact queued_back dec _ log nal kept todo rfl rfl fits

theorem feed_queued (dec : Decoder) (log : List Note) (data : Bytes) (offset length : Nat) (marker : Bool)
    (kept : Queued dec log) :
    Queued (feed dec data offset length marker).1 (log ++ (feed dec data offset length marker).2) := by
  unfold feed
  split
  case isTrue => simpa using kept
  case isFalse busy =>
    have idle : dec.todo = [] := Classical.not_not.mp busy
    split
    next => simpa using kept
    next fu nals _ =>
      have place : dec.enqueue = .offer := by
        by_contra away
        exact kept.busy away idle
      refine ⟨?_, kept.room, kept.spare, fun away => absurd place away, ?_, ?_⟩
      · have before := kept.accounted
        rw [idle, List.append_nil] at before
        simp [submissions, departures, Note.submits, Note.leaves] at before ⊢
        rw [← before, List.append_assoc]
      · simp [kept.unrefused, Note.refuses]
      · simpa [departures, Note.leaves] using kept.fresh

theorem interrupt_same (dec : Decoder) :
    dec.interrupt.nalQueue = dec.nalQueue ∧ dec.interrupt.todo = dec.todo ∧ dec.interrupt.enqueue = dec.enqueue := by
  unfold Decoder.interrupt
  split <;> exact ⟨rfl, rfl, rfl⟩

theorem release_same (dec : Decoder) :
    dec.release.nalQueue = dec.nalQueue ∧ dec.release.todo = dec.todo ∧ dec.release.enqueue = dec.enqueue := by
  unfold Decoder.release
  split <;> exact ⟨rfl, rfl, rfl⟩

theorem clear_queued (dec : Decoder) (log : List Note) (kept : Queued dec log) :
    Queued { dec with nalQueue := [], control := .cleared } (log ++ dec.nalQueue.map (.left .cleared)) := by
  obtain ⟨unsubmitted, _, _, unrefused⟩ := cleared_quiet dec.nalQueue 0
  refine ⟨?_, Nat.zero_le _, fun _ => Nat.zero_lt_succ 119, kept.busy, ?_, ?_⟩
  · have before := kept.accounted
    simpa [departures_cleared, unsubmitted, Function.comp_def] using before
  · rw [List.any_append, kept.unrefused, unrefused]
    rfl
  · intro offers _
    rw [departures_append, departures_cleared]
    cases held : dec.nalQueue.reverse with
    | nil =>
        have empty : dec.nalQueue = [] := List.reverse_eq_nil_iff.mp held
        simpa [empty] using kept.fresh offers empty
    | cons newest older =>
        have whole : dec.nalQueue = older.reverse ++ [newest] := by
          rw [← List.reverse_reverse dec.nalQueue, held, List.reverse_cons]
        simp [whole]

theorem stop_queued (dec : Decoder) (log : List Note) (timedOut : Bool) (kept : Queued dec log) :
    Queued (stop dec timedOut).1 (log ++ (stop dec timedOut).2) := by
  cases place : dec.control with
  | idle =>
      simp only [stop, place]
      exact queued_frame dec _ log [] kept rfl rfl rfl rfl rfl rfl
  | halted =>
      simp only [stop, place]
      exact clear_queued dec log kept
  | cleared =>
      obtain ⟨queue, todo, enqueue⟩ := interrupt_same dec
      simp only [stop, place]
      exact queued_frame dec _ log [] kept queue todo enqueue rfl rfl rfl
  | joining =>
      simp only [stop, place]
      split
      case isTrue => exact queued_frame dec _ log [] kept rfl rfl rfl rfl rfl rfl
      case isFalse => simpa using kept
  | joined =>
      obtain ⟨queue, todo, enqueue⟩ := release_same dec
      simp only [stop, place]
      exact queued_frame dec _ log [] kept queue todo enqueue rfl rfl rfl
  | _ => simpa [stop, place] using kept

theorem start_queued (dec : Decoder) (log : List Note) (created : Bool) (kept : Queued dec log) :
    Queued (start dec created).1 (log ++ (start dec created).2) := by
  cases place : dec.control with
  | idle =>
      simp only [start, place]
      split
      case isTrue => simpa using kept
      case isFalse => exact queued_frame dec _ log [] kept rfl rfl rfl rfl rfl rfl
  | created =>
      simp only [start, place]
      exact queued_frame dec _ log [] kept rfl rfl rfl rfl rfl rfl
  | marked =>
      simp only [start, place]
      exact queued_frame dec _ log _ kept rfl rfl rfl rfl rfl rfl
  | reset =>
      simp only [start, place]
      exact queued_frame dec _ log [] kept rfl rfl rfl rfl rfl rfl
  | _ => simpa [start, place] using kept

theorem codec_call_same (dec : Decoder) (thread : Nat) (pc : LoopPc) :
    (dec.codecCall thread pc).nalQueue = dec.nalQueue ∧ (dec.codecCall thread pc).todo = dec.todo ∧
      (dec.codecCall thread pc).enqueue = dec.enqueue := by
  unfold Decoder.codecCall
  split <;> exact ⟨rfl, rfl, rfl⟩

theorem queue_input_queued (dec : Decoder) (log : List Note) (thread : Nat) (nal : Bytes) (ptsUs : Nat)
    (kept : Queued dec log) : Queued (queueInput dec thread nal ptsUs).1 (log ++ (queueInput dec thread nal ptsUs).2) := by
  obtain ⟨queue, todo, enqueue⟩ := codec_call_same dec thread .counting
  unfold queueInput
  split
  case isTrue => exact queued_frame dec _ log [] kept queue todo enqueue rfl rfl rfl
  case isFalse => exact queued_frame dec _ log _ kept queue todo enqueue rfl rfl rfl

theorem loop_queued (dec : Decoder) (log : List Note) (thread : Nat) (answer : CodecAnswer) (kept : Queued dec log) :
    Queued (decodingLoop dec thread answer).1 (log ++ (decodingLoop dec thread answer).2) := by
  have turn := loop_cases dec thread answer
  generalize decodingLoop dec thread answer = turned at turn ⊢
  cases turn with
  | stays _ => simpa using kept
  | moves pc _ => exact queued_frame dec _ log [] kept rfl rfl rfl rfl rfl rfl
  | calls pc _ =>
      obtain ⟨queue, todo, enqueue⟩ := codec_call_same dec thread pc
      exact queued_frame dec _ log [] kept queue todo enqueue rfl rfl rfl
  | takes nal rest _ front => exact queued_front dec _ log (.taken thread) nal kept front rfl (.inl ⟨by simp, rfl⟩)
  | queues nal ptsUs _ => exact queue_input_queued dec log thread nal ptsUs kept
  | adds ptsUs _ => exact queued_frame dec _ log _ kept rfl rfl rfl rfl rfl rfl

theorem step_queued (dec : Decoder) (log : List Note) (act : Act) (kept : Queued dec log) :
    Queued (decoderStep dec act).1 (log ++ (decoderStep dec act).2) := by
  unfold decoderStep
  split
  case isTrue => simpa using kept
  case isFalse =>
    cases act with
    | start created => exact start_queued dec log created kept
    | stop timedOut => exact stop_queued dec log timedOut kept
    | feedRtpPayload data offset length marker => exact feed_queued dec log data offset length marker kept
    | enqueueNal => exact enqueue_queued dec log kept
    | decodingLoop thread answer => exact loop_queued dec log thread answer kept

end Intercom.Android.Decoding
