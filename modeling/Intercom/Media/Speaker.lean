import Intercom.Android.AudioCapture
import Intercom.Media.Audio
import Intercom.Lib.Runs
import Mathlib.Data.List.Induction

set_option autoImplicit false

/- audio_out_win.c with its four wave headers, and the driver that plays them in the order they were written. The driver
   reads the samples out of the buffers while it plays. -/
namespace Intercom

open ByteText

def numBuffers : Nat := 4

-- g_aout: done is WHDR_DONE and lens is dwBufferLength in samples. queue is the driver's: the headers it holds, oldest first.
structure Speaker where
  opened : Bool := false
  nextBuf : Nat := 0
  done : Nat → Bool := fun _ => false
  bufs : Nat → Nat → Int16 := fun _ _ => 0
  lens : Nat → Nat := fun _ => 0
  queue : List Nat := []

inductive SpeakerEvent where
  | opening (ready : Bool)
  | closing
  | play (pcmu : Bytes) (written : Bool)
  | finished
deriving DecidableEq, Repr

inductive SpeakerOut where
  | played (samples : List Int16)
  | dropped (pcmu : Bytes)
deriving DecidableEq, Repr

def Speaker.samplesAt (speaker : Speaker) (slot : Nat) : List Int16 := (List.range (speaker.lens slot)).map (speaker.bufs slot)

def speakerOpen (ready : Bool) (speaker : Speaker) : Speaker :=
  if speaker.opened then speaker
  else if ready then { opened := true, done := fun _ => true, lens := fun _ => maxSamples }
  else {}

def decodeInto (pcmu : Bytes) (buffer : Nat → Int16) : Nat → Int16 := fun index =>
  match pcmu[index]? with
  | some byte => ulawToPcm byte
  | none => buffer index

-- A header that waveOutWrite refuses stays done.
def audioOutPlay (pcmu : Bytes) (written : Bool) (speaker : Speaker) : Speaker × List SpeakerOut :=
  if !speaker.opened || pcmu.isEmpty then (speaker, [])
  else if !speaker.done speaker.nextBuf then (speaker, [.dropped pcmu])
  else
    let slot := speaker.nextBuf
    let pcmu := pcmu.take maxSamples
    ({ speaker with
      bufs := fun index => if index = slot then decodeInto pcmu (speaker.bufs slot) else speaker.bufs index
      lens := fun index => if index = slot then pcmu.length else speaker.lens index
      done := fun index => if index = slot then !written else speaker.done index
      queue := if written then speaker.queue ++ [slot] else speaker.queue
      nextBuf := (slot + 1) % numBuffers }, [])

def waveFinished (speaker : Speaker) : Speaker × List SpeakerOut :=
  match speaker.queue with
  | [] => (speaker, [])
  | slot :: rest =>
      ({ speaker with done := fun index => if index = slot then true else speaker.done index, queue := rest },
        [.played (speaker.samplesAt slot)])

-- waveOutReset gives the headers back before the record is cleared.
def speakerStep (speaker : Speaker) : SpeakerEvent → Speaker × List SpeakerOut
  | .opening ready => (speakerOpen ready speaker, [])
  | .closing => (if speaker.opened then {} else speaker, [])
  | .play pcmu written => audioOutPlay pcmu written speaker
  | .finished => waveFinished speaker

-- The frames that were handed over and not played yet, oldest first; a refused one leaves a gap behind the others.
structure Playlist where
  opened : Bool := false
  pending : List (Option (List Int16)) := []
deriving DecidableEq, Repr

def settle (pending : List (Option (List Int16))) : List (Option (List Int16)) := pending.dropWhile Option.isNone

def playlistStep (playlist : Playlist) : SpeakerEvent → Playlist × List SpeakerOut
  | .opening ready => (if playlist.opened then playlist else { opened := ready }, [])
  | .closing => ({}, [])
  | .play pcmu written =>
      if !playlist.opened || pcmu.isEmpty then (playlist, [])
      else if numBuffers ≤ playlist.pending.length then (playlist, [.dropped pcmu])
      else
        ({ playlist with pending := settle (playlist.pending ++ [if written then some (audioOutSamples pcmu) else none]) }, [])
  | .finished =>
      match playlist.pending with
      | some samples :: rest => ({ playlist with pending := settle rest }, [.played samples])
      | _ => (playlist, [])

def heldSlots : Nat → List (Option (List Int16)) → List Nat
  | _, [] => []
  | slot, some _ :: rest => slot :: heldSlots ((slot + 1) % numBuffers) rest
  | slot, none :: rest => heldSlots ((slot + 1) % numBuffers) rest

def Speaker.holds (speaker : Speaker) (slot : Nat) : Option (List Int16) → Prop
  | some samples => speaker.done slot = false ∧ speaker.samplesAt slot = samples
  | none => speaker.done slot = true

-- The entries lie in consecutive headers, from slot up to the one that is written next; all others are free.
structure Backed (slot : Nat) (speaker : Speaker) (pending : List (Option (List Int16))) : Prop where
  low : slot < numBuffers
  fits : pending.length ≤ numBuffers
  tip : (slot + pending.length) % numBuffers = speaker.nextBuf
  queue : speaker.queue = heldSlots slot pending
  held : ∀ offset entry, pending[offset]? = some entry → speaker.holds ((slot + offset) % numBuffers) entry
  free : ∀ offset, pending.length ≤ offset → offset < numBuffers → speaker.done ((slot + offset) % numBuffers) = true

theorem held_slots_snoc (slot : Nat) (pending : List (Option (List Int16))) (entry : Option (List Int16)) (low : slot < numBuffers) :
    heldSlots slot (pending ++ [entry]) =
      heldSlots slot pending ++ if entry.isSome then [(slot + pending.length) % numBuffers] else [] := by
  induction pending generalizing slot with
  | nil => cases entry <;> simp [heldSlots, Nat.mod_eq_of_lt low]
  | cons head rest ih =>
      have shift : ((slot + 1) % numBuffers + rest.length) % numBuffers = (slot + (rest.length + 1)) % numBuffers := by
        rw [Nat.mod_add_mod]
        congr 1
        omega
      have later := ih ((slot + 1) % numBuffers) (Nat.mod_lt _ (by decide))
      rw [shift] at later
      cases head <;> simp [heldSlots, later]

theorem slot_shift (slot offset : Nat) : ((slot + 1) % numBuffers + offset) % numBuffers = (slot + (offset + 1)) % numBuffers := by
  rw [Nat.mod_add_mod]
  congr 1
  omega

theorem last_slot (slot : Nat) (low : slot < numBuffers) : (slot + (numBuffers - 1 + 1)) % numBuffers = slot := by
  unfold numBuffers at low ⊢
  omega

-- The oldest header is done: the window moves on by one.
theorem backed_advance (slot : Nat) (before after : Speaker) (entry : Option (List Int16)) (rest : List (Option (List Int16)))
    (backed : Backed slot before (entry :: rest)) (next : after.nextBuf = before.nextBuf)
    (queue : after.queue = heldSlots ((slot + 1) % numBuffers) rest) (done : after.done slot = true)
    (same : ∀ offset, 0 < offset → offset < numBuffers → after.done ((slot + offset) % numBuffers) =
      before.done ((slot + offset) % numBuffers) ∧ after.samplesAt ((slot + offset) % numBuffers) =
        before.samplesAt ((slot + offset) % numBuffers)) : Backed ((slot + 1) % numBuffers) after rest := by
  have size : rest.length + 1 ≤ numBuffers := backed.fits
  refine ⟨Nat.mod_lt _ (by decide), by omega, ?_, queue, ?_, ?_⟩
  · rw [slot_shift, next]
    exact backed.tip
  · intro offset entry found
    have inside : offset < rest.length := (List.getElem?_eq_some_iff.mp found).1
    have old := backed.held (offset + 1) entry (by simpa using found)
    obtain ⟨flag, samples⟩ := same (offset + 1) (Nat.succ_pos offset) (by omega)
    rw [slot_shift]
    cases entry with
    | none => exact flag.trans old
    | some frame => exact ⟨flag.trans old.1, samples.trans old.2⟩
  · intro offset behind inside
    rw [slot_shift]
    by_cases last : offset + 1 < numBuffers
    · rw [(same (offset + 1) (Nat.succ_pos offset) last).1]
      exact backed.free (offset + 1) (by simpa using behind) last
    · have whole : offset = numBuffers - 1 := by omega
      rw [whole, last_slot slot backed.low]
      exact done

theorem backed_settle (pending : List (Option (List Int16))) (slot : Nat) (speaker : Speaker) (backed : Backed slot speaker pending) :
    ∃ front, Backed front speaker (settle pending) := by
  induction pending generalizing slot with
  | nil => exact ⟨slot, backed⟩
  | cons entry rest ih =>
      cases entry with
      | some samples => exact ⟨slot, backed⟩
      | none =>
          have done : speaker.done slot = true := by
            have first := backed.held 0 none rfl
            rwa [Nat.add_zero, Nat.mod_eq_of_lt backed.low] at first
          have moved := backed_advance slot speaker speaker none rest backed rfl backed.queue done (fun _ _ _ => ⟨rfl, rfl⟩)
          exact ih _ moved

theorem slots_apart (slot first second : Nat) (low : first < second) (high : second < numBuffers) :
    (slot + first) % numBuffers ≠ (slot + second) % numBuffers := by
  unfold numBuffers at high ⊢
  omega

theorem decoded_samples (pcmu : Bytes) (buffer : Nat → Int16) :
    (List.range pcmu.length).map (decodeInto pcmu buffer) = pcmu.map ulawToPcm := by
  apply List.ext_getElem
  · simp
  · intro index low high
    have inside : index < pcmu.length := by simpa using high
    simp [decodeInto, inside]

theorem played_next (pcmu : Bytes) (written : Bool) (speaker : Speaker) (opened : speaker.opened = true) (filled : pcmu ≠ [])
    (done : speaker.done speaker.nextBuf = true) :
    (audioOutPlay pcmu written speaker).2 = [] ∧
    (audioOutPlay pcmu written speaker).1.opened = true ∧
    (audioOutPlay pcmu written speaker).1.nextBuf = (speaker.nextBuf + 1) % numBuffers ∧
    (audioOutPlay pcmu written speaker).1.queue = speaker.queue ++ (if written then [speaker.nextBuf] else []) ∧
    (audioOutPlay pcmu written speaker).1.done speaker.nextBuf = (!written) ∧
    (audioOutPlay pcmu written speaker).1.samplesAt speaker.nextBuf = audioOutSamples pcmu ∧
    ∀ slot, slot ≠ speaker.nextBuf → (audioOutPlay pcmu written speaker).1.done slot = speaker.done slot ∧
      (audioOutPlay pcmu written speaker).1.samplesAt slot = speaker.samplesAt slot := by
  have some : pcmu.isEmpty = false := by simpa using filled
  simp only [audioOutPlay, opened, some, done, Bool.not_true, Bool.or_false, Bool.false_eq_true, if_false, if_true]
  refine ⟨trivial, trivial, trivial, ?_, trivial, ?_, ?_⟩
  · cases written <;> simp
  · simp only [Speaker.samplesAt, if_true, audioOutSamples]
    exact decoded_samples _ _
  · intro slot apart
    simp [Speaker.samplesAt, apart]

theorem backed_push (slot : Nat) (speaker : Speaker) (pending : List (Option (List Int16))) (pcmu : Bytes) (written : Bool)
    (opened : speaker.opened = true) (filled : pcmu ≠ []) (room : pending.length < numBuffers) (backed : Backed slot speaker pending) :
    Backed slot (audioOutPlay pcmu written speaker).1 (pending ++ [if written then some (audioOutSamples pcmu) else none]) := by
  have done : speaker.done speaker.nextBuf = true := backed.tip ▸ backed.free pending.length (Nat.le_refl _) room
  obtain ⟨-, -, next, queue, flag, samples, others⟩ := played_next pcmu written speaker opened filled done
  have tip := backed.tip
  refine ⟨backed.low, ?_, ?_, ?_, ?_, ?_⟩
  · rw [List.length_append, List.length_singleton]
    exact room
  · rw [next, ← tip, List.length_append, List.length_singleton, Nat.mod_add_mod, Nat.add_assoc]
  · rw [held_slots_snoc slot pending _ backed.low, tip, queue, backed.queue]
    cases written <;> rfl
  · intro offset entry found
    rcases Nat.lt_or_ge offset pending.length with early | late
    · rw [List.getElem?_append_left early] at found
      have old := backed.held offset entry found
      obtain ⟨same, content⟩ := others _ (tip ▸ slots_apart slot offset pending.length early room)
      cases entry with
      | none => exact same.trans old
      | some frame => exact ⟨same.trans old.1, content.trans old.2⟩
    · have last : offset = pending.length := by
        have inside := (List.getElem?_eq_some_iff.mp found).1
        rw [List.length_append, List.length_singleton] at inside
        omega
      subst last
      rw [List.getElem?_append_right (Nat.le_refl _), Nat.sub_self] at found
      cases found
      rw [tip]
      cases written with
      | true => exact ⟨flag, samples⟩
      | false => exact flag
  · intro offset behind inside
    rw [List.length_append, List.length_singleton] at behind
    rw [(others _ (tip ▸ (slots_apart slot pending.length offset behind inside).symm)).1]
    exact backed.free offset (by omega) inside

-- A closed speaker is the cleared record.
structure Plays (speaker : Speaker) (playlist : Playlist) : Prop where
  opened : speaker.opened = playlist.opened
  closed : playlist.opened = false → playlist.pending = [] ∧ speaker.queue = []
  backed : playlist.opened = true → (∃ slot, Backed slot speaker playlist.pending) ∧ playlist.pending.head? ≠ some none

theorem settle_head (pending : List (Option (List Int16))) : (settle pending).head? ≠ some none := by
  induction pending with
  | nil => simp [settle]
  | cons entry rest ih =>
      cases entry with
      | none => exact ih
      | some samples => simp [settle]

theorem play_refines (speaker : Speaker) (playlist : Playlist) (pcmu : Bytes) (written : Bool) (plays : Plays speaker playlist) :
    Plays (speakerStep speaker (.play pcmu written)).1 (playlistStep playlist (.play pcmu written)).1 ∧
      (speakerStep speaker (.play pcmu written)).2 = (playlistStep playlist (.play pcmu written)).2 := by
  by_cases idle : (!playlist.opened || pcmu.isEmpty) = true
  · have same : (!speaker.opened || pcmu.isEmpty) = true := by rw [plays.opened, idle]
    simp only [speakerStep, audioOutPlay, playlistStep, if_pos idle, if_pos same]
    exact ⟨plays, trivial⟩
  · obtain ⟨listOpen, filled⟩ : playlist.opened = true ∧ pcmu ≠ [] := by simpa using idle
    have opened : speaker.opened = true := plays.opened.trans listOpen
    obtain ⟨⟨slot, backed⟩, lead⟩ := plays.backed listOpen
    by_cases full : numBuffers ≤ playlist.pending.length
    · -- The header written next is the oldest one, and its frame is still being played.
      have all : playlist.pending.length = numBuffers := Nat.le_antisymm backed.fits full
      have next : speaker.nextBuf = slot := by
        rw [← backed.tip, all, Nat.add_mod_right, Nat.mod_eq_of_lt backed.low]
      have busy : speaker.done speaker.nextBuf = false := by
        cases window : playlist.pending with
        | nil =>
            rw [window] at all
            cases all
        | cons entry rest =>
            cases entry with
            | none => simp [window] at lead
            | some samples =>
                have first := (backed.held 0 (some samples) (by simp [window])).1
                rwa [Nat.add_zero, Nat.mod_eq_of_lt backed.low, ← next] at first
      simp only [speakerStep, audioOutPlay, playlistStep, if_neg idle, if_pos full]
      rw [if_neg (by simpa [plays.opened] using idle), if_pos (by simp [busy])]
      exact ⟨plays, rfl⟩
    · have room : playlist.pending.length < numBuffers := Nat.lt_of_not_le full
      have done : speaker.done speaker.nextBuf = true := backed.tip ▸ backed.free playlist.pending.length (Nat.le_refl _) room
      obtain ⟨silent, open_, -⟩ := played_next pcmu written speaker opened filled done
      have pushed := backed_push slot speaker playlist.pending pcmu written opened filled room backed
      obtain ⟨front, settled⟩ := backed_settle _ slot _ pushed
      simp only [playlistStep, if_neg idle, if_neg full]
      refine ⟨⟨open_.trans listOpen.symm, ?_, ?_⟩, silent⟩
      · exact fun shut => absurd listOpen (Bool.eq_false_iff.mp shut)
      · exact fun _ => ⟨⟨front, settled⟩, settle_head _⟩

theorem finished_refines (speaker : Speaker) (playlist : Playlist) (plays : Plays speaker playlist) :
    Plays (speakerStep speaker .finished).1 (playlistStep playlist .finished).1 ∧
      (speakerStep speaker .finished).2 = (playlistStep playlist .finished).2 := by
  by_cases listOpen : playlist.opened = true
  · obtain ⟨⟨slot, backed⟩, lead⟩ := plays.backed listOpen
    cases window : playlist.pending with
    | nil =>
        have empty : speaker.queue = [] := by rw [backed.queue, window, heldSlots]
        simp only [speakerStep, waveFinished, playlistStep, empty, window]
        exact ⟨plays, trivial⟩
    | cons entry rest =>
        cases entry with
        | none => simp [window] at lead
        | some samples =>
            rw [window] at backed
            have queue : speaker.queue = slot :: heldSlots ((slot + 1) % numBuffers) rest := backed.queue
            have content : speaker.samplesAt slot = samples := by
              have first := (backed.held 0 (some samples) rfl).2
              rwa [Nat.add_zero, Nat.mod_eq_of_lt backed.low] at first
            have moved : Backed ((slot + 1) % numBuffers) (waveFinished speaker).1 rest := by
              refine backed_advance slot speaker _ (some samples) rest backed ?_ ?_ ?_ ?_
              · simp [waveFinished, queue]
              · simp [waveFinished, queue]
              · simp [waveFinished, queue]
              · intro offset positive inside
                have apart := (slots_apart slot 0 offset positive inside).symm
                rw [Nat.add_zero, Nat.mod_eq_of_lt backed.low] at apart
                simp [waveFinished, queue, apart, Speaker.samplesAt]
            obtain ⟨front, settled⟩ := backed_settle _ _ _ moved
            have output : (waveFinished speaker).2 = [.played samples] := by
              simp [waveFinished, queue, content]
            have still : (waveFinished speaker).1.opened = speaker.opened := by simp [waveFinished, queue]
            simp only [speakerStep, playlistStep, window]
            refine ⟨⟨still.trans plays.opened, ?_, ?_⟩, output⟩
            · exact fun shut => absurd listOpen (Bool.eq_false_iff.mp shut)
            · exact fun _ => ⟨⟨front, settled⟩, settle_head rest⟩
  · obtain ⟨none, empty⟩ := plays.closed (Bool.eq_false_iff.mpr listOpen)
    simp only [speakerStep, waveFinished, playlistStep, empty, none]
    exact ⟨plays, trivial⟩

theorem speaker_step_refines (speaker : Speaker) (playlist : Playlist) (event : SpeakerEvent) (plays : Plays speaker playlist) :
    Plays (speakerStep speaker event).1 (playlistStep playlist event).1 ∧
      (speakerStep speaker event).2 = (playlistStep playlist event).2 := by
  cases event with
  | opening ready =>
      refine ⟨?_, rfl⟩
      by_cases listOpen : playlist.opened = true
      · simpa only [speakerStep, playlistStep, speakerOpen, plays.opened, if_pos listOpen] using plays
      · have shut : ¬speaker.opened = true := plays.opened ▸ listOpen
        simp only [speakerStep, playlistStep, speakerOpen, if_neg listOpen, if_neg shut]
        cases ready with
        | false => exact ⟨rfl, fun _ => ⟨rfl, rfl⟩, fun opened => absurd opened Bool.false_ne_true⟩
        | true =>
            refine ⟨rfl, fun closed => absurd closed.symm Bool.false_ne_true, fun _ => ⟨⟨0, ?_⟩, by simp⟩⟩
            exact ⟨by decide, by simp, rfl, rfl, by simp, fun _ _ _ => rfl⟩
  | closing =>
      refine ⟨?_, rfl⟩
      have cleared : Plays {} {} := ⟨rfl, fun _ => ⟨rfl, rfl⟩, fun opened => absurd opened Bool.false_ne_true⟩
      by_cases opened : speaker.opened = true
      · simpa only [speakerStep, playlistStep, if_pos opened] using cleared
      · simp only [speakerStep, playlistStep, if_neg opened]
        have shut : playlist.opened = false := Bool.eq_false_iff.mpr (plays.opened ▸ opened)
        exact ⟨Bool.eq_false_iff.mpr opened, fun _ => ⟨rfl, (plays.closed shut).2⟩,
          fun closed => absurd closed Bool.false_ne_true⟩
  | play pcmu written => exact play_refines speaker playlist pcmu written plays
  | finished => exact finished_refines speaker playlist plays

def SpeakerEvent.frame? : SpeakerEvent → Option (List Int16)
  | .play pcmu _ => some (audioOutSamples pcmu)
  | _ => none

def SpeakerOut.played? : SpeakerOut → Option (List Int16)
  | .played samples => some samples
  | .dropped _ => none

theorem settle_frames (pending : List (Option (List Int16))) : (settle pending).filterMap id = pending.filterMap id := by
  induction pending with
  | nil => rfl
  | cons entry rest ih =>
      cases entry with
      | none => exact ih
      | some samples => rfl

-- What has been played and what is still to be played, in this order, are among the frames handed over so far.
theorem playlist_in_order (events : List SpeakerEvent) :
    (((Runs.run (Runs.record playlistStep) ({}, []) events).2.filterMap SpeakerOut.played?) ++
      (Runs.run (Runs.record playlistStep) ({}, []) events).1.pending.filterMap id).Sublist (events.filterMap SpeakerEvent.frame?) := by
  induction events using List.reverseRecOn with
  | nil => exact List.Sublist.refl _
  | append_singleton events event ih =>
      rw [Runs.run_append]
      generalize Runs.run (Runs.record playlistStep) ({}, []) events = reached at ih ⊢
      obtain ⟨playlist, log⟩ := reached
      simp only [Runs.run, List.foldl_cons, List.foldl_nil, Runs.record, List.filterMap_append]
      have played : (log.filterMap SpeakerOut.played?).Sublist (events.filterMap SpeakerEvent.frame?) :=
        (List.sublist_append_left _ _).trans ih
      cases event with
      | opening ready =>
          by_cases listOpen : playlist.opened = true
          · simpa [playlistStep, listOpen, List.filterMap_cons, SpeakerEvent.frame?] using ih
          · simpa [playlistStep, listOpen, List.filterMap_cons, SpeakerEvent.frame?] using played
      | closing => simpa [playlistStep, List.filterMap_cons, SpeakerEvent.frame?] using played
      | play pcmu written =>
          have handed : [SpeakerEvent.play pcmu written].filterMap SpeakerEvent.frame? = [audioOutSamples pcmu] := rfl
          rw [handed]
          simp only [playlistStep]
          split
          · simpa using ih.trans (List.sublist_append_left _ [audioOutSamples pcmu])
          · split
            · simpa [List.filterMap_cons, SpeakerOut.played?] using ih.trans (List.sublist_append_left _ [audioOutSamples pcmu])
            · simp only [List.filterMap_nil, List.append_nil, settle_frames, List.filterMap_append, ← List.append_assoc]
              refine ih.append ?_
              cases written <;> simp
      | finished =>
          have silent : [SpeakerEvent.finished].filterMap SpeakerEvent.frame? = [] := rfl
          rw [silent, List.append_nil]
          simp only [playlistStep]
          split
          case h_1 samples rest window =>
            rw [window] at ih
            rw [settle_frames]
            simpa [List.filterMap_cons, SpeakerOut.played?] using ih
          case h_2 => simpa using ih

theorem speaker_refines_playlist (events : List SpeakerEvent) :
    (Runs.run (Runs.record speakerStep) ({}, []) events).2 = (Runs.run (Runs.record playlistStep) ({}, []) events).2 ∧
    ((Runs.run (Runs.record speakerStep) ({}, []) events).2.filterMap SpeakerOut.played?).Sublist
      (events.filterMap SpeakerEvent.frame?) := by
  have cleared : Plays {} {} := ⟨rfl, fun _ => ⟨rfl, rfl⟩, fun opened => absurd opened Bool.false_ne_true⟩
  have same := (Runs.record_simulates speakerStep playlistStep Plays speaker_step_refines {} {} events cleared).2
  rw [same]
  exact ⟨rfl, (List.sublist_append_left _ _).trans (playlist_in_order events)⟩

-- The rest of the program asks only whether the device is open.
def Speaker.aout (speaker : Speaker) : AudioOut := ⟨speaker.opened⟩

theorem speaker_open_aout (ready : Bool) (speaker : Speaker) : (speakerOpen ready speaker).aout = (audioOutOpen ready speaker.aout).1 := by
  cases opened : speaker.opened <;> cases ready <;> simp [speakerOpen, Speaker.aout, audioOutOpen, opened]

theorem speaker_close_aout (speaker : Speaker) : (speakerStep speaker .closing).1.aout = audioOutClose speaker.aout := by
  cases opened : speaker.opened <;> simp [speakerStep, Speaker.aout, audioOutClose, opened]

theorem speaker_play_aout (pcmu : Bytes) (written : Bool) (speaker : Speaker) :
    (audioOutPlay pcmu written speaker).1.aout = speaker.aout := by
  rw [audioOutPlay]
  split
  · rfl
  · split <;> rfl

end Intercom
