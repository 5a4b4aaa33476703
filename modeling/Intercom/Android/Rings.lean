import Intercom.Android.DoorbellService

set_option autoImplicit false

/- The doorbell from the button to the phones: the device, any number of phones that poll it, and a network that may
   lose a request or its reply. -/
namespace Intercom.Android.Doorbell

open ByteText Http

abbrev PhoneId := Nat

inductive Fate where
  | answered
  | replyLost
  | unreached
deriving DecidableEq, Repr

-- What a check comes to is left to the network, so a phone does not make it up by itself.
inductive PorchEvent where
  | loop (event : LoopEvent)
  | phone (id : PhoneId) (act : Act)
  | check (id : PhoneId) (thread : Nat) (env : HttpEnv) (fate : Fate) (isStreaming : Bool)

structure Porch where
  process : Process
  phones : PhoneId → Service := fun _ => {}

inductive PorchOut where
  | exchange (made : Exchange)
  | note (id : PhoneId) (made : Note)
deriving DecidableEq, Repr

def statusRequest : HttpMsg := ⟨ascii "GET", ascii "/api/doorbell/status", []⟩

def Porch.tell (porch : Porch) (id : PhoneId) (act : Act) : Porch × List PorchOut :=
  ({ porch with phones := Function.update porch.phones id (serviceStep (porch.phones id) act).1 },
    (serviceStep (porch.phones id) act).2.map (.note id))

def Porch.serve (w : World) (porch : Porch) (event : LoopEvent) : Porch × List PorchOut :=
  ({ porch with process := (processStep w porch.process event).1 }, (processStep w porch.process event).2.map .exchange)

def ringingAnswer (w : World) (porch : Porch) (env : HttpEnv) : Bool :=
  (httpReqHandler w env porch.process.server porch.process.device statusRequest).replies.any checkDoorbell

def porchStep (w : World) (porch : Porch) : PorchEvent → Porch × List PorchOut
  | .loop event => porch.serve w event
  | .phone _ (.checked _ _ _) => (porch, [])
  | .phone id act => porch.tell id act
  | .check id thread env fate isStreaming =>
      if ((porch.phones id).threads thread).pc = .check then
        match fate with
        | .unreached => porch.tell id (.checked thread none isStreaming)
        | .replyLost =>
            let served := porch.serve w (.request env statusRequest)
            let told := served.1.tell id (.checked thread none isStreaming)
            (told.1, served.2 ++ told.2)
        | .answered =>
            let served := porch.serve w (.request env statusRequest)
            let told := served.1.tell id (.checked thread (some (ringingAnswer w porch env)) isStreaming)
            (told.1, served.2 ++ told.2)
      else (porch, [])

def porchRun (w : World) (start : Porch) (events : List PorchEvent) : Porch × List PorchOut :=
  Runs.run (Runs.record (porchStep w)) (start, []) events

def PorchOut.exchange? : PorchOut → Option Exchange
  | .exchange made => some made
  | .note _ _ => none

def PorchOut.rang : PorchOut → Bool
  | .exchange _ => false
  | .note _ (.rang _) => true
  | .note _ _ => false

-- A ring that reached a phone, whether it rang or was busy showing a door.
def PorchOut.reported : PorchOut → Bool
  | .note _ (.skipped _) => true
  | out => out.rang

def exchanges (log : List PorchOut) : List Exchange := log.filterMap PorchOut.exchange?

theorem exchanges_append (early late : List PorchOut) : exchanges (early ++ late) = exchanges early ++ exchanges late :=
  List.filterMap_append ..

@[simp] theorem exchanges_exchange (made : List Exchange) : exchanges (made.map .exchange) = made := by
  simp [exchanges, List.filterMap_map, Function.comp_def, PorchOut.exchange?]

@[simp] theorem exchanges_notes (id : PhoneId) (made : List Note) : exchanges (made.map (.note id)) = [] := by
  simp [exchanges, List.filterMap_map, Function.comp_def, PorchOut.exchange?]

@[simp] theorem no_report_exchange (made : List Exchange) : (made.map PorchOut.exchange).countP PorchOut.reported = 0 := by
  simp [List.countP_map, Function.comp_def, PorchOut.reported, PorchOut.rang]

theorem rang_reported (log : List PorchOut) : log.countP PorchOut.rang ≤ log.countP PorchOut.reported := by
  apply List.countP_mono_left
  intro out _ rings
  cases out with
  | exchange made => exact rings
  | note id made =>
      cases made with
      | skipped thread => rfl
      | _ => exact rings

theorem status_checked (doorbell : Doorbell) : checkDoorbell (handleDoorbellStatus doorbell).2 = doorbell.pending := by
  cases doorbell with
  | mk pending timestamp =>
      cases pending with
      | true =>
          have ringing : checkDoorbell (httpReply 200 "OK" [jsonHeaders, ascii "\x7b\"ringing\":true\x7d"]) = true := by
            decide +kernel
          exact ringing
      | false =>
          have quiet : checkDoorbell (httpReply 200 "OK" [jsonHeaders, ascii "\x7b\"ringing\":false\x7d"]) = false := by
            decide +kernel
          exact quiet

theorem ringing_pending (w : World) (porch : Porch) (env : HttpEnv) :
    ringingAnswer w porch env = porch.process.server.doorbell.pending := by
  rw [ringingAnswer, asks_handler w env _ _ statusRequest (by decide), List.any_cons, List.any_nil, Bool.or_false, status_checked]

theorem tell_reports (porch : Porch) (id : PhoneId) (act : Act)
    (other : ∀ thread isStreaming, act ≠ .checked thread (some true) isStreaming) :
    (porch.tell id act).2.countP PorchOut.reported = 0 := by
  have silent : ∀ note ∈ (serviceStep (porch.phones id) act).2, ∀ thread, note ≠ .rang thread ∧ note ≠ .skipped thread := by
    cases act with
    | checked thread ringing isStreaming =>
        have quiet : ringing ≠ some true := fun rings => other thread isStreaming (by rw [rings])
        simp only [serviceStep, if_neg quiet]
        split <;> simp
    | joinTimeout =>
        simp only [serviceStep]
        split
        · simp
        · split <;> simp
    | loop thread =>
        simp only [serviceStep]
        repeat' split
        all_goals simp
    | onStartCommand host port =>
        simp only [serviceStep]
        split <;> simp
    | joined =>
        simp only [serviceStep]
        split <;> simp
    | onDestroy =>
        simp only [serviceStep]
        split <;> simp
    | woken thread =>
        simp only [serviceStep]
        split <;> simp
  rw [List.countP_eq_zero]
  intro out member
  obtain ⟨note, inside, rfl⟩ := List.mem_map.mp member
  cases note with
  | rang thread => exact absurd rfl (silent _ inside thread).1
  | skipped thread => exact absurd rfl (silent _ inside thread).2
  | asked thread => simp [PorchOut.reported, PorchOut.rang]
  | abandoned thread => simp [PorchOut.reported, PorchOut.rang]

theorem tell_checked_reports (porch : Porch) (id : PhoneId) (thread : Nat) (ringing isStreaming : Bool)
    (here : ((porch.phones id).threads thread).pc = .check) :
    (porch.tell id (.checked thread (some ringing) isStreaming)).2.countP PorchOut.reported = ringing.toNat := by
  cases ringing <;> cases isStreaming <;> simp [Porch.tell, serviceStep, onDoorbellRing, here, PorchOut.reported, PorchOut.rang]

-- The rings taken, against those that reached a phone and the one that may still wait.
structure Accounted (relates : Nat → Nat → Prop) (reached : Porch × List PorchOut) : Prop where
  bell : BellKept (reached.1.process, exchanges reached.2)
  reported : relates (reached.2.countP PorchOut.reported + reached.1.process.server.doorbell.pending.toNat)
    ((exchanges reached.2).countP Exchange.rung)

variable (relates : Nat → Nat → Prop)

theorem served_request (w : World) (process : Process) (env : HttpEnv) (msg : HttpMsg) :
    processStep w process (.request env msg) =
      (⟨(httpReqHandler w env process.server process.device msg).server,
        (httpReqHandler w env process.server process.device msg).device⟩,
        [⟨env.jiffies, msg, (httpReqHandler w env process.server process.device msg).replies⟩]) := rfl

theorem served_pending (w : World) (process : Process) (event : LoopEvent) :
    (processStep w process event).1.server.doorbell.pending.toNat ≤
      process.server.doorbell.pending.toNat + (processStep w process event).2.countP Exchange.rung := by
  cases event with
  | device action => exact Nat.le_add_right _ _
  | request env msg =>
      rw [served_request]
      by_cases rings : msg.rings = true
      · rw [rings_handler w env _ _ msg rings]
        by_cases limited : Limited env.jiffies process.server.doorbell
        · rw [(trigger_limited _ _ limited).1]
          exact Nat.le_add_right _ _
        · obtain ⟨fresh, code⟩ := trigger_taken _ _ limited
          simp [fresh, Exchange.rung, rings, code]
      · by_cases asks : msg.asks = true
        · rw [asks_handler w env _ _ msg asks, status_doorbell]
          exact Nat.zero_le _
        · rw [other_handler w env _ _ msg (Bool.eq_false_iff.mpr rings) (Bool.eq_false_iff.mpr asks)]
          exact Nat.le_add_right _ _

theorem status_served (w : World) (process : Process) (env : HttpEnv) :
    (processStep w process (.request env statusRequest)).1.server.doorbell.pending = false ∧
      (processStep w process (.request env statusRequest)).2.countP Exchange.rung = 0 := by
  have silent : statusRequest.rings = false := by decide
  rw [served_request, asks_handler w env _ _ statusRequest (by decide), status_doorbell]
  simp [Exchange.rung, silent]

theorem served_bell (w : World) (porch : Porch) (log : List PorchOut) (event : LoopEvent)
    (bell : BellKept (porch.process, exchanges log)) :
    BellKept ((porch.serve w event).1.process, exchanges (log ++ (porch.serve w event).2)) := by
  rw [exchanges_append, Porch.serve, exchanges_exchange]
  exact next_bell w (porch.process, exchanges log) event bell

theorem told_process (porch : Porch) (id : PhoneId) (act : Act) : (porch.tell id act).1.process = porch.process := rfl

theorem told_exchanges (porch : Porch) (id : PhoneId) (act : Act) (log : List PorchOut) :
    exchanges (log ++ (porch.tell id act).2) = exchanges log := by
  rw [exchanges_append, Porch.tell, exchanges_notes, List.append_nil]

theorem told_accounted (porch : Porch) (log : List PorchOut) (id : PhoneId) (act : Act)
    (other : ∀ thread isStreaming, act ≠ .checked thread (some true) isStreaming) (kept : Accounted relates (porch, log)) :
    Accounted relates ((porch.tell id act).1, log ++ (porch.tell id act).2) := by
  obtain ⟨bell, reported⟩ := kept
  refine ⟨?_, ?_⟩
  · simpa only [told_process, told_exchanges] using bell
  · simpa only [told_process, told_exchanges, List.countP_append, tell_reports porch id act other, Nat.add_zero] using reported

theorem phone_accounted (w : World) (porch : Porch) (log : List PorchOut) (id : PhoneId) (act : Act)
    (kept : Accounted relates (porch, log)) :
    Accounted relates (Runs.record (porchStep w) (porch, log) (.phone id act)) := by
  cases act with
  | checked thread ringing isStreaming => simpa [Runs.record, porchStep] using kept
  | onStartCommand host port => exact told_accounted relates porch log id _ (by simp) kept
  | joined => exact told_accounted relates porch log id _ (by simp) kept
  | joinTimeout => exact told_accounted relates porch log id _ (by simp) kept
  | onDestroy => exact told_accounted relates porch log id _ (by simp) kept
  | loop thread => exact told_accounted relates porch log id _ (by simp) kept
  | woken thread => exact told_accounted relates porch log id _ (by simp) kept

theorem answered_accounted (w : World) (porch : Porch) (log : List PorchOut) (id : PhoneId) (thread : Nat) (env : HttpEnv)
    (isStreaming : Bool) (here : ((porch.phones id).threads thread).pc = .check) (kept : Accounted relates (porch, log)) :
    Accounted relates (Runs.record (porchStep w) (porch, log) (.check id thread env .answered isStreaming)) := by
  obtain ⟨bell, reported⟩ := kept
  obtain ⟨fetched, silent⟩ := status_served w porch.process env
  have brings := tell_checked_reports (porch.serve w (.request env statusRequest)).1 id thread (ringingAnswer w porch env)
    isStreaming here
  simp only [Runs.record, porchStep, if_pos here]
  rw [← List.append_assoc]
  refine ⟨?_, ?_⟩
  · simpa only [told_process, told_exchanges] using served_bell w porch log (.request env statusRequest) bell
  · rw [told_exchanges, told_process, List.countP_append, brings, ringing_pending]
    simp only [exchanges_append, Porch.serve, exchanges_exchange, List.countP_append, no_report_exchange, fetched, silent] at reported ⊢
    simpa using reported

theorem served_kept (w : World) (porch : Porch) (log : List PorchOut) (event : LoopEvent)
    (kept : Accounted (· ≤ ·) (porch, log)) :
    Accounted (· ≤ ·) ((porch.serve w event).1, log ++ (porch.serve w event).2) := by
  obtain ⟨bell, reported⟩ := kept
  refine ⟨served_bell w porch log event bell, ?_⟩
  have more := served_pending w porch.process event
  simp only [exchanges_append, Porch.serve, exchanges_exchange, List.countP_append, no_report_exchange] at reported more ⊢
  omega

theorem porch_next (w : World) (reached : Porch × List PorchOut) (event : PorchEvent) (kept : Accounted (· ≤ ·) reached) :
    Accounted (· ≤ ·) (Runs.record (porchStep w) reached event) := by
  obtain ⟨porch, log⟩ := reached
  cases event with
  | loop event => exact served_kept w porch log event kept
  | phone id act => exact phone_accounted _ w porch log id act kept
  | check id thread env fate isStreaming =>
      by_cases here : ((porch.phones id).threads thread).pc = .check
      · cases fate with
        | unreached =>
            simp only [Runs.record, porchStep, if_pos here]
            exact told_accounted _ porch log id _ (by simp) kept
        | replyLost =>
            have served := served_kept w porch log (.request env statusRequest) kept
            have told := told_accounted _ _ _ id (.checked thread none isStreaming) (by simp) served
            simp only [Runs.record, porchStep, if_pos here]
            rwa [List.append_assoc] at told
        | answered => exact answered_accounted _ w porch log id thread env isStreaming here kept
      · simpa [Runs.record, porchStep, here] using kept

theorem accounted_start (start : Process) (fresh : start.server.doorbell = {}) (reflexive : relates 0 0) :
    Accounted relates ({ process := start }, []) := by
  refine ⟨⟨?_, ?_⟩, ?_⟩
  · simp [fresh, exchanges]
  · simp [fresh, exchanges]
  · simpa [fresh, exchanges] using reflexive

theorem porch_accounted (w : World) (start : Process) (fresh : start.server.doorbell = {}) (events : List PorchEvent) :
    Accounted (· ≤ ·) (porchRun w { process := start } events) :=
  Runs.run_invariant _ (Accounted (· ≤ ·)) _ events (porch_next w) (accounted_start _ start fresh (Nat.le_refl 0))

theorem rings_reported_once (w : World) (start : Process) (fresh : start.server.doorbell = {}) (events : List PorchEvent) :
    (porchRun w { process := start } events).2.countP PorchOut.rang ≤
      (exchanges (porchRun w { process := start } events).2).countP Exchange.rung := by
  have reported := Nat.le_of_add_right_le (porch_accounted w start fresh events).reported
  exact Nat.le_trans (rang_reported _) reported

-- Nobody but the phones asks for the doorbell, and the reply to a request that arrived is not lost.
def PorchEvent.direct : PorchEvent → Bool
  | .loop (.request _ msg) => !msg.asks
  | .check _ _ _ .replyLost _ => false
  | _ => true

-- Between any two presses that are taken the device was asked.
def Prompt (log : List Exchange) : Prop :=
  ∀ before first between last behind, log = before ++ first :: between ++ last :: behind →
    first.rung = true → last.rung = true → ∃ made ∈ between, made.asked = true

theorem prompt_before (early late : List Exchange) (prompt : Prompt (early ++ late)) : Prompt early := by
  intro before first between last behind split
  exact prompt before first between last (behind ++ late) (by simp [split])

theorem prompt_snoc (log : List Exchange) (press : Exchange) :
    Prompt (log ++ [press]) ↔ Prompt log ∧ (press.rung = true → History.raised Exchange.rung Exchange.asked log = false) := by
  constructor
  · intro prompt
    refine ⟨prompt_before log [press] prompt, fun again => ?_⟩
    rw [Bool.eq_false_iff]
    intro waits
    obtain ⟨before, ring, between, split, rung, quiet⟩ := (History.raised_iff _ _ _).mp waits
    obtain ⟨made, inside, asked⟩ := prompt before ring between press [] (by simp [split]) rung again
    exact absurd asked (Bool.eq_false_iff.mp (quiet made inside))
  · rintro ⟨prompt, fetched⟩ before first between last behind split rung again
    rcases List.eq_nil_or_concat behind with rfl | ⟨inner, newest, rfl⟩
    · have same := List.append_inj' split rfl
      rw [← List.singleton_inj.mp same.2] at again
      by_contra silent
      push Not at silent
      have waits := (History.raised_iff Exchange.rung Exchange.asked log).mpr
        ⟨before, first, between, same.1, rung, fun made inside => Bool.eq_false_iff.mpr (silent made inside)⟩
      exact absurd waits (Bool.eq_false_iff.mp (fetched again))
    · rw [List.concat_eq_append, ← List.cons_append, ← List.append_assoc] at split
      exact prompt before first between last inner (List.append_inj' split rfl).1 rung again

theorem served_exact (w : World) (process : Process) (log : List Exchange) (event : LoopEvent) (bell : BellKept (process, log))
    (direct : (PorchEvent.loop event).direct = true) (prompt : Prompt (log ++ (processStep w process event).2)) :
    (processStep w process event).1.server.doorbell.pending.toNat =
      process.server.doorbell.pending.toNat + (processStep w process event).2.countP Exchange.rung := by
  cases event with
  | device action => rfl
  | request env msg =>
      have asks : msg.asks = false := by simpa [PorchEvent.direct] using direct
      rw [served_request] at prompt ⊢
      by_cases rings : msg.rings = true
      · rw [rings_handler w env _ _ msg rings] at prompt ⊢
        by_cases limited : Limited env.jiffies process.server.doorbell
        · obtain ⟨same, code⟩ := trigger_limited _ _ limited
          simp [same, Exchange.rung, code]
        · obtain ⟨fresh, code⟩ := trigger_taken _ _ limited
          -- The ring before this one has been fetched, so that this one does not take its place.
          have fetched := ((prompt_snoc log _).mp prompt).2 (by simp [Exchange.rung, rings, code])
          have empty : process.server.doorbell.pending = false := bell.pending.trans fetched
          simp [fresh, Exchange.rung, rings, code, empty]
      · have silent := Bool.eq_false_iff.mpr rings
        simp [other_handler w env _ _ msg silent asks, Exchange.rung, silent]

theorem porch_exact (w : World) (porch : Porch) (log : List PorchOut) (event : PorchEvent) (direct : event.direct = true)
    (prompt : Prompt (exchanges (log ++ (porchStep w porch event).2))) (kept : Accounted (· = ·) (porch, log)) :
    Accounted (· = ·) (Runs.record (porchStep w) (porch, log) event) := by
  cases event with
  | loop event =>
      obtain ⟨bell, reported⟩ := kept
      refine ⟨served_bell w porch log event bell, ?_⟩
      have served : Prompt (exchanges log ++ (processStep w porch.process event).2) := by
        simpa only [porchStep, exchanges_append, Porch.serve, exchanges_exchange] using prompt
      have more := served_exact w porch.process (exchanges log) event bell direct served
      simp only [Runs.record, porchStep, exchanges_append, Porch.serve, exchanges_exchange, List.countP_append,
        no_report_exchange] at reported more ⊢
      omega
  | phone id act => exact phone_accounted _ w porch log id act kept
  | check id thread env fate isStreaming =>
      by_cases here : ((porch.phones id).threads thread).pc = .check
      · cases fate with
        | unreached =>
            simp only [Runs.record, porchStep, if_pos here]
            exact told_accounted _ porch log id _ (by simp) kept
        | replyLost => cases direct
        | answered => exact answered_accounted _ w porch log id thread env isStreaming here kept
      · simpa [Runs.record, porchStep, here] using kept

theorem every_ring_reported (w : World) (start : Process) (fresh : start.server.doorbell = {}) (events : List PorchEvent)
    (direct : ∀ event ∈ events, event.direct = true)
    (prompt : Prompt (exchanges (porchRun w { process := start } events).2)) :
    (porchRun w { process := start } events).2.countP PorchOut.reported +
        (porchRun w { process := start } events).1.process.server.doorbell.pending.toNat =
      (exchanges (porchRun w { process := start } events).2).countP Exchange.rung := by
  have kept : Accounted (· = ·) (porchRun w { process := start } events) := by
    induction events using List.reverseRecOn with
    | nil => exact accounted_start _ start fresh rfl
    | append_singleton events event ih =>
        have last : porchRun w { process := start } (events ++ [event]) =
            Runs.record (porchStep w) (porchRun w { process := start } events) event := Runs.run_append _ _ events [event]
        rw [last] at prompt ⊢
        have sofar := prompt
        rw [Runs.record, exchanges_append] at sofar
        have before := ih (fun early member => direct early (List.mem_append_left _ member)) (prompt_before _ _ sofar)
        exact porch_exact w _ _ event (direct event (by simp)) prompt before
  exact kept.reported

-- Whether a check rings: a press was taken, nobody has asked the device since, and the phone shows no door yet.
theorem check_rings_iff (w : World) (start : Process) (fresh : start.server.doorbell = {}) (events : List PorchEvent)
    (id : PhoneId) (thread : Nat) (env : HttpEnv) (isStreaming : Bool)
    (here : (((porchRun w { process := start } events).1.phones id).threads thread).pc = .check) :
    .note id (.rang thread) ∈
        (porchStep w (porchRun w { process := start } events).1 (.check id thread env .answered isStreaming)).2 ↔
      isStreaming = false ∧ ∃ before ring between, exchanges (porchRun w { process := start } events).2 = before ++ ring :: between ∧
        ring.rung = true ∧ ∀ made ∈ between, made.asked = false := by
  have bell := (porch_accounted w start fresh events).bell
  generalize porchRun w { process := start } events = reached at here bell ⊢
  have pending : reached.1.process.server.doorbell.pending = History.raised Exchange.rung Exchange.asked (exchanges reached.2) :=
    bell.pending
  rw [← History.raised_iff, ← pending]
  simp only [porchStep, if_pos here, ringing_pending]
  cases reached.1.process.server.doorbell.pending <;> cases isStreaming <;>
    simp [Porch.serve, Porch.tell, serviceStep, onDoorbellRing, here]

def phoneStarts : List PorchEvent :=
  [.phone 0 (.onStartCommand (some (text "192.168.1.20")) none), .phone 0 .joined, .phone 0 (.loop 0)]

def askedAt (now : UInt64) (isStreaming : Bool) : PorchEvent :=
  .check 0 0 { fopen := fun _ => none, jiffies := now } .answered isStreaming

def twoRings : List PorchEvent :=
  phoneStarts ++ [.loop (pressAt 1000), askedAt 2000 false, .phone 0 (.woken 0), .phone 0 (.loop 0), .loop (pressAt 6500), askedAt 7000 true]

def pressTaken (now : UInt64) : Exchange := ⟨now, pressMsg, [httpReply 200 "OK" [jsonHeaders, ascii "\x7b\"status\":\"ok\"\x7d"]]⟩

def ringFetched (now : UInt64) : Exchange :=
  ⟨now, statusRequest, [httpReply 200 "OK" [jsonHeaders, ascii "\x7b\"ringing\":true\x7d"]]⟩

theorem first_ring_heard :
    .note 0 (.rang 0) ∈ (porchStep sampleWorld
      (porchRun sampleWorld { process := ⟨httpSigInit [], {}⟩ } (phoneStarts ++ [.loop (pressAt 1000)])).1 (askedAt 2000 false)).2 := by
  have rings := check_rings_iff sampleWorld ⟨httpSigInit [], {}⟩ rfl (phoneStarts ++ [.loop (pressAt 1000)]) 0 0
    { fopen := fun _ => none, jiffies := 2000 } false (by decide +kernel)
  apply rings.mpr
  exact ⟨rfl, [], pressTaken 1000, [], by decide +kernel, by decide +kernel, by simp⟩

theorem two_rings_once :
    (porchRun sampleWorld { process := ⟨httpSigInit [], {}⟩ } twoRings).2.countP PorchOut.rang ≤ 2 := by
  have once := rings_reported_once sampleWorld ⟨httpSigInit [], {}⟩ rfl twoRings
  have taken : (exchanges (porchRun sampleWorld { process := ⟨httpSigInit [], {}⟩ } twoRings).2).countP Exchange.rung = 2 := by
    decide +kernel
  exact taken ▸ once

theorem two_rings_reported :
    (porchRun sampleWorld { process := ⟨httpSigInit [], {}⟩ } twoRings).2.countP PorchOut.reported +
        (porchRun sampleWorld { process := ⟨httpSigInit [], {}⟩ } twoRings).1.process.server.doorbell.pending.toNat =
      (exchanges (porchRun sampleWorld { process := ⟨httpSigInit [], {}⟩ } twoRings).2).countP Exchange.rung := by
  apply every_ring_reported sampleWorld ⟨httpSigInit [], {}⟩ rfl twoRings (by decide)
  have log : exchanges (porchRun sampleWorld { process := ⟨httpSigInit [], {}⟩ } twoRings).2 =
      [] ++ [pressTaken 1000] ++ [ringFetched 2000] ++ [pressTaken 6500] ++ [ringFetched 7000] := by
    decide +kernel
  have none : Prompt [] := by
    intro before first between last behind split
    simp at split
  rw [log]
  simp only [prompt_snoc]
  exact ⟨⟨⟨⟨none, by decide +kernel⟩, by decide +kernel⟩, by decide +kernel⟩, by decide +kernel⟩

end Intercom.Android.Doorbell
