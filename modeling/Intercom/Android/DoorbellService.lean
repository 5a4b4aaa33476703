import Intercom.Http.Doorbell
import Intercom.Android.Text
import Intercom.Lib.Search
import Mathlib.Logic.Function.Basic

set_option autoImplicit false

/- DoorbellService.kt: the main thread in onStartCommand and onDestroy, and the poll threads it starts. A step is one
   access to a field they share or one blocking call, whose result the label gives. MainActivity.isStreaming is not one of
   these fields: the label of a check also gives what onDoorbellRing finds in it. -/
namespace Intercom.Android.Doorbell

open ByteText Http

-- HttpURLConnection ends the body where the device closes the connection.
def httpBody (reply : HttpReply) : Bytes := (after (ascii "\r\n\r\n") reply.text).getD []

def checkDoorbell (reply : HttpReply) : Bool :=
  if reply.scode ≠ 200 then false else contains (ofAscii (httpBody reply)) (text "\"ringing\":true")

inductive PollPc where
  | loop
  | check
  | sleep
  | over
deriving DecidableEq, Repr

structure PollThread where
  pc : PollPc := .loop
  interrupted : Bool := false
deriving DecidableEq, Repr

inductive MainPc where
  | idle
  | restart (host : Text) (port : Int)
  | destroy
  | destroyed
deriving DecidableEq, Repr

-- Thread numbers are given in the order of their start; what was never started is over.
structure Service where
  polling : Bool := false
  host : Text := []
  httpPort : Int := 9000
  pollThread : Option Nat := none
  threads : Nat → PollThread := fun _ => { pc := .over }
  started : Nat := 0
  main : MainPc := .idle

-- A check that threw has no result.
inductive Act where
  | onStartCommand (host : Option Text) (port : Option Int)
  | joined
  | joinTimeout
  | onDestroy
  | loop (thread : Nat)
  | checked (thread : Nat) (ringing : Option Bool) (isStreaming : Bool)
  | woken (thread : Nat)
deriving DecidableEq, Repr

inductive Note where
  | asked (thread : Nat)
  | rang (thread : Nat)
  | skipped (thread : Nat)
  | abandoned (thread : Nat)
deriving DecidableEq, Repr

def hostChar (char : UInt16) : Bool :=
  (97 ≤ char && char ≤ 122) || (65 ≤ char && char ≤ 90) || isDigit char || char == 46 || char == 95 || char == 45

def hostAllowed (host : Text) : Bool := !host.isEmpty && host.all hostChar

def Service.setThread (service : Service) (thread : Nat) (state : PollThread) : Service :=
  { service with threads := Function.update service.threads thread state }

def Service.alive (service : Service) (thread : Nat) : Bool := (service.threads thread).pc != .over

def Service.awaited (service : Service) : Option Nat := service.pollThread.filter service.alive

-- polling = false; pollThread?.interrupt()
def Service.halt (service : Service) : Service :=
  match service.pollThread with
  | none => { service with polling := false }
  | some thread => { service.setThread thread { service.threads thread with interrupted := true } with polling := false }

def Service.resume (service : Service) (host : Text) (port : Int) : Service :=
  let service := { service with host, httpPort := port, main := .idle }
  if service.polling then service
  else
    { service.setThread service.started {} with
      polling := true, pollThread := some service.started, started := service.started + 1 }

def onStartCommand (service : Service) (host : Option Text) (port : Option Int) : Service :=
  let newHost := host.getD []
  let newPort := port.getD 9000
  if !hostAllowed newHost then service
  else if newHost ≠ service.host ∨ newPort ≠ service.httpPort then { service.halt with main := .restart newHost newPort }
  else service.resume newHost newPort

-- What follows the join, whether the thread has ended or the time is up.
def joinReturns (service : Service) : Service :=
  match service.main with
  | .restart host port => service.resume host port
  | .destroy => { service with pollThread := none, main := .destroyed }
  | _ => service

-- Thread.sleep throws at once in an interrupted thread, and both handlers of that exception leave the loop.
def sleepAfter (state : PollThread) : PollThread := { state with pc := if state.interrupted then .over else .sleep }

-- While the phone shows a door already, neither the call screen nor the notification comes.
def onDoorbellRing (thread : Nat) (isStreaming : Bool) : List Note := if isStreaming then [.skipped thread] else [.rang thread]

-- A check is assumed to leave the interrupt flag as it is, also when the interrupt comes while it blocks.
def serviceStep (service : Service) : Act → Service × List Note
  | .onStartCommand host port => if service.main = .idle then (onStartCommand service host port, []) else (service, [])
  | .joined => if service.awaited = none then (joinReturns service, []) else (service, [])
  | .joinTimeout =>
      if service.main = .idle ∨ service.main = .destroyed then (service, [])
      else
        match service.awaited with
        | none => (service, [])
        | some thread => (joinReturns service, [.abandoned thread])
  | .onDestroy => if service.main = .idle then ({ service.halt with main := .destroy }, []) else (service, [])
  | .loop thread =>
      if (service.threads thread).pc = .loop then
        if service.polling then (service.setThread thread { service.threads thread with pc := .check }, [.asked thread])
        else (service.setThread thread { service.threads thread with pc := .over }, [])
      else (service, [])
  | .checked thread ringing isStreaming =>
      if (service.threads thread).pc = .check then
        (service.setThread thread (sleepAfter (service.threads thread)),
          if ringing = some true then onDoorbellRing thread isStreaming else [])
      else (service, [])
  | .woken thread =>
      if (service.threads thread).pc = .sleep then
        (service.setThread thread
          { service.threads thread with pc := if (service.threads thread).interrupted then .over else .loop }, [])
      else (service, [])

def serviceRun (service : Service) (acts : List Act) : Service × List Note :=
  Runs.run (Runs.record serviceStep) (service, []) acts

-- A thread that pollThread no longer names was given up by a join, and will not pass its next sleep.
structure ServiceKept (reached : Service × List Note) : Prop where
  unstarted : ∀ thread, reached.1.started ≤ thread → reached.1.alive thread = false
  busy : reached.1.polling = true → reached.1.main = .idle ∧
    ∃ thread, reached.1.pollThread = some thread ∧ reached.1.alive thread = true ∧ (reached.1.threads thread).interrupted = false
  halted : reached.1.polling = false → ∀ thread, reached.1.alive thread = true → (reached.1.threads thread).interrupted = true
  bare : reached.1.polling = false → reached.1.main = .idle ∨ reached.1.main = .destroyed → reached.1.pollThread = none
  stale : ∀ thread, reached.1.alive thread = true → reached.1.pollThread ≠ some thread →
    (reached.1.threads thread).interrupted = true ∧ .abandoned thread ∈ reached.2

@[simp] theorem set_thread_alive (service : Service) (thread other : Nat) (state : PollThread) :
    (service.setThread thread state).alive other = if other = thread then state.pc != .over else service.alive other := by
  by_cases same : other = thread
  · subst same
    simp [Service.setThread, Service.alive]
  · simp [Service.setThread, Service.alive, same]

@[simp] theorem set_thread_at (service : Service) (thread other : Nat) (state : PollThread) :
    (service.setThread thread state).threads other = if other = thread then state else service.threads other := by
  by_cases same : other = thread
  · subst same
    simp [Service.setThread]
  · simp [Service.setThread, same]

theorem moved_kept (service : Service) (log more : List Note) (thread : Nat) (state : PollThread)
    (kept : ServiceKept (service, log)) (live : service.alive thread = true)
    (same : state.interrupted = (service.threads thread).interrupted)
    (ends : state.pc = .over → service.polling = false ∨ state.interrupted = true) :
    ServiceKept (service.setThread thread state, log ++ more) := by
  obtain ⟨unstarted, busy, halted, bare, stale⟩ := kept
  refine ⟨?_, ?_, ?_, bare, ?_⟩
  · intro other late
    have gone := unstarted other late
    have apart : other ≠ thread := by
      rintro rfl
      exact absurd live (Bool.eq_false_iff.mp gone)
    simpa [apart] using gone
  · intro polls
    obtain ⟨main, current, named, awake, fresh⟩ := busy polls
    refine ⟨main, current, named, ?_⟩
    by_cases here : current = thread
    · subst here
      have going : state.pc ≠ .over := by
        intro gone
        rcases ends gone with off | hit
        · exact absurd polls (Bool.eq_false_iff.mp off)
        · rw [same, fresh] at hit
          cases hit
      simpa [going, same] using fresh
    · simpa [here] using ⟨awake, fresh⟩
  · intro off other awake
    by_cases here : other = thread
    · subst here
      simpa [same] using halted off other live
    · simp only [set_thread_alive, here, if_false] at awake
      simpa [here] using halted off other awake
  · intro other awake unnamed
    by_cases here : other = thread
    · subst here
      obtain ⟨hit, left⟩ := stale other live unnamed
      simpa [same] using ⟨hit, Or.inl left⟩
    · simp only [set_thread_alive, here, if_false] at awake
      obtain ⟨hit, left⟩ := stale other awake unnamed
      simpa [here] using ⟨hit, Or.inl left⟩

theorem halt_kept (service : Service) (log : List Note) (main : MainPc) (waits : main ≠ .idle ∧ main ≠ .destroyed)
    (kept : ServiceKept (service, log)) : ServiceKept ({ service.halt with main := main }, log) := by
  obtain ⟨unstarted, busy, halted, -, stale⟩ := kept
  cases named : service.pollThread with
  | none =>
      refine ⟨?_, ?_, ?_, ?_, ?_⟩
      · simpa [Service.halt, named, Service.alive] using unstarted
      · simp [Service.halt, named]
      · intro _ thread awake
        simp only [Service.halt, named, Service.alive] at awake ⊢
        exact (stale thread awake (by simp [named])).1
      · simp [waits]
      · simpa [Service.halt, named, Service.alive] using stale
  | some current =>
      have alive_same : ∀ thread, ({ service.halt with main := main } : Service).alive thread = service.alive thread := by
        intro thread
        by_cases here : thread = current
        · subst here
          simp [Service.halt, named, Service.alive, Service.setThread]
        · simp [Service.halt, named, Service.alive, Service.setThread, here]
      have flag : ∀ thread, service.alive thread = true →
          (({ service.halt with main := main } : Service).threads thread).interrupted = true := by
        intro thread awake
        by_cases here : thread = current
        · subst here
          simp [Service.halt, named, Service.setThread]
        · have old := (stale thread awake (by simpa [named] using Ne.symm here)).1
          simpa [Service.halt, named, Service.setThread, here] using old
      refine ⟨?_, ?_, ?_, ?_, ?_⟩
      · intro thread late
        rw [alive_same]
        exact unstarted thread (by simpa [Service.halt, named, Service.setThread] using late)
      · simp [Service.halt, named]
      · intro _ thread awake
        rw [alive_same] at awake
        exact flag thread awake
      · simp [waits]
      · intro thread awake unnamed
        rw [alive_same] at awake
        have apart : service.pollThread ≠ some thread := by
          simpa [Service.halt, named, Service.setThread] using unnamed
        exact ⟨flag thread awake, (stale thread awake apart).2⟩

-- Whoever still runs when a new thread is started has been interrupted and given up.
theorem resume_kept (service : Service) (log more : List Note) (host : Text) (port : Int) (kept : ServiceKept (service, log))
    (left : service.polling = false → ∀ thread, service.pollThread = some thread → service.alive thread = true →
      .abandoned thread ∈ more) : ServiceKept (service.resume host port, log ++ more) := by
  obtain ⟨unstarted, busy, halted, -, stale⟩ := kept
  by_cases polls : service.polling = true
  · have same : service.resume host port = { service with host, httpPort := port, main := .idle } := by
      simp [Service.resume, polls]
    rw [same]
    refine ⟨unstarted, ?_, ?_, ?_, ?_⟩
    · exact fun _ => ⟨rfl, (busy polls).2⟩
    · exact fun off => absurd polls (Bool.eq_false_iff.mp off)
    · exact fun off => absurd polls (Bool.eq_false_iff.mp off)
    · intro thread awake unnamed
      obtain ⟨hit, given⟩ := stale thread awake unnamed
      exact ⟨hit, List.mem_append_left more given⟩
  · have off : service.polling = false := Bool.eq_false_iff.mpr polls
    have threads : (service.resume host port).threads = Function.update service.threads service.started {} := by
      simp [Service.resume, off, Service.setThread]
    have alive_other : ∀ thread, thread ≠ service.started →
        (service.resume host port).alive thread = service.alive thread ∧
          ((service.resume host port).threads thread).interrupted = (service.threads thread).interrupted := by
      intro thread apart
      simp [Service.alive, threads, apart]
    have named : (service.resume host port).pollThread = some service.started := by simp [Service.resume, off]
    refine ⟨?_, ?_, ?_, ?_, ?_⟩
    · intro thread late
      have count : service.started + 1 ≤ thread := by simpa [Service.resume, off] using late
      rw [(alive_other thread (by omega)).1]
      exact unstarted thread (Nat.le_of_succ_le count)
    · intro _
      refine ⟨by simp [Service.resume, off, Service.setThread], service.started, named, ?_, ?_⟩
      · simp [Service.alive, threads]
      · simp [threads]
    · simp [Service.resume, off]
    · simp [Service.resume, off]
    · intro thread awake unnamed
      have apart : thread ≠ service.started := by
        rintro rfl
        exact unnamed named
      rw [(alive_other thread apart).1] at awake
      rw [(alive_other thread apart).2]
      refine ⟨halted off thread awake, ?_⟩
      by_cases current : service.pollThread = some thread
      · exact List.mem_append_right log (left off thread current awake)
      · exact List.mem_append_left more (stale thread awake current).2

theorem destroyed_kept (service : Service) (log more : List Note) (off : service.polling = false) (kept : ServiceKept (service, log))
    (left : ∀ thread, service.pollThread = some thread → service.alive thread = true → .abandoned thread ∈ more) :
    ServiceKept ({ service with pollThread := none, main := .destroyed }, log ++ more) := by
  obtain ⟨unstarted, -, halted, -, stale⟩ := kept
  refine ⟨unstarted, ?_, halted, ?_, ?_⟩
  · exact fun polls => absurd polls (Bool.eq_false_iff.mp off)
  · exact fun _ _ => rfl
  · intro thread awake _
    refine ⟨halted off thread awake, ?_⟩
    by_cases current : service.pollThread = some thread
    · exact List.mem_append_right log (left thread current awake)
    · exact List.mem_append_left more (stale thread awake current).2

theorem join_kept (service : Service) (log more : List Note) (kept : ServiceKept (service, log))
    (left : service.main ≠ .idle → service.main ≠ .destroyed → ∀ thread, service.pollThread = some thread →
      service.alive thread = true → .abandoned thread ∈ more) : ServiceKept (joinReturns service, log ++ more) := by
  have grown : ServiceKept (service, log ++ more) := by
    refine ⟨kept.unstarted, kept.busy, kept.halted, kept.bare, ?_⟩
    intro thread awake unnamed
    exact ⟨(kept.stale thread awake unnamed).1, List.mem_append_left more (kept.stale thread awake unnamed).2⟩
  rw [joinReturns]
  cases main : service.main with
  | restart host port =>
      apply resume_kept service log more host port kept
      exact fun _ => left (by simp [main]) (by simp [main])
  | destroy =>
      have off : service.polling = false := by
        rw [Bool.eq_false_iff]
        intro polls
        have idle := (kept.busy polls).1
        simp [main] at idle
      exact destroyed_kept service log more off kept (left (by simp [main]) (by simp [main]))
  | idle => exact grown
  | destroyed => exact grown

theorem awaited_none (service : Service) (none : service.awaited = none) (thread : Nat) (named : service.pollThread = some thread) :
    service.alive thread = false := by
  simpa [Service.awaited, named, Option.filter_eq_none_iff] using none

theorem awaited_some (service : Service) (thread : Nat) (found : service.awaited = some thread) :
    service.pollThread = some thread ∧ service.alive thread = true := by
  simpa [Service.awaited, Option.filter_eq_some_iff] using found

theorem pc_alive (service : Service) (thread : Nat) (pc : PollPc) (here : (service.threads thread).pc = pc) (runs : pc ≠ .over) :
    service.alive thread = true := by
  simp [Service.alive, here, runs]

theorem service_next (reached : Service × List Note) (act : Act) (kept : ServiceKept reached) :
    ServiceKept (Runs.record serviceStep reached act) := by
  obtain ⟨service, log⟩ := reached
  have still : ServiceKept (service, log ++ []) := by simpa using kept
  rw [Runs.record]
  cases act with
  | onStartCommand host port =>
      simp only [serviceStep]
      split
      case isTrue main =>
        rw [onStartCommand]
        dsimp only
        split
        · exact still
        · split
          · rw [List.append_nil]
            exact halt_kept service log _ (by simp) kept
          · apply resume_kept service log [] _ _ kept
            intro off thread named
            have nobody : service.pollThread = none := kept.bare off (.inl main)
            rw [nobody] at named
            cases named
      case isFalse => exact still
  | joined =>
      simp only [serviceStep]
      split
      case isTrue none =>
        apply join_kept service log [] kept
        intro _ _ thread named awake
        exact absurd awake (Bool.eq_false_iff.mp (awaited_none service none thread named))
      case isFalse => exact still
  | joinTimeout =>
      simp only [serviceStep]
      split
      case isTrue => exact still
      case isFalse waits =>
        cases found : service.awaited with
        | none => exact still
        | some current =>
            apply join_kept service log [.abandoned current] kept
            intro _ _ thread named _
            rw [(awaited_some service current found).1] at named
            simp [Option.some.inj named]
  | onDestroy =>
      simp only [serviceStep]
      split
      · rw [List.append_nil]
        exact halt_kept service log _ (by simp) kept
      · exact still
  | loop thread =>
      simp only [serviceStep]
      split
      case isTrue here =>
        have awake := pc_alive service thread .loop here (by decide)
        split
        case isTrue => exact moved_kept service log _ thread _ kept awake rfl (by simp)
        case isFalse off => exact moved_kept service log _ thread _ kept awake rfl (fun _ => .inl (Bool.eq_false_iff.mpr off))
      case isFalse => exact still
  | checked thread ringing isStreaming =>
      simp only [serviceStep]
      split
      case isTrue here =>
        refine moved_kept service log _ thread _ kept (pc_alive service thread .check here (by decide)) rfl ?_
        intro gone
        by_cases hit : (service.threads thread).interrupted = true
        · exact .inr hit
        · simp [sleepAfter, hit] at gone
      case isFalse => exact still
  | woken thread =>
      simp only [serviceStep]
      split
      case isTrue here =>
        refine moved_kept service log _ thread _ kept (pc_alive service thread .sleep here (by decide)) rfl ?_
        intro gone
        by_cases hit : (service.threads thread).interrupted = true
        · exact .inr hit
        · simp [hit] at gone
      case isFalse => exact still

theorem service_run_kept (acts : List Act) : ServiceKept (serviceRun {} acts) := by
  apply Runs.run_invariant _ ServiceKept _ acts service_next
  refine ⟨?_, ?_, ?_, ?_, ?_⟩
  · exact fun _ _ => rfl
  · exact fun polls => absurd polls (by decide)
  · exact fun _ thread awake => absurd awake (by simp [Service.alive])
  · exact fun _ _ => rfl
  · exact fun thread awake => absurd awake (by simp [Service.alive])

-- An interrupted thread that nobody waits for has at most the check ahead of it that it was about to begin.
structure Spent (thread : Nat) (reached : Service × List Note) : Prop where
  known : thread < reached.1.started
  unnamed : reached.1.pollThread ≠ some thread
  hit : (reached.1.threads thread).interrupted = true
  rounds : reached.2.count (.asked thread) + (if (reached.1.threads thread).pc = .loop then 1 else 0) ≤ 1

theorem halt_other (service : Service) (thread : Nat) (unnamed : service.pollThread ≠ some thread) :
    service.halt.threads thread = service.threads thread ∧ service.halt.pollThread = service.pollThread ∧
      service.halt.started = service.started := by
  cases named : service.pollThread with
  | none => simp [Service.halt, named]
  | some current =>
      have apart : thread ≠ current := by
        rintro rfl
        exact unnamed named
      simp [Service.halt, Service.setThread, apart, named]

theorem resume_other (service : Service) (host : Text) (port : Int) (thread : Nat) (known : thread < service.started)
    (unnamed : service.pollThread ≠ some thread) :
    (service.resume host port).threads thread = service.threads thread ∧
      (service.resume host port).pollThread ≠ some thread ∧ service.started ≤ (service.resume host port).started := by
  have apart : thread ≠ service.started := Nat.ne_of_lt known
  by_cases polls : service.polling = true
  · simp [Service.resume, polls, unnamed]
  · simp [Service.resume, polls, Service.setThread, apart, Ne.symm apart]

theorem join_other (service : Service) (thread : Nat) (known : thread < service.started)
    (unnamed : service.pollThread ≠ some thread) :
    (joinReturns service).threads thread = service.threads thread ∧
      (joinReturns service).pollThread ≠ some thread ∧ service.started ≤ (joinReturns service).started := by
  rw [joinReturns]
  split
  · exact resume_other service _ _ thread known unnamed
  · exact ⟨rfl, by simp, Nat.le_refl _⟩
  · exact ⟨rfl, unnamed, Nat.le_refl _⟩

theorem spent_main (thread : Nat) (service after : Service) (log more : List Note) (spent : Spent thread (service, log))
    (same : after.threads thread = service.threads thread) (unnamed : after.pollThread ≠ some thread)
    (grown : service.started ≤ after.started) (silent : more.count (.asked thread) = 0) :
    Spent thread (after, log ++ more) := by
  refine ⟨Nat.lt_of_lt_of_le spent.known grown, unnamed, ?_, ?_⟩
  · simpa only [same] using spent.hit
  · simpa only [same, List.count_append, silent, Nat.add_zero] using spent.rounds

theorem spent_moves (thread other : Nat) (service : Service) (log more : List Note) (state : PollThread)
    (spent : Spent thread (service, log)) (same : state.interrupted = (service.threads other).interrupted)
    (rounds : other = thread → more.count (.asked thread) + (if state.pc = .loop then 1 else 0) ≤
      if (service.threads thread).pc = .loop then 1 else 0)
    (silent : other ≠ thread → more.count (.asked thread) = 0) :
    Spent thread (service.setThread other state, log ++ more) := by
  obtain ⟨known, unnamed, hit, before⟩ := spent
  by_cases here : other = thread
  · subst here
    refine ⟨known, unnamed, by simpa [same] using hit, ?_⟩
    have step := rounds rfl
    simp only [set_thread_at, if_true, List.count_append] at before ⊢
    omega
  · refine ⟨known, unnamed, by simpa [Ne.symm here] using hit, ?_⟩
    simpa [Ne.symm here, silent here] using before

theorem ring_asks_nothing (other thread : Nat) (isStreaming : Bool) : (onDoorbellRing other isStreaming).count (.asked thread) = 0 := by
  cases isStreaming <;> simp [onDoorbellRing]

theorem spent_next (thread : Nat) (reached : Service × List Note) (act : Act) (spent : Spent thread reached) :
    Spent thread (Runs.record serviceStep reached act) := by
  obtain ⟨service, log⟩ := reached
  obtain ⟨known, unnamed, hit, -⟩ := id spent
  dsimp only at known unnamed hit
  have still : Spent thread (service, log ++ []) := by simpa using spent
  rw [Runs.record]
  cases act with
  | onStartCommand host port =>
      simp only [serviceStep]
      split
      · rw [onStartCommand]
        dsimp only
        obtain ⟨same, named, count⟩ := halt_other service thread unnamed
        obtain ⟨kept, free, grown⟩ := resume_other service (host.getD []) (port.getD 9000) thread known unnamed
        split
        · exact still
        · split
          · exact spent_main thread service _ log [] spent same (named ▸ unnamed) (Nat.le_of_eq count.symm) rfl
          · exact spent_main thread service _ log [] spent kept free grown rfl
      · exact still
  | joined =>
      obtain ⟨same, free, grown⟩ := join_other service thread known unnamed
      simp only [serviceStep]
      split
      · exact spent_main thread service _ log [] spent same free grown rfl
      · exact still
  | joinTimeout =>
      obtain ⟨same, free, grown⟩ := join_other service thread known unnamed
      simp only [serviceStep]
      split
      · exact still
      · cases service.awaited with
        | none => exact still
        | some current => exact spent_main thread service _ log [.abandoned current] spent same free grown (by simp)
  | onDestroy =>
      obtain ⟨same, named, count⟩ := halt_other service thread unnamed
      simp only [serviceStep]
      split
      · exact spent_main thread service _ log [] spent same (named ▸ unnamed) (Nat.le_of_eq count.symm) rfl
      · exact still
  | loop other =>
      simp only [serviceStep]
      split
      case isTrue here =>
        split
        · refine spent_moves thread other service log _ _ spent rfl ?_ ?_
          · rintro rfl
            simp [here]
          · intro apart
            simp [apart]
        · refine spent_moves thread other service log [] _ spent rfl ?_ (fun _ => rfl)
          simp
      case isFalse => exact still
  | checked other ringing isStreaming =>
      simp only [serviceStep]
      split
      case isTrue here =>
        have silent : (if ringing = some true then onDoorbellRing other isStreaming else []).count (.asked thread) = 0 := by
          split
          · exact ring_asks_nothing other thread isStreaming
          · rfl
        refine spent_moves thread other service log _ _ spent rfl ?_ (fun _ => silent)
        rintro rfl
        simp [silent, sleepAfter, hit]
      case isFalse => exact still
  | woken other =>
      simp only [serviceStep]
      split
      case isTrue here =>
        refine spent_moves thread other service log [] _ spent rfl ?_ (fun _ => rfl)
        rintro rfl
        simp [hit]
      case isFalse => exact still

theorem poll_threads (early late : List Act) :
    ((serviceRun {} early).1.polling = true → ∃ thread, (serviceRun {} early).1.pollThread = some thread ∧
      (serviceRun {} early).1.alive thread = true ∧ ((serviceRun {} early).1.threads thread).interrupted = false) ∧
    (∀ thread, (serviceRun {} early).1.alive thread = true →
      (serviceRun {} early).1.pollThread = some thread ∨
        .abandoned thread ∈ (serviceRun {} early).2 ∧
          (serviceRun (serviceRun {} early).1 late).2.count (.asked thread) ≤ 1) ∧
    ((serviceRun {} early).1.main = .destroyed → (serviceRun {} early).1.pollThread = none) := by
  have kept := service_run_kept early
  refine ⟨fun polls => (kept.busy polls).2, ?_, ?_⟩
  · intro thread awake
    by_cases named : (serviceRun {} early).1.pollThread = some thread
    · exact .inl named
    · obtain ⟨hit, left⟩ := kept.stale thread awake named
      have known : thread < (serviceRun {} early).1.started := by
        by_contra late
        exact absurd awake (Bool.eq_false_iff.mp (kept.unstarted thread (Nat.le_of_not_lt late)))
      have spent : Spent thread ((serviceRun {} early).1, []) := by
        refine ⟨known, named, hit, ?_⟩
        rw [List.count_nil, Nat.zero_add]
        split <;> decide
      have after := Runs.run_invariant _ (Spent thread) _ late (spent_next thread) spent
      exact .inr ⟨left, Nat.le_of_add_right_le after.rounds⟩
  · intro gone
    have off : (serviceRun {} early).1.polling = false := by
      rw [Bool.eq_false_iff]
      intro polls
      rw [(kept.busy polls).1] at gone
      cases gone
    exact kept.bare off (.inr gone)

end Intercom.Android.Doorbell
