import Intercom.Relay.Reconnect

set_option autoImplicit false

/- The reconnect timer of relay_client.c under a clock, in milliseconds: how often a relay that is away is asked. -/
namespace Intercom

open ByteText

def RelayEvent.isTimer : RelayEvent → Bool
  | .timer _ => true
  | _ => false

-- A connection that is established, or handed on, ends the outage.
def resets (device : RelayDevice) : RelayEvent → Bool
  | .established => device.relay.connected
  | .received chunk => device.relay.connected && (relayRecvHandler device.relay chunk).2 == .bridged
  | _ => false

-- due is when the armed timer runs out, failures how often it was armed since the outage began.
structure Paced where
  device : RelayDevice := {}
  now : Nat := 0
  due : Nat := 0
  failures : Nat := 0
  began : Nat := 0

inductive PacedEvent where
  | pass (ms : Nat)
  | relay (event : RelayEvent)
deriving DecidableEq, Repr

def Paced.after (paced : Paced) (event : RelayEvent) : Paced :=
  if resets paced.device event then { paced with device := relayNext paced.device event, failures := 0, began := paced.now }
  else { paced with device := relayNext paced.device event }

-- A timer that was not pending, or has just fired, has been armed by this event.
def pacedNext (paced : Paced) : PacedEvent → Paced
  | .pass ms => { paced with now := paced.now + ms }
  | .relay event =>
      if event.isTimer && decide (paced.now < paced.due) then paced
      else
        match (relayNext paced.device event).relay.reconnectTimer with
        | none => paced.after event
        | some delay =>
            if paced.device.relay.reconnectTimer.isNone || event.isTimer then
              { paced.after event with
                due := paced.now + delay, failures := if resets paced.device event then 0 else paced.failures + 1 }
            else paced.after event

-- What one event does to the timer and to backoff_count.
inductive RelayPace (before after : RelayClient) (reset fires : Bool) : Prop where
  | failed (pending : before.reconnectTimer = none ∨ fires = true) (kept : reset = false)
      (timer : after.reconnectTimer = some (relayBackoffDelay before).2) (count : after.backoffCount = before.backoffCount + 1)
  | handed (pending : before.reconnectTimer = none) (done : reset = true) (timer : after.reconnectTimer = some reconnectInterval)
      (count : after.backoffCount = 0)
  | established (done : reset = true) (timer : after.reconnectTimer = none) (count : after.backoffCount = 0)
  | fired (fires : fires = true) (kept : reset = false) (timer : after.reconnectTimer = none)
      (count : after.backoffCount = before.backoffCount)
  | still (idle : fires = true → before.reconnectTimer = none) (kept : reset = false)
      (timer : after.reconnectTimer = before.reconnectTimer) (count : after.backoffCount = before.backoffCount)

theorem schedule_pace (relay : RelayClient) (running : relay.running = true) :
    (relayScheduleReconnect relay).reconnectTimer = some (relayBackoffDelay relay).2 ∧
      (relayScheduleReconnect relay).backoffCount = relay.backoffCount + 1 := by
  rw [relayScheduleReconnect, if_pos running]
  exact ⟨rfl, rfl⟩

theorem do_connect_pace (result : ConnectResult) (relay : RelayClient) (running : relay.running = true) :
    ((relayDoConnect result relay).reconnectTimer = some (relayBackoffDelay relay).2 ∧
      (relayDoConnect result relay).backoffCount = relay.backoffCount + 1) ∨
    (relayDoConnect result relay).reconnectTimer = relay.reconnectTimer ∧
      (relayDoConnect result relay).backoffCount = relay.backoffCount := by
  cases result with
  | unresolved => exact Or.inl (schedule_pace relay running)
  | refused => exact Or.inl (schedule_pace { relay with connected := false } running)
  | opened => exact Or.inr ⟨rfl, rfl⟩

-- Induction on the lines: only BRIDGE touches the timer.
theorem loop_pace (fuel : Nat) (relay : RelayClient) (running : relay.running = true) :
    ((relayLoop fuel relay).2 = .bridged ∧ (relayLoop fuel relay).1.reconnectTimer = some reconnectInterval ∧
      (relayLoop fuel relay).1.backoffCount = 0) ∨
    (relayLoop fuel relay).2 = .waiting ∧ (relayLoop fuel relay).1.reconnectTimer = relay.reconnectTimer ∧
      (relayLoop fuel relay).1.backoffCount = relay.backoffCount := by
  induction fuel generalizing relay with
  | zero => exact Or.inr ⟨rfl, rfl, rfl⟩
  | succ fuel ih =>
      rw [relayLoop]
      cases memchr 10 relay.rbuf with
      | none => exact Or.inr ⟨rfl, rfl, rfl⟩
      | some lineLen =>
          dsimp only
          split
          · exact ih { relay with registered := true, rbuf := relay.rbuf.drop (lineLen + 1) } running
          · split
            · exact Or.inl ⟨rfl, by simp [handOff, running], rfl⟩
            · exact ih { relay with rbuf := relay.rbuf.drop (lineLen + 1) } running

theorem recv_pace (relay : RelayClient) (chunk : Bytes) (live : RelayLive relay) (connected : relay.connected = true) :
    RelayPace relay (relayRecvHandler relay chunk).1 ((relayRecvHandler relay chunk).2 == .bridged) false := by
  obtain ⟨running, unarmed⟩ := connected_facts relay live connected
  rw [relayRecvHandler]
  split
  · have guard : (relay.running && !relay.bridging) = true := by simp [running, live.idle]
    have scheduled := schedule_pace { relay with connected := false, rbuf := [], registered := false } running
    rw [relayCloseHandler, if_pos guard]
    exact .failed (Or.inl unarmed) rfl scheduled.1 scheduled.2
  · rcases loop_pace (relay.rbuf ++ chunk).length { relay with rbuf := relay.rbuf ++ chunk } running with bridged | waiting
    · rw [bridged.1]
      exact .handed unarmed rfl bridged.2.1 bridged.2.2
    · rw [waiting.1]
      exact .still (fun impossible => absurd impossible Bool.false_ne_true) rfl waiting.2.1 waiting.2.2

theorem relay_pace (device : RelayDevice) (event : RelayEvent) (live : RelayLive device.relay) (kept : event ≠ .stop) :
    RelayPace device.relay (relayNext device event).relay (resets device event) event.isTimer := by
  have quiet : ∀ fires, (fires = true → device.relay.reconnectTimer = none) → RelayPace device.relay device.relay false fires :=
    fun fires idle => .still idle rfl rfl rfl
  have never : false = true → device.relay.reconnectTimer = none := fun impossible => absurd impossible Bool.false_ne_true
  cases event with
  | start relayHost deviceId authToken result =>
      by_cases running : device.relay.running = true
      · simpa [relayNext, relayStep, running, resets, RelayEvent.isTimer] using quiet false never
      · have halted := (live.stopped (by simpa using running)).2.2
        have same : (relayNext device (.start relayHost deviceId authToken result)).relay =
            (relayClientStart relayHost deviceId authToken result device).relay := by simp [relayNext, relayStep, running]
        rw [same]
        cases relayHost with
        | none => exact quiet false never
        | some host =>
            cases deviceId with
            | none => exact quiet false never
            | some name =>
                cases authToken with
                | none => exact quiet false never
                | some token =>
                    rcases do_connect_pace result
                      { device.relay with running := true, bridging := false, reconnectTimer := none } rfl with failed | opened
                    · exact .failed (Or.inl halted) rfl failed.1 failed.2
                    · exact .still never rfl (opened.1.trans halted.symm) opened.2
  | established =>
      by_cases connected : device.relay.connected = true
      · have unarmed := (connected_facts device.relay live connected).2
        have same : (relayNext device .established).relay = { device.relay with backoffCount := 0 } := by
          simp [relayNext, relayStep, connected, relayEstabHandler]
        rw [same]
        exact .established connected unarmed rfl
      · simpa [relayNext, relayStep, connected, resets, RelayEvent.isTimer] using quiet false never
  | received chunk =>
      by_cases connected : device.relay.connected = true
      · simpa [relayNext, relayStep, connected, resets, RelayEvent.isTimer] using recv_pace device.relay chunk live connected
      · simpa [relayNext, relayStep, connected, resets, RelayEvent.isTimer] using quiet false never
  | closed =>
      by_cases connected : device.relay.connected = true
      · obtain ⟨running, unarmed⟩ := connected_facts device.relay live connected
        have guard : (device.relay.running && !device.relay.bridging) = true := by simp [running, live.idle]
        have scheduled := schedule_pace { device.relay with connected := false, rbuf := [], registered := false } running
        have same : (relayNext device .closed).relay =
            relayScheduleReconnect { device.relay with connected := false, rbuf := [], registered := false } := by
          simp only [relayNext, relayStep, if_pos connected, relayCloseHandler]
          rw [if_pos guard]
        rw [same]
        exact .failed (Or.inl unarmed) rfl scheduled.1 scheduled.2
      · simpa [relayNext, relayStep, connected, resets, RelayEvent.isTimer] using quiet false never
  | timer result =>
      by_cases armed : device.relay.reconnectTimer.isSome = true
      · have running : device.relay.running = true := by
          by_contra halted
          have still := (live.stopped (by simpa using halted)).2.2
          simp [still] at armed
        have same : (relayNext device (.timer result)).relay =
            relayDoConnect result { device.relay with reconnectTimer := none, connected := false, rbuf := [], registered := false } := by
          simp [relayNext, relayStep, armed, relayReconnect, running]
        rw [same]
        rcases do_connect_pace result
          { device.relay with reconnectTimer := none, connected := false, rbuf := [], registered := false } running with failed | opened
        · exact .failed (Or.inr rfl) rfl failed.1 failed.2
        · exact .fired rfl rfl opened.1 opened.2
      · have unarmed : device.relay.reconnectTimer = none := by simpa using armed
        simpa [relayNext, relayStep, unarmed, resets, RelayEvent.isTimer] using quiet true fun _ => unarmed
  | stop => exact absurd rfl kept

-- The delay after this many failures, and all delays before it.
def delayOf (failures : Nat) : Nat := min (reconnectInterval * 2 ^ min failures 6) maxReconnect

def waits : Nat → Nat
  | 0 => 0
  | failures + 1 => waits failures + delayOf failures

-- From the seventh on a delay is five minutes long; the six before it fall short of that by 1485 s.
theorem waits_bound (failures : Nat) : maxReconnect * failures ≤ waits failures + 1485000 := by
  by_cases small : failures < 6
  · have each : ∀ failures : Fin 6, maxReconnect * failures ≤ waits failures + 1485000 := by decide
    exact each ⟨failures, small⟩
  · induction failures with
    | zero => omega
    | succ failures ih =>
        by_cases first : failures < 6
        · obtain rfl : failures = 5 := by omega
          decide
        · have long : delayOf failures = maxReconnect := by
            have sixth : min failures 6 = 6 := by omega
            rw [delayOf, sixth]
            decide
          have before := ih first
          rw [waits, long, Nat.mul_succ]
          omega

theorem backoff_delay_of (relay : RelayClient) (failures : Nat) (counted : relay.backoffCount = UInt32.ofNat failures)
    (small : failures < 2 ^ 32) : (relayBackoffDelay relay).2 = delayOf failures := by
  have value : relay.backoffCount.toNat = failures := by
    rw [counted]
    exact UInt32.toNat_ofNat_of_lt' small
  have less : relay.backoffCount < 6 ↔ failures < 6 := by
    rw [UInt32.lt_iff_toNat_lt, value]
    rfl
  rw [relayBackoffDelay, delayOf]
  dsimp only
  by_cases few : failures < 6
  · have shift : min failures 6 = failures := by omega
    rw [if_pos (less.mpr few), value, shift]
  · have shift : min failures 6 = 6 := by omega
    rw [if_neg (fun under => few (less.mp under)), shift]

-- An outage short enough for backoff_count not to wrap.
def Paced.Short (paced : Paced) : Prop := paced.now - paced.began < 2 ^ 50

structure Pacing (paced : Paced) : Prop where
  live : RelayLive paced.device.relay
  counted : paced.device.relay.backoffCount = UInt32.ofNat paced.failures
  begun : paced.began ≤ paced.now
  spent : paced.Short → ∀ earlier, paced.failures = earlier + 1 → paced.began + waits earlier ≤ paced.now
  idle : paced.Short → paced.device.relay.reconnectTimer = none → paced.began + waits paced.failures ≤ paced.now
  armed : paced.Short → paced.device.relay.reconnectTimer.isSome = true → paced.began + waits paced.failures ≤ paced.due
  soon : paced.device.relay.reconnectTimer.isSome = true → paced.due ≤ paced.now + maxReconnect

theorem pacing_few (paced : Paced) (pacing : Pacing paced) (short : paced.Short) :
    maxReconnect * paced.failures ≤ paced.now - paced.began + 1785000 := by
  cases count : paced.failures with
  | zero => omega
  | succ earlier =>
      have spent := pacing.spent short earlier count
      have bound := waits_bound earlier
      have most : maxReconnect = 300000 := rfl
      rw [Nat.mul_succ]
      omega

theorem pass_pacing (paced : Paced) (ms : Nat) (pacing : Pacing paced) : Pacing (pacedNext paced (.pass ms)) := by
  have before : (pacedNext paced (.pass ms)).Short → paced.Short := by
    intro short
    simp only [Paced.Short, pacedNext] at short ⊢
    omega
  constructor
  · exact pacing.live
  · exact pacing.counted
  · exact Nat.le_trans pacing.begun (Nat.le_add_right _ _)
  · exact fun short earlier count => Nat.le_trans (pacing.spent (before short) earlier count) (Nat.le_add_right _ _)
  · exact fun short unarmed => Nat.le_trans (pacing.idle (before short) unarmed) (Nat.le_add_right _ _)
  · exact fun short pending => pacing.armed (before short) pending
  · intro pending
    have soon := pacing.soon pending
    simp only [pacedNext]
    omega

-- The timer that fires, or the connection that breaks, has outlasted all the delays so far.
theorem ready_waited (paced : Paced) (event : RelayEvent) (pacing : Pacing paced) (short : paced.Short)
    (due : (event.isTimer && decide (paced.now < paced.due)) = false)
    (pending : paced.device.relay.reconnectTimer = none ∨ event.isTimer = true) : paced.began + waits paced.failures ≤ paced.now := by
  cases timer : paced.device.relay.reconnectTimer with
  | none => exact pacing.idle short timer
  | some delay =>
      have fires : event.isTimer = true := by
        cases pending with
        | inl unarmed =>
            rw [timer] at unarmed
            cases unarmed
        | inr fires => exact fires
      have waited := pacing.armed short (by rw [timer]; rfl)
      rw [fires, Bool.true_and, decide_eq_false_iff_not] at due
      omega

section Outcomes

variable (paced : Paced) (event : RelayEvent) (pacing : Pacing paced)
  (due : (event.isTimer && decide (paced.now < paced.due)) = false)

include pacing due

theorem failed_pacing (pending : paced.device.relay.reconnectTimer = none ∨ event.isTimer = true)
    (same : resets paced.device event = false)
    (timer : (relayNext paced.device event).relay.reconnectTimer = some (relayBackoffDelay paced.device.relay).2)
    (count : (relayNext paced.device event).relay.backoffCount = paced.device.relay.backoffCount + 1) :
    Pacing (pacedNext paced (.relay event)) := by
  have ready := fun short => ready_waited paced event pacing short due pending
  have fresh : (paced.device.relay.reconnectTimer.isNone || event.isTimer) = true := by
    cases pending with
    | inl unarmed => simp [unarmed]
    | inr fires => simp [fires]
  have bound := backoff_delay_bounds paced.device.relay
  rw [pacedNext, due, if_neg Bool.false_ne_true]
  simp only [timer, fresh, if_true, Paced.after, same, Bool.false_eq_true, if_false]
  constructor
  case live => exact relay_step_live paced.device event pacing.live
  case counted =>
    dsimp only
    rw [count, pacing.counted, UInt32.ofNat_add]
    rfl
  case begun => exact pacing.begun
  case spent =>
    intro short earlier same
    cases same
    exact ready short
  case idle =>
    intro _ unarmed
    dsimp only at unarmed
    rw [timer] at unarmed
    cases unarmed
  case armed =>
    intro short _
    have waited := ready short
    have few := pacing_few paced pacing short
    have formula := backoff_delay_of paced.device.relay paced.failures pacing.counted (by
      have brief : paced.now - paced.began < 2 ^ 50 := short
      have most : maxReconnect = 300000 := rfl
      rw [most] at few
      omega)
    dsimp only
    rw [waits, formula]
    omega
  case soon =>
    intro _
    dsimp only
    omega

-- An outage that begins now has seen no failure yet.
theorem handed_pacing (pending : paced.device.relay.reconnectTimer = none) (done : resets paced.device event = true)
    (timer : (relayNext paced.device event).relay.reconnectTimer = some reconnectInterval)
    (count : (relayNext paced.device event).relay.backoffCount = 0) : Pacing (pacedNext paced (.relay event)) := by
  have interval : reconnectInterval ≤ maxReconnect := by decide
  rw [pacedNext, due, if_neg Bool.false_ne_true]
  simp only [timer, pending, Option.isNone_none, Bool.true_or, if_true, Paced.after, done]
  constructor
  case live => exact relay_step_live paced.device event pacing.live
  case counted => exact count
  case begun => exact Nat.le_refl _
  case spent => exact fun _ earlier impossible => absurd impossible (Nat.succ_ne_zero earlier).symm
  case idle => exact fun _ _ => Nat.le_refl _
  case armed => exact fun _ _ => Nat.le_add_right _ _
  case soon => exact fun _ => Nat.add_le_add_left interval _

theorem established_pacing (done : resets paced.device event = true)
    (timer : (relayNext paced.device event).relay.reconnectTimer = none)
    (count : (relayNext paced.device event).relay.backoffCount = 0) : Pacing (pacedNext paced (.relay event)) := by
  rw [pacedNext, due, if_neg Bool.false_ne_true]
  simp only [timer, Paced.after, done, if_true]
  constructor
  case live => exact relay_step_live paced.device event pacing.live
  case counted => exact count
  case begun => exact Nat.le_refl _
  case spent => exact fun _ earlier impossible => absurd impossible (Nat.succ_ne_zero earlier).symm
  case idle => exact fun _ _ => Nat.le_refl _
  case armed =>
    intro _ pending
    dsimp only at pending
    rw [timer] at pending
    cases pending
  case soon =>
    intro pending
    dsimp only at pending
    rw [timer] at pending
    cases pending

theorem fired_pacing (fires : event.isTimer = true) (same : resets paced.device event = false)
    (timer : (relayNext paced.device event).relay.reconnectTimer = none)
    (count : (relayNext paced.device event).relay.backoffCount = paced.device.relay.backoffCount) :
    Pacing (pacedNext paced (.relay event)) := by
  have waited := fun short => ready_waited paced event pacing short due (Or.inr fires)
  rw [pacedNext, due, if_neg Bool.false_ne_true]
  simp only [timer, Paced.after, same, Bool.false_eq_true, if_false]
  constructor
  case live => exact relay_step_live paced.device event pacing.live
  case counted => exact count.trans pacing.counted
  case begun => exact pacing.begun
  case spent => exact pacing.spent
  case idle => exact fun short _ => waited short
  case armed =>
    intro _ pending
    dsimp only at pending
    rw [timer] at pending
    cases pending
  case soon =>
    intro pending
    dsimp only at pending
    rw [timer] at pending
    cases pending

theorem still_pacing (idle : event.isTimer = true → paced.device.relay.reconnectTimer = none)
    (same : resets paced.device event = false)
    (timer : (relayNext paced.device event).relay.reconnectTimer = paced.device.relay.reconnectTimer)
    (count : (relayNext paced.device event).relay.backoffCount = paced.device.relay.backoffCount) :
    Pacing (pacedNext paced (.relay event)) := by
  have plain : pacedNext paced (.relay event) = { paced with device := relayNext paced.device event } := by
    rw [pacedNext, due, if_neg Bool.false_ne_true]
    cases pending : paced.device.relay.reconnectTimer with
    | none => simp [timer, pending, Paced.after, same]
    | some delay =>
        have quiet : event.isTimer = false := by
          by_contra fires
          have unarmed := idle (by simpa using fires)
          rw [pending] at unarmed
          cases unarmed
        simp [timer, pending, Paced.after, same, quiet]
  rw [plain]
  constructor
  case live => exact relay_step_live paced.device event pacing.live
  case counted => exact count.trans pacing.counted
  case begun => exact pacing.begun
  case spent => exact pacing.spent
  case idle => exact fun short unarmed => pacing.idle short (timer ▸ unarmed)
  case armed => exact fun short pending => pacing.armed short (timer ▸ pending)
  case soon => exact fun pending => pacing.soon (timer ▸ pending)

end Outcomes

theorem event_pacing (paced : Paced) (event : RelayEvent) (kept : event ≠ .stop) (pacing : Pacing paced) :
    Pacing (pacedNext paced (.relay event)) := by
  cases due : event.isTimer && decide (paced.now < paced.due) with
  | true =>
      rw [pacedNext, due]
      exact pacing
  | false =>
      cases relay_pace paced.device event pacing.live kept with
      | failed pending same timer count => exact failed_pacing paced event pacing due pending same timer count
      | handed pending done timer count => exact handed_pacing paced event pacing due pending done timer count
      | established done timer count => exact established_pacing paced event pacing due done timer count
      | fired fires same timer count => exact fired_pacing paced event pacing due fires same timer count
      | still idle same timer count => exact still_pacing paced event pacing due idle same timer count

theorem fresh_pacing : Pacing {} := by
  constructor
  · exact fresh_relay_live
  · rfl
  · exact Nat.le_refl _
  · exact fun _ earlier impossible => absurd impossible (Nat.succ_ne_zero earlier).symm
  · exact fun _ _ => Nat.le_refl _
  · exact fun _ pending => by cases pending
  · exact fun pending => by cases pending

theorem outage_paced (events : List PacedEvent) (kept : PacedEvent.relay .stop ∉ events) (paced : Paced)
    (ran : Runs.run pacedNext {} events = paced) (short : paced.now - paced.began < 2 ^ 50) :
    maxReconnect * paced.failures ≤ paced.now - paced.began + 1785000 ∧
      (paced.device.relay.running = true → paced.device.relay.connected = false →
        paced.device.relay.reconnectTimer.isSome = true ∧ paced.due ≤ paced.now + maxReconnect) := by
  have pacing : Pacing paced := by
    rw [← ran]
    apply Runs.run_kept pacedNext Pacing {} events _ fresh_pacing
    intro before event member pacing
    cases event with
    | pass ms => exact pass_pacing before ms pacing
    | relay event => exact event_pacing before event (fun stop => kept (stop ▸ member)) pacing
  refine ⟨pacing_few paced pacing short, fun running away => ?_⟩
  have pending : paced.device.relay.reconnectTimer.isSome = true := by
    cases pacing.live.driven running with
    | inl connected => exact absurd connected.1 (by simp [away])
    | inr pending => exact pending.1
  exact ⟨pending, pacing.soon pending⟩

-- The relay cannot be resolved: it is asked after 5 s, 10 s, 20 s.
def outageRun : List PacedEvent :=
  [.relay (.start (some (ascii "relay.example")) (some (ascii "door")) (some (ascii "token")) .unresolved),
    .pass 5000, .relay (.timer .unresolved), .pass 10000, .relay (.timer .refused), .pass 19999, .relay (.timer .opened)]

theorem outage_run_paced :
    (Runs.run pacedNext {} outageRun).failures = 3 ∧ (Runs.run pacedNext {} outageRun).due = 35000 ∧
      (Runs.run pacedNext {} outageRun).due ≤ (Runs.run pacedNext {} outageRun).now + maxReconnect := by
  have paced := outage_paced outageRun (by decide) _ rfl (by decide)
  exact ⟨by decide, by decide, (paced.2 (by decide) (by decide)).2⟩

end Intercom
