import Intercom.Http.Server
import Intercom.Lib.History

set_option autoImplicit false

/- The doorbell along whole runs of the process: any requests in any order, at the times tmr_jiffies gives, between
   any events of the RTSP side. What g_doorbell holds is read off the exchanges made so far. -/
namespace Intercom.Http

open ByteText

inductive LoopEvent where
  | device (action : Action)
  | request (env : HttpEnv) (msg : HttpMsg)

structure Process where
  server : HttpServer
  device : Device

structure Exchange where
  now : UInt64
  msg : HttpMsg
  replies : List HttpReply
deriving DecidableEq, Repr

def processStep (w : World) (process : Process) : LoopEvent → Process × List Exchange
  | .device action => ({ process with device := (step w process.device action).1 }, [])
  | .request env msg =>
      let outcome := httpReqHandler w env process.server process.device msg
      (⟨outcome.server, outcome.device⟩, [⟨env.jiffies, msg, outcome.replies⟩])

def processRun (w : World) (start : Process) (events : List LoopEvent) : Process × List Exchange :=
  Runs.run (Runs.record (processStep w)) (start, []) events

def HttpMsg.rings (msg : HttpMsg) : Bool := sameCaseless msg.met (ascii "POST") && msg.path == ascii "/api/doorbell"

def HttpMsg.asks (msg : HttpMsg) : Bool := sameCaseless msg.met (ascii "GET") && msg.path == ascii "/api/doorbell/status"

-- A press of the button that was taken, not answered with 429.
def Exchange.rung (exchange : Exchange) : Bool := exchange.msg.rings && exchange.replies.map HttpReply.scode == [200]

def Exchange.asked (exchange : Exchange) : Bool := exchange.msg.asks

theorem caseless_apart (met left right : Bytes) (hit : sameCaseless met left = true) (apart : left.map lower ≠ right.map lower) :
    sameCaseless met right = false := by
  rw [sameCaseless, beq_iff_eq] at hit
  rw [sameCaseless, hit]
  exact beq_eq_false_iff_ne.mpr apart

theorem rings_handler (w : World) (env : HttpEnv) (server : HttpServer) (d : Device) (msg : HttpMsg) (rings : msg.rings = true) :
    httpReqHandler w env server d msg =
      ⟨{ server with doorbell := (handleDoorbellTrigger env.jiffies server.doorbell).1 }, d,
        [(handleDoorbellTrigger env.jiffies server.doorbell).2], []⟩ := by
  rw [HttpMsg.rings, Bool.and_eq_true, beq_iff_eq] at rings
  have options := caseless_apart msg.met _ (ascii "OPTIONS") rings.1 (by decide)
  have get := caseless_apart msg.met _ (ascii "GET") rings.1 (by decide)
  have delete := caseless_apart msg.met _ (ascii "DELETE") rings.1 (by decide)
  have call : ascii "/api/doorbell" ≠ ascii "/api/call" := by decide
  simp [httpReqHandler, options, get, delete, call, rings]

theorem asks_handler (w : World) (env : HttpEnv) (server : HttpServer) (d : Device) (msg : HttpMsg) (asks : msg.asks = true) :
    httpReqHandler w env server d msg =
      ⟨{ server with doorbell := (handleDoorbellStatus server.doorbell).1 }, d,
        [(handleDoorbellStatus server.doorbell).2], []⟩ := by
  rw [HttpMsg.asks, Bool.and_eq_true, beq_iff_eq] at asks
  have options := caseless_apart msg.met _ (ascii "OPTIONS") asks.1 (by decide)
  have post := caseless_apart msg.met _ (ascii "POST") asks.1 (by decide)
  have delete := caseless_apart msg.met _ (ascii "DELETE") asks.1 (by decide)
  have status : ascii "/api/doorbell/status" ≠ ascii "/api/status" := by decide
  simp [httpReqHandler, options, post, delete, status, asks]

theorem other_handler (w : World) (env : HttpEnv) (server : HttpServer) (d : Device) (msg : HttpMsg) (rings : msg.rings = false)
    (asks : msg.asks = false) : (httpReqHandler w env server d msg).server.doorbell = server.doorbell := by
  rw [HttpMsg.rings, Bool.and_eq_false_iff, beq_eq_false_iff_ne] at rings
  rw [HttpMsg.asks, Bool.and_eq_false_iff, beq_eq_false_iff_ne] at asks
  rw [httpReqHandler]
  repeat' split
  all_goals simp_all

-- g_doorbell after an exchange log: the time of the last ring taken, and whether anybody has asked since.
structure BellKept (reached : Process × List Exchange) : Prop where
  pending : reached.1.server.doorbell.pending = History.raised Exchange.rung Exchange.asked reached.2
  timestamp : reached.1.server.doorbell.timestamp = ((History.latest Exchange.rung reached.2).map Exchange.now).getD 0

theorem rings_not_asks (msg : HttpMsg) (rings : msg.rings = true) : msg.asks = false := by
  rw [HttpMsg.rings, Bool.and_eq_true] at rings
  rw [HttpMsg.asks, caseless_apart msg.met _ (ascii "GET") rings.1 (by decide), Bool.false_and]

def Limited (now : UInt64) (doorbell : Doorbell) : Prop := 0 < doorbell.timestamp ∧ now - doorbell.timestamp < doorbellMinInterval

instance (now : UInt64) (doorbell : Doorbell) : Decidable (Limited now doorbell) :=
  inferInstanceAs (Decidable (_ ∧ _))

theorem trigger_limited (now : UInt64) (doorbell : Doorbell) (limited : Limited now doorbell) :
    (handleDoorbellTrigger now doorbell).1 = doorbell ∧ (handleDoorbellTrigger now doorbell).2.scode = 429 := by
  have both : 0 < doorbell.timestamp ∧ now - doorbell.timestamp < doorbellMinInterval := limited
  rw [handleDoorbellTrigger, if_pos both]
  exact ⟨rfl, rfl⟩

theorem trigger_taken (now : UInt64) (doorbell : Doorbell) (free : ¬Limited now doorbell) :
    (handleDoorbellTrigger now doorbell).1 = ⟨true, now⟩ ∧ (handleDoorbellTrigger now doorbell).2.scode = 200 := by
  have neither : ¬(0 < doorbell.timestamp ∧ now - doorbell.timestamp < doorbellMinInterval) := free
  rw [handleDoorbellTrigger, if_neg neither]
  exact ⟨rfl, rfl⟩

theorem status_doorbell (doorbell : Doorbell) : (handleDoorbellStatus doorbell).1 = { doorbell with pending := false } := by
  cases doorbell with
  | mk pending timestamp => cases pending <;> rfl

theorem request_bell (w : World) (env : HttpEnv) (msg : HttpMsg) (process : Process) (log : List Exchange)
    (kept : BellKept (process, log)) : BellKept (Runs.record (processStep w) (process, log) (.request env msg)) := by
  obtain ⟨pending, timestamp⟩ := kept
  dsimp only at pending timestamp
  by_cases rings : msg.rings = true
  · have quiet := rings_not_asks msg rings
    by_cases limited : Limited env.jiffies process.server.doorbell
    · obtain ⟨same, code⟩ := trigger_limited _ _ limited
      constructor <;>
        simp [Runs.record, processStep, rings_handler w env _ _ msg rings, same, code, Exchange.rung, Exchange.asked, quiet,
          History.raised_snoc, History.latest_snoc, pending, timestamp]
    · obtain ⟨fresh, code⟩ := trigger_taken _ _ limited
      constructor <;>
        simp [Runs.record, processStep, rings_handler w env _ _ msg rings, fresh, code, Exchange.rung, rings,
          History.raised_snoc, History.latest_snoc]
  · have silent := Bool.eq_false_iff.mpr rings
    by_cases asks : msg.asks = true
    · constructor <;>
        simp [Runs.record, processStep, asks_handler w env _ _ msg asks, status_doorbell, Exchange.rung, Exchange.asked, silent, asks,
          History.raised_snoc, History.latest_snoc, timestamp]
    · have quiet := Bool.eq_false_iff.mpr asks
      constructor <;>
        simp [Runs.record, processStep, other_handler w env _ _ msg silent quiet, Exchange.rung, Exchange.asked, silent, quiet,
          History.raised_snoc, History.latest_snoc, pending, timestamp]

theorem next_bell (w : World) (reached : Process × List Exchange) (event : LoopEvent) (kept : BellKept reached) :
    BellKept (Runs.record (processStep w) reached event) := by
  cases event with
  | device action =>
      constructor
      · simpa [Runs.record, processStep] using kept.pending
      · simpa [Runs.record, processStep] using kept.timestamp
  | request env msg => exact request_bell w env msg reached.1 reached.2 kept

theorem run_bell (w : World) (start : Process) (fresh : start.server.doorbell = {}) (events : List LoopEvent) :
    BellKept (processRun w start events) := by
  apply Runs.run_invariant _ BellKept _ events (next_bell w)
  constructor
  · rw [fresh]
    rfl
  · rw [fresh]
    rfl

def LoopEvent.now? : LoopEvent → Option UInt64
  | .device _ => none
  | .request env _ => some env.jiffies

-- tmr_jiffies never goes back.
def Clocked (events : List LoopEvent) : Prop := (events.filterMap LoopEvent.now?).Pairwise (· ≤ ·)

theorem process_run_snoc (w : World) (start : Process) (events : List LoopEvent) (event : LoopEvent) :
    processRun w start (events ++ [event]) = Runs.record (processStep w) (processRun w start events) event :=
  Runs.run_append _ _ events [event]

theorem run_times (w : World) (start : Process) (events : List LoopEvent) :
    (processRun w start events).2.map Exchange.now = events.filterMap LoopEvent.now? := by
  induction events using List.reverseRecOn with
  | nil => rfl
  | append_singleton events event ih =>
      rw [process_run_snoc, List.filterMap_append, ← ih]
      cases event <;> simp [Runs.record, processStep, LoopEvent.now?]

theorem clocked_past (w : World) (start : Process) (events : List LoopEvent) (env : HttpEnv) (msg : HttpMsg)
    (clocked : Clocked (events ++ [.request env msg])) : ∀ earlier ∈ (processRun w start events).2, earlier.now ≤ env.jiffies := by
  intro earlier member
  rw [Clocked, List.filterMap_append, ← run_times w start] at clocked
  exact (List.pairwise_append.mp clocked).2.2 earlier.now (List.mem_map_of_mem member) env.jiffies (by simp [LoopEvent.now?])

theorem clocked_log (w : World) (start : Process) (events : List LoopEvent) (clocked : Clocked events) :
    (processRun w start events).2.Pairwise (fun early late => early.now ≤ late.now) := by
  rw [Clocked, ← run_times w start, List.pairwise_map] at clocked
  exact clocked

theorem clocked_before (early late : List LoopEvent) (clocked : Clocked (early ++ late)) : Clocked early := by
  rw [Clocked, List.filterMap_append] at clocked
  exact (List.pairwise_append.mp clocked).1

theorem limited_iff (now : UInt64) (doorbell : Doorbell) (past : doorbell.timestamp ≤ now) :
    Limited now doorbell ↔ 0 < doorbell.timestamp ∧ now.toNat < doorbell.timestamp.toNat + 5000 := by
  have apart : (now - doorbell.timestamp).toNat = now.toNat - doorbell.timestamp.toNat := UInt64.toNat_sub_of_le _ _ past
  have ordered := UInt64.le_iff_toNat_le.mp past
  have interval : doorbellMinInterval.toNat = 5000 := by decide
  rw [Limited, UInt64.lt_iff_toNat_lt (a := now - doorbell.timestamp), apart, interval]
  constructor
  · exact fun both => ⟨both.1, by omega⟩
  · exact fun both => ⟨both.1, by omega⟩

-- The last ring taken is the youngest, so it alone decides for all of them.
theorem limited_by_ring (process : Process) (log : List Exchange) (kept : BellKept (process, log)) (now : UInt64)
    (past : ∀ earlier ∈ log, earlier.now ≤ now) (ordered : log.Pairwise fun early late => early.now ≤ late.now) :
    Limited now process.server.doorbell ↔
      ∃ ring ∈ log, ring.rung = true ∧ 0 < ring.now ∧ now.toNat < ring.now.toNat + 5000 := by
  have stamp := kept.timestamp
  cases found : History.latest Exchange.rung log with
  | none =>
      have silent := (History.latest_none _ _).mp found
      have never : process.server.doorbell.timestamp = 0 := by simpa [found] using stamp
      constructor
      · intro limited
        rw [Limited, never] at limited
        exact absurd limited.1 (by decide)
      · rintro ⟨ring, member, rung, -⟩
        exact absurd rung (Bool.eq_false_iff.mp (silent ring member))
  | some last =>
      obtain ⟨rung, before, between, split, quiet⟩ := History.latest_some _ _ last found
      have member : last ∈ log := by simp [split]
      have stamped : process.server.doorbell.timestamp = last.now := by simpa [found] using stamp
      rw [limited_iff _ _ (stamped ▸ past last member), stamped]
      constructor
      · exact fun both => ⟨last, member, rung, both⟩
      · rintro ⟨ring, here, taken, positive, close⟩
        have older : ring.now ≤ last.now := by
          rw [split] at here ordered
          rcases List.mem_append.mp here with early | late
          · exact (List.pairwise_append.mp ordered).2.2 ring early last List.mem_cons_self
          · rcases List.mem_cons.mp late with same | behind
            · exact same ▸ UInt64.le_refl _
            · exact absurd taken (Bool.eq_false_iff.mp (quiet ring behind))
        have numbers := UInt64.le_iff_toNat_le.mp older
        exact ⟨UInt64.lt_of_lt_of_le positive older, by omega⟩

def pressAnswer (w : World) (start : Process) (events : List LoopEvent) (env : HttpEnv) (msg : HttpMsg) : HttpOutcome :=
  httpReqHandler w env (processRun w start events).1.server (processRun w start events).1.device msg

theorem doorbell_rate_limit (w : World) (start : Process) (fresh : start.server.doorbell = {}) (events : List LoopEvent)
    (env : HttpEnv) (msg : HttpMsg) (rings : msg.rings = true) (clocked : Clocked (events ++ [.request env msg])) :
    ((pressAnswer w start events env msg).replies.map HttpReply.scode = [200] ↔
      ∀ ring ∈ (processRun w start events).2, ring.rung = true → 0 < ring.now → ring.now.toNat + 5000 ≤ env.jiffies.toNat) ∧
    ((pressAnswer w start events env msg).replies.map HttpReply.scode = [200] ∨
      (pressAnswer w start events env msg).replies.map HttpReply.scode = [429] ∧
        (pressAnswer w start events env msg).server = (processRun w start events).1.server) := by
  have decides := limited_by_ring _ _ (run_bell w start fresh events) env.jiffies (clocked_past w start events env msg clocked)
    (clocked_log w start events (clocked_before events _ clocked))
  rw [pressAnswer, rings_handler w env _ _ msg rings]
  by_cases limited : Limited env.jiffies (processRun w start events).1.server.doorbell
  · obtain ⟨same, code⟩ := trigger_limited _ _ limited
    obtain ⟨ring, member, rung, positive, close⟩ := decides.mp limited
    refine ⟨?_, .inr ⟨by simp [code], by simp [same]⟩⟩
    constructor
    · intro taken
      simp [code] at taken
    · intro apart
      have far := apart ring member rung positive
      omega
  · obtain ⟨-, code⟩ := trigger_taken _ _ limited
    refine ⟨?_, .inl (by simp [code])⟩
    constructor
    · intro _ ring member rung positive
      by_contra close
      exact limited (decides.mpr ⟨ring, member, rung, positive, by omega⟩)
    · exact fun _ => by simp [code]

def pressMsg : HttpMsg := ⟨ascii "POST", ascii "/api/doorbell", []⟩

def pressAt (now : UInt64) : LoopEvent := .request { fopen := fun _ => none, jiffies := now } pressMsg

theorem pressed_again_soon :
    (pressAnswer sampleWorld ⟨httpSigInit [], {}⟩ [pressAt 1000] { fopen := fun _ => none, jiffies := 5999 } pressMsg).replies.map
      HttpReply.scode = [429] := by
  have limit := doorbell_rate_limit sampleWorld ⟨httpSigInit [], {}⟩ rfl [pressAt 1000] { fopen := fun _ => none, jiffies := 5999 }
    pressMsg (by decide) (by simp [Clocked, pressAt, LoopEvent.now?])
  rcases limit.2 with taken | refused
  · have far := limit.1.mp taken ⟨1000, pressMsg, [httpReply 200 "OK" [jsonHeaders, ascii "\x7b\"status\":\"ok\"\x7d"]]⟩
      (by decide +kernel) (by decide +kernel) (by decide)
    exact absurd far (by decide)
  · exact refused.1

end Intercom.Http
