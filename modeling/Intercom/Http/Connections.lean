import Intercom.Http.Doorbell
import Intercom.Http.Message

set_option autoImplicit false

/- The connections of the HTTP server: recv_handler of libre (http/server.c) over http_req_handler, for any number of
   connections at once. However their requests are cut into segments and mixed with each other, with the RTSP side and with
   connections that are lost, the process sees whole requests, one from a connection at most. -/
namespace Intercom.Http

open ByteText

def bufsizeMax : Nat := 1024 * 1024

-- mb is what has been received and not been read; the connection is closed where tc is null.
structure HttpConn where
  tc : Bool := true
  mb : Option Bytes := none
deriving DecidableEq, Repr

def connClose : HttpConn := { tc := false }

section Receive

variable {State : Type}

-- reqh also gets what lies behind the body in the buffer, and says whether tc is still there when it has returned.
def recvLoop (reqh : State → HttpMsg → Bytes → State × Bool) : Nat → State → Bytes → State × HttpConn
  | 0, state, text => (state, { mb := some text })
  | fuel + 1, state, text =>
      match httpMsgDecode text with
      | .nodata => (state, { mb := some text })
      | .badmsg => (state, connClose)
      | .message msg rest =>
          if rest.length < msg.clen.toNat then (state, { mb := some text })
          else
            let handled := reqh state ⟨msg.met, msg.path, rest.take msg.clen.toNat⟩ (rest.drop msg.clen.toNat)
            if !handled.2 then (handled.1, connClose)
            else if rest.drop msg.clen.toNat = [] then (handled.1, {})
            else recvLoop reqh fuel handled.1 (rest.drop msg.clen.toNat)

-- The bound is not looked at for the first segment.
def recvHandler (reqh : State → HttpMsg → Bytes → State × Bool) (state : State) (conn : HttpConn) (chunk : Bytes) : State × HttpConn :=
  match conn.mb with
  | none => recvLoop reqh chunk.length state chunk
  | some held =>
      if bufsizeMax < held.length + chunk.length then (state, connClose)
      else recvLoop reqh (held ++ chunk).length state (held ++ chunk)

end Receive

-- env answers what the handler asks for, should this segment complete a request; its behind is the memory past the buffer.
-- A connection is lost to its close or timeout handler.
inductive WireEvent where
  | device (action : Action)
  | segment (conn : Nat) (env : HttpEnv) (bytes : Bytes)
  | lost (conn : Nat)

inductive WireNote where
  | acted (action : Action)
  | answered (conn : Nat) (env : HttpEnv) (exchange : Exchange)

structure Wire where
  process : Process
  conns : Nat → HttpConn := fun _ => {}

-- http_req_handler ends in http_conn_close.
def answer (w : World) (conn : Nat) (env : HttpEnv) (state : Process × List WireNote) (msg : HttpMsg) (behind : Bytes) :
    (Process × List WireNote) × Bool :=
  let env := { env with behind := behind ++ env.behind }
  let handled := processStep w state.1 (.request env msg)
  ((handled.1, state.2 ++ handled.2.map (WireNote.answered conn env)), false)

def wireStep (w : World) (wire : Wire) : WireEvent → Wire × List WireNote
  | .device action => ({ wire with process := (processStep w wire.process (.device action)).1 }, [.acted action])
  | .lost conn => ({ wire with conns := Function.update wire.conns conn connClose }, [])
  | .segment conn env bytes =>
      if (wire.conns conn).tc then
        let received := recvHandler (answer w conn env) (wire.process, []) (wire.conns conn) bytes
        (⟨received.1.1, Function.update wire.conns conn received.2⟩, received.1.2)
      else (wire, [])

def wireRun (w : World) (start : Process) (events : List WireEvent) : Wire × List WireNote :=
  Runs.run (Runs.record (wireStep w)) ({ process := start }, []) events

def WireNote.event : WireNote → LoopEvent
  | .acted action => .device action
  | .answered _ env exchange => .request env exchange.msg

def WireNote.exchange? : WireNote → Option Exchange
  | .acted _ => none
  | .answered _ _ exchange => some exchange

def WireNote.heard? (conn : Nat) : WireNote → Option HttpMsg
  | .acted _ => none
  | .answered other _ exchange => if other = conn then some exchange.msg else none

def heardFrom (conn : Nat) (notes : List WireNote) : List HttpMsg := notes.filterMap (WireNote.heard? conn)

def WireEvent.sends (conn : Nat) : WireEvent → Bytes
  | .segment other _ bytes => if other = conn then bytes else []
  | _ => []

def sentBy (conn : Nat) (events : List WireEvent) : Bytes := events.flatMap (WireEvent.sends conn)

def WireEvent.loses (conn : Nat) : WireEvent → Bool
  | .lost other => other == conn
  | _ => false

def WireNote.action? : WireNote → Option Action
  | .acted action => some action
  | .answered _ _ _ => none

def WireEvent.action? : WireEvent → Option Action
  | .device action => some action
  | _ => none

inductive Reading where
  | waits
  | refuses
  | hears (msg : HttpMsg)
deriving DecidableEq, Repr

def reading (text : Bytes) : Reading :=
  match httpMsgDecode text with
  | .nodata => .waits
  | .badmsg => .refuses
  | .message msg rest =>
      if rest.length < msg.clen.toNat then .waits else .hears ⟨msg.met, msg.path, rest.take msg.clen.toNat⟩

def leftover (text : Bytes) : Bytes :=
  match httpMsgDecode text with
  | .message msg rest => rest.drop msg.clen.toNat
  | _ => []

def firstRequest (text : Bytes) : Option HttpMsg :=
  match reading text with
  | .hears msg => some msg
  | _ => none

-- Short enough for the two limits, whatever the cuts.
def Tame (stream : Bytes) : Prop :=
  stream.length ≤ bufsizeMax ∧ (startlineMax < stream.length → (startLine (stream.take startlineMax)).isSome)

theorem hears_append (text behind : Bytes) (msg : HttpMsg) (heard : reading text = .hears msg) :
    reading (text ++ behind) = .hears msg := by
  rw [reading] at heard ⊢
  cases read : httpMsgDecode text with
  | nodata =>
      rw [read] at heard
      cases heard
  | badmsg =>
      rw [read] at heard
      cases heard
  | message head rest =>
      rw [read] at heard
      rw [message_append text rest behind head read]
      simp only [] at heard ⊢
      by_cases missing : rest.length < head.clen.toNat
      · rw [if_pos missing] at heard
        cases heard
      · rw [if_neg missing] at heard
        rw [if_neg (by rw [List.length_append]; omega), List.take_append_of_le_length (Nat.not_lt.mp missing)]
        exact heard

theorem refuses_append (text behind : Bytes) (refused : reading text = .refuses) (tame : Tame (text ++ behind)) :
    reading (text ++ behind) = .refuses := by
  have bad : httpMsgDecode text = .badmsg := by
    rw [reading] at refused
    cases read : httpMsgDecode text with
    | nodata =>
        rw [read] at refused
        cases refused
    | badmsg => rfl
    | message head rest =>
        rw [read] at refused
        simp only [] at refused
        split at refused <;> cases refused
  have started : (startLine text).isSome := by
    by_contra none
    have missing : startLine text = Option.none := by simpa using none
    have long : startlineMax < text.length := by
      by_contra short
      rw [httpMsgDecode, missing] at bad
      simp only [if_neg short] at bad
      cases bad
    have early := tame.2 (by rw [List.length_append]; omega)
    rw [List.take_append_of_le_length (Nat.le_of_lt long)] at early
    have later := start_line_append _ (text.drop startlineMax) early
    rw [List.take_append_drop, missing] at later
    rw [Option.isSome_iff_exists] at early
    obtain ⟨found, here⟩ := early
    rw [here] at later
    cases later
  have settled : httpMsgDecode text ≠ .nodata := by
    rw [bad]
    exact Decoded.noConfusion
  rw [reading, decode_append text behind started settled, bad]
  rfl

theorem first_request_append (text behind : Bytes) (msg : HttpMsg) (heard : firstRequest text = some msg) :
    firstRequest (text ++ behind) = some msg := by
  rw [firstRequest] at heard ⊢
  cases read : reading text with
  | waits =>
      rw [read] at heard
      cases heard
  | refuses =>
      rw [read] at heard
      cases heard
  | hears first =>
      rw [read] at heard
      rw [hears_append text behind first read]
      exact heard

section Receive

variable {State : Type}

-- A handler that closes the connection is called for the first message only.
theorem recv_loop_once (reqh : State → HttpMsg → Bytes → State × Bool) (closes : ∀ state msg behind, (reqh state msg behind).2 = false)
    (state : State) (text : Bytes) :
    recvLoop reqh text.length state text =
      match reading text with
      | .waits => (state, { mb := some text })
      | .refuses => (state, connClose)
      | .hears msg => ((reqh state msg (leftover text)).1, connClose) := by
  cases text with
  | nil => rfl
  | cons byte rest =>
      rw [List.length_cons, recvLoop, reading, leftover]
      cases httpMsgDecode (byte :: rest) with
      | nodata => rfl
      | badmsg => rfl
      | message msg behind =>
          by_cases missing : behind.length < msg.clen.toNat
          · simp only [if_pos missing]
          · simp only [if_neg missing, closes, Bool.not_false, if_true]

end Receive

inductive ConnKept (conn : HttpConn) (sent : Bytes) (heard : List HttpMsg) (lost : Bool) : Prop where
  | waiting (alive : conn.tc = true) (kept : conn.mb.getD [] = sent) (waits : reading sent = .waits) (none : heard = [])
      (present : lost = false)
  | served (closed : conn.tc = false) (msg : HttpMsg) (first : firstRequest sent = some msg) (one : heard = [msg])
  | gone (closed : conn.tc = false) (none : heard = [])
      (silent : lost = false → ∀ behind, Tame (sent ++ behind) → firstRequest (sent ++ behind) = Option.none)

theorem conn_kept_closed (conn : HttpConn) (sent more : Bytes) (heard : List HttpMsg) (lost : Bool) (closed : conn.tc = false)
    (inv : ConnKept conn sent heard lost) : ConnKept conn (sent ++ more) heard lost := by
  cases inv with
  | waiting alive kept waits none present =>
      rw [closed] at alive
      cases alive
  | served closed msg first one => exact .served closed msg (first_request_append sent more msg first) one
  | gone closed none silent =>
      refine .gone closed none fun present behind tame => ?_
      rw [List.append_assoc] at tame ⊢
      exact silent present (more ++ behind) tame

theorem answer_closes (w : World) (conn : Nat) (env : HttpEnv) (state : Process × List WireNote) (msg : HttpMsg) (behind : Bytes) :
    (answer w conn env state msg behind).2 = false := rfl

theorem heard_answer (w : World) (conn : Nat) (env : HttpEnv) (process : Process) (msg : HttpMsg) (behind : Bytes) (number : Nat) :
    heardFrom number (answer w conn env (process, []) msg behind).1.2 = if conn = number then [msg] else [] := by
  by_cases same : conn = number
  · simp [heardFrom, answer, processStep, WireNote.heard?, same]
  · simp [heardFrom, answer, processStep, WireNote.heard?, same]

theorem segment_cases (w : World) (conn : Nat) (env : HttpEnv) (process : Process) (before : HttpConn) (chunk : Bytes) :
    (∃ after, recvHandler (answer w conn env) (process, []) before chunk = ((process, []), after)) ∨
      ∃ msg, recvHandler (answer w conn env) (process, []) before chunk =
        ((answer w conn env (process, []) msg (leftover (before.mb.getD [] ++ chunk))).1, connClose) := by
  have loop : ∀ text, (∃ after, recvLoop (answer w conn env) text.length (process, []) text = ((process, []), after)) ∨
      ∃ msg, recvLoop (answer w conn env) text.length (process, []) text =
        ((answer w conn env (process, []) msg (leftover text)).1, connClose) := by
    intro text
    rw [recv_loop_once _ (answer_closes w conn env)]
    cases reading text with
    | waits => exact Or.inl ⟨_, rfl⟩
    | refuses => exact Or.inl ⟨_, rfl⟩
    | hears msg => exact Or.inr ⟨msg, rfl⟩
  rw [recvHandler]
  cases before.mb with
  | none => exact loop chunk
  | some held =>
      by_cases long : bufsizeMax < held.length + chunk.length
      · simp only [if_pos long]
        exact Or.inl ⟨_, rfl⟩
      · simp only [if_neg long]
        exact loop (held ++ chunk)

theorem segment_kept (w : World) (number : Nat) (env : HttpEnv) (process : Process) (conn : HttpConn) (sent chunk : Bytes)
    (kept : conn.mb.getD [] = sent) :
    ConnKept (recvHandler (answer w number env) (process, []) conn chunk).2 (sent ++ chunk)
      (heardFrom number (recvHandler (answer w number env) (process, []) conn chunk).1.2) false := by
  have loop : ConnKept (recvLoop (answer w number env) (sent ++ chunk).length (process, []) (sent ++ chunk)).2 (sent ++ chunk)
      (heardFrom number (recvLoop (answer w number env) (sent ++ chunk).length (process, []) (sent ++ chunk)).1.2) false := by
    rw [recv_loop_once _ (answer_closes w number env)]
    cases read : reading (sent ++ chunk) with
    | waits => exact .waiting rfl rfl read rfl rfl
    | refuses =>
        refine .gone rfl rfl fun _ behind tame => ?_
        rw [firstRequest, refuses_append _ behind read tame]
    | hears msg => exact .served rfl msg (by rw [firstRequest, read]) ((heard_answer w number env process msg _ number).trans (if_pos rfl))
  rw [recvHandler]
  cases held : conn.mb with
  | none =>
      rw [held] at kept
      obtain rfl : [] = sent := kept
      exact loop
  | some text =>
      rw [held] at kept
      obtain rfl : text = sent := kept
      by_cases long : bufsizeMax < text.length + chunk.length
      · simp only [if_pos long]
        refine .gone rfl rfl fun _ behind tame => ?_
        have short := tame.1
        rw [List.length_append, List.length_append] at short
        omega
      · simp only [if_neg long]
        exact loop

theorem heard_append (number : Nat) (early late : List WireNote) :
    heardFrom number (early ++ late) = heardFrom number early ++ heardFrom number late := List.filterMap_append

theorem wire_step_kept (w : World) (wire : Wire) (notes : List WireNote) (events : List WireEvent) (event : WireEvent) (number : Nat)
    (inv : ConnKept (wire.conns number) (sentBy number events) (heardFrom number notes) (events.any (WireEvent.loses number))) :
    ConnKept ((wireStep w wire event).1.conns number) (sentBy number (events ++ [event]))
      (heardFrom number (notes ++ (wireStep w wire event).2)) ((events ++ [event]).any (WireEvent.loses number)) := by
  rw [sentBy, List.flatMap_append, List.flatMap_singleton, ← sentBy, List.any_append, heard_append]
  cases event with
  | device action =>
      have quiet : heardFrom number (wireStep w wire (.device action)).2 = [] := rfl
      rw [quiet, List.append_nil]
      simpa [wireStep, WireEvent.sends, WireEvent.loses] using inv
  | lost conn =>
      by_cases same : conn = number
      · subst same
        have silent : heardFrom conn (wireStep w wire (.lost conn)).2 = [] := rfl
        have closed : ((wireStep w wire (.lost conn)).1.conns conn) = connClose := by simp [wireStep]
        have marked : (events.any (WireEvent.loses conn) || [WireEvent.lost conn].any (WireEvent.loses conn)) = true := by
          simp [WireEvent.loses]
        have sends : WireEvent.sends conn (.lost conn) = [] := rfl
        rw [silent, List.append_nil, closed, marked, sends, List.append_nil]
        cases inv with
        | waiting alive kept waits none present => exact .gone rfl none (by simp)
        | served old msg first one => exact .served rfl msg first one
        | gone old none silent => exact .gone rfl none (by simp)
      · have other : Function.update wire.conns conn connClose number = wire.conns number := Function.update_of_ne (Ne.symm same) _ _
        have unlost : (conn == number) = false := beq_eq_false_iff_ne.mpr same
        simpa [wireStep, WireEvent.sends, WireEvent.loses, heardFrom, unlost, other] using inv
  | segment conn env bytes =>
      have unlost : [WireEvent.segment conn env bytes].any (WireEvent.loses number) = false := rfl
      rw [unlost, Bool.or_false]
      by_cases same : conn = number
      · subst same
        have sends : WireEvent.sends conn (.segment conn env bytes) = bytes := if_pos rfl
        rw [sends]
        by_cases alive : (wire.conns conn).tc = true
        · rw [wireStep, if_pos alive]
          simp only [Function.update_self]
          cases inv with
          | waiting alive kept waits none present =>
              rw [none, present, List.nil_append]
              exact segment_kept w conn env wire.process (wire.conns conn) _ bytes kept
          | served closed msg first one =>
              rw [closed] at alive
              cases alive
          | gone closed none silent =>
              rw [closed] at alive
              cases alive
        · rw [wireStep, if_neg alive]
          simp only [heardFrom, List.filterMap_nil, List.append_nil]
          exact conn_kept_closed _ _ bytes _ _ (by simpa using alive) inv
      · have sends : WireEvent.sends number (.segment conn env bytes) = [] := if_neg same
        rw [sends, List.append_nil]
        by_cases alive : (wire.conns conn).tc = true
        · rw [wireStep, if_pos alive]
          simp only [Function.update_of_ne (Ne.symm same)]
          have deaf : heardFrom number (recvHandler (answer w conn env) (wire.process, []) (wire.conns conn) bytes).1.2 = [] := by
            rcases segment_cases w conn env wire.process (wire.conns conn) bytes with ⟨after, quiet⟩ | ⟨msg, heard⟩
            · rw [quiet]
              rfl
            · rw [heard, heard_answer, if_neg same]
          rw [deaf, List.append_nil]
          exact inv
        · rw [wireStep, if_neg alive]
          simpa [heardFrom] using inv

theorem wire_run_snoc (w : World) (start : Process) (events : List WireEvent) (event : WireEvent) :
    wireRun w start (events ++ [event]) = Runs.record (wireStep w) (wireRun w start events) event := by
  rw [wireRun, Runs.run_append]
  rfl

theorem wire_run_kept (w : World) (start : Process) (events : List WireEvent) (number : Nat) :
    ConnKept ((wireRun w start events).1.conns number) (sentBy number events) (heardFrom number (wireRun w start events).2)
      (events.any (WireEvent.loses number)) := by
  induction events using List.reverseRecOn with
  | nil => exact .waiting rfl rfl rfl rfl rfl
  | append_singleton events event ih =>
      rw [wire_run_snoc]
      exact wire_step_kept w _ _ events event number ih

theorem wire_step_process (w : World) (wire : Wire) (log : List Exchange) (event : WireEvent) :
    Runs.run (Runs.record (processStep w)) (wire.process, log) ((wireStep w wire event).2.map WireNote.event) =
      ((wireStep w wire event).1.process, log ++ (wireStep w wire event).2.filterMap WireNote.exchange?) := by
  cases event with
  | device action => simp [wireStep, Runs.run, Runs.record, WireNote.event, WireNote.exchange?, processStep]
  | lost conn => simp [wireStep, Runs.run]
  | segment conn env bytes =>
      by_cases alive : (wire.conns conn).tc = true
      · rw [wireStep, if_pos alive]
        rcases segment_cases w conn env wire.process (wire.conns conn) bytes with ⟨after, quiet⟩ | ⟨msg, heard⟩
        · simp [quiet, Runs.run]
        · simp [heard, answer, Runs.run, Runs.record, WireNote.event, WireNote.exchange?, processStep]
      · simp [wireStep, alive, Runs.run]

theorem wire_run_process (w : World) (start : Process) (events : List WireEvent) :
    processRun w start ((wireRun w start events).2.map WireNote.event) =
      ((wireRun w start events).1.process, (wireRun w start events).2.filterMap WireNote.exchange?) := by
  induction events using List.reverseRecOn with
  | nil => rfl
  | append_singleton events event ih =>
      rw [wire_run_snoc, Runs.record, List.map_append, processRun, Runs.run_append, ← processRun, ih, wire_step_process,
        List.filterMap_append]

theorem wire_step_actions (w : World) (wire : Wire) (event : WireEvent) :
    (wireStep w wire event).2.filterMap WireNote.action? = [event].filterMap WireEvent.action? := by
  cases event with
  | device action => rfl
  | lost conn => rfl
  | segment conn env bytes =>
      by_cases alive : (wire.conns conn).tc = true
      · rw [wireStep, if_pos alive]
        rcases segment_cases w conn env wire.process (wire.conns conn) bytes with ⟨after, quiet⟩ | ⟨msg, heard⟩
        · rw [quiet]
          rfl
        · rw [heard]
          rfl
      · rw [wireStep, if_neg alive]
        rfl

theorem wire_run_actions (w : World) (start : Process) (events : List WireEvent) :
    (wireRun w start events).2.filterMap WireNote.action? = events.filterMap WireEvent.action? := by
  induction events using List.reverseRecOn with
  | nil => rfl
  | append_singleton events event ih =>
      rw [wire_run_snoc, Runs.record, List.filterMap_append, List.filterMap_append, ih, wire_step_actions]

-- Where the environment of an answer comes from: the segment that completed the request, with what was sent behind the body.
def Sourced (events : List WireEvent) (conn : Nat) (env : HttpEnv) : Prop :=
  ∃ early given bytes late, events = early ++ .segment conn given bytes :: late ∧
    env = { given with behind := leftover (sentBy conn (early ++ [.segment conn given bytes])) ++ given.behind }

theorem wire_step_sourced (w : World) (start : Process) (events : List WireEvent) (event : WireEvent) (conn : Nat) (env : HttpEnv)
    (exchange : Exchange) (made : .answered conn env exchange ∈ (wireStep w (wireRun w start events).1 event).2) :
    Sourced (events ++ [event]) conn env := by
  have kept := wire_run_kept w start events
  generalize wireRun w start events = reached at made kept
  cases event with
  | device action => simp [wireStep] at made
  | lost other => simp [wireStep] at made
  | segment other given bytes =>
      by_cases alive : (reached.1.conns other).tc = true
      · rw [wireStep, if_pos alive] at made
        rcases segment_cases w other given reached.1.process (reached.1.conns other) bytes with ⟨after, quiet⟩ | ⟨msg, heard⟩
        · rw [quiet] at made
          exact absurd made List.not_mem_nil
        · rw [heard] at made
          simp only [answer, processStep, List.map_cons, List.map_nil, List.nil_append, List.mem_singleton, WireNote.answered.injEq] at made
          obtain ⟨rfl, rfl, -⟩ := made
          have held : (reached.1.conns conn).mb.getD [] = sentBy conn events := by
            cases kept conn with
            | waiting alive kept waits none present => exact kept
            | served closed msg first one => simp [closed] at alive
            | gone closed none silent => simp [closed] at alive
          have sends : sentBy conn (events ++ [.segment conn given bytes]) = sentBy conn events ++ bytes := by
            simp [sentBy, WireEvent.sends]
          exact ⟨events, given, bytes, [], rfl, by rw [held, sends]⟩
      · rw [wireStep, if_neg alive] at made
        exact absurd made List.not_mem_nil

theorem wire_run_sourced (w : World) (start : Process) (events : List WireEvent) (conn : Nat) (env : HttpEnv) (exchange : Exchange)
    (made : .answered conn env exchange ∈ (wireRun w start events).2) : Sourced events conn env := by
  induction events using List.reverseRecOn with
  | nil => exact absurd made List.not_mem_nil
  | append_singleton events event ih =>
      rw [wire_run_snoc, Runs.record] at made
      rcases List.mem_append.mp made with before | now
      · obtain ⟨early, given, bytes, late, split, same⟩ := ih before
        exact ⟨early, given, bytes, late ++ [event], by simp [split], same⟩
      · exact wire_step_sourced w start events event conn env exchange now

-- A run on the wire is a run of whole requests between the same actions; nothing but the first request of a connection is read.
theorem wire_runs_requests (w : World) (start : Process) (events : List WireEvent) :
    processRun w start ((wireRun w start events).2.map WireNote.event) =
        ((wireRun w start events).1.process, (wireRun w start events).2.filterMap WireNote.exchange?) ∧
      (wireRun w start events).2.filterMap WireNote.action? = events.filterMap WireEvent.action? ∧
      ∀ conn, (heardFrom conn (wireRun w start events).2).length ≤ 1 ∧
        (∀ msg ∈ heardFrom conn (wireRun w start events).2, firstRequest (sentBy conn events) = some msg) ∧
        ∀ env exchange, .answered conn env exchange ∈ (wireRun w start events).2 → Sourced events conn env := by
  refine ⟨wire_run_process w start events, wire_run_actions w start events, fun conn => ?_⟩
  rw [← and_assoc]
  refine ⟨?_, fun env exchange made => wire_run_sourced w start events conn env exchange made⟩
  cases wire_run_kept w start events conn with
  | waiting alive kept waits none present =>
      rw [none]
      exact ⟨Nat.zero_le 1, fun msg member => absurd member List.not_mem_nil⟩
  | served closed msg first one =>
      rw [one]
      refine ⟨Nat.le_refl 1, fun other member => ?_⟩
      rw [List.mem_singleton.mp member]
      exact first
  | gone closed none silent =>
      rw [none]
      exact ⟨Nat.zero_le 1, fun msg member => absurd member List.not_mem_nil⟩

theorem heard_stream (w : World) (start : Process) (events : List WireEvent) (conn : Nat)
    (present : events.any (WireEvent.loses conn) = false) (tame : Tame (sentBy conn events)) :
    heardFrom conn (wireRun w start events).2 = (firstRequest (sentBy conn events)).toList := by
  cases wire_run_kept w start events conn with
  | waiting alive kept waits none present =>
      rw [none, firstRequest, waits]
      rfl
  | served closed msg first one =>
      rw [one, first]
      rfl
  | gone closed none silent =>
      have quiet := silent present []
      rw [List.append_nil] at quiet
      rw [none, quiet tame]
      rfl

theorem cuts_unobservable (w other : World) (start begun : Process) (events retold : List WireEvent) (conn : Nat)
    (same : sentBy conn events = sentBy conn retold) (present : events.any (WireEvent.loses conn) = false)
    (stays : retold.any (WireEvent.loses conn) = false) (tame : Tame (sentBy conn events)) :
    heardFrom conn (wireRun w start events).2 = heardFrom conn (wireRun other begun retold).2 := by
  have again : Tame (sentBy conn retold) := by
    rw [← same]
    exact tame
  rw [heard_stream w start events conn present tame, heard_stream other begun retold conn stays again, same]

def visitEnv : HttpEnv := { fopen := fun _ => none }

def cutVisit : List WireEvent :=
  [.segment 0 visitEnv (ascii "GET /api/doorbell"), .segment 1 visitEnv (ascii "POST /api/doorbell HTTP/1.1\r\n\r\n"),
    .segment 0 visitEnv (ascii "/status HTTP/1.1\r\n\r"), .segment 0 visitEnv (ascii "\n")]

def wholeVisit : List WireEvent := [.segment 0 visitEnv (ascii "GET /api/doorbell/status HTTP/1.1\r\n\r\n")]

theorem visit_cut :
    heardFrom 0 (wireRun sampleWorld ⟨httpSigInit [], {}⟩ cutVisit).2 = [⟨ascii "GET", ascii "/api/doorbell/status", []⟩] :=
  (cuts_unobservable sampleWorld sampleWorld ⟨httpSigInit [], {}⟩ ⟨httpSigInit [], {}⟩ cutVisit wholeVisit 0 (by decide +kernel) rfl rfl
    ⟨by decide +kernel, fun long => absurd long (by decide +kernel)⟩).trans (by decide +kernel)

end Intercom.Http
