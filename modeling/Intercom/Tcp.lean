import Intercom.Lib.Bytes
import Intercom.Lib.Runs

set_option autoImplicit false

/- The sending side of a TCP connection of libre (tcp/tcp.c). What the socket does not take is queued up to a limit; what is
   on the wire is made of whole messages all the same, only the last of them may be cut by the end of the connection. -/
namespace Intercom.Tcp

open ByteText

-- TCP_TXQSZ_DEFAULT
def txqszMax : Nat := 524288

-- What send of the socket returns: -1 with EAGAIN, -1 with another error, the number of bytes it takes.
inductive SendAnswer where
  | again
  | fails
  | takes (count : Nat)
deriving DecidableEq, Repr

inductive SendError where
  | notconn
  | inval
  | nospc
  | sock
deriving DecidableEq, Repr

-- An established connection, from its first FD_WRITE on: fdc is open while it is connected. The queue holds what is left of each entry.
structure TcpConn where
  connected : Bool := true
  sendq : List Bytes := []
  txqsz : Nat := 0
deriving DecidableEq, Repr

def enqueue (tc : TcpConn) (mb : Bytes) : TcpConn × Option SendError :=
  if txqszMax < tc.txqsz + mb.length then (tc, some .nospc)
  else ({ tc with sendq := tc.sendq ++ [mb], txqsz := tc.txqsz + mb.length }, none)

def tcpSend (tc : TcpConn) (mb : Bytes) (answer : SendAnswer) : TcpConn × Bytes × Option SendError :=
  if !tc.connected then (tc, [], some .notconn)
  else if mb = [] then (tc, [], some .inval)
  else if tc.sendq ≠ [] then
    let queued := enqueue tc mb
    (queued.1, [], queued.2)
  else
    match answer with
    | .again =>
        let queued := enqueue tc mb
        (queued.1, [], queued.2)
    | .fails => (tc, [], some .sock)
    | .takes count =>
        if count < mb.length then
          let queued := enqueue tc (mb.drop count)
          (queued.1, mb.take count, queued.2)
        else (tc, mb, none)

-- The flag says that the socket failed.
def dequeue (tc : TcpConn) (answer : SendAnswer) : TcpConn × Bytes × Bool :=
  match tc.sendq with
  | [] => (tc, [], false)
  | qe :: rest =>
      match answer with
      | .again => (tc, [], false)
      | .fails => (tc, [], true)
      | .takes count =>
          ({ tc with
              sendq := if qe.length ≤ count then rest else qe.drop count :: rest
              txqsz := tc.txqsz - min count qe.length },
            qe.take count, false)

def connClose (tc : TcpConn) : TcpConn := { tc with connected := false, sendq := [], txqsz := 0 }

-- close stands for conn_close and for the end of the record; both flush the queue.
inductive TcpEvent where
  | send (mb : Bytes) (answer : SendAnswer)
  | writable (answer : SendAnswer)
  | close
deriving DecidableEq, Repr

inductive TcpNote where
  | wire (bytes : Bytes)
  | accepted (mb : Bytes)
  | refused (mb : Bytes) (err : SendError)
deriving DecidableEq, Repr

def tcpStep (tc : TcpConn) : TcpEvent → TcpConn × List TcpNote
  | .send mb answer =>
      let sent := tcpSend tc mb answer
      (sent.1, [.wire sent.2.1, match sent.2.2 with | none => .accepted mb | some err => .refused mb err])
  | .writable answer =>
      if tc.connected then
        let taken := dequeue tc answer
        (if taken.2.2 then connClose taken.1 else taken.1, [.wire taken.2.1])
      else (tc, [])
  | .close => (connClose tc, [])

def tcpRun (tc : TcpConn) (events : List TcpEvent) : TcpConn × List TcpNote :=
  Runs.run (Runs.record tcpStep) (tc, []) events

def TcpNote.onWire : TcpNote → Bytes
  | .wire bytes => bytes
  | _ => []

def TcpNote.taken? : TcpNote → Option Bytes
  | .accepted mb => some mb
  | _ => none

def TcpEvent.message? : TcpEvent → Option Bytes
  | .send mb _ => some mb
  | _ => none

def wireOf (notes : List TcpNote) : Bytes := notes.flatMap TcpNote.onWire

def acceptedOf (notes : List TcpNote) : List Bytes := notes.filterMap TcpNote.taken?

def messagesOf (events : List TcpEvent) : List Bytes := events.filterMap TcpEvent.message?

-- Between the messages that were accepted and the bytes that went out stands what is queued, or what a close has thrown away.
structure TcpKept (tc : TcpConn) (wire : Bytes) (accepted : List Bytes) : Prop where
  size : tc.txqsz = tc.sendq.flatten.length
  bound : tc.txqsz ≤ txqszMax
  ordered : wire ++ tc.sendq.flatten <+: accepted.flatten
  whole : tc.connected = true → wire ++ tc.sendq.flatten = accepted.flatten

theorem kept_whole (tc : TcpConn) (wire : Bytes) (accepted : List Bytes) (size : tc.txqsz = tc.sendq.flatten.length)
    (bound : tc.txqsz ≤ txqszMax) (stream : wire ++ tc.sendq.flatten = accepted.flatten) : TcpKept tc wire accepted :=
  ⟨size, bound, stream ▸ List.prefix_rfl, fun _ => stream⟩

-- front went out at once, which needs an empty queue; the rest of the message is queued.
theorem enqueue_kept (tc : TcpConn) (front rest wire : Bytes) (accepted : List Bytes) (kept : TcpKept tc wire accepted)
    (connected : tc.connected = true) (room : ¬txqszMax < tc.txqsz + rest.length) (direct : front = [] ∨ tc.sendq = []) :
    TcpKept (enqueue tc rest).1 (wire ++ front) (accepted ++ [front ++ rest]) := by
  have before := kept.whole connected
  rw [enqueue, if_neg room]
  apply kept_whole
  · simp [kept.size]
  · exact Nat.not_lt.mp room
  · rcases direct with rfl | empty
    · simp [← before]
    · rw [empty, List.flatten_nil, List.append_nil] at before
      simp [empty, before]

theorem enqueue_full (tc : TcpConn) (mb : Bytes) (full : txqszMax < tc.txqsz + mb.length) : enqueue tc mb = (tc, some .nospc) := by
  rw [enqueue, if_pos full]

theorem enqueue_result (tc : TcpConn) (mb : Bytes) (room : ¬txqszMax < tc.txqsz + mb.length) : (enqueue tc mb).2 = none := by
  rw [enqueue, if_neg room]

inductive SendKept (wire : Bytes) (accepted : List Bytes) (mb : Bytes) (sent : TcpConn × Bytes × Option SendError) : Prop where
  | taken (result : sent.2.2 = none) (kept : TcpKept sent.1 (wire ++ sent.2.1) (accepted ++ [mb]))
  | refused (err : SendError) (result : sent.2.2 = some err) (kept : TcpKept sent.1 (wire ++ sent.2.1) accepted)

theorem queued_kept (tc : TcpConn) (mb wire : Bytes) (accepted : List Bytes) (kept : TcpKept tc wire accepted)
    (connected : tc.connected = true) : SendKept wire accepted mb ((enqueue tc mb).1, [], (enqueue tc mb).2) := by
  by_cases full : txqszMax < tc.txqsz + mb.length
  · rw [enqueue_full tc mb full]
    refine .refused .nospc rfl ?_
    rw [List.append_nil]
    exact kept
  · exact .taken (enqueue_result tc mb full) (enqueue_kept tc [] mb wire accepted kept connected full (Or.inl rfl))

-- What a short write leaves of a message still fits in the queue; were it refused there, its first bytes would be on the wire.
def TcpEvent.Fits : TcpEvent → Prop
  | .send mb (.takes count) => mb.length - count ≤ txqszMax
  | _ => True

instance : (event : TcpEvent) → Decidable event.Fits
  | .send mb (.takes count) => inferInstanceAs (Decidable (mb.length - count ≤ txqszMax))
  | .send _ .again => isTrue trivial
  | .send _ .fails => isTrue trivial
  | .writable _ => isTrue trivial
  | .close => isTrue trivial

theorem send_fits (mb : Bytes) (answer : SendAnswer) (small : mb.length ≤ txqszMax) : (TcpEvent.send mb answer).Fits := by
  cases answer with
  | again => trivial
  | fails => trivial
  | takes count => exact (Nat.sub_le _ _).trans small

theorem send_kept (tc : TcpConn) (mb wire : Bytes) (answer : SendAnswer) (accepted : List Bytes) (kept : TcpKept tc wire accepted)
    (fits : (TcpEvent.send mb answer).Fits) : SendKept wire accepted mb (tcpSend tc mb answer) := by
  have unchanged : TcpKept tc (wire ++ []) accepted := by
    rw [List.append_nil]
    exact kept
  unfold tcpSend
  by_cases connected : tc.connected = true
  · rw [if_neg (by simp [connected])]
    by_cases empty : mb = []
    · rw [if_pos empty]
      exact .refused .inval rfl unchanged
    · rw [if_neg empty]
      by_cases waiting : tc.sendq ≠ []
      · rw [if_pos waiting]
        exact queued_kept tc mb wire accepted kept connected
      · rw [if_neg waiting]
        have free : tc.sendq = [] := not_not.mp waiting
        have before := kept.whole connected
        rw [free, List.flatten_nil, List.append_nil] at before
        cases answer with
        | again => exact queued_kept tc mb wire accepted kept connected
        | fails => exact .refused .sock rfl unchanged
        | takes count =>
            by_cases part : count < mb.length
            · simp only [if_pos part]
              have idle : tc.txqsz = 0 := by
                rw [kept.size, free]
                rfl
              have room : ¬txqszMax < tc.txqsz + (mb.drop count).length := by
                rw [idle, List.length_drop, Nat.zero_add]
                exact Nat.not_lt.mpr fits
              have queued := enqueue_kept tc (mb.take count) (mb.drop count) wire accepted kept connected room (Or.inr free)
              rw [List.take_append_drop] at queued
              exact .taken (enqueue_result tc _ room) queued
            · simp only [if_neg part]
              refine .taken rfl (kept_whole _ _ _ kept.size kept.bound ?_)
              simp [free, before]
  · rw [if_pos (by simpa using connected)]
    exact .refused .notconn rfl unchanged

theorem dequeue_kept (tc : TcpConn) (wire : Bytes) (answer : SendAnswer) (accepted : List Bytes) (kept : TcpKept tc wire accepted)
    (connected : tc.connected = true) : TcpKept (dequeue tc answer).1 (wire ++ (dequeue tc answer).2.1) accepted := by
  have unchanged : TcpKept tc (wire ++ []) accepted := by
    rw [List.append_nil]
    exact kept
  rw [dequeue]
  cases queue : tc.sendq with
  | nil => exact unchanged
  | cons qe rest =>
      cases answer with
      | again => exact unchanged
      | fails => exact unchanged
      | takes count =>
          have before := kept.whole connected
          have size := kept.size
          rw [queue, List.flatten_cons] at before
          rw [queue, List.flatten_cons, List.length_append] at size
          have bound := kept.bound
          by_cases done : qe.length ≤ count
          · simp only [if_pos done]
            refine kept_whole _ _ _ ?_ ?_ ?_
            · simp only
              omega
            · simp only
              omega
            · rw [← before, List.take_of_length_le done, List.append_assoc]
          · simp only [if_neg done]
            refine kept_whole _ _ _ ?_ ?_ ?_
            · simp only [List.flatten_cons, List.length_append, List.length_drop]
              omega
            · simp only
              omega
            · rw [← before, List.flatten_cons, List.append_assoc, ← List.append_assoc (qe.take count), List.take_append_drop]

theorem close_kept (tc : TcpConn) (wire : Bytes) (accepted : List Bytes) (kept : TcpKept tc wire accepted) :
    TcpKept (connClose tc) wire accepted := by
  refine ⟨rfl, Nat.zero_le _, ?_, fun open_ => by cases open_⟩
  simpa [connClose] using (List.prefix_append wire tc.sendq.flatten).trans kept.ordered

theorem step_kept (tc : TcpConn) (notes : List TcpNote) (event : TcpEvent) (fits : event.Fits)
    (kept : TcpKept tc (wireOf notes) (acceptedOf notes)) :
    TcpKept (tcpStep tc event).1 (wireOf (notes ++ (tcpStep tc event).2)) (acceptedOf (notes ++ (tcpStep tc event).2)) := by
  rw [wireOf, acceptedOf, List.flatMap_append, List.filterMap_append, ← wireOf, ← acceptedOf]
  cases event with
  | send mb answer =>
      rcases send_kept tc mb (wireOf notes) answer (acceptedOf notes) kept fits with ⟨result, after⟩ | ⟨err, result, after⟩
      · simpa [tcpStep, result, TcpNote.onWire, TcpNote.taken?, List.filterMap_cons] using after
      · simpa [tcpStep, result, TcpNote.onWire, TcpNote.taken?, List.filterMap_cons] using after
  | writable answer =>
      rw [tcpStep]
      by_cases connected : tc.connected = true
      · have after := dequeue_kept tc (wireOf notes) answer (acceptedOf notes) kept connected
        rw [if_pos connected]
        cases failed : (dequeue tc answer).2.2 with
        | false => simpa [failed, TcpNote.onWire, TcpNote.taken?, List.filterMap_cons] using after
        | true => simpa [failed, TcpNote.onWire, TcpNote.taken?, List.filterMap_cons] using close_kept _ _ _ after
      · rw [if_neg connected]
        simpa using kept
  | close => simpa [tcpStep] using close_kept tc (wireOf notes) (acceptedOf notes) kept

theorem tcp_run_snoc (tc : TcpConn) (events : List TcpEvent) (event : TcpEvent) :
    tcpRun tc (events ++ [event]) = Runs.record tcpStep (tcpRun tc events) event := by
  rw [tcpRun, Runs.run_append]
  rfl

theorem tcp_run_kept (events : List TcpEvent) (fits : ∀ event ∈ events, event.Fits) :
    TcpKept (tcpRun {} events).1 (wireOf (tcpRun {} events).2) (acceptedOf (tcpRun {} events).2) := by
  induction events using List.reverseRecOn with
  | nil => exact ⟨rfl, Nat.zero_le _, List.prefix_rfl, fun _ => rfl⟩
  | append_singleton events event ih =>
      rw [tcp_run_snoc]
      exact step_kept _ _ event (fits event (by simp)) (ih fun other member => fits other (by simp [member]))

theorem step_accepts (tc : TcpConn) (event : TcpEvent) :
    (acceptedOf (tcpStep tc event).2).Sublist (messagesOf [event]) := by
  cases event with
  | send mb answer =>
      cases result : (tcpSend tc mb answer).2.2 with
      | none => simp [tcpStep, result, acceptedOf, messagesOf, TcpNote.taken?, TcpEvent.message?, List.filterMap_cons]
      | some err => simp [tcpStep, result, acceptedOf, messagesOf, TcpNote.taken?, TcpEvent.message?, List.filterMap_cons]
  | writable answer =>
      rw [tcpStep]
      split
      · exact List.Sublist.refl _
      · exact List.Sublist.refl _
  | close => exact List.Sublist.refl _

theorem run_accepts (tc : TcpConn) (events : List TcpEvent) : (acceptedOf (tcpRun tc events).2).Sublist (messagesOf events) := by
  induction events using List.reverseRecOn with
  | nil => exact List.Sublist.refl _
  | append_singleton events event ih =>
      rw [tcp_run_snoc, Runs.record, acceptedOf, messagesOf, List.filterMap_append, List.filterMap_append]
      exact ih.append (step_accepts (tcpRun tc events).1 event)

-- Messages go out whole and in order or not at all; only the end of the connection cuts one.
theorem messages_whole_on_wire (events : List TcpEvent) (fits : ∀ event ∈ events, event.Fits) :
    (acceptedOf (tcpRun {} events).2).Sublist (messagesOf events) ∧
      wireOf (tcpRun {} events).2 <+: (acceptedOf (tcpRun {} events).2).flatten ∧
      (tcpRun {} events).1.sendq.flatten.length ≤ txqszMax ∧
      ((tcpRun {} events).1.connected = true →
        wireOf (tcpRun {} events).2 ++ (tcpRun {} events).1.sendq.flatten = (acceptedOf (tcpRun {} events).2).flatten) := by
  have kept := tcp_run_kept events fits
  refine ⟨run_accepts {} events, ?_, kept.size ▸ kept.bound, kept.whole⟩
  exact (List.prefix_append _ _).trans kept.ordered

def slowEvents : List TcpEvent :=
  [.send [1, 2, 3] (.takes 1), .send [4, 5] .again, .writable (.takes 1), .writable (.takes 9), .send [6] .fails, .writable (.takes 1)]

theorem slow_messages_whole :
    wireOf (tcpRun {} slowEvents).2 ++ [5, 6] = [1, 2, 3, 4, 5, 6] ∧ wireOf (tcpRun {} slowEvents).2 <+: [1, 2, 3, 4, 5, 6] := by
  have whole := messages_whole_on_wire slowEvents (by simp [slowEvents, TcpEvent.Fits, txqszMax])
  exact ⟨whole.2.2.2 rfl, whole.2.1⟩

theorem run_append (tc : TcpConn) (early late : List TcpEvent) :
    (tcpRun tc (early ++ late)).2 = (tcpRun tc early).2 ++ (tcpRun (tcpRun tc early).1 late).2 := by
  rw [tcpRun, Runs.run_append, ← tcpRun, Runs.record_outputs]
  rfl

theorem send_wire (tc : TcpConn) (mb : Bytes) (answer : SendAnswer) :
    wireOf (tcpStep tc (.send mb answer)).2 = (tcpSend tc mb answer).2.1 := by
  cases result : (tcpSend tc mb answer).2.2 with
  | none => simp [tcpStep, result, wireOf, TcpNote.onWire]
  | some err => simp [tcpStep, result, wireOf, TcpNote.onWire]

theorem closed_silent (tc : TcpConn) (closed : tc.connected = false) (events : List TcpEvent) :
    (tcpRun tc events).1.connected = false ∧ wireOf (tcpRun tc events).2 = [] := by
  induction events using List.reverseRecOn with
  | nil => exact ⟨closed, rfl⟩
  | append_singleton events event ih =>
      rw [tcp_run_snoc, Runs.record, wireOf, List.flatMap_append, ← wireOf, ih.2, List.nil_append]
      cases event with
      | send mb answer => simp [tcpStep, tcpSend, ih.1, TcpNote.onWire]
      | writable answer => simp [tcpStep, ih.1]
      | close => simp [tcpStep, connClose]

end Intercom.Tcp
