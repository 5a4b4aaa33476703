import Intercom.Http.Server
import Intercom.Tcp

set_option autoImplicit false

/- The reply of a request on its way out: http_reply hands it to tcp_send and http_req_handler closes the connection right
   behind it, with whatever has been queued. -/
namespace Intercom.Http

open ByteText Tcp

def HttpReply.bytes (reply : HttpReply) : Bytes :=
  ascii "HTTP/1.1 " ++ decimal reply.scode ++ ascii " " ++ ascii reply.reason ++ crlf ++ reply.text

def replyEvents (outcome : HttpOutcome) (answer : SendAnswer) : List TcpEvent :=
  (outcome.replies.map fun reply => TcpEvent.send reply.bytes answer) ++ [.close]

theorem one_reply (w : World) (env : HttpEnv) (server : HttpServer) (d : Device) (msg : HttpMsg) :
    ∃ reply, (httpReqHandler w env server d msg).replies = [reply] := by
  rw [httpReqHandler]
  repeat' split
  all_goals exact ⟨_, rfl⟩

def takenAtOnce (mb : Bytes) : SendAnswer → Bytes
  | .takes count => mb.take count
  | _ => []

theorem first_send (mb : Bytes) (answer : SendAnswer) (filled : mb ≠ []) : (tcpSend {} mb answer).2.1 = takenAtOnce mb answer := by
  cases answer with
  | again => simp [tcpSend, filled, takenAtOnce]
  | fails => simp [tcpSend, filled, takenAtOnce]
  | takes count =>
      by_cases part : count < mb.length
      · simp [tcpSend, filled, part, takenAtOnce]
      · simp [tcpSend, filled, part, takenAtOnce, List.take_of_length_le (Nat.not_lt.mp part)]

theorem taken_whole (mb : Bytes) (answer : SendAnswer) (filled : mb ≠ []) :
    takenAtOnce mb answer = mb ↔ ∃ count, answer = .takes count ∧ mb.length ≤ count := by
  cases answer with
  | again => simp [takenAtOnce, Ne.symm filled]
  | fails => simp [takenAtOnce, Ne.symm filled]
  | takes count => simp [takenAtOnce, List.take_eq_self_iff]

-- The queue is flushed before the socket is ready again: the visitor gets what the first send takes, and no more.
theorem reply_cut_at_send (w : World) (env : HttpEnv) (server : HttpServer) (d : Device) (msg : HttpMsg) (answer : SendAnswer)
    (later : List TcpEvent) :
    ∃ reply, (httpReqHandler w env server d msg).replies = [reply] ∧
      wireOf (tcpRun {} (replyEvents (httpReqHandler w env server d msg) answer ++ later)).2 = takenAtOnce reply.bytes answer ∧
      (wireOf (tcpRun {} (replyEvents (httpReqHandler w env server d msg) answer ++ later)).2 = reply.bytes ↔
        ∃ count, answer = .takes count ∧ reply.bytes.length ≤ count) := by
  obtain ⟨reply, only⟩ := one_reply w env server d msg
  have filled : reply.bytes ≠ [] := by
    have begins : reply.bytes.head? = some 72 := rfl
    intro empty
    rw [empty] at begins
    cases begins
  have events : replyEvents (httpReqHandler w env server d msg) answer = [.send reply.bytes answer, .close] := by
    rw [replyEvents, only]
    rfl
  have closed : (tcpRun {} [.send reply.bytes answer, .close]).1.connected = false := rfl
  have sent : wireOf (tcpRun {} [.send reply.bytes answer, .close]).2 = takenAtOnce reply.bytes answer := by
    have step := send_wire {} reply.bytes answer
    rw [first_send reply.bytes answer filled] at step
    rw [← step]
    simp [tcpRun, Runs.run, Runs.record, tcpStep]
  have wire : wireOf (tcpRun {} (replyEvents (httpReqHandler w env server d msg) answer ++ later)).2 = takenAtOnce reply.bytes answer := by
    rw [events, run_append, wireOf, List.flatMap_append, ← wireOf, ← wireOf, sent, (closed_silent _ closed later).2, List.append_nil]
  exact ⟨reply, only, wire, wire ▸ taken_whole reply.bytes answer filled⟩

end Intercom.Http
