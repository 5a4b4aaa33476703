import Intercom.Relay.Roles

set_option autoImplicit false

/- What goes through each connection of the relay: the bytes that arrived on it, the control lines and the forwarded
   bytes that a send has taken for it, in order, and whether a send on it has failed. -/
namespace Intercom.Relay

open ByteText

inductive Write where
  | line (text : Bytes)
  | data (bytes : Bytes)
deriving DecidableEq, Repr

def Write.bytes : Write → Bytes
  | .line text => text
  | .data bytes => bytes

def Write.cut (count : Nat) : Write → Write
  | .line text => .line (text.take count)
  | .data bytes => .data (bytes.take count)

def Write.answer (answer : Answer) : Write → Answer
  | .line text => whole text answer
  | .data _ => answer

def Write.isData : Write → Bool
  | .line _ => false
  | .data _ => true

def Label.answer : Label → Answer
  | .thread _ answer => answer
  | .pump _ _ answer => answer
  | _ => .fails

def okLine : Bytes := ascii "OK\r\n"
def bridgeLine : Bytes := ascii "BRIDGE\r\n"

-- What the next step of a thread sends, and on which descriptor.
def sends (s : Server) : Label → Option (Handle × Write)
  | .thread conn _ =>
      match s.pc conn with
      | .refuse message => some (s.own conn, .line message)
      | .answer _ => some (s.own conn, .line okLine)
      | .accepted _ _ => some (s.own conn, .line okLine)
      | .notify _ dev => some (dev, .line bridgeLine)
      | _ => none
  | .pump conn side _ =>
      match s.pc conn, side with
      | .bridge _ dev (.sending left) _, .up => some (dev, .data left)
      | .bridge _ _ _ (.sending left), .down => some (s.own conn, .data left)
      | _, _ => none
  | _ => none

def listens (s : Server) : Label → Option Handle
  | .thread conn _ =>
      match s.pc conn with
      | .reading _ => some (s.own conn)
      | .watching _ => some (s.own conn)
      | _ => none
  | .pump conn side _ =>
      match s.pc conn, side with
      | .bridge _ _ .receiving _, .up => some (s.own conn)
      | .bridge _ dev _ .receiving, .down => some dev
      | _, _ => none
  | _ => none

-- The connection that a send meets and what it takes, or none for an error. A blocked or a closed number gives nothing.
def attempt (s : Server) (answer : Answer) (sent : Handle × Write) : Option (ConnId × Option Write) :=
  (s.fds sent.1.fd).bind fun target =>
    (send s sent.1.fd sent.2.bytes (sent.2.answer answer)).map fun result =>
      (target, if result.2 = 0 then none else some (sent.2.cut result.2))

def outcome (s : Server) (label : Label) : Option (ConnId × Option Write) := (sends s label).bind (attempt s label.answer)

structure Traced where
  server : Server := {}
  history : List Event := []
  arrived : ConnId → Bytes := fun _ => []
  log : ConnId → List Write := fun _ => []
  broken : ConnId → Bool := fun _ => false

def arrive (t : Traced) : Label → ConnId → Bytes
  | .deliver conn bytes =>
      if conn < t.server.nextConn then Function.update t.arrived conn (t.arrived conn ++ bytes) else t.arrived
  | _ => t.arrived

def trace (t : Traced) (label : Label) : Traced where
  server := (next (t.server, t.history) label).1
  history := (next (t.server, t.history) label).2
  arrived := arrive t label
  log :=
    match outcome t.server label with
    | some (target, some write) => Function.update t.log target (t.log target ++ [write])
    | _ => t.log
  broken :=
    match outcome t.server label with
    | some (target, none) => Function.update t.broken target true
    | _ => t.broken

def Mute (t : Traced) (conn : ConnId) : Prop :=
  t.broken conn = true ∨ t.server.shut conn = true ∨ t.server.fds (t.server.fd conn) ≠ some conn

def Pc.answering : Pc → Bool
  | .answer _ => true
  | _ => false

def touches (s : Server) (label : Label) : List Handle :=
  cuts s label ++ ((sends s label).map Prod.fst).toList ++ (listens s label).toList

-- No descriptor is used after its number has gone to another connection, BRIDGE waits for the device's OK, and a
-- socket that has refused a send takes no more bytes (which is what the system promises).
def steady (t : Traced) (label : Label) : Bool :=
  (touches t.server label).all (fun handle => !reissued t.server handle) &&
    (sends t.server label).all (fun sent => !t.broken sent.1.conn || label.answer == .fails) &&
    match label with
    | .thread conn _ =>
        match t.server.pc conn with
        | .notify _ dev => !(t.server.pc dev.conn).answering
        | _ => true
    | _ => true

-- The four ways a send can end, and the one in which it has not.
inductive Attempt (s : Server) (answer : Answer) (handle : Handle) (write : Write) : Prop where
  | closed (fds : s.fds handle.fd = none) (sent : send s handle.fd write.bytes (write.answer answer) = some (s, 0))
      (result : attempt s answer (handle, write) = none)
  | refused (target : ConnId) (fds : s.fds handle.fd = some target) (why : s.shut target = true ∨ s.gone target = true)
      (sent : send s handle.fd write.bytes (write.answer answer) = some (s, 0))
      (result : attempt s answer (handle, write) = some (target, none))
  | blocked (sent : send s handle.fd write.bytes (write.answer answer) = none)
      (result : attempt s answer (handle, write) = none)
  | taken (target : ConnId) (count : Nat) (fds : s.fds handle.fd = some target) (live : s.shut target = false)
      (able : answer ≠ .fails) (positive : 0 < count)
      (sent : send s handle.fd write.bytes (write.answer answer) =
        some ({ s with tx := Function.update s.tx target (s.tx target ++ (write.cut count).bytes) }, count))
      (result : attempt s answer (handle, write) = some (target, some (write.cut count)))
      (whole : ∀ text, write = .line text → write.cut count = write)

theorem cut_bytes (write : Write) (count : Nat) : (write.cut count).bytes = write.bytes.take count := by
  cases write <;> rfl

theorem answer_fails (write : Write) : write.answer .fails = .fails := by cases write <;> rfl

theorem line_cut (text : Bytes) : (text.length - 1) % text.length + 1 ≥ text.length := by
  cases text with
  | nil => simp
  | cons first rest =>
      have bound : rest.length % (rest.length + 1) = rest.length := Nat.mod_eq_of_lt (Nat.lt_succ_self _)
      simp [bound]

theorem attempt_cases (s : Server) (answer : Answer) (handle : Handle) (write : Write) : Attempt s answer handle write := by
  cases fds : s.fds handle.fd with
  | none =>
      apply Attempt.closed fds
      · simp only [send, fds]
      · simp [attempt, fds]
  | some target =>
      by_cases shut : s.shut target = true
      · have sent : send s handle.fd write.bytes (write.answer answer) = some (s, 0) := by simp only [send, fds, if_pos shut]
        exact Attempt.refused target fds (.inl shut) sent (by simp [attempt, fds, sent])
      · cases answer with
        | fails =>
            by_cases gone : s.gone target = true
            · have sent : send s handle.fd write.bytes (write.answer .fails) = some (s, 0) := by
                simp only [send, fds, if_neg shut, answer_fails, if_pos gone]
              exact Attempt.refused target fds (.inr gone) sent (by simp [attempt, fds, sent])
            · have sent : send s handle.fd write.bytes (write.answer .fails) = none := by
                simp only [send, fds, if_neg shut, answer_fails, if_neg gone]
              exact Attempt.blocked sent (by simp [attempt, fds, sent])
        | gives count =>
            obtain ⟨given, same⟩ : ∃ given, write.answer (.gives count) = .gives given := by
              cases write with
              | line text => exact ⟨_, rfl⟩
              | data bytes => exact ⟨_, rfl⟩
            have sent : send s handle.fd write.bytes (write.answer (.gives count)) =
                some ({ s with tx := Function.update s.tx target (s.tx target ++ write.bytes.take (given % write.bytes.length + 1)) },
                  given % write.bytes.length + 1) := by
              simp only [send, fds, if_neg shut, same]
            have able : Answer.gives count ≠ .fails := (fun impossible => by cases impossible)
            apply Attempt.taken target (given % write.bytes.length + 1) fds (by simpa using shut) able (Nat.succ_pos _)
            · rw [cut_bytes, sent]
            · simp [attempt, fds, sent]
            · intro text line
              rw [line] at same ⊢
              cases same
              exact congrArg Write.line (List.take_of_length_le (line_cut text))

theorem move_shut (s : Server) (conn : ConnId) (result : Server × List Event) (moved : Move s conn result) (other : ConnId)
    (shut : s.shut other = true) : result.1.shut other = true := by
  cases moved with
  | quiet pc rx tx events alike calls => exact shut
  | lost slot pc why => exact shut
  | shuts pc handle slot bridging alike has =>
      by_cases live : s.fds handle.fd = some other
      · simp [Server.goto, shutdownFd, live]
      · exact (shutdown_others s handle.fd other live).trans shut
  | closes handle pc closing => exact shut
  | register id pc =>
      have same := (clear_device_same s id).2.2.2.2
      rw [registerStep]
      dsimp only
      split
      · exact (congrFun same other).trans shut
      · exact (congrFun same other).trans shut
  | releasing slot pc =>
      rw [releasingStep]
      split
      · exact shut
      · exact shut
  | connect id pc =>
      rw [connectStep]
      split
      · exact shut
      · exact shut
  | release slot dev pc => exact shut

theorem broken_kept (t : Traced) (label : Label) (conn : ConnId) (broken : t.broken conn = true) :
    (trace t label).broken conn = true := by
  cases result : outcome t.server label with
  | none =>
      simp only [trace, result]
      exact broken
  | some tried =>
      obtain ⟨target, write⟩ := tried
      cases write with
      | some write =>
          simp only [trace, result]
          exact broken
      | none =>
          simp only [trace, result]
          by_cases same : conn = target
          · rw [same, Function.update_self]
          · rw [Function.update_of_ne same]
            exact broken

theorem mute_kept (t : Traced) (label : Label) (base : Base t.server) (conn : ConnId) (born : conn < t.server.nextConn)
    (mute : Mute t conn) : Mute (trace t label) conn := by
  have change := step_changes t.server base label
  have server : (trace t label).server = (step t.server label).1 := rfl
  cases mute with
  | inl broken => exact .inl (broken_kept t label conn broken)
  | inr rest =>
      right
      rw [server]
      generalize step t.server label = result at change
      cases change with
      | accept fd free =>
          refine rest.imp_right fun closed => ?_
          dsimp only
          rw [Function.update_of_ne (Nat.ne_of_lt born)]
          by_cases same : t.server.fd conn = fd
          · rw [same, Function.update_self]
            intro impossible
            exact Nat.ne_of_gt born (Option.some.inj impossible)
          · rw [Function.update_of_ne same]
            exact closed
      | deliver rx => exact rest
      | hangUp other born => exact rest
      | move other _ _ moved =>
          have beside := move_beside t.server other result base moved
          cases rest with
          | inl shut => exact .inl (move_shut t.server other result moved conn shut)
          | inr closed =>
              right
              rw [beside.fd]
              exact fun live => closed (beside.fds _ _ live)

-- The send of a step: it blocks and nothing happens, or it leaves the connection mute, or the connection takes some.
inductive Tried (t : Traced) (label : Label) (handle : Handle) (write : Write) : Prop where
  | blocked (sent : send t.server handle.fd write.bytes (write.answer label.answer) = none) (log : (trace t label).log = t.log)
      (broken : (trace t label).broken = t.broken)
  | muted (sent : send t.server handle.fd write.bytes (write.answer label.answer) = some (t.server, 0))
      (log : (trace t label).log = t.log) (mute : Mute (trace t label) handle.conn)
      (why : t.server.fds handle.fd = none ∨ t.server.shut handle.conn = true ∨ t.server.gone handle.conn = true)
  | written (count : Nat) (tx : ConnId → Bytes) (positive : 0 < count)
      (sent : send t.server handle.fd write.bytes (write.answer label.answer) = some ({ t.server with tx := tx }, count))
      (log : (trace t label).log = Function.update t.log handle.conn (t.log handle.conn ++ [write.cut count]))
      (able : ¬ Mute t handle.conn) (whole : ∀ text, write = .line text → write.cut count = write)

theorem steady_sends (t : Traced) (label : Label) (meets : steady t label = true) (handle : Handle) (write : Write)
    (sending : sends t.server label = some (handle, write)) :
    reissued t.server handle = false ∧ (t.broken handle.conn = true → label.answer = .fails) := by
  simp only [steady, Bool.and_eq_true, List.all_eq_true, touches] at meets
  obtain ⟨⟨ours, able⟩, _⟩ := meets
  constructor
  · have member : handle ∈ cuts t.server label ++ ((sends t.server label).map Prod.fst).toList ++
        (listens t.server label).toList := by simp [sending]
    simpa using ours handle member
  · intro broken
    rw [sending] at able
    simpa [broken] using able

theorem steady_tried (t : Traced) (label : Label) (base : Base t.server) (meets : steady t label = true) (handle : Handle)
    (write : Write) (sending : sends t.server label = some (handle, write)) (number : handle.fd = t.server.fd handle.conn)
    (born : handle.conn < t.server.nextConn) : Tried t label handle write := by
  obtain ⟨ours, able⟩ := steady_sends t label meets handle write sending
  have here : ∀ target, t.server.fds handle.fd = some target → target = handle.conn := (reissued_never t.server handle).mp ours
  have tried : outcome t.server label = attempt t.server label.answer (handle, write) := by
    rw [outcome, sending, Option.bind_some]
  cases attempt_cases t.server label.answer handle write with
  | closed fds sent result =>
      apply Tried.muted sent
      · simp only [trace, tried, result]
      · apply mute_kept t label base handle.conn born
        right
        right
        rw [← number, fds]
        exact fun impossible => by cases impossible
      · exact .inl fds
  | refused target fds why sent result =>
      cases here target fds
      apply Tried.muted sent
      · simp only [trace, tried, result]
      · left
        simp only [trace, tried, result, Function.update_self]
      · exact .inr why
  | blocked sent result =>
      apply Tried.blocked sent
      · simp only [trace, tried, result]
      · simp only [trace, tried, result]
  | taken target count fds live can positive sent result whole =>
      cases here target fds
      apply Tried.written count _ positive sent
      · simp only [trace, tried, result]
      · intro mute
        cases mute with
        | inl broken => exact can (able broken)
        | inr rest =>
            cases rest with
            | inl shut => exact absurd (live.symm.trans shut) (by decide)
            | inr closed => exact closed (number ▸ fds)
      · exact whole

-- The six places in the code that send.
inductive Speaks (s : Server) : Label → Handle → Write → Prop where
  | refuse (conn : ConnId) (answer : Answer) (message : Bytes) (pc : s.pc conn = .refuse message) :
      Speaks s (.thread conn answer) (s.own conn) (.line message)
  | answer (conn : ConnId) (answer : Answer) (slot : Fin maxDevices) (pc : s.pc conn = .answer slot) :
      Speaks s (.thread conn answer) (s.own conn) (.line okLine)
  | accepted (conn : ConnId) (answer : Answer) (slot : Fin maxDevices) (dev : Handle) (pc : s.pc conn = .accepted slot dev) :
      Speaks s (.thread conn answer) (s.own conn) (.line okLine)
  | notify (conn : ConnId) (answer : Answer) (slot : Fin maxDevices) (dev : Handle) (pc : s.pc conn = .notify slot dev) :
      Speaks s (.thread conn answer) dev (.line bridgeLine)
  | up (conn : ConnId) (answer : Answer) (slot : Fin maxDevices) (dev : Handle) (left : Bytes) (down : Pump)
      (pc : s.pc conn = .bridge slot dev (.sending left) down) : Speaks s (.pump conn .up answer) dev (.data left)
  | down (conn : ConnId) (answer : Answer) (slot : Fin maxDevices) (dev : Handle) (up : Pump) (left : Bytes)
      (pc : s.pc conn = .bridge slot dev up (.sending left)) : Speaks s (.pump conn .down answer) (s.own conn) (.data left)

theorem sends_speaks (s : Server) (label : Label) (handle : Handle) (write : Write)
    (sending : sends s label = some (handle, write)) : Speaks s label handle write := by
  cases label with
  | accept fd => cases sending
  | deliver conn bytes => cases sending
  | hangUp conn => cases sending
  | thread conn answer =>
      simp only [sends] at sending
      split at sending
      · rename_i message pc
        cases sending
        exact Speaks.refuse conn answer message pc
      · rename_i slot pc
        cases sending
        exact Speaks.answer conn answer slot pc
      · rename_i slot dev pc
        cases sending
        exact Speaks.accepted conn answer slot dev pc
      · rename_i slot dev pc
        cases sending
        exact Speaks.notify conn answer slot _ pc
      · cases sending
  | pump conn side answer =>
      simp only [sends] at sending
      split at sending
      · rename_i slot dev left down pc
        cases sending
        exact Speaks.up conn answer slot _ left down pc
      · rename_i slot dev up left pc
        cases sending
        exact Speaks.down conn answer slot dev up left pc
      · cases sending

-- Where the thread goes on after its send: after the line, or after what was left of the data.
def Pc.onward (side : Side) (pump : Pump) : Pc → Pc
  | .refuse _ => .closing
  | .answer slot => .watching slot
  | .accepted slot dev => .notify slot dev
  | .notify slot dev => .bridge slot dev .receiving .receiving
  | .bridge slot dev up down =>
      match side with
      | .up => .bridge slot dev pump down
      | .down => .bridge slot dev up pump
  | pc => pc

def afterSend (write : Write) (count : Nat) : Pump :=
  if count = 0 then .stopping else if write.bytes.drop count = [] then .receiving else .sending (write.bytes.drop count)

def Label.mover : Label → ConnId
  | .thread conn _ => conn
  | .pump conn _ _ => conn
  | _ => 0

def Label.side : Label → Side
  | .pump _ side _ => side
  | _ => .up

theorem speaks_step (s : Server) (label : Label) (handle : Handle) (write : Write) (speaks : Speaks s label handle write) :
    step s label = match send s handle.fd write.bytes (write.answer label.answer) with
      | none => (s, [])
      | some (sent, count) =>
          (sent.goto label.mover ((s.pc label.mover).onward label.side (afterSend write count)), [.call handle (.send write.bytes)]) := by
  cases speaks with
  | refuse conn answer message pc =>
      simp only [step, threadStep, pc, sayStep, sendLine, Write.bytes, Write.answer, Label.answer, Label.mover, Pc.onward]
      cases send s (s.own conn).fd message (whole message answer) <;> rfl
  | answer conn answer slot pc =>
      simp only [step, threadStep, pc, sayStep, sendLine, Write.bytes, Write.answer, Label.answer, Label.mover, Pc.onward, okLine]
      cases send s (s.own conn).fd (ascii "OK\r\n") (whole (ascii "OK\r\n") answer) <;> rfl
  | accepted conn answer slot dev pc =>
      simp only [step, threadStep, pc, sayStep, sendLine, Write.bytes, Write.answer, Label.answer, Label.mover, Pc.onward, okLine]
      cases send s (s.own conn).fd (ascii "OK\r\n") (whole (ascii "OK\r\n") answer) <;> rfl
  | notify conn answer slot dev pc =>
      simp only [step, threadStep, pc, sayStep, sendLine, Write.bytes, Write.answer, Label.answer, Label.mover, Pc.onward, bridgeLine]
      cases send s handle.fd (ascii "BRIDGE\r\n") (whole (ascii "BRIDGE\r\n") answer) <;> rfl
  | up conn answer slot dev left down pc =>
      simp only [step, bridgeStep, pc, pumpStep, Write.bytes, Write.answer, Label.answer, Label.mover, Label.side, Pc.onward, afterSend]
      cases send s handle.fd left answer with
      | none => rfl
      | some result =>
          by_cases failed : result.2 = 0
          · simp only [if_pos failed]
          · simp only [if_neg failed]
            rfl
  | down conn answer slot dev up left pc =>
      simp only [step, bridgeStep, pc, pumpStep, Write.bytes, Write.answer, Label.answer, Label.mover, Label.side, Pc.onward, afterSend]
      cases send s (s.own conn).fd left answer with
      | none => rfl
      | some result =>
          by_cases failed : result.2 = 0
          · simp only [if_pos failed]
          · simp only [if_neg failed]
            rfl

theorem pump_silent_tx (s : Server) (conn : ConnId) (source target : Handle) (pump : Pump) (back : Pump → Pc) (answer : Answer)
    (silent : ∀ left, pump ≠ .sending left) : (pumpStep s conn source target pump back answer).1.tx = s.tx := by
  cases pump with
  | receiving =>
      simp only [pumpStep]
      split <;> rfl
  | sending left => exact absurd rfl (silent left)
  | stopping =>
      simp only [pumpStep, shutdownFd]
      split <;> rfl
  | done => rfl

theorem thread_silent_tx (s : Server) (conn : ConnId) (answer : Answer) (silent : sends s (.thread conn answer) = none) :
    (threadStep s conn answer).1.tx = s.tx := by
  simp only [sends] at silent
  unfold threadStep
  split <;> rename_i pc <;> simp only [pc] at silent <;> try cases silent
  · rw [readStep]
    split <;> rfl
  · rw [registerStep, clearDevice]
    dsimp only
    split <;> split <;> rfl
  · rw [watchStep]
    split <;> rfl
  · rw [releasingStep]
    split <;> rfl
  · rw [connectStep]
    split <;> rfl
  all_goals rfl

theorem silent_tx (s : Server) (label : Label) (silent : sends s label = none) : (step s label).1.tx = s.tx := by
  cases label with
  | accept fd =>
      simp only [step, acceptStep]
      split <;> rfl
  | deliver conn bytes =>
      simp only [step]
      split <;> rfl
  | hangUp conn =>
      simp only [step]
      split <;> rfl
  | thread conn answer => exact thread_silent_tx s conn answer silent
  | pump conn side answer =>
      simp only [step, bridgeStep]
      split
      · rename_i slot dev up down pc
        cases side with
        | up =>
            apply pump_silent_tx
            intro left sending
            simp [sends, pc, sending] at silent
        | down =>
            apply pump_silent_tx
            intro left sending
            cases up <;> simp [sends, pc, sending] at silent
      · rfl

theorem silent_log (t : Traced) (label : Label) (silent : sends t.server label = none) :
    (trace t label).log = t.log ∧ (trace t label).broken = t.broken := by
  have nothing : outcome t.server label = none := by rw [outcome, silent, Option.bind_none]
  simp only [trace, nothing]
  exact ⟨trivial, trivial⟩

def Recorded (t : Traced) : Prop := ∀ conn, t.server.tx conn = (t.log conn).flatMap Write.bytes

theorem recorded_trace (t : Traced) (label : Label) (recorded : Recorded t) : Recorded (trace t label) := by
  have server : (trace t label).server = (step t.server label).1 := rfl
  intro conn
  rw [server]
  cases sending : sends t.server label with
  | none =>
      rw [silent_tx t.server label sending, (silent_log t label sending).1]
      exact recorded conn
  | some sent =>
      obtain ⟨handle, write⟩ := sent
      rw [speaks_step t.server label handle write (sends_speaks t.server label handle write sending)]
      have tried : outcome t.server label = attempt t.server label.answer (handle, write) := by
        rw [outcome, sending, Option.bind_some]
      cases attempt_cases t.server label.answer handle write with
      | closed fds sent result =>
          simp only [trace, tried, result, sent]
          exact recorded conn
      | refused target fds why sent result =>
          simp only [trace, tried, result, sent]
          exact recorded conn
      | blocked sent result =>
          simp only [trace, tried, result, sent]
          exact recorded conn
      | taken target count fds live can positive sent result whole =>
          simp only [trace, tried, result, sent, Server.goto]
          by_cases same : conn = target
          · rw [same, Function.update_self, Function.update_self, List.flatMap_append, ← recorded target]
            simp
          · rw [Function.update_of_ne same, Function.update_of_ne same]
            exact recorded conn

end Intercom.Relay
