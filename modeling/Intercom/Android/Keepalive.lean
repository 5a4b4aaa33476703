import Intercom.Android.Upstream

set_option autoImplicit false

/- The keepalive timer of RtspClient.kt against the inactivity timer of rtsp_server.c, in milliseconds, from the moment the
   server has handled PLAY. Requests and audio frames arrive in the order they were written. -/
namespace Intercom.Android.Keepalive

open ByteText

def keepaliveIntervalMs : Nat := 45000

def sessionTimeoutMs : Nat := 60000

-- The end of dispatch_rtsp; a request that was refused with 401 has left it before.
def restartsTimeout (w : World) (d : Device) (text : Bytes) : Bool :=
  let req := parseRtspRequest text text.length
  (!(d.auth.enabled && needsAuth req.method) || (authCheck w d req).2) &&
    [ascii "OPTIONS", ascii "DESCRIBE", ascii "SETUP", ascii "PLAY", ascii "GET_PARAMETER"].contains req.method

structure Message where
  sent : Nat
  call : UpCall
  bytes : Bytes
deriving DecidableEq, Repr

-- timer is when the task of keepaliveTimer runs next, reply when the answer to PLAY was sent, while it is under way, and
-- timeout when tmr_timeout runs out.
structure Link where
  now : Nat
  up : Upstream
  timer : Option Nat := none
  reply : Option Nat := none
  wire : List Message := []
  timeout : Nat
  closed : Bool := false

inductive Tick where
  | wait (ms : Nat)
  | played
  | keepalive
  | audio (pcmuData : Bytes) (offset length : Nat)
  | arrive (d : Device)
  | expire

section Steps

variable (w : World) (cfg : Config)

-- A call that finds the client not playing writes nothing.
def Link.send (link : Link) (call : UpCall) : Link :=
  let sent := upstreamStep w cfg link.up call
  { link with up := sent.1, wire := link.wire ++ if sent.2 = [] then [] else [⟨link.now, call, sent.2⟩] }

-- schedule(task, delay, period) counts the period from the run before.
def runTask (link : Link) : Link :=
  match link.timer with
  | none => link
  | some due => if due ≤ link.now then { link.send w cfg .keepalive with timer := some (link.now + keepaliveIntervalMs) } else link

def startKeepalive (link : Link) : Link :=
  match link.reply with
  | none => link
  | some _ =>
      { link with
        reply := none, up := { link.up with client := { link.up.client with state := .playing } }
        timer := some (link.now + keepaliveIntervalMs) }

def arrive (link : Link) (d : Device) : Link :=
  match link.wire with
  | [] => link
  | message :: rest =>
      let restarts := message.bytes.head? ≠ some 36 ∧ restartsTimeout w d message.bytes = true
      { link with wire := rest, timeout := if restarts then link.now + sessionTimeoutMs else link.timeout }

def tick (link : Link) (label : Tick) : Link :=
  if link.closed then link
  else
    match label with
    | .wait ms => { link with now := link.now + ms }
    | .played => startKeepalive link
    | .keepalive => runTask w cfg link
    | .audio pcmuData offset length => link.send w cfg (.audio pcmuData offset length)
    | .arrive d => arrive w link d
    | .expire => if link.timeout ≤ link.now then { link with closed := true } else link

end Steps

-- No message is under way for longer than the latency, and the task runs at most the jitter late.
def Prompt (latency jitter : Nat) (link : Link) : Tick → Prop
  | .wait ms => (∀ message ∈ link.wire, link.now + ms ≤ message.sent + latency) ∧
      (∀ sent, link.reply = some sent → link.now + ms ≤ sent + latency) ∧
      (∀ due, link.timer = some due → link.now + ms ≤ due + jitter)
  | _ => True

def handled (up : Upstream) (now : Nat) : Link :=
  { now, up := { up with client := { up.client with state := .connected } }, reply := some now
    timeout := now + sessionTimeoutMs }

theorem keepalive_restarts (w : World) (cfg : Config) (client : Client) (server : World) (d : Device) :
    (keepaliveText w cfg client).head? ≠ some 36 ∧ restartsTimeout server d (keepaliveText w cfg client) = true := by
  have method := keepalive_method w cfg client []
  rw [List.append_nil] at method
  refine ⟨?_, ?_⟩
  · have first : (keepaliveText w cfg client).head? = some 71 := rfl
    rw [first]
    decide
  · have free : needsAuth (ascii "GET_PARAMETER") = false := by decide
    simp [restartsTimeout, method, free]

section Alive

variable (latency jitter : Nat)

-- Whether every message that restarts the timeout, and after the last of them the next task, comes in time.
def InTime (due : Nat) : Nat → List Message → Prop
  | timeout, [] => due + jitter + latency < timeout
  | timeout, message :: rest =>
      if message.call = .keepalive then message.sent + latency < timeout ∧ InTime due (message.sent + sessionTimeoutMs) rest
      else InTime due timeout rest

theorem in_time_mono (due early late : Nat) (wire : List Message) (later : early ≤ late)
    (intime : InTime latency jitter due early wire) : InTime latency jitter due late wire := by
  induction wire generalizing early late with
  | nil => exact Nat.lt_of_lt_of_le intime later
  | cons message rest ih =>
      simp only [InTime] at intime ⊢
      split at intime
      case isTrue alive =>
        rw [if_pos alive]
        exact ⟨Nat.lt_of_lt_of_le intime.1 later, intime.2⟩
      case isFalse other =>
        rw [if_neg other]
        exact ih early late later intime

theorem in_time_audio (due timeout : Nat) (wire : List Message) (message : Message) (audio : message.call ≠ .keepalive)
    (intime : InTime latency jitter due timeout wire) : InTime latency jitter due timeout (wire ++ [message]) := by
  induction wire generalizing timeout with
  | nil =>
      simp only [List.nil_append, InTime, if_neg audio]
      exact intime
  | cons first rest ih =>
      simp only [List.cons_append, InTime] at intime ⊢
      split at intime
      case isTrue alive =>
        rw [if_pos alive]
        exact ⟨intime.1, ih _ intime.2⟩
      case isFalse other =>
        rw [if_neg other]
        exact ih timeout intime

theorem in_time_task (due timeout now : Nat) (wire : List Message) (message : Message) (alive : message.call = .keepalive)
    (sent : message.sent = now) (late : now ≤ due + jitter) (margin : keepaliveIntervalMs + jitter + latency < sessionTimeoutMs)
    (intime : InTime latency jitter due timeout wire) :
    InTime latency jitter (now + keepaliveIntervalMs) timeout (wire ++ [message]) := by
  induction wire generalizing timeout with
  | nil =>
      simp only [InTime] at intime
      simp only [List.nil_append, InTime, if_pos alive, sent]
      omega
  | cons first rest ih =>
      simp only [List.cons_append, InTime] at intime ⊢
      split at intime
      case isTrue restarts =>
        rw [if_pos restarts]
        exact ⟨intime.1, ih _ intime.2⟩
      case isFalse other =>
        rw [if_neg other]
        exact ih timeout intime

theorem in_time_before (due timeout now : Nat) (wire : List Message) (task : now ≤ due + jitter)
    (arrives : ∀ message ∈ wire, now ≤ message.sent + latency) (intime : InTime latency jitter due timeout wire) :
    now < timeout := by
  induction wire with
  | nil =>
      simp only [InTime] at intime
      omega
  | cons message rest ih =>
      have here := arrives message List.mem_cons_self
      simp only [InTime] at intime
      split at intime
      case isTrue => omega
      case isFalse => exact ih (fun other member => arrives other (List.mem_cons_of_mem message member)) intime

variable (w : World) (cfg : Config)

structure Waiting (link : Link) (sent : Nat) : Prop where
  reply : link.reply = some sent
  timer : link.timer = none
  state : link.up.client.state ≠ .playing
  wire : link.wire = []
  since : sent ≤ link.now
  prompt : link.now ≤ sent + latency
  timeout : sent + sessionTimeoutMs ≤ link.timeout

structure Playing (link : Link) (due : Nat) : Prop where
  reply : link.reply = none
  timer : link.timer = some due
  state : link.up.client.state = .playing
  texts : ∀ message ∈ link.wire, message.call = .keepalive → ∃ client, message.bytes = keepaliveText w cfg client
  frames : ∀ message ∈ link.wire, message.call ≠ .keepalive → message.bytes.head? = some 36
  since : ∀ message ∈ link.wire, message.sent ≤ link.now
  arrives : ∀ message ∈ link.wire, link.now ≤ message.sent + latency
  task : link.now ≤ due + jitter
  intime : InTime latency jitter due link.timeout link.wire

def Alive (link : Link) : Prop :=
  link.closed = false ∧ ((∃ sent, Waiting latency link sent) ∨ ∃ due, Playing latency jitter w cfg link due)

theorem alive_unexpired (link : Link) (small : jitter + 2 * latency < 15000) (alive : Alive latency jitter w cfg link) :
    link.now < link.timeout := by
  obtain ⟨_, ⟨sent, waiting⟩ | ⟨due, playing⟩⟩ := alive
  · have prompt := waiting.prompt
    have later := waiting.timeout
    simp only [sessionTimeoutMs] at later
    omega
  · exact in_time_before latency jitter due link.timeout link.now link.wire playing.task playing.arrives playing.intime

theorem wait_alive (link : Link) (ms : Nat) (prompt : Prompt latency jitter link (.wait ms))
    (alive : Alive latency jitter w cfg link) : Alive latency jitter w cfg { link with now := link.now + ms } := by
  obtain ⟨wires, replies, timers⟩ := prompt
  obtain ⟨opened, ⟨sent, waiting⟩ | ⟨due, playing⟩⟩ := alive
  · refine ⟨opened, .inl ⟨sent, waiting.reply, waiting.timer, waiting.state, waiting.wire, ?_, ?_, waiting.timeout⟩⟩
    · exact Nat.le_add_right_of_le waiting.since
    · exact replies sent waiting.reply
  · refine ⟨opened, .inr ⟨due, playing.reply, playing.timer, playing.state, playing.texts, playing.frames, ?_, wires, ?_,
      playing.intime⟩⟩
    · intro message member
      exact Nat.le_add_right_of_le (playing.since message member)
    · exact timers due playing.timer

theorem played_alive (link : Link) (small : jitter + 2 * latency < 15000) (alive : Alive latency jitter w cfg link) :
    Alive latency jitter w cfg (startKeepalive link) := by
  obtain ⟨opened, ⟨sent, waiting⟩ | ⟨due, playing⟩⟩ := alive
  · have prompt := waiting.prompt
    have later := waiting.timeout
    have empty := waiting.wire
    refine ⟨?_, .inr ⟨link.now + keepaliveIntervalMs, ?_, ?_, ?_, ?_, ?_, ?_, ?_, ?_, ?_⟩⟩
    · simp [startKeepalive, waiting.reply, opened]
    · simp [startKeepalive, waiting.reply]
    · simp [startKeepalive, waiting.reply]
    · simp [startKeepalive, waiting.reply]
    · simp [startKeepalive, waiting.reply, empty]
    · simp [startKeepalive, waiting.reply, empty]
    · simp [startKeepalive, waiting.reply, empty]
    · simp [startKeepalive, waiting.reply, empty]
    · simp only [startKeepalive, waiting.reply, keepaliveIntervalMs]
      omega
    · simp only [startKeepalive, waiting.reply, empty, InTime, keepaliveIntervalMs]
      simp only [sessionTimeoutMs] at later
      omega
  · have same : startKeepalive link = link := by simp [startKeepalive, playing.reply]
    rw [same]
    exact ⟨opened, .inr ⟨due, playing⟩⟩

theorem send_silent (link : Link) (call : UpCall) (state : link.up.client.state ≠ .playing) : link.send w cfg call = link := by
  cases call with
  | audio pcmuData offset length => simp [Link.send, upstreamStep, sendBackchannelAudio, state]
  | keepalive => simp [Link.send, upstreamStep, sendKeepalive, state]

theorem keepalive_written (client : Client) : keepaliveText w cfg client ≠ [] := by
  intro empty
  have head : (keepaliveText w cfg client).head? = some 71 := rfl
  rw [empty] at head
  cases head

theorem keepalive_sent (link : Link) (state : link.up.client.state = .playing) :
    ∃ client, client.state = .playing ∧ link.send w cfg .keepalive =
      { link with up := { link.up with client }, wire := link.wire ++ [⟨link.now, .keepalive, keepaliveText w cfg client⟩] } := by
  refine ⟨{ link.up.client with cseq := link.up.client.cseq + 1 }, state, ?_⟩
  simp [Link.send, upstreamStep, sendKeepalive, state, keepalive_written]

theorem audio_sent (link : Link) (pcmuData : Bytes) (offset length : Nat) (state : link.up.client.state = .playing) :
    link.send w cfg (.audio pcmuData offset length) = link ∨ ∃ up bytes, up.client = link.up.client ∧ bytes.head? = some 36 ∧
      link.send w cfg (.audio pcmuData offset length) =
        { link with up, wire := link.wire ++ [⟨link.now, .audio pcmuData offset length, bytes⟩] } := by
  by_cases track : link.up.client.tracks.backchannel = none
  · exact .inl (by simp [Link.send, upstreamStep, sendBackchannelAudio, track])
  · refine .inr ⟨{ link.up with
      backchFirstPacket := false, backchSeq := toShort (link.up.backchSeq + 1)
      backchTimestamp := toLong (link.up.backchTimestamp + length) },
      backchannelFrame link.up pcmuData offset length, rfl, rfl, ?_⟩
    have some : backchannelFrame link.up pcmuData offset length ≠ [] := by
      intro empty
      cases empty
    simp only [Link.send, upstreamStep, sendBackchannelAudio, state, track, ne_eq, not_true_eq_false, or_self, if_false, some]

theorem audio_alive (link : Link) (pcmuData : Bytes) (offset length : Nat) (alive : Alive latency jitter w cfg link) :
    Alive latency jitter w cfg (link.send w cfg (.audio pcmuData offset length)) := by
  obtain ⟨opened, ⟨sent, waiting⟩ | ⟨due, playing⟩⟩ := alive
  · rw [send_silent w cfg link _ waiting.state]
    exact ⟨opened, .inl ⟨sent, waiting⟩⟩
  · rcases audio_sent w cfg link pcmuData offset length playing.state with same | ⟨up, bytes, client, frame, after⟩
    · rw [same]
      exact ⟨opened, .inr ⟨due, playing⟩⟩
    · rw [after]
      refine ⟨opened, .inr ⟨due, playing.reply, playing.timer, ?_, ?_, ?_, ?_, ?_, playing.task, ?_⟩⟩
      · exact (congrArg Client.state client).trans playing.state
      · intro message member alive
        rcases List.mem_append.mp member with old | new
        · exact playing.texts message old alive
        · rw [List.mem_singleton.mp new] at alive
          cases alive
      · intro message member other
        rcases List.mem_append.mp member with old | new
        · exact playing.frames message old other
        · rw [List.mem_singleton.mp new]
          exact frame
      · intro message member
        rcases List.mem_append.mp member with old | new
        · exact playing.since message old
        · rw [List.mem_singleton.mp new]
      · intro message member
        rcases List.mem_append.mp member with old | new
        · exact playing.arrives message old
        · rw [List.mem_singleton.mp new]
          exact Nat.le_add_right _ _
      · exact in_time_audio latency jitter due link.timeout link.wire _ (by simp) playing.intime

theorem task_alive (link : Link) (small : jitter + 2 * latency < 15000) (alive : Alive latency jitter w cfg link) :
    Alive latency jitter w cfg (runTask w cfg link) := by
  obtain ⟨opened, ⟨sent, waiting⟩ | ⟨due, playing⟩⟩ := alive
  · have same : runTask w cfg link = link := by simp [runTask, waiting.timer]
    rw [same]
    exact ⟨opened, .inl ⟨sent, waiting⟩⟩
  · by_cases ripe : due ≤ link.now
    · obtain ⟨client, state, after⟩ := keepalive_sent w cfg link playing.state
      have task := playing.task
      have ran : runTask w cfg link = { link with
          up := { link.up with client }, timer := some (link.now + keepaliveIntervalMs)
          wire := link.wire ++ [⟨link.now, .keepalive, keepaliveText w cfg client⟩] } := by
        simp [runTask, playing.timer, ripe, after]
      rw [ran]
      refine ⟨opened, .inr ⟨link.now + keepaliveIntervalMs, playing.reply, rfl, state, ?_, ?_, ?_, ?_, ?_, ?_⟩⟩
      · intro message member alive
        rcases List.mem_append.mp member with old | new
        · exact playing.texts message old alive
        · rw [List.mem_singleton.mp new]
          exact ⟨client, rfl⟩
      · intro message member other
        rcases List.mem_append.mp member with old | new
        · exact playing.frames message old other
        · rw [List.mem_singleton.mp new] at other
          exact absurd rfl other
      · intro message member
        rcases List.mem_append.mp member with old | new
        · exact playing.since message old
        · rw [List.mem_singleton.mp new]
      · intro message member
        rcases List.mem_append.mp member with old | new
        · exact playing.arrives message old
        · rw [List.mem_singleton.mp new]
          exact Nat.le_add_right _ _
      · simp only
        omega
      · apply in_time_task latency jitter due link.timeout link.now link.wire _ rfl rfl task ?_ playing.intime
        simp only [keepaliveIntervalMs, sessionTimeoutMs]
        omega
    · have same : runTask w cfg link = link := by simp [runTask, playing.timer, ripe]
      rw [same]
      exact ⟨opened, .inr ⟨due, playing⟩⟩

theorem arrive_alive (server : World) (link : Link) (d : Device) (alive : Alive latency jitter w cfg link) :
    Alive latency jitter w cfg (arrive server link d) := by
  obtain ⟨opened, ⟨sent, waiting⟩ | ⟨due, playing⟩⟩ := alive
  · have same : arrive server link d = link := by simp [arrive, waiting.wire]
    rw [same]
    exact ⟨opened, .inl ⟨sent, waiting⟩⟩
  · cases held : link.wire with
    | nil =>
        have same : arrive server link d = link := by simp [arrive, held]
        rw [same]
        exact ⟨opened, .inr ⟨due, playing⟩⟩
    | cons message rest =>
        have inside : ∀ other ∈ rest, other ∈ link.wire := by
          intro other member
          rw [held]
          exact List.mem_cons_of_mem message member
        have first : message ∈ link.wire := by
          rw [held]
          exact List.mem_cons_self
        have intime := playing.intime
        rw [held, InTime] at intime
        have next : InTime latency jitter due (arrive server link d).timeout rest := by
          by_cases call : message.call = .keepalive
          · obtain ⟨client, bytes⟩ := playing.texts message first call
            obtain ⟨text, restarts⟩ := keepalive_restarts w cfg client server d
            rw [if_pos call] at intime
            have earlier := playing.since message first
            have after : (arrive server link d).timeout = link.now + sessionTimeoutMs := by
              simp [arrive, held, bytes, text, restarts]
            rw [after]
            exact in_time_mono latency jitter due _ _ rest (by omega) intime.2
          · have frame := playing.frames message first call
            rw [if_neg call] at intime
            have after : (arrive server link d).timeout = link.timeout := by simp [arrive, held, frame]
            rw [after]
            exact intime
        have after : arrive server link d = { link with wire := rest, timeout := (arrive server link d).timeout } := by
          simp only [arrive, held]
        rw [after]
        exact ⟨opened, .inr ⟨due, playing.reply, playing.timer, playing.state,
          fun other member => playing.texts other (inside other member),
          fun other member => playing.frames other (inside other member),
          fun other member => playing.since other (inside other member),
          fun other member => playing.arrives other (inside other member), playing.task, next⟩⟩

theorem tick_alive (link : Link) (label : Tick) (small : jitter + 2 * latency < 15000) (prompt : Prompt latency jitter link label)
    (alive : Alive latency jitter w cfg link) : Alive latency jitter w cfg (tick w cfg link label) := by
  have opened := alive.1
  have early := alive_unexpired latency jitter w cfg link small alive
  unfold tick
  rw [if_neg (by simp [opened])]
  cases label with
  | wait ms => exact wait_alive latency jitter w cfg link ms prompt alive
  | played => exact played_alive latency jitter w cfg link small alive
  | keepalive => exact task_alive latency jitter w cfg link small alive
  | audio pcmuData offset length => exact audio_alive latency jitter w cfg link pcmuData offset length alive
  | arrive d => exact arrive_alive latency jitter w cfg w link d alive
  | expire =>
      simp only [if_neg (Nat.not_le_of_lt early)]
      exact alive

theorem run_alive (link : Link) (labels : List Tick) (small : jitter + 2 * latency < 15000)
    (prompt : Runs.EachStep (tick w cfg) (Prompt latency jitter) link labels) (alive : Alive latency jitter w cfg link) :
    Alive latency jitter w cfg (Runs.run (tick w cfg) link labels) := by
  apply Runs.each_state_last
  apply Runs.each_state_of_steps _ _ (Prompt latency jitter) link labels ?_ alive prompt
  intro current label alive prompt
  exact tick_alive latency jitter w cfg current label small prompt alive

theorem handled_alive (up : Upstream) (now : Nat) : Alive latency jitter w cfg (handled up now) :=
  ⟨rfl, .inl ⟨now, rfl, rfl, by simp [handled], rfl, Nat.le_refl _, Nat.le_add_right _ _, Nat.le_refl _⟩⟩

end Alive

section Late

variable (w : World) (cfg : Config) (up : Upstream) (now latency jitter : Nat)

def lateTask : List Tick := [.wait latency, .played, .wait (keepaliveIntervalMs + jitter)]

def lateLink : Link :=
  { now := now + latency + (keepaliveIntervalMs + jitter), up := { up with client := { up.client with state := .playing } }
    timer := some (now + latency + keepaliveIntervalMs), timeout := now + sessionTimeoutMs }

theorem late_task_run : Runs.run (tick w cfg) (handled up now) (lateTask latency jitter) = lateLink up now latency jitter := by
  simp [Runs.run, lateTask, tick, handled, startKeepalive, lateLink]

theorem late_task_prompt : Runs.EachStep (tick w cfg) (Prompt latency jitter) (handled up now) (lateTask latency jitter) := by
  simp [Runs.EachStep, lateTask, tick, handled, startKeepalive, Prompt]
  omega

theorem late_task_closes (long : 15000 ≤ jitter + latency) :
    (Runs.run (tick w cfg) (lateLink up now latency jitter) [.expire]).closed = true := by
  have ended : now + sessionTimeoutMs ≤ now + latency + (keepaliveIntervalMs + jitter) := by
    simp only [sessionTimeoutMs, keepaliveIntervalMs]
    omega
  simp [Runs.run, tick, lateLink, ended]

theorem late_message_closes (short : jitter + latency < 15000) (long : 15000 ≤ jitter + 2 * latency) :
    Runs.EachStep (tick w cfg) (Prompt latency jitter) (lateLink up now latency jitter)
      [.keepalive, .wait (15000 - jitter - latency), .expire] ∧
    (Runs.run (tick w cfg) (lateLink up now latency jitter)
      [.keepalive, .wait (15000 - jitter - latency), .expire]).closed = true := by
  obtain ⟨client, _, sent⟩ := keepalive_sent w cfg (lateLink up now latency jitter) rfl
  have ripe : now + latency + keepaliveIntervalMs ≤ now + latency + (keepaliveIntervalMs + jitter) := by omega
  have ran : tick w cfg (lateLink up now latency jitter) .keepalive = { lateLink up now latency jitter with
      up := { (lateLink up now latency jitter).up with client }
      wire := [⟨(lateLink up now latency jitter).now, .keepalive, keepaliveText w cfg client⟩]
      timer := some ((lateLink up now latency jitter).now + keepaliveIntervalMs) } := by
    have task : runTask w cfg (lateLink up now latency jitter) =
        { (lateLink up now latency jitter).send w cfg .keepalive with
          timer := some ((lateLink up now latency jitter).now + keepaliveIntervalMs) } := by
      simp [runTask, lateLink, ripe]
    have opened : tick w cfg (lateLink up now latency jitter) .keepalive = runTask w cfg (lateLink up now latency jitter) := rfl
    rw [opened, task, sent]
    rfl
  have ended : now + sessionTimeoutMs ≤
      now + latency + (keepaliveIntervalMs + jitter) + (15000 - jitter - latency) := by
    simp only [sessionTimeoutMs, keepaliveIntervalMs]
    omega
  refine ⟨?_, ?_⟩
  · simp only [Runs.EachStep, ran, Prompt, and_true, true_and]
    simp [lateLink, keepaliveIntervalMs]
    omega
  · simp only [Runs.run, List.foldl_cons, List.foldl_nil, ran]
    simp [tick, lateLink, ended]

end Late

theorem keepalive_threshold (w : World) (cfg : Config) (up : Upstream) (now latency jitter : Nat) :
    (∀ labels, Runs.EachStep (tick w cfg) (Prompt latency jitter) (handled up now) labels →
      (Runs.run (tick w cfg) (handled up now) labels).closed = false) ↔ jitter + 2 * latency < 15000 := by
  refine ⟨?_, ?_⟩
  · intro kept
    by_contra slow
    have prompt := late_task_prompt w cfg up now latency jitter
    have reached := late_task_run w cfg up now latency jitter
    by_cases long : 15000 ≤ jitter + latency
    · have closed := late_task_closes w cfg up now latency jitter long
      have later : Runs.EachStep (tick w cfg) (Prompt latency jitter)
          (Runs.run (tick w cfg) (handled up now) (lateTask latency jitter)) [.expire] := ⟨trivial, trivial⟩
      have whole := kept (lateTask latency jitter ++ [.expire])
        ((Runs.each_step_append _ _ _ _ _).mpr ⟨prompt, later⟩)
      rw [Runs.run_append, reached, closed] at whole
      cases whole
    · obtain ⟨later, closed⟩ := late_message_closes w cfg up now latency jitter (by omega) (by omega)
      rw [← reached] at later
      have whole := kept (lateTask latency jitter ++ [.keepalive, .wait (15000 - jitter - latency), .expire])
        ((Runs.each_step_append _ _ _ _ _).mpr ⟨prompt, later⟩)
      rw [Runs.run_append, reached, closed] at whole
      cases whole
  · intro small labels prompt
    exact (run_alive latency jitter w cfg (handled up now) labels small prompt (handled_alive latency jitter w cfg up now)).1

end Intercom.Android.Keepalive
