import Intercom.Relay.Tunnel

set_option autoImplicit false

/- The control protocol: whole lines in their order on every connection, and a client that is still there gets one
   before its connection is closed. -/
namespace Intercom.Relay

open ByteText

def errorLines : List Bytes :=
  [ascii "ERROR auth_failed\r\n", invalidId, ascii "ERROR server_full\r\n", ascii "ERROR device_not_found\r\n"]

def unknownCommand : Bytes := (ascii "ERROR unknown_command\r\n").take 22

-- The byte that is about to be read does not finish a line that is neither REGISTER nor CONNECT.
def commands (t : Traced) : Label → Bool
  | .thread conn _ =>
      match t.server.pc conn with
      | .reading line => (t.server.rx conn).head?.all fun byte => readByte line byte != .refuse unknownCommand
      | _ => true
  | _ => true

def orderly (t : Traced) (label : Label) : Bool := steady t label && commands t label

-- A first line that is answered with OK and a device, or with an error.
def Asks (command : Pc) : Prop := (∃ id, command = .connect id) ∨ ∃ message, command = .refuse message

structure Conforms (t : Traced) : Prop where
  wire : ∀ conn, t.server.tx conn = (t.log conn).flatMap Write.bytes
  lines : ∀ conn text, .line text ∈ t.log conn → ∃ body, text = body ++ crlf ∧ Unbroken body
  device : ∀ conn, Enrolled t.history conn →
    t.log conn = [] ∨ t.log conn = [.line okLine] ∨
      ∃ data, t.log conn = .line okLine :: .line bridgeLine :: data ∧ data.all Write.isData = true
  client : ∀ conn, ¬ Enrolled t.history conn →
    t.log conn = [] ∨ (∃ reason, t.log conn = [.line (ascii "ERROR " ++ reason ++ crlf)]) ∨
      ∃ data, t.log conn = .line okLine :: data ∧ data.all Write.isData = true
  heard : ∀ conn command rest, conn < t.server.nextConn → t.server.pc conn = .finished → Opening t conn command rest → Asks command →
    t.server.gone conn = true ∨ ∃ line rest, Android.RelayConnection.readLine [] (t.server.tx conn) = .ok (line, rest)

def Stage.unsaid : Stage → Bool
  | .early => true
  | .waiting _ => true
  | _ => false

-- The descriptor still leads to the connection, and nobody has shut it.
def Pristine (s : Server) (conn : ConnId) : Prop := s.fds (s.fd conn) = some conn ∧ s.shut conn = false

def Excused (t : Traced) (conn : ConnId) : Prop :=
  t.server.gone conn = true ∨ t.log conn ≠ [] ∨
    ∃ command rest, Opening t conn command rest ∧ (command = .closing ∨ ∃ id, command = .register id)

structure Orders (t : Traced) : Prop where
  streams : Streams t
  pristine : ∀ conn, (t.server.pc conn).stage.unsaid = true → Pristine t.server conn
  excused : ∀ conn, conn < t.server.nextConn → (t.server.pc conn).stage.unsaid = false → Excused t conn

theorem unsaid_unsettled (pc : Pc) (unsaid : pc.stage.unsaid = true) : pc.settled = false := by
  cases pc <;> simp_all [Pc.stage, Stage.unsaid, Pc.settled]

theorem unsaid_unwatching (pc : Pc) (unsaid : pc.stage.unsaid = true) (slot : Fin maxDevices) : pc.watches ≠ some slot := by
  cases pc <;> simp_all [Pc.stage, Stage.unsaid, Pc.watches]

theorem closing_unused (s : Server) (conn : ConnId) (handle : Handle) (member : handle ∈ closing s conn) :
    (s.pc conn).uses = none := by
  unfold closing at member
  split at member <;> rename_i pc
  · rw [pc]; rfl
  · rw [pc]; rfl
  · rw [pc]; rfl
  · rw [pc]; rfl
  · cases member

-- A cut made by a steady step hits the connection it is meant for.
theorem steady_cuts (t : Traced) (label : Label) (meets : steady t label = true) (handle : Handle) (member : handle ∈ cuts t.server label)
    (target : ConnId) (live : t.server.fds handle.fd = some target) : target = handle.conn := by
  simp only [steady, Bool.and_eq_true, List.all_eq_true, touches] at meets
  have ours : reissued t.server handle = false := by
    simpa using meets.1.1 handle (List.mem_append_left _ (List.mem_append_left _ member))
  exact (reissued_never t.server handle).mp ours target live

-- A move of a thread cuts nobody who has not heard his first line.
-- A registration closes at most the socket of the device it replaces.
theorem pristine_register (s : Server) (conn other : ConnId) (id : Bytes) (base : Base s) (unsaid : (s.pc other).stage.unsaid = true)
    (pristine : Pristine s other)
    (aimed : ∀ handle call, .call handle call ∈ (registerStep s conn id).2 → call.gentle = false → ∀ target,
      s.fds handle.fd = some target → target = handle.conn) : Pristine (registerStep s conn id).1 other := by
  have shut : (registerStep s conn id).1.shut = s.shut ∧ (registerStep s conn id).1.fd = s.fd := by
    obtain ⟨_, sameFd, _, _, sameShut⟩ := clear_device_same s id
    rw [registerStep]
    dsimp only
    split
    · exact ⟨sameShut, sameFd⟩
    · exact ⟨sameShut, sameFd⟩
  have fds : (registerStep s conn id).1.fds = (clearDevice s id).1.fds := by
    rw [registerStep]
    dsimp only
    split <;> rfl
  rw [Pristine, shut.1, shut.2, fds]
  refine ⟨?_, pristine.2⟩
  cases found : findDevice s.slots id with
  | none =>
      simp only [clearDevice, found]
      exact pristine.1
  | some existing =>
      have used := (find_device_found s.slots id existing found).1
      have member : .call (s.slots existing).sock .close ∈ (registerStep s conn id).2 := by
        have cleared : .call (s.slots existing).sock .close ∈ (clearDevice s id).2 := by simp [clearDevice, found]
        cases register_events s conn id with
        | inl same => exact same ▸ cleared
        | inr more =>
            obtain ⟨slot, same⟩ := more
            rw [same]
            exact List.mem_append_left _ cleared
      have apart : s.fd other ≠ (s.slots existing).sock.fd := by
        intro same
        have here := aimed _ .close member rfl other (same ▸ pristine.1)
        have watches := (base.held existing used).1
        rw [← here] at watches
        exact unsaid_unwatching _ unsaid existing watches
      simp only [clearDevice, found, closeFd]
      rw [Function.update_of_ne apart]
      exact pristine.1

theorem pristine_move (s : Server) (conn other : ConnId) (result : Server × List Event) (base : Base s) (moved : Move s conn result)
    (aimed : ∀ handle call, .call handle call ∈ result.2 → call.gentle = false → ∀ target, s.fds handle.fd = some target →
      target = handle.conn)
    (unsaid : (s.pc other).stage.unsaid = true) (pristine : Pristine s other)
    (still : other = conn → (result.1.pc conn).stage.unsaid = true ∧
      ∀ handle call, .call handle call ∈ result.2 → call.gentle = false → (s.pc conn).uses = none) : Pristine result.1 other := by
  have unsettled := unsaid_unsettled _ unsaid
  have stranger : ∀ handle, s.has conn handle → other ≠ conn → handle.conn ≠ other := by
    intro handle has different same
    cases has with
    | inl own => exact different (same.symm.trans (congrArg Handle.conn own.1))
    | inr device =>
        have settled := (base.devices conn handle device).2.1
        rw [same] at settled
        exact absurd (settled.symm.trans unsettled) (by decide)
  cases moved with
  | quiet pc rx tx events alike calls => exact pristine
  | lost slot pc why => exact pristine
  | shuts pc handle slot bridging alike has =>
      have member : .call handle .shutdown ∈ [Event.call handle .shutdown] := List.mem_singleton.mpr rfl
      obtain ⟨fds, _, fd, _⟩ := shutdown_fds s handle.fd
      have apart : s.fds handle.fd ≠ some other := by
        intro live
        have here := aimed handle .shutdown member rfl other live
        by_cases same : other = conn
        · have unused := (still same).2 handle .shutdown member rfl
          rw [bridging] at unused
          cases unused
        · exact stranger handle has same here.symm
      constructor
      · dsimp only [Server.goto]
        rw [fds, fd]
        exact pristine.1
      · exact (shutdown_others s handle.fd other apart).trans pristine.2
  | closes handle pc closing =>
      have different : other ≠ conn := by
        intro same
        have unsaidNow := (still same).1
        rw [goto_conn] at unsaidNow
        cases closing <;> cases unsaidNow
      have apart : s.fd other ≠ handle.fd := by
        intro same
        have here := aimed handle .close (List.mem_singleton.mpr rfl) rfl other (same ▸ pristine.1)
        exact stranger handle (closes_has s conn handle pc closing) different here.symm
      constructor
      · dsimp only [Server.goto, closeFd]
        rw [Function.update_of_ne apart]
        exact pristine.1
      · exact pristine.2
  | register id pc => exact pristine_register s conn other id base unsaid pristine aimed
  | releasing slot pc =>
      rw [releasingStep]
      split <;> exact pristine
  | connect id pc =>
      rw [connectStep]
      split <;> exact pristine
  | release slot dev pc => exact pristine

theorem pristine_thread (t : Traced) (conn : ConnId) (answer : Answer) (orders : Orders t)
    (meets : steady t (.thread conn answer) = true) (other : ConnId) (unsaid : (t.server.pc other).stage.unsaid = true)
    (still : other = conn → ((trace t (.thread conn answer)).server.pc conn).stage.unsaid = true) :
    Pristine (trace t (.thread conn answer)).server other := by
  have base := orders.streams.speech.roles.exclusive.base
  apply pristine_move t.server conn other _ base (thread_moves t.server conn answer) _ unsaid (orders.pristine other unsaid)
  · intro same
    refine ⟨still same, fun handle call member rough => ?_⟩
    exact closing_unused t.server conn handle (thread_cuts t.server conn answer handle call member rough)
  · intro handle call member rough
    exact steady_cuts t _ meets handle (thread_cuts t.server conn answer handle call member rough)

theorem pristine_pump (t : Traced) (conn : ConnId) (side : Side) (answer : Answer) (orders : Orders t)
    (meets : steady t (.pump conn side answer) = true) (other : ConnId) (unsaid : (t.server.pc other).stage.unsaid = true) :
    Pristine (trace t (.pump conn side answer)).server other := by
  have base := orders.streams.speech.roles.exclusive.base
  have pristine := orders.pristine other unsaid
  by_cases bridging : ∃ slot, (t.server.pc conn).uses = some slot ∧ other ≠ conn
  · obtain ⟨slot, _, different⟩ := bridging
    apply pristine_move t.server conn other _ base (bridge_moves t.server conn side answer) _ unsaid pristine
    · exact fun same => absurd same different
    · intro handle call member rough
      exact steady_cuts t _ meets handle (bridge_cuts t.server conn side answer handle call member rough)
  · have still : bridgeStep t.server conn side answer = (t.server, []) := by
      unfold bridgeStep
      split
      · rename_i slot dev up down pc
        have same : other = conn := by
          by_contra different
          exact bridging ⟨slot, by rw [pc]; rfl, different⟩
        rw [same, pc] at unsaid
        cases unsaid
      · rfl
    have server : (trace t (.pump conn side answer)).server = t.server := by simp only [trace, next, Runs.record, step, still]
    rw [server]
    exact pristine

theorem excused_kept (t : Traced) (label : Label) (conn : ConnId) (excused : Excused t conn)
    (gone : t.server.gone conn = true → (trace t label).server.gone conn = true)
    (arrived : ∃ bytes, (trace t label).arrived conn = t.arrived conn ++ bytes) : Excused (trace t label) conn := by
  cases excused with
  | inl left => exact .inl (gone left)
  | inr rest =>
      cases rest with
      | inl spoken =>
          refine .inr (.inl ?_)
          cases trace_log t label with
          | inl same => rwa [same]
          | inr wrote =>
              obtain ⟨_, _, target, _, _, log⟩ := wrote
              rw [log]
              by_cases same : conn = target
              · rw [same, Function.update_self]
                simp
              · rwa [Function.update_of_ne same]
      | inr opened =>
          obtain ⟨command, rest, opening, kind⟩ := opened
          obtain ⟨bytes, more⟩ := arrived
          exact .inr (.inr ⟨command, rest ++ bytes, opening_more t _ conn command rest bytes opening more, kind⟩)

-- A send to a pristine connection that writes nothing finds the peer gone.
theorem said_or_gone (t : Traced) (label : Label) (orders : Orders t) (meets : steady t label = true) (conn : ConnId) (write : Write)
    (sending : sends t.server label = some (t.server.own conn, write)) (unsaid : (t.server.pc conn).stage.unsaid = true)
    (running : t.server.pc conn ≠ .finished) (moves : (trace t label).server.pc conn ≠ t.server.pc conn) :
    t.server.gone conn = true ∨ (trace t label).log conn ≠ [] := by
  have base : Base t.server := orders.streams.speech.roles.exclusive.base
  have pristine := orders.pristine conn unsaid
  have born : (t.server.own conn).conn < t.server.nextConn := base_born t.server base conn running
  cases steady_tried t label base meets (t.server.own conn) write sending rfl born with
  | blocked sent log broken =>
      have stepped := speaks_step t.server label _ write (sends_speaks t.server label _ write sending)
      rw [sent] at stepped
      have server : (trace t label).server = t.server := by simp only [trace, next, Runs.record, stepped]
      exact absurd (by rw [server]) moves
  | muted sent log mute why =>
      cases why with
      | inl closed => cases pristine.1.symm.trans closed
      | inr rest =>
          cases rest with
          | inl shut => exact absurd (pristine.2.symm.trans shut) (by decide)
          | inr gone => exact .inl gone
  | written count tx positive sent log able whole =>
      right
      rw [log]
      simp [Server.own]

theorem recv_pristine (s : Server) (conn : ConnId) (size : Nat) (answer : Answer) (pristine : Pristine s conn)
    (failed : recv s (s.fd conn) size answer = some .failed) : s.gone conn = true := by
  have ended := recv_failed s (s.fd conn) size answer failed conn pristine.1
  rw [Server.ended, pristine.2, Bool.or_false] at ended
  exact ended

-- Whoever goes past his first line has said it, or has seen the peer go, or has nothing to say.
theorem excused_said (t : Traced) (conn : ConnId) (answer : Answer) (orders : Orders t)
    (meets : steady t (.thread conn answer) = true) (unsaid : (t.server.pc conn).stage.unsaid = true)
    (said : ((trace t (.thread conn answer)).server.pc conn).stage.unsaid = false) : Excused (trace t (.thread conn answer)) conn := by
  have moves : (trace t (.thread conn answer)).server.pc conn ≠ t.server.pc conn := by
    intro same
    rw [same, unsaid] at said
    cases said
  have base : Base t.server := orders.streams.speech.roles.exclusive.base
  have gone : t.server.gone conn = true → (trace t (.thread conn answer)).server.gone conn = true := by
    intro left
    have same : (trace t (.thread conn answer)).server.gone = t.server.gone :=
      move_gone t.server conn (threadStep t.server conn answer) (thread_moves t.server conn answer)
    rw [same, left]
  have spoken : ∀ write, t.server.pc conn ≠ .finished → sends t.server (.thread conn answer) = some (t.server.own conn, write) →
      Excused (trace t (.thread conn answer)) conn := by
    intro write running sending
    cases said_or_gone t _ orders meets conn write sending unsaid running moves with
    | inl left => exact .inl (gone left)
    | inr wrote => exact .inr (.inl wrote)
  cases pc : t.server.pc conn with
  | reading line =>
      cases steady_reads t conn answer line meets pc with
      | blocked still => exact absurd (by rw [still]) moves
      | over_ failed closes => exact .inl (gone (recv_pristine t.server conn 1 answer (orders.pristine conn unsaid) failed))
      | takes byte rest waiting after =>
          obtain ⟨head, whole, opened⟩ := orders.streams.opens conn (by rw [pc]; rfl)
          rw [pc] at opened
          have opening : Opening (trace t (.thread conn answer)) conn (readByte line byte) rest := by
            refine ⟨head ++ [byte], ?_, read_on_byte head line byte opened⟩
            rw [List.append_assoc, List.singleton_append, ← waiting]
            exact whole
          have closing : readByte line byte = .closing := by
            rw [after, goto_conn] at said
            cases read_byte_stage line byte with
            | inl early =>
                rw [early] at said
                cases said
            | inr closing => exact closing
          exact .inr (.inr ⟨_, rest, opening, .inl closing⟩)
  | refuse message => exact spoken (.line message) (by simp [pc]) (by simp only [sends, pc])
  | register id =>
      have opening := orders.streams.opens conn (by rw [pc]; rfl)
      rw [pc] at opening
      exact .inr (.inr ⟨_, _, opening_same t _ conn _ _ rfl opening, .inr ⟨id, rfl⟩⟩)
  | connect id =>
      have there : (trace t (.thread conn answer)).server.pc conn = (connectStep t.server conn id).1.pc conn := by
        simp only [trace, next, Runs.record, step, threadStep, pc]
      rw [there, connectStep] at said
      split at said
      · rw [goto_conn] at said
        cases said
      · rw [goto_conn] at said
        cases said
  | accepted slot dev => exact spoken (.line okLine) (by simp [pc]) (by simp only [sends, pc])
  | answer slot => rw [pc] at unsaid; cases unsaid
  | watching slot => rw [pc] at unsaid; cases unsaid
  | releasing slot => rw [pc] at unsaid; cases unsaid
  | notify slot dev => rw [pc] at unsaid; cases unsaid
  | bridge slot dev up down => rw [pc] at unsaid; cases unsaid
  | release slot dev => rw [pc] at unsaid; cases unsaid
  | closeOwn dev => rw [pc] at unsaid; cases unsaid
  | closeDev dev => rw [pc] at unsaid; cases unsaid
  | closing => rw [pc] at unsaid; cases unsaid
  | finished => rw [pc] at unsaid; cases unsaid

-- Nobody gets back in front of his first line.
theorem unsaid_before (t : Traced) (conn : ConnId) (answer : Answer) (orders : Orders t)
    (meets : steady t (.thread conn answer) = true)
    (unsaid : ((trace t (.thread conn answer)).server.pc conn).stage.unsaid = true) : (t.server.pc conn).stage.unsaid = true := by
  cases sending : sends t.server (.thread conn answer) with
  | none =>
      have passes := thread_passes t.server conn answer sending
      have server : (trace t (.thread conn answer)).server = (threadStep t.server conn answer).1 := rfl
      rw [← server] at passes
      cases passes with
      | stays same => rwa [same] at unsaid
      | rests quiet _ => rw [quiet] at unsaid; cases unsaid
      | registers id slot pc answers => rw [pc]; rfl
      | connects id slot pc found accepts => rw [pc]; rfl
  | some sent =>
      cases speaks_spoken t _ sent.1 sent.2 orders.streams.speech meets sending with
      | inl same => rwa [same] at unsaid
      | inr spoke =>
          obtain ⟨count, log, _, spoken⟩ := spoke
          have here : (trace t (.thread conn answer)).server.pc conn =
              (t.server.pc conn).onward .up (afterSend sent.2 count) := by
            rw [spoken.pcs]
            exact Function.update_self _ _ _
          rw [here] at unsaid
          have late := spoken.late
          have promise := spoken.promise
          simp only [Label.mover, Label.side] at late promise
          cases stage : ((t.server.pc conn).onward .up (afterSend sent.2 count)).stage with
          | early => exact absurd stage late
          | waiting dev =>
              rw [promise dev (.inl stage)]
              rfl
          | answering => rw [stage] at unsaid; cases unsaid
          | greeted dev => rw [stage] at unsaid; cases unsaid
          | joined dev => rw [stage] at unsaid; cases unsaid
          | quiet => rw [stage] at unsaid; cases unsaid

theorem orders_thread (t : Traced) (conn : ConnId) (answer : Answer) (orders : Orders t) (born : conn < t.server.nextConn)
    (meets : steady t (.thread conn answer) = true) : Orders (trace t (.thread conn answer)) := by
  have moved := thread_moves t.server conn answer
  have beside := move_beside t.server conn _ orders.streams.speech.roles.exclusive.base moved
  have others : ∀ other, other ≠ conn → (trace t (.thread conn answer)).server.pc other = t.server.pc other := beside.others
  have next : (trace t (.thread conn answer)).server.nextConn = t.server.nextConn := beside.nextConn
  have gone : (trace t (.thread conn answer)).server.gone = t.server.gone := move_gone t.server conn (threadStep t.server conn answer) moved
  have kept : ∀ other, Excused t other → Excused (trace t (.thread conn answer)) other := fun other excused =>
    excused_kept t _ other excused (fun left => by rw [gone, left]) ⟨[], (List.append_nil _).symm⟩
  constructor
  · exact streams_trace t _ orders.streams meets
  · intro other unsaid
    by_cases same : other = conn
    · rw [same] at unsaid ⊢
      exact pristine_thread t conn answer orders meets conn (unsaid_before t conn answer orders meets unsaid) fun _ => unsaid
    · rw [others other same] at unsaid
      exact pristine_thread t conn answer orders meets other unsaid fun here => absurd here same
  · intro other known said
    rw [next] at known
    by_cases same : other = conn
    · rw [same] at said ⊢
      cases before : (t.server.pc conn).stage.unsaid with
      | true => exact excused_said t conn answer orders meets before said
      | false => exact kept conn (orders.excused conn born before)
    · rw [others other same] at said
      exact kept other (orders.excused other known said)

theorem orders_pump (t : Traced) (conn : ConnId) (side : Side) (answer : Answer) (orders : Orders t)
    (meets : steady t (.pump conn side answer) = true) : Orders (trace t (.pump conn side answer)) := by
  have moved := bridge_moves t.server conn side answer
  have beside := move_beside t.server conn _ orders.streams.speech.roles.exclusive.base moved
  have next : (trace t (.pump conn side answer)).server.nextConn = t.server.nextConn := beside.nextConn
  have gone : (trace t (.pump conn side answer)).server.gone = t.server.gone :=
    move_gone t.server conn (bridgeStep t.server conn side answer) moved
  have stage : ∀ other, ((trace t (.pump conn side answer)).server.pc other).stage = (t.server.pc other).stage := by
    intro other
    by_cases same : other = conn
    · rw [same]
      exact bridge_stage t.server conn side answer
    · exact congrArg Pc.stage (beside.others other same)
  constructor
  · exact streams_trace t _ orders.streams meets
  · intro other unsaid
    rw [stage] at unsaid
    exact pristine_pump t conn side answer orders meets other unsaid
  · intro other known said
    rw [next] at known
    rw [stage] at said
    exact excused_kept t _ other (orders.excused other known said) (fun left => by rw [gone, left]) ⟨[], (List.append_nil _).symm⟩

theorem orders_outside (t : Traced) (label : Label) (orders : Orders t) (meets : steady t label = true)
    (outside : Outside t.server (step t.server label))
    (old : ∀ conn, conn < t.server.nextConn → Pristine t.server conn → Pristine (trace t label).server conn)
    (fresh : ∀ conn, t.server.nextConn ≤ conn → (trace t label).server.pc conn = .reading [] → Pristine (trace t label).server conn)
    (next : ∀ conn, conn < (trace t label).server.nextConn → conn < t.server.nextConn ∨
      (trace t label).server.pc conn = .reading [])
    (gone : ∀ conn, t.server.gone conn = true → (trace t label).server.gone conn = true)
    (arrived : ∀ conn, ∃ bytes, (trace t label).arrived conn = t.arrived conn ++ bytes) : Orders (trace t label) := by
  have pcs : ∀ conn, conn < t.server.nextConn → (trace t label).server.pc conn = t.server.pc conn := outside.pcs
  constructor
  · exact streams_trace t label orders.streams meets
  · intro conn unsaid
    by_cases born : conn < t.server.nextConn
    · rw [pcs conn born] at unsaid
      exact old conn born (orders.pristine conn unsaid)
    · have unborn := Nat.le_of_not_lt born
      have either : (trace t label).server.pc conn = .reading [] ∨ (trace t label).server.pc conn = .finished :=
        outside.fresh conn unborn
      cases either with
      | inl reading => exact fresh conn unborn reading
      | inr finished =>
          rw [finished] at unsaid
          cases unsaid
  · intro conn known said
    cases next conn known with
    | inl born =>
        rw [pcs conn born] at said
        exact excused_kept t label conn (orders.excused conn born said) (gone conn) (arrived conn)
    | inr reading =>
        rw [reading] at said
        cases said

theorem orders_still (t : Traced) (label : Label) (orders : Orders t) (meets : steady t label = true)
    (still : step t.server label = (t.server, [])) (arrived : arrive t label = t.arrived) : Orders (trace t label) := by
  have server : (trace t label).server = t.server := by simp only [trace, next, Runs.record, still]
  have base : Base t.server := orders.streams.speech.roles.exclusive.base
  apply orders_outside t label orders meets (still ▸ outside_still t.server base)
  · intro conn _ pristine
    rwa [server]
  · intro conn unborn reading
    rw [server, (base.unborn conn unborn).1] at reading
    cases reading
  · intro conn known
    rw [server] at known
    exact .inl known
  · intro conn left
    rwa [server]
  · exact fun conn => ⟨[], (congrFun arrived conn).trans (List.append_nil _).symm⟩

theorem orders_accept (t : Traced) (fd : Nat) (orders : Orders t) (meets : steady t (.accept fd) = true) :
    Orders (trace t (.accept fd)) := by
  have base : Base t.server := orders.streams.speech.roles.exclusive.base
  by_cases used : (t.server.fds fd).isSome = true
  · exact orders_still t _ orders meets (by simp only [step, acceptStep, if_pos used]) rfl
  · have server : (trace t (.accept fd)).server = { t.server with
        fds := Function.update t.server.fds fd (some t.server.nextConn)
        fd := Function.update t.server.fd t.server.nextConn fd
        pc := Function.update t.server.pc t.server.nextConn (.reading []), nextConn := t.server.nextConn + 1 } := by
      simp only [trace, next, Runs.record, step, acceptStep, if_neg used]
    apply orders_outside t _ orders meets (outside_accept t.server base fd)
    · intro conn born pristine
      rw [server, Pristine]
      dsimp only
      have different : t.server.fd conn ≠ fd := by
        intro same
        rw [Pristine, same] at pristine
        rw [pristine.1] at used
        exact used rfl
      rw [Function.update_of_ne (Nat.ne_of_lt born), Function.update_of_ne different]
      exact pristine
    · intro conn unborn reading
      have here : conn = t.server.nextConn := by
        by_contra different
        rw [server] at reading
        dsimp only at reading
        rw [Function.update_of_ne different, (base.unborn conn unborn).1] at reading
        cases reading
      rw [server, Pristine, here]
      dsimp only
      rw [Function.update_self, Function.update_self]
      exact ⟨rfl, (base.unborn _ (Nat.le_refl _)).2.2⟩
    · intro conn known
      rw [server] at known ⊢
      by_cases born : conn < t.server.nextConn
      · exact .inl born
      · have here : conn = t.server.nextConn := Nat.le_antisymm (Nat.le_of_lt_succ known) (Nat.le_of_not_lt born)
        right
        dsimp only
        rw [here, Function.update_self]
    · intro conn left
      rw [server]
      exact left
    · exact fun conn => ⟨[], (List.append_nil _).symm⟩

theorem orders_deliver (t : Traced) (target : ConnId) (bytes : Bytes) (orders : Orders t)
    (meets : steady t (.deliver target bytes) = true) : Orders (trace t (.deliver target bytes)) := by
  have base : Base t.server := orders.streams.speech.roles.exclusive.base
  by_cases born : target < t.server.nextConn
  · have server : (trace t (.deliver target bytes)).server =
        { t.server with rx := Function.update t.server.rx target (t.server.rx target ++ bytes) } := by
      simp only [trace, next, Runs.record, step, if_pos born]
    apply orders_outside t _ orders meets (outside_deliver t.server base target bytes)
    · intro conn _ pristine
      rw [server]
      exact pristine
    · intro conn unborn reading
      rw [server] at reading
      cases (base.unborn conn unborn).1.symm.trans reading
    · intro conn known
      rw [server] at known
      exact .inl known
    · intro conn left
      rw [server]
      exact left
    · intro conn
      obtain ⟨more, arrived, _⟩ := deliver_more t target bytes conn
      exact ⟨more, arrived⟩
  · exact orders_still t _ orders meets (by simp only [step, if_neg born]) (by simp only [arrive, if_neg born])

theorem orders_hang_up (t : Traced) (target : ConnId) (orders : Orders t) (meets : steady t (.hangUp target) = true) :
    Orders (trace t (.hangUp target)) := by
  have base : Base t.server := orders.streams.speech.roles.exclusive.base
  by_cases born : target < t.server.nextConn
  · have server : (trace t (.hangUp target)).server = { t.server with gone := Function.update t.server.gone target true } := by
      simp only [trace, next, Runs.record, step, if_pos born]
    apply orders_outside t _ orders meets (outside_hang_up t.server base target)
    · intro conn _ pristine
      rw [server]
      exact pristine
    · intro conn unborn reading
      rw [server] at reading
      cases (base.unborn conn unborn).1.symm.trans reading
    · intro conn known
      rw [server] at known
      exact .inl known
    · intro conn left
      rw [server]
      by_cases same : conn = target
      · dsimp only
        rw [same, Function.update_self]
      · dsimp only
        rwa [Function.update_of_ne same]
    · exact fun conn => ⟨[], (List.append_nil _).symm⟩
  · exact orders_still t _ orders meets (by simp only [step, if_neg born]) rfl

theorem orders_trace (t : Traced) (label : Label) (orders : Orders t) (meets : steady t label = true) : Orders (trace t label) := by
  have base : Base t.server := orders.streams.speech.roles.exclusive.base
  cases label with
  | accept fd => exact orders_accept t fd orders meets
  | deliver conn bytes => exact orders_deliver t conn bytes orders meets
  | hangUp conn => exact orders_hang_up t conn orders meets
  | thread conn answer =>
      by_cases born : conn < t.server.nextConn
      · exact orders_thread t conn answer orders born meets
      · have idle := (base.unborn conn (Nat.le_of_not_lt born)).1
        exact orders_still t _ orders meets (by simp only [step, threadStep, idle]) rfl
  | pump conn side answer => exact orders_pump t conn side answer orders meets

theorem orders_initial : Orders {} := by
  constructor
  · exact streams_initial
  · exact fun _ unsaid => absurd unsaid (by simp [Pc.stage, Stage.unsaid])
  · exact fun conn born => absurd born (Nat.not_lt_zero conn)

structure Errors (t : Traced) : Prop where
  pending : ∀ conn message, t.server.pc conn = .refuse message → message ∈ errorLines
  said : ∀ conn message, .line message ∈ t.log conn →
    message = okLine ∨ message ∈ errorLines ∨ (message = bridgeLine ∧ Taken t.history conn)

theorem parse_line_refuses (line message : Bytes) (refused : parseLine line = .refuse message) :
    message ∈ errorLines ∨ message = unknownCommand := by
  simp only [parseLine, parseRegister] at refused
  split at refused
  · split at refused
    · cases refused
      exact .inl (by decide)
    · split at refused
      · cases refused
        exact .inl (by decide)
      · split at refused
        · cases refused
        · cases refused
          exact .inl (by decide)
  · split at refused
    · split at refused
      · cases refused
      · cases refused
        exact .inl (by decide)
    · cases refused
      exact .inr rfl

theorem read_byte_refuses (line : Bytes) (byte : UInt8) (message : Bytes) (refused : readByte line byte = .refuse message) :
    message ∈ errorLines ∨ message = unknownCommand := by
  rw [readByte] at refused
  split at refused
  · split at refused
    · cases refused
    · exact parse_line_refuses _ message refused
  · split at refused
    · cases refused
    · exact parse_line_refuses _ message refused

-- A thread that is about to refuse has been so before, or has come to it by this step.
theorem thread_refuses (t : Traced) (conn : ConnId) (answer : Answer) (orders : Orders t) (errors : Errors t)
    (meets : orderly t (.thread conn answer) = true) (message : Bytes)
    (refuses : (trace t (.thread conn answer)).server.pc conn = .refuse message) : message ∈ errorLines := by
  obtain ⟨steadily, known⟩ := (Bool.and_eq_true _ _).mp meets
  have unsaid : (t.server.pc conn).stage.unsaid = true :=
    unsaid_before t conn answer orders steadily (by rw [refuses]; rfl)
  have server : (trace t (.thread conn answer)).server = (threadStep t.server conn answer).1 := rfl
  cases pc : t.server.pc conn with
  | reading line =>
      cases steady_reads t conn answer line steadily pc with
      | blocked still =>
          rw [still, pc] at refuses
          cases refuses
      | over_ failed closes =>
          rw [closes, goto_conn] at refuses
          cases refuses
      | takes byte rest waiting after =>
          rw [after, goto_conn] at refuses
          simp only [commands, pc, waiting, List.head?_cons, Option.all_some, bne_iff_ne] at known
          cases read_byte_refuses line byte message refuses with
          | inl listed => exact listed
          | inr unknown => exact absurd (unknown ▸ refuses) known
  | refuse line =>
      simp only [server, threadStep, pc] at refuses
      cases (say_rx t.server conn (t.server.own conn) line .closing answer).2 with
      | inl same => exact errors.pending conn message (same.symm.trans refuses)
      | inr moved => cases moved.symm.trans refuses
  | register id =>
      simp only [server, threadStep, pc, registerStep] at refuses
      split at refuses
      · rw [goto_conn] at refuses
        cases refuses
        decide
      · rw [goto_conn] at refuses
        cases refuses
  | connect id =>
      simp only [server, threadStep, pc, connectStep] at refuses
      split at refuses
      · rw [goto_conn] at refuses
        cases refuses
        decide
      · rw [goto_conn] at refuses
        cases refuses
  | accepted slot dev =>
      simp only [server, threadStep, pc] at refuses
      cases (say_rx t.server conn (t.server.own conn) (ascii "OK\r\n") (.notify slot dev) answer).2 with
      | inl same => exact errors.pending conn message (same.symm.trans refuses)
      | inr moved => cases moved.symm.trans refuses
  | answer slot => rw [pc] at unsaid; cases unsaid
  | watching slot => rw [pc] at unsaid; cases unsaid
  | releasing slot => rw [pc] at unsaid; cases unsaid
  | notify slot dev => rw [pc] at unsaid; cases unsaid
  | bridge slot dev up down => rw [pc] at unsaid; cases unsaid
  | release slot dev => rw [pc] at unsaid; cases unsaid
  | closeOwn dev => rw [pc] at unsaid; cases unsaid
  | closeDev dev => rw [pc] at unsaid; cases unsaid
  | closing => rw [pc] at unsaid; cases unsaid
  | finished => rw [pc] at unsaid; cases unsaid

theorem history_grows (t : Traced) (label : Label) (device : ConnId) (taken : Taken t.history device) :
    Taken (trace t label).history device := by
  obtain ⟨client, slot, member⟩ := taken
  exact ⟨client, slot, List.mem_append_left _ member⟩

-- The line a step sends is one of the protocol's, and BRIDGE goes to a device that has been taken.
theorem sends_listed (t : Traced) (label : Label) (roles : Roles (t.server, t.history)) (errors : Errors t) (handle : Handle)
    (message : Bytes) (sending : sends t.server label = some (handle, .line message)) :
    message = okLine ∨ message ∈ errorLines ∨ (message = bridgeLine ∧ Taken t.history handle.conn) := by
  cases sends_speaks t.server label handle _ sending with
  | refuse conn answer _ pc => exact .inr (.inl (errors.pending conn message pc))
  | answer conn answer slot pc => exact .inl rfl
  | accepted conn answer slot dev pc => exact .inl rfl
  | notify conn answer slot dev pc =>
      have taken := (device_facts t roles conn handle (by rw [pc]; rfl)).2.1
      exact .inr (.inr ⟨rfl, taken⟩)

theorem errors_said (t : Traced) (label : Label) (streams : Streams t) (errors : Errors t) (meets : steady t label = true)
    (conn : ConnId) (message : Bytes) (member : .line message ∈ (trace t label).log conn) :
    message = okLine ∨ message ∈ errorLines ∨ (message = bridgeLine ∧ Taken (trace t label).history conn) := by
  have roles := streams.speech.roles
  have before : .line message ∈ t.log conn →
      message = okLine ∨ message ∈ errorLines ∨ (message = bridgeLine ∧ Taken (trace t label).history conn) := by
    intro old
    have listed := errors.said conn message old
    exact listed.imp_right (Or.imp_right (And.imp_right (history_grows t label conn)))
  cases sending : sends t.server label with
  | none => exact before ((silent_log t label sending).1 ▸ member)
  | some sent =>
      obtain ⟨handle, write⟩ := sent
      obtain ⟨number, born, _⟩ := speaks_handle t label handle write roles (sends_speaks t.server label handle write sending)
      cases steady_tried t label roles.exclusive.base meets handle write sending number born with
      | blocked _ log _ => exact before (log ▸ member)
      | muted _ log _ _ => exact before (log ▸ member)
      | written count tx positive _ log able whole =>
          rw [log] at member
          by_cases same : conn = handle.conn
          · rw [same, Function.update_self] at member
            cases List.mem_append.mp member with
            | inl old => exact before (same ▸ old)
            | inr new =>
                have cut : write.cut count = .line message := (List.mem_singleton.mp new).symm
                have line : write = .line message := by
                  cases write with
                  | line text => exact (whole text rfl).symm.trans cut
                  | data bytes => cases cut
                have listed := sends_listed t label roles errors handle message (line ▸ sending)
                rw [same]
                exact listed.imp_right (Or.imp_right (And.imp_right (history_grows t label handle.conn)))
          · rw [Function.update_of_ne same] at member
            exact before member

theorem outside_refuses (s : Server) (result : Server × List Event) (outside : Outside s result) (conn : ConnId) (message : Bytes)
    (refuses : result.1.pc conn = .refuse message) : s.pc conn = .refuse message := by
  by_cases born : conn < s.nextConn
  · exact (outside.pcs conn born).symm.trans refuses
  · cases outside.fresh conn (Nat.le_of_not_lt born) with
    | inl reading => cases reading.symm.trans refuses
    | inr finished => cases finished.symm.trans refuses

-- Only its own thread takes a connection to a refusal.
theorem refuses_before (s : Server) (label : Label) (base : Base s) (conn : ConnId) (message : Bytes)
    (refuses : (step s label).1.pc conn = .refuse message) : s.pc conn = .refuse message ∨ ∃ answer, label = .thread conn answer := by
  cases label with
  | accept fd => exact .inl (outside_refuses s _ (outside_accept s base fd) conn message refuses)
  | deliver target bytes => exact .inl (outside_refuses s _ (outside_deliver s base target bytes) conn message refuses)
  | hangUp target => exact .inl (outside_refuses s _ (outside_hang_up s base target) conn message refuses)
  | thread mover answer =>
      by_cases same : conn = mover
      · exact .inr ⟨answer, by rw [same]⟩
      · have beside := move_beside s mover _ base (thread_moves s mover answer)
        exact .inl ((beside.others conn same).symm.trans refuses)
  | pump mover side answer =>
      left
      by_cases same : conn = mover
      · have stage : ((bridgeStep s mover side answer).1.pc mover).stage = (s.pc mover).stage := bridge_stage s mover side answer
        simp only [step, same] at refuses ⊢
        rw [refuses] at stage
        unfold bridgeStep at refuses
        split at refuses
        · rename_i slot dev up down pc
          rw [pc] at stage
          cases stage
        · exact refuses
      · have beside := move_beside s mover _ base (bridge_moves s mover side answer)
        exact (beside.others conn same).symm.trans refuses

theorem errors_trace (t : Traced) (label : Label) (orders : Orders t) (errors : Errors t) (meets : orderly t label = true) :
    Errors (trace t label) := by
  have steadily := ((Bool.and_eq_true _ _).mp meets).1
  constructor
  · intro conn message refuses
    cases refuses_before t.server label orders.streams.speech.roles.exclusive.base conn message refuses with
    | inl before => exact errors.pending conn message before
    | inr own =>
        obtain ⟨answer, rfl⟩ := own
        exact thread_refuses t conn answer orders errors meets message refuses
  · exact fun conn message => errors_said t label orders.streams errors steadily conn message

theorem opening_once (t : Traced) (conn : ConnId) (command other : Pc) (rest left : Bytes)
    (past : ∀ line, command ≠ .reading line) (over_ : ∀ line, other ≠ .reading line)
    (first : Opening t conn command rest) (second : Opening t conn other left) : command = other := by
  obtain ⟨head, whole, opened⟩ := first
  obtain ⟨begun, same, also⟩ := second
  have mine := read_on_rest head rest [] command past opened
  have yours := read_on_rest begun left [] other over_ also
  rw [← whole] at mine
  rw [← same] at yours
  exact congrArg Prod.fst (mine.symm.trans yours)

-- The body of a line: what a peer shows its user.
theorem listed_lines (message : Bytes) (listed : message = okLine ∨ message ∈ errorLines ∨ message = bridgeLine) :
    ∃ body, message = body ++ crlf ∧ Unbroken body ∧ body.length ≤ 255 := by
  have each : ∀ text ∈ okLine :: bridgeLine :: errorLines, text = text.take (text.length - 2) ++ crlf ∧
      Unbroken (text.take (text.length - 2)) ∧ (text.take (text.length - 2)).length ≤ 255 := by decide
  have member : message ∈ okLine :: bridgeLine :: errorLines := by
    simp only [List.mem_cons]
    tauto
  exact ⟨_, each message member⟩

theorem error_lines (message : Bytes) (listed : message ∈ errorLines) : ∃ reason, message = ascii "ERROR " ++ reason ++ crlf := by
  have each : ∀ text ∈ errorLines, text = ascii "ERROR " ++ (text.drop 6).take (text.length - 8) ++ crlf := by decide
  exact ⟨_, each message listed⟩

theorem line_first (t : Traced) (speech : Speech t) (conn : ConnId) (spoken : t.log conn ≠ []) :
    ∃ text rest, t.log conn = .line text :: rest := by
  by_cases enrolled : Enrolled t.history conn
  · cases speech.devices conn enrolled with
    | inl nothing => exact absurd nothing spoken
    | inr more =>
        cases more with
        | inl ok => exact ⟨_, _, ok⟩
        | inr tunnelled =>
            obtain ⟨data, log, _⟩ := tunnelled
            exact ⟨_, _, log⟩
  · cases speech.clients conn enrolled with
    | inl nothing => exact absurd nothing spoken
    | inr more =>
        cases more with
        | inl single =>
            obtain ⟨message, log⟩ := single
            exact ⟨_, _, log⟩
        | inr greeted =>
            obtain ⟨data, log, _⟩ := greeted
            exact ⟨_, _, log⟩

theorem errors_listed (t : Traced) (errors : Errors t) (conn : ConnId) (text : Bytes) (member : .line text ∈ t.log conn) :
    text = okLine ∨ text ∈ errorLines ∨ text = bridgeLine :=
  (errors.said conn text member).imp_right (Or.imp_right And.left)

theorem reads_line (t : Traced) (speech : Speech t) (errors : Errors t) (recorded : Recorded t) (conn : ConnId)
    (spoken : t.log conn ≠ []) :
    ∃ line rest, Android.RelayConnection.readLine [] (t.server.tx conn) = .ok (line, rest) := by
  obtain ⟨text, rest, log⟩ := line_first t speech conn spoken
  have member : .line text ∈ t.log conn := log ▸ List.mem_cons_self
  obtain ⟨body, whole, unbroken, short⟩ := listed_lines text (errors_listed t errors conn text member)
  have wire : t.server.tx conn = body ++ crlf ++ rest.flatMap Write.bytes := by
    rw [recorded conn, log, List.flatMap_cons, Write.bytes, whole]
  have read := Android.RelayConnection.read_line_whole body (rest.flatMap Write.bytes) [] unbroken (by simpa using short)
  exact ⟨_, _, wire ▸ read⟩

theorem asks_past (command : Pc) (asks : Asks command) : ∀ line, command ≠ .reading line := by
  intro line
  cases asks with
  | inl connects =>
      obtain ⟨id, rfl⟩ := connects
      exact fun impossible => by cases impossible
  | inr refuses =>
      obtain ⟨message, rfl⟩ := refuses
      exact fun impossible => by cases impossible

-- A peer that is asking for a device, or for nothing the relay knows, hears a line unless it has left.
theorem asks_heard (t : Traced) (orders : Orders t) (errors : Errors t) (recorded : Recorded t) (conn : ConnId)
    (born : conn < t.server.nextConn) (finished : t.server.pc conn = .finished) (command : Pc) (rest : Bytes)
    (opening : Opening t conn command rest) (asks : Asks command) :
    t.server.gone conn = true ∨ ∃ line rest, Android.RelayConnection.readLine [] (t.server.tx conn) = .ok (line, rest) := by
  cases orders.excused conn born (by rw [finished]; rfl) with
  | inl gone => exact .inl gone
  | inr more =>
      cases more with
      | inl spoken => exact .inr (reads_line t orders.streams.speech errors recorded conn spoken)
      | inr silent =>
          obtain ⟨other, left, opened, kind⟩ := silent
          have past := asks_past command asks
          cases kind with
          | inl closing =>
              have same := opening_once t conn command other rest left past (by simp [closing]) opening opened
              rw [same, closing] at asks
              cases asks with
              | inl connects => cases connects.choose_spec
              | inr refuses => cases refuses.choose_spec
          | inr registers =>
              obtain ⟨id, register⟩ := registers
              have same := opening_once t conn command other rest left past (by simp [register]) opening opened
              rw [same, register] at asks
              cases asks with
              | inl connects => cases connects.choose_spec
              | inr refuses => cases refuses.choose_spec

theorem client_lines (t : Traced) (speech : Speech t) (errors : Errors t) (conn : ConnId) (unknown : ¬ Enrolled t.history conn) :
    t.log conn = [] ∨ (∃ reason, t.log conn = [.line (ascii "ERROR " ++ reason ++ crlf)]) ∨
      ∃ data, t.log conn = .line okLine :: data ∧ data.all Write.isData = true := by
  cases speech.clients conn unknown with
  | inl nothing => exact .inl nothing
  | inr more =>
      cases more with
      | inr greeted => exact .inr (.inr greeted)
      | inl single =>
          obtain ⟨message, log⟩ := single
          cases errors.said conn message (log ▸ List.mem_singleton_self _) with
          | inl ok => exact .inr (.inr ⟨[], ok ▸ log, rfl⟩)
          | inr rest =>
              cases rest with
              | inl listed =>
                  obtain ⟨reason, whole⟩ := error_lines message listed
                  exact .inr (.inl ⟨reason, whole ▸ log⟩)
              | inr bridge => exact absurd (taken_enrolled t speech.roles conn bridge.2) unknown

theorem orders_conforms (t : Traced) (orders : Orders t) (errors : Errors t) (recorded : Recorded t) : Conforms t := by
  have speech := orders.streams.speech
  constructor
  · exact recorded
  · intro conn text member
    obtain ⟨body, whole, unbroken, _⟩ := listed_lines text (errors_listed t errors conn text member)
    exact ⟨body, whole, unbroken⟩
  · exact speech.devices
  · exact client_lines t speech errors
  · exact fun conn command rest born finished opening asks =>
      asks_heard t orders errors recorded conn born finished command rest opening asks

-- Any first lines, any interleaving: as long as nobody sends a command that is unknown and the steps are steady.
theorem orderly_runs_conform (labels : List Label) (meets : Runs.EachStep trace (fun t label => orderly t label = true) {} labels) :
    Runs.EachState trace Conforms {} labels := by
  have inv := Runs.each_state_of_steps trace (fun t => Orders t ∧ Errors t ∧ Recorded t) _ {} labels
    (fun t label before orderlyStep =>
      ⟨orders_trace t label before.1 ((Bool.and_eq_true _ _).mp orderlyStep).1, errors_trace t label before.1 before.2.1 orderlyStep,
        recorded_trace t label before.2.2⟩)
    ⟨orders_initial, ⟨fun _ _ pc => (by cases pc), fun _ _ member => absurd member List.not_mem_nil⟩, fun _ => rfl⟩ meets
  exact Runs.each_state_mono trace _ _ {} labels (fun t kept => orders_conforms t kept.1 kept.2.1 kept.2.2) inv

def orderlyRun : List Label :=
  registerRun 0 3 "REGISTER a smartlock2026\r\n" ++
  ([Label.accept 4, .deliver 1 (ascii "CONNECT a\r\nhello")] ++ List.replicate 14 (Label.thread 1 (.gives 0))) ++
  ([Label.accept 5, .deliver 2 (ascii "CONNECT b\r\n")] ++ List.replicate 15 (Label.thread 2 (.gives 0))) ++
  [Label.pump 1 .up (.gives 9), .pump 1 .up (.gives 9)]

theorem orderly_run_conforms :
    Runs.EachStep trace (fun t label => orderly t label = true) {} orderlyRun ∧ Runs.EachState trace Conforms {} orderlyRun ∧
      (Runs.run trace {} orderlyRun).server.tx 2 = ascii "ERROR device_not_found\r\n" := by
  have meets : Runs.EachStep trace (fun t label => orderly t label = true) {} orderlyRun := by decide +kernel
  exact ⟨meets, orderly_runs_conform orderlyRun meets, by decide +kernel⟩

-- The answer to any other command lacks its newline, and readLine fails on it.
def helloRun : List Label := [Label.accept 3, .deliver 0 (ascii "HELLO\r\n")] ++ List.replicate 9 (Label.thread 0 (.gives 0))

theorem unknown_command_cut :
    (Runs.run trace {} helloRun).server.tx 0 = ascii "ERROR unknown_command\r" ∧
      Android.RelayConnection.readLine [] (ascii "ERROR unknown_command\r") = .error (Android.text "Relay closed connection") ∧
      ¬ Runs.EachState trace Conforms {} helloRun := by
  refine ⟨by decide +kernel, by decide +kernel, fun every => ?_⟩
  have last := Runs.each_state_last trace Conforms {} helloRun every
  have said : .line (ascii "ERROR unknown_command\r") ∈ (Runs.run trace {} helloRun).log 0 := by decide +kernel
  obtain ⟨body, whole, _⟩ := last.lines 0 _ said
  have ends := congrArg List.getLast? whole
  rw [crlf] at ends
  simp at ends
  exact absurd ends (by decide)

end Intercom.Relay
