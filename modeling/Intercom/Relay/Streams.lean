import Intercom.Relay.Speech

set_option autoImplicit false

/- The bytes of a peer after its first line: they wait on its connection until a bridge takes them, and what a bridge
   has taken has been forwarded or is about to be. -/
namespace Intercom.Relay

open ByteText

-- readline over what has arrived: where it leaves the thread, and what it has not read.
def readOn : Bytes → Bytes → Pc × Bytes
  | line, [] => (.reading line, [])
  | line, byte :: rest =>
      match readByte line byte with
      | .reading longer => readOn longer rest
      | command => (command, rest)

-- The first line of the connection ends where the rest begins, and it means the command.
def Opening (t : Traced) (conn : ConnId) (command : Pc) (rest : Bytes) : Prop :=
  ∃ head, t.arrived conn = head ++ rest ∧ readOn [] head = (command, [])

def forwarded (log : List Write) : Bytes :=
  log.flatMap fun
    | .line _ => []
    | .data bytes => bytes

def Flow (t : Traced) (source target : ConnId) (command : Pc) (pump : Pump) : Prop :=
  ∃ rest, Opening t source command rest ∧
    match pump with
    | .receiving => rest = forwarded (t.log target) ++ t.server.rx source
    | .sending left => rest = forwarded (t.log target) ++ (left ++ t.server.rx source)
    | _ => forwarded (t.log target) <+: rest

def Pc.pumps : Pc → Pump × Pump
  | .accepted _ _ => (.receiving, .receiving)
  | .notify _ _ => (.receiving, .receiving)
  | .bridge _ _ up down => (up, down)
  | _ => (.done, .done)

def Pc.opens : Pc → Bool
  | .reading _ => true
  | .register _ => true
  | .connect _ => true
  | _ => false

structure Streams (t : Traced) : Prop where
  speech : Speech t
  unborn : ∀ conn, t.server.nextConn ≤ conn → t.arrived conn = [] ∧ t.server.rx conn = []
  opens : ∀ conn, (t.server.pc conn).opens = true → Opening t conn (t.server.pc conn) (t.server.rx conn)
  idle : ∀ device, Enrolled t.history device → ¬ Taken t.history device →
    ∃ name, Opening t device (.register name) (t.server.rx device)
  plain : ∀ conn, ¬ Taken t.history conn → (∀ slot device, .took conn slot device ∉ t.history) → forwarded (t.log conn) = []
  flows : ∀ client slot device, .took client slot device ∈ t.history →
    (∃ id, Flow t client device (.connect id) (t.server.pc client).pumps.1) ∧
      ∃ name, Flow t device client (.register name) (t.server.pc client).pumps.2

theorem read_on_append (head more : Bytes) (start line : Bytes) (reading : readOn start head = (.reading line, [])) :
    readOn start (head ++ more) = readOn line more := by
  induction head generalizing start with
  | nil =>
      cases reading
      rfl
  | cons byte rest ih =>
      rw [readOn] at reading
      rw [List.cons_append, readOn]
      split at reading
      · exact ih _ reading
      · rename_i other
        exact absurd (congrArg Prod.fst reading) (other line)

theorem read_on_rest (head more : Bytes) (start : Bytes) (command : Pc) (other : ∀ line, command ≠ .reading line)
    (opened : readOn start head = (command, [])) : readOn start (head ++ more) = (command, more) := by
  induction head generalizing start with
  | nil =>
      cases opened
      exact absurd rfl (other start)
  | cons byte rest ih =>
      rw [readOn] at opened
      rw [List.cons_append, readOn]
      split at opened
      · exact ih _ opened
      · obtain ⟨same, nothing⟩ := Prod.mk.inj opened
        rw [same, nothing]
        rfl

theorem forwarded_append (early late : List Write) : forwarded (early ++ late) = forwarded early ++ forwarded late := by
  simp [forwarded]

theorem opening_more (t after : Traced) (conn : ConnId) (command : Pc) (rest more : Bytes) (opening : Opening t conn command rest)
    (arrived : after.arrived conn = t.arrived conn ++ more) : Opening after conn command (rest ++ more) := by
  obtain ⟨head, whole, opened⟩ := opening
  exact ⟨head, by rw [arrived, whole, List.append_assoc], opened⟩

theorem flow_kept (t after : Traced) (source target : ConnId) (command : Pc) (pump : Pump) (more : Bytes)
    (flow : Flow t source target command pump) (arrived : after.arrived source = t.arrived source ++ more)
    (rx : after.server.rx source = t.server.rx source ++ more) (log : forwarded (after.log target) = forwarded (t.log target)) :
    Flow after source target command pump := by
  obtain ⟨rest, opening, holds⟩ := flow
  refine ⟨rest ++ more, opening_more t after source command rest more opening arrived, ?_⟩
  cases pump with
  | receiving =>
      dsimp only at holds ⊢
      rw [log, rx, holds, List.append_assoc]
  | sending left =>
      dsimp only at holds ⊢
      rw [log, rx, holds, List.append_assoc, List.append_assoc]
  | stopping =>
      dsimp only at holds ⊢
      rw [log]
      exact holds.trans (List.prefix_append _ _)
  | done =>
      dsimp only at holds ⊢
      rw [log]
      exact holds.trans (List.prefix_append _ _)

-- A pump that stops has forwarded a part of what came.
theorem flow_stops (t after : Traced) (source target : ConnId) (command : Pc) (pump : Pump) (flow : Flow t source target command pump)
    (arrived : after.arrived source = t.arrived source) (log : forwarded (after.log target) = forwarded (t.log target)) (last : Pump)
    (ends : last = .stopping ∨ last = .done) : Flow after source target command last := by
  obtain ⟨rest, opening, holds⟩ := flow
  have same : Opening after source command rest := by
    have kept := opening_more t after source command rest [] opening (by rw [arrived, List.append_nil])
    rwa [List.append_nil] at kept
  have begun : forwarded (after.log target) <+: rest := by
    rw [log]
    cases pump with
    | receiving => exact holds ▸ List.prefix_append _ _
    | sending left => exact holds ▸ List.prefix_append _ _
    | stopping => exact holds
    | done => exact holds
  refine ⟨rest, same, ?_⟩
  cases ends with
  | inl stopping => rw [stopping]; exact begun
  | inr done => rw [done]; exact begun

theorem trace_log (t : Traced) (label : Label) :
    (trace t label).log = t.log ∨ ∃ handle write target count, sends t.server label = some (handle, write) ∧
      (trace t label).log = Function.update t.log target (t.log target ++ [write.cut count]) := by
  cases sending : sends t.server label with
  | none => exact .inl (silent_log t label sending).1
  | some sent =>
      obtain ⟨handle, write⟩ := sent
      have tried : outcome t.server label = attempt t.server label.answer (handle, write) := by
        rw [outcome, sending, Option.bind_some]
      cases attempt_cases t.server label.answer handle write with
      | closed fds sent result => exact .inl (by simp only [trace, tried, result])
      | refused target fds why sent result => exact .inl (by simp only [trace, tried, result])
      | blocked sent result => exact .inl (by simp only [trace, tried, result])
      | taken target count fds live can positive sent result whole =>
          exact .inr ⟨handle, write, target, count, rfl, by simp only [trace, tried, result]⟩

theorem thread_forwarded (t : Traced) (conn : ConnId) (answer : Answer) (other : ConnId) :
    forwarded ((trace t (.thread conn answer)).log other) = forwarded (t.log other) := by
  cases trace_log t (.thread conn answer) with
  | inl same => rw [same]
  | inr wrote =>
      obtain ⟨handle, write, target, count, sending, log⟩ := wrote
      have line : ∃ text, write = .line text := by
        cases sends_speaks t.server _ handle write sending with
        | refuse conn answer message pc => exact ⟨_, rfl⟩
        | answer conn answer slot pc => exact ⟨_, rfl⟩
        | accepted conn answer slot dev pc => exact ⟨_, rfl⟩
        | notify conn answer slot dev pc => exact ⟨_, rfl⟩
      obtain ⟨text, rfl⟩ := line
      rw [log]
      by_cases same : other = target
      · rw [same, Function.update_self, forwarded_append]
        simp [forwarded, Write.cut]
      · rw [Function.update_of_ne same]

theorem say_rx (s : Server) (conn : ConnId) (handle : Handle) (line : Bytes) (pc : Pc) (answer : Answer) :
    (sayStep s conn handle line pc answer).1.rx = s.rx ∧
      ((sayStep s conn handle line pc answer).1.pc conn = s.pc conn ∨ (sayStep s conn handle line pc answer).1.pc conn = pc) := by
  rw [sayStep, sendLine]
  cases result : send s handle.fd line (whole line answer) with
  | none => exact ⟨rfl, .inl rfl⟩
  | some sent =>
      obtain ⟨tx, same⟩ := send_writes s sent.1 handle.fd sent.2 line (whole line answer) result
      simp only [Option.map_some, same]
      exact ⟨rfl, .inr (goto_conn _ _ _)⟩

-- What a thread past its first line leaves alone.
structure Lets (s : Server) (conn : ConnId) (after : Server) : Prop where
  rx : after.rx = s.rx
  opens : (after.pc conn).opens = true → after.pc conn = s.pc conn
  pumps : (after.pc conn).pumps = (s.pc conn).pumps ∨
    ∃ id slot, s.pc conn = .connect id ∧ findDevice s.slots id = some slot ∧ after.pc conn = .accepted slot (s.slots slot).sock

theorem lets_goto (s before : Server) (conn : ConnId) (pc : Pc) (rx : before.rx = s.rx) (opens : pc.opens = false)
    (pumps : pc.pumps = (s.pc conn).pumps) : Lets s conn (before.goto conn pc) := by
  constructor
  · exact rx
  · intro opened
    rw [goto_conn, opens] at opened
    cases opened
  · left
    rw [goto_conn, pumps]

theorem lets_same (s after : Server) (conn : ConnId) (rx : after.rx = s.rx) (pc : after.pc conn = s.pc conn) : Lets s conn after :=
  ⟨rx, fun _ => pc, .inl (by rw [pc])⟩

theorem lets_say (s : Server) (conn : ConnId) (handle : Handle) (line : Bytes) (pc : Pc) (answer : Answer) (opens : pc.opens = false)
    (pumps : pc.pumps = (s.pc conn).pumps) : Lets s conn (sayStep s conn handle line pc answer).1 := by
  obtain ⟨rx, moved⟩ := say_rx s conn handle line pc answer
  cases moved with
  | inl same => exact lets_same s _ conn rx same
  | inr there =>
      constructor
      · exact rx
      · intro opened
        rw [there, opens] at opened
        cases opened
      · left
        rw [there, pumps]

theorem thread_lets (s : Server) (conn : ConnId) (answer : Answer) (past : ∀ line, s.pc conn ≠ .reading line) :
    Lets s conn (threadStep s conn answer).1 := by
  have still : Lets s conn s := lets_same s s conn rfl rfl
  unfold threadStep
  split
  · rename_i line pc
    exact absurd pc (past line)
  · rename_i message pc
    exact lets_say s conn _ _ _ answer rfl (by rw [pc]; rfl)
  · rename_i id pc
    have rx : (clearDevice s id).1.rx = s.rx := by
      rw [clearDevice]
      split <;> rfl
    rw [registerStep]
    dsimp only
    split
    · exact lets_goto s _ conn _ rx rfl (by rw [pc]; rfl)
    · exact lets_goto s _ conn _ rx rfl (by rw [pc]; rfl)
  · rename_i slot pc
    exact lets_say s conn _ _ _ answer rfl (by rw [pc]; rfl)
  · rename_i slot pc
    rw [watchStep]
    split
    · exact still
    · exact lets_goto s s conn _ rfl rfl (by rw [pc]; rfl)
    · exact still
  · rename_i slot pc
    rw [releasingStep]
    split
    · exact lets_goto s _ conn _ rfl rfl (by rw [pc]; rfl)
    · exact lets_goto s _ conn _ rfl rfl (by rw [pc]; rfl)
  · rename_i id pc
    cases found : findDevice s.slots id with
    | none =>
        simp only [connectStep, found]
        exact lets_goto s s conn _ rfl rfl (by rw [pc]; rfl)
    | some slot =>
        have accepted := (connect_events s conn id slot found).2
        constructor
        · simp only [connectStep, found]
          rfl
        · intro opened
          rw [accepted] at opened
          cases opened
        · exact .inr ⟨id, slot, pc, found, accepted⟩
  · rename_i slot dev pc
    exact lets_say s conn _ _ _ answer rfl (by rw [pc]; rfl)
  · rename_i slot dev pc
    exact lets_say s conn _ _ _ answer rfl (by rw [pc]; rfl)
  · rename_i slot dev pc
    exact lets_goto s s conn _ rfl rfl (by rw [pc]; rfl)
  · exact still
  · rename_i slot dev pc
    exact lets_goto s _ conn _ rfl rfl (by rw [pc]; rfl)
  · rename_i dev pc
    exact lets_goto s _ conn _ rfl rfl (by rw [pc]; rfl)
  · rename_i dev pc
    exact lets_goto s _ conn _ rfl rfl (by rw [pc]; rfl)
  · rename_i pc
    exact lets_goto s _ conn _ rfl rfl (by rw [pc]; rfl)
  · exact still

theorem opening_same (t after : Traced) (conn : ConnId) (command : Pc) (rest : Bytes) (arrived : after.arrived conn = t.arrived conn)
    (opening : Opening t conn command rest) : Opening after conn command rest := by
  obtain ⟨head, whole, opened⟩ := opening
  exact ⟨head, arrived.trans whole, opened⟩

theorem flow_same (t after : Traced) (source target : ConnId) (command : Pc) (pump : Pump) (flow : Flow t source target command pump)
    (arrived : after.arrived source = t.arrived source) (rx : after.server.rx source = t.server.rx source)
    (log : forwarded (after.log target) = forwarded (t.log target)) : Flow after source target command pump :=
  flow_kept t after source target command pump [] flow (by rw [arrived, List.append_nil]) (by rw [rx, List.append_nil]) log

theorem client_unopened (t : Traced) (roles : Roles (t.server, t.history)) (client : ConnId) (slot : Fin maxDevices) (device : ConnId)
    (took : .took client slot device ∈ t.history) : (t.server.pc client).opens = false := by
  cases (roles.clients client slot device took).2 with
  | inl has => cases pc : t.server.pc client <;> simp_all [Pc.opens, Pc.device]
  | inr finished =>
      dsimp only at finished
      rw [finished]
      rfl

theorem device_unopened (t : Traced) (roles : Roles (t.server, t.history)) (device : ConnId)
    (enrolled : Enrolled t.history device) : (t.server.pc device).opens = false := by
  obtain ⟨taken, id, member⟩ := enrolled
  have settled := (roles.enrolled device taken id member).1
  cases pc : t.server.pc device <;> simp_all [Pc.opens, Pc.settled]

theorem taken_enrolled (t : Traced) (roles : Roles (t.server, t.history)) (device : ConnId) (taken : Taken t.history device) :
    Enrolled t.history device := by
  obtain ⟨client, slot, member⟩ := taken
  exact roles.known client slot device member

-- A thread that reads nothing.
-- A client that has its device goes on pumping as it did.
theorem pumps_let (t : Traced) (conn : ConnId) (answer : Answer) (roles : Roles (t.server, t.history))
    (lets : Lets t.server conn (threadStep t.server conn answer).1)
    (others : ∀ other, other ≠ conn → (trace t (.thread conn answer)).server.pc other = t.server.pc other)
    (client : ConnId) (slot : Fin maxDevices) (device : ConnId) (took : .took client slot device ∈ t.history) :
    ((trace t (.thread conn answer)).server.pc client).pumps = (t.server.pc client).pumps := by
  by_cases same : client = conn
  · rw [same]
    cases lets.pumps with
    | inl kept => exact kept
    | inr found =>
        obtain ⟨other, _, pc, _⟩ := found
        have unopened := client_unopened t roles client slot device took
        rw [same, pc] at unopened
        cases unopened
  · rw [others client same]

-- A client that gets its device: nothing has been forwarded to either of them.
theorem flows_begin (t : Traced) (client : ConnId) (answer : Answer) (streams : Streams t)
    (rx : (trace t (.thread client answer)).server.rx = t.server.rx) (id : Bytes) (slot : Fin maxDevices)
    (pc : t.server.pc client = .connect id) (found : findDevice t.server.slots id = some slot)
    (same : threadStep t.server client answer = connectStep t.server client id) :
    (∃ id, Flow (trace t (.thread client answer)) client (t.server.slots slot).sock.conn (.connect id)
        ((trace t (.thread client answer)).server.pc client).pumps.1) ∧
      ∃ name, Flow (trace t (.thread client answer)) (t.server.slots slot).sock.conn client (.register name)
        ((trace t (.thread client answer)).server.pc client).pumps.2 := by
  have roles := streams.speech.roles
  have forward := thread_forwarded t client answer
  obtain ⟨used, free, _⟩ := find_device_found t.server.slots id slot found
  have unknown := free_untaken (t.server, t.history) roles.exclusive slot used free
  have enrolled : Enrolled t.history (t.server.slots slot).sock.conn := roles.stored slot used
  have stranger := unsettled_unenrolled t roles client (by rw [pc]; rfl)
  have opening := streams.opens client (by rw [pc]; rfl)
  rw [pc] at opening
  obtain ⟨name, waiting⟩ := streams.idle _ enrolled unknown
  have silentDevice : forwarded (t.log (t.server.slots slot).sock.conn) = [] := by
    apply streams.plain _ unknown
    intro place device member
    obtain ⟨taken, other, registered⟩ := enrolled
    exact roles.apart _ taken other place device registered member
  have silentClient : forwarded (t.log client) = [] := by
    apply streams.plain client fun taken => stranger (taken_enrolled t roles client taken)
    intro place device member
    have unopened := client_unopened t roles client place device member
    rw [pc] at unopened
    cases unopened
  have accepted : ((trace t (.thread client answer)).server.pc client).pumps = (.receiving, .receiving) := by
    have there : (threadStep t.server client answer).1.pc client = _ :=
      (congrArg (fun result => result.1.pc client) same).trans (connect_events t.server client id slot found).2
    exact (congrArg Pc.pumps there).trans rfl
  rw [accepted]
  constructor
  · refine ⟨id, _, opening_same t _ client _ _ rfl opening, ?_⟩
    dsimp only
    rw [forward, silentDevice, rx, List.nil_append]
  · refine ⟨name, _, opening_same t _ _ _ _ rfl waiting, ?_⟩
    dsimp only
    rw [forward, silentClient, rx, List.nil_append]

theorem streams_lets (t : Traced) (conn : ConnId) (answer : Answer) (streams : Streams t) (born : conn < t.server.nextConn)
    (speech : Speech (trace t (.thread conn answer))) (lets : Lets t.server conn (threadStep t.server conn answer).1) :
    Streams (trace t (.thread conn answer)) := by
  have roles := streams.speech.roles
  have moved := thread_moves t.server conn answer
  have beside := move_beside t.server conn _ roles.exclusive.base moved
  have forward := thread_forwarded t conn answer
  have history : (trace t (.thread conn answer)).history = t.history ++ (threadStep t.server conn answer).2 := rfl
  have rx : (trace t (.thread conn answer)).server.rx = t.server.rx := lets.rx
  have others : ∀ other, other ≠ conn → (trace t (.thread conn answer)).server.pc other = t.server.pc other := beside.others
  have untaken : ∀ device, ¬ Taken (trace t (.thread conn answer)).history device → ¬ Taken t.history device :=
    fun device free ⟨client, slot, member⟩ => free ⟨client, slot, history ▸ List.mem_append_left _ member⟩
  constructor
  · exact speech
  · intro other unborn
    have next : (trace t (.thread conn answer)).server.nextConn = t.server.nextConn := beside.nextConn
    rw [next] at unborn
    rw [rx]
    exact streams.unborn other unborn
  · intro other opens
    rw [rx]
    apply opening_same t _ other _ _ rfl
    by_cases same : other = conn
    · rw [same] at opens ⊢
      have kept : (trace t (.thread conn answer)).server.pc conn = t.server.pc conn := lets.opens opens
      rw [kept] at opens ⊢
      exact streams.opens conn opens
    · rw [others other same] at opens ⊢
      exact streams.opens other opens
  · intro device enrolled free
    rw [rx]
    obtain ⟨taken, id, member⟩ := enrolled
    rw [history] at member
    cases List.mem_append.mp member with
    | inl before =>
        obtain ⟨name, opening⟩ := streams.idle device ⟨taken, id, before⟩ (untaken device free)
        exact ⟨name, opening_same t _ device _ _ rfl opening⟩
    | inr now =>
        obtain ⟨rfl, pc, _⟩ := move_registers t.server conn _ moved device taken id now
        have opening := streams.opens device (by rw [pc]; rfl)
        rw [pc] at opening
        exact ⟨id, opening_same t _ device _ _ rfl opening⟩
  · intro other free idle
    rw [forward]
    exact streams.plain other (untaken other free) fun slot device member =>
      idle slot device (history ▸ List.mem_append_left _ member)
  · intro client slot device took
    rw [history] at took
    cases List.mem_append.mp took with
    | inl before =>
        obtain ⟨⟨id, up⟩, name, down⟩ := streams.flows client slot device before
        rw [pumps_let t conn answer roles lets others client slot device before]
        exact ⟨⟨id, flow_same t _ client device _ _ up rfl (congrFun rx client) (forward device)⟩,
          name, flow_same t _ device client _ _ down rfl (congrFun rx device) (forward client)⟩
    | inr now =>
        obtain ⟨id, pc, found, rfl, rfl, same⟩ := move_takes t.server conn _ moved client slot device now
        exact flows_begin t client answer streams rx id slot pc found same

-- A thread that is not in front of one of the two locked sections gives nobody a role.
theorem move_same_roles (t : Traced) (label : Label) (conn : ConnId) (moved : Move t.server conn (step t.server label))
    (registers : ∀ id, t.server.pc conn ≠ .register id) (connects : ∀ id, t.server.pc conn ≠ .connect id) :
    SameRoles t (trace t label) := by
  have idle : ∀ event ∈ (step t.server label).2, event.idle = true := by
    intro event member
    cases event with
    | registered owner slot id =>
        exact absurd (move_registers t.server conn _ moved owner slot id member).2.1 (registers id)
    | took client slot device =>
        obtain ⟨id, pc, _⟩ := move_takes t.server conn _ moved client slot device member
        exact absurd pc (connects id)
    | accepted other => rfl
    | hungUp other => rfl
    | call handle call => rfl
  exact same_roles_idle t _ _ rfl idle

-- Only the two connections of one bridge see anything.
-- The device a running bridge was given is the one it speaks to.
theorem bridge_took (t : Traced) (roles : Roles (t.server, t.history)) (conn : ConnId) (slot place : Fin maxDevices) (dev : Handle)
    (up down : Pump) (device : ConnId) (pc : t.server.pc conn = .bridge slot dev up down)
    (took : .took conn place device ∈ t.history) : device = dev.conn := by
  have has : (t.server.pc conn).device = some dev := by rw [pc]; rfl
  cases (roles.clients conn place device took).2 with
  | inl mine =>
      dsimp only at mine
      rw [has] at mine
      exact (Option.some.inj mine).symm
  | inr finished =>
      dsimp only at finished
      rw [pc] at finished
      cases finished

theorem pairs_apart (t : Traced) (roles : Roles (t.server, t.history)) (conn client device other : ConnId) (place where_ : Fin maxDevices)
    (ours : .took conn place other ∈ t.history) (took : .took client where_ device ∈ t.history) (different : client ≠ conn) :
    device ≠ other ∧ device ≠ conn ∧ client ≠ other := by
  obtain ⟨ourPlace, ourName, ourDevice⟩ := roles.known conn place other ours
  obtain ⟨theirPlace, theirName, theirDevice⟩ := roles.known client where_ device took
  refine ⟨?_, ?_, ?_⟩
  · intro same
    rw [same] at took
    exact different (roles_sole (t.server, t.history) roles client conn where_ place other took ours)
  · intro same
    rw [same] at theirDevice
    exact roles.apart conn theirPlace theirName place other theirDevice ours
  · intro same
    rw [same] at took
    exact roles.apart other ourPlace ourName where_ device ourDevice took

theorem streams_pair (t after : Traced) (conn : ConnId) (slot : Fin maxDevices) (dev : Handle) (up down upNow downNow : Pump)
    (streams : Streams t) (speech : Speech after) (same : SameRoles t after)
    (next : after.server.nextConn = t.server.nextConn) (pc : t.server.pc conn = .bridge slot dev up down)
    (pcHere : after.server.pc conn = .bridge slot dev upNow downNow)
    (pcElse : ∀ other, other ≠ conn → after.server.pc other = t.server.pc other) (arrived : after.arrived = t.arrived)
    (rx : ∀ other, other ≠ conn → other ≠ dev.conn → after.server.rx other = t.server.rx other)
    (log : ∀ other, other ≠ conn → other ≠ dev.conn → after.log other = t.log other)
    (flowUp : ∀ id, Flow t conn dev.conn (.connect id) up → Flow after conn dev.conn (.connect id) upNow)
    (flowDown : ∀ name, Flow t dev.conn conn (.register name) down → Flow after dev.conn conn (.register name) downNow) :
    Streams after := by
  have roles := streams.speech.roles
  have has : (t.server.pc conn).device = some dev := by rw [pc]; rfl
  obtain ⟨enrolled, taken, _, _, settled, deviceBorn, sole⟩ := device_facts t roles conn dev has
  have stranger := unsettled_unenrolled t roles conn (by rw [pc]; rfl)
  have born : conn < t.server.nextConn := base_born t.server roles.exclusive.base conn (by simp [pc])
  obtain ⟨place, ours⟩ := roles.takers conn dev has
  constructor
  · exact speech
  · intro other unborn
    rw [next] at unborn
    rw [arrived, rx other (fun here => absurd born (Nat.not_lt.mpr (here ▸ unborn)))
      (fun here => absurd deviceBorn (Nat.not_lt.mpr (here ▸ unborn)))]
    exact streams.unborn other unborn
  · intro other opens
    have elsewhere : other ≠ conn := by
      intro here
      rw [here, pcHere] at opens
      cases opens
    rw [pcElse other elsewhere] at opens ⊢
    have apart : other ≠ dev.conn := by
      intro here
      rw [here, device_unopened t roles dev.conn enrolled] at opens
      cases opens
    rw [rx other elsewhere apart]
    exact opening_same t after other _ _ (congrFun arrived other) (streams.opens other opens)
  · intro device known free
    rw [same.enrolled] at known
    rw [same.taken] at free
    obtain ⟨name, opening⟩ := streams.idle device known free
    rw [rx device (fun here => stranger (here ▸ known)) (fun here => free (here ▸ taken))]
    exact ⟨name, opening_same t after device _ _ (congrFun arrived device) opening⟩
  · intro other free idle
    rw [same.taken] at free
    have apart : other ≠ dev.conn := fun here => free (here ▸ taken)
    have elsewhere : other ≠ conn := fun here => idle place dev.conn ((same.took _ _ _).mpr (here ▸ ours))
    rw [log other elsewhere apart]
    exact streams.plain other free fun where_ device member => idle where_ device ((same.took _ _ _).mpr member)
  · intro client where_ device took
    rw [same.took] at took
    by_cases here : client = conn
    · rw [here] at took ⊢
      have target := bridge_took t roles conn slot where_ dev up down device pc took
      obtain ⟨⟨id, flow⟩, name, back⟩ := streams.flows conn where_ device took
      rw [pc, target] at flow back
      rw [pcHere, target]
      exact ⟨⟨id, flowUp id flow⟩, name, flowDown name back⟩
    · obtain ⟨otherDevice, notClient, notDevice⟩ := pairs_apart t roles conn client device dev.conn place where_ ours took here
      obtain ⟨⟨id, flow⟩, name, back⟩ := streams.flows client where_ device took
      rw [pcElse client here]
      exact ⟨⟨id, flow_same t after client device _ _ flow (congrFun arrived client) (rx client here notDevice)
          (by rw [log device notClient otherDevice])⟩,
        name, flow_same t after device client _ _ back (congrFun arrived device) (rx device notClient otherDevice)
          (by rw [log client here notDevice])⟩

theorem recv_data (s : Server) (fd size : Nat) (answer : Answer) (origin : ConnId) (bytes : Bytes)
    (received : recv s fd size answer = some (.data origin bytes)) :
    s.fds fd = some origin ∧ bytes ++ (s.rx origin).drop bytes.length = s.rx origin := by
  unfold recv at received
  split at received
  · cases received
  · rename_i target live
    split at received
    · split at received
      · cases received
      · cases received
    · split at received
      · split at received
        · cases received
        · cases received
      · rename_i count more
        cases received
        refine ⟨live, ?_⟩
        rw [List.length_take]
        by_cases short : count % min size (s.rx origin).length + 1 ≤ (s.rx origin).length
        · rw [Nat.min_eq_left short, List.take_append_drop]
        · have long : (s.rx origin).length ≤ count % min size (s.rx origin).length + 1 := by omega
          rw [Nat.min_eq_right long, List.take_of_length_le long, List.drop_length, List.append_nil]

-- One step of a pump that is not sending.
inductive Pumped (s : Server) (conn : ConnId) (source : Handle) (pump : Pump) (back : Pump → Pc) (after : Server) : Prop where
  | still (rx : after.rx = s.rx) (pc : after.pc conn = s.pc conn)
  | ends (last : Pump) (over_ : last = .stopping ∨ last = .done) (rx : after.rx = s.rx) (pc : after.pc conn = back last)
  | receives (origin : ConnId) (bytes : Bytes) (was : pump = .receiving) (live : s.fds source.fd = some origin)
      (split : bytes ++ (s.rx origin).drop bytes.length = s.rx origin)
      (rx : after.rx = Function.update s.rx origin ((s.rx origin).drop bytes.length)) (pc : after.pc conn = back (.sending bytes))

theorem pump_quiet (s : Server) (conn : ConnId) (source target : Handle) (pump : Pump) (back : Pump → Pc) (answer : Answer)
    (silent : ∀ left, pump ≠ .sending left) : Pumped s conn source pump back (pumpStep s conn source target pump back answer).1 := by
  cases pump with
  | receiving =>
      simp only [pumpStep]
      split
      · exact Pumped.still rfl rfl
      · exact Pumped.ends .stopping (.inl rfl) rfl (goto_conn _ _ _)
      · rename_i origin bytes received
        obtain ⟨live, split⟩ := recv_data s source.fd bridgeBufSize answer origin bytes received
        exact Pumped.receives origin bytes rfl live split rfl (goto_conn _ _ _)
  | sending left => exact absurd rfl (silent left)
  | stopping =>
      have rx : (shutdownFd s target.fd).rx = s.rx := by
        rw [shutdownFd]
        split <;> rfl
      exact Pumped.ends .done (.inr rfl) rx (goto_conn _ _ _)
  | done => exact Pumped.still rfl rfl

theorem flow_receives (t after : Traced) (source target : ConnId) (command : Pc) (bytes : Bytes)
    (flow : Flow t source target command .receiving) (arrived : after.arrived source = t.arrived source)
    (split : bytes ++ after.server.rx source = t.server.rx source) (log : after.log target = t.log target) :
    Flow after source target command (.sending bytes) := by
  obtain ⟨rest, opening, holds⟩ := flow
  refine ⟨rest, opening_same t after source command rest arrived opening, ?_⟩
  dsimp only at holds ⊢
  rw [log, split, holds]

theorem flow_sends (t after : Traced) (source target : ConnId) (command : Pc) (left : Bytes) (count : Nat) (positive : 0 < count)
    (flow : Flow t source target command (.sending left)) (arrived : after.arrived source = t.arrived source)
    (rx : after.server.rx source = t.server.rx source)
    (log : after.log target = t.log target ++ [.data (left.take count)]) :
    Flow after source target command (afterSend (.data left) count) := by
  obtain ⟨rest, opening, holds⟩ := flow
  refine ⟨rest, opening_same t after source command rest arrived opening, ?_⟩
  have grown : forwarded (after.log target) = forwarded (t.log target) ++ left.take count := by
    rw [log, forwarded_append]
    simp [forwarded]
  have whole : rest = forwarded (after.log target) ++ (left.drop count ++ after.server.rx source) := by
    rw [grown, rx, holds, List.append_assoc, ← List.append_assoc (left.take count), List.take_append_drop]
  simp only [afterSend, Nat.ne_of_gt positive, if_false, Write.bytes]
  by_cases over_ : left.drop count = []
  · rw [over_, List.nil_append] at whole
    simp only [over_, if_true]
    exact whole
  · simp only [over_, if_false]
    exact whole

theorem speaks_rx (s : Server) (label : Label) (handle : Handle) (write : Write) (speaks : Speaks s label handle write) :
    (step s label).1.rx = s.rx := by
  rw [speaks_step s label handle write speaks]
  cases result : send s handle.fd write.bytes (write.answer label.answer) with
  | none => rfl
  | some sent =>
      obtain ⟨tx, same⟩ := send_writes s sent.1 handle.fd sent.2 write.bytes _ result
      simp only [same]
      rfl

theorem steady_listens (t : Traced) (label : Label) (meets : steady t label = true) (handle : Handle)
    (listening : listens t.server label = some handle) (target : ConnId) (live : t.server.fds handle.fd = some target) :
    target = handle.conn := by
  simp only [steady, Bool.and_eq_true, List.all_eq_true, touches] at meets
  have member : handle ∈ cuts t.server label ++ ((sends t.server label).map Prod.fst).toList ++
      (listens t.server label).toList := by simp [listening]
  have ours : reissued t.server handle = false := by simpa using meets.1.1 handle member
  exact (reissued_never t.server handle).mp ours target live

theorem pumped_flows (t after : Traced) (conn : ConnId) (source : Handle) (target : ConnId) (pump : Pump) (back : Pump → Pc)
    (pumped : Pumped t.server conn source pump back after.server) (pc : t.server.pc conn = back pump) (apart : target ≠ source.conn)
    (logs : after.log = t.log) (arrived : after.arrived = t.arrived)
    (own : ∀ origin, pump = .receiving → t.server.fds source.fd = some origin → origin = source.conn) :
    ∃ last, after.server.pc conn = back last ∧
      (∀ other, other ≠ source.conn → after.server.rx other = t.server.rx other) ∧
      (∀ command, Flow t source.conn target command pump → Flow after source.conn target command last) ∧
      ∀ command other, Flow t target source.conn command other → Flow after target source.conn command other := by
  have forward : ∀ other, forwarded (after.log other) = forwarded (t.log other) := fun _ => by rw [logs]
  have there : ∀ command other, after.server.rx target = t.server.rx target → Flow t target source.conn command other →
      Flow after target source.conn command other :=
    fun command other rx flow => flow_same t after target source.conn command other flow (congrFun arrived _) rx (forward _)
  cases pumped with
  | still rx here =>
      refine ⟨pump, here.trans pc, fun other _ => congrFun rx other, ?_, fun command other => there command other (congrFun rx _)⟩
      exact fun command flow => flow_same t after _ target command pump flow (congrFun arrived _) (congrFun rx _) (forward _)
  | ends last over_ rx here =>
      refine ⟨last, here, fun other _ => congrFun rx other, ?_, fun command other => there command other (congrFun rx _)⟩
      exact fun command flow => flow_stops t after _ target command pump flow (congrFun arrived _) (forward _) last over_
  | receives origin bytes was live split rx here =>
      rw [own origin was live] at rx split
      have elsewhere : ∀ other, other ≠ source.conn → after.server.rx other = t.server.rx other :=
        fun other different => by rw [rx, Function.update_of_ne different]
      refine ⟨.sending bytes, here, elsewhere, ?_, fun command other => there command other (elsewhere _ apart)⟩
      intro command flow
      apply flow_receives t after _ target command bytes (was ▸ flow) (congrFun arrived _)
      · rw [rx, Function.update_self, split]
      · rw [logs]

theorem streams_pump_silent (t : Traced) (conn : ConnId) (side : Side) (answer : Answer) (streams : Streams t)
    (meets : steady t (.pump conn side answer) = true) (speech : Speech (trace t (.pump conn side answer)))
    (silent : sends t.server (.pump conn side answer) = none) (slot : Fin maxDevices) (dev : Handle) (up down : Pump)
    (pc : t.server.pc conn = .bridge slot dev up down) : Streams (trace t (.pump conn side answer)) := by
  have roles := streams.speech.roles
  have moved : Move t.server conn (step t.server (.pump conn side answer)) := bridge_moves t.server conn side answer
  have beside := move_beside t.server conn _ roles.exclusive.base moved
  have same := move_same_roles t _ conn moved (by simp [pc]) (by simp [pc])
  have logs := (silent_log t _ silent).1
  have different := (device_facts t roles conn dev (by rw [pc]; rfl)).2.2.1
  cases side with
  | up =>
      have stepped : (trace t (.pump conn .up answer)).server =
          (pumpStep t.server conn (t.server.own conn) dev up (fun next => .bridge slot dev next down) answer).1 := by
        simp only [trace, next, Runs.record, step, bridgeStep, pc]
      have quiet : ∀ left, up ≠ .sending left := by
        intro left sending
        simp [sends, pc, sending] at silent
      have pumped := pump_quiet t.server conn (t.server.own conn) dev up (fun next => .bridge slot dev next down) answer quiet
      rw [← stepped] at pumped
      have own : ∀ origin, up = .receiving → t.server.fds (t.server.own conn).fd = some origin → origin = conn := by
        intro origin was live
        exact steady_listens t _ meets (t.server.own conn) (by simp [listens, pc, was]) origin live
      obtain ⟨last, here, rx, forth, back⟩ := pumped_flows t _ conn (t.server.own conn) dev.conn up _ pumped pc different logs rfl own
      exact streams_pair t _ conn slot dev up down last down streams speech same beside.nextConn pc here beside.others rfl
        (fun other elsewhere _ => rx other elsewhere) (fun other _ _ => congrFun logs other) (fun _ => forth _) (fun _ => back _ _)
  | down =>
      have stepped : (trace t (.pump conn .down answer)).server =
          (pumpStep t.server conn dev (t.server.own conn) down (fun next => .bridge slot dev up next) answer).1 := by
        simp only [trace, next, Runs.record, step, bridgeStep, pc]
      have quiet : ∀ left, down ≠ .sending left := by
        intro left sending
        cases up <;> simp [sends, pc, sending] at silent
      have pumped := pump_quiet t.server conn dev (t.server.own conn) down (fun next => .bridge slot dev up next) answer quiet
      rw [← stepped] at pumped
      have own : ∀ origin, down = .receiving → t.server.fds dev.fd = some origin → origin = dev.conn := by
        intro origin was live
        exact steady_listens t _ meets dev (by cases up <;> simp [listens, pc, was]) origin live
      obtain ⟨last, here, rx, forth, back⟩ := pumped_flows t _ conn dev conn down _ pumped pc different.symm logs rfl own
      exact streams_pair t _ conn slot dev up down up last streams speech same beside.nextConn pc here beside.others rfl
        (fun other _ elsewhere => rx other elsewhere) (fun other _ _ => congrFun logs other) (fun _ => back _ _) (fun _ => forth _)

theorem streams_pump_sends (t : Traced) (conn : ConnId) (side : Side) (answer : Answer) (streams : Streams t)
    (meets : steady t (.pump conn side answer) = true) (handle : Handle) (write : Write)
    (sending : sends t.server (.pump conn side answer) = some (handle, write)) : Streams (trace t (.pump conn side answer)) := by
  have roles := streams.speech.roles
  have speaks := sends_speaks t.server _ handle write sending
  have speech := speech_trace t _ streams.speech meets
  have rx : (trace t (.pump conn side answer)).server.rx = t.server.rx := speaks_rx t.server _ handle write speaks
  have moved : Move t.server conn (step t.server (.pump conn side answer)) := bridge_moves t.server conn side answer
  have beside := move_beside t.server conn _ roles.exclusive.base moved
  cases speaks_spoken t _ handle write streams.speech meets sending with
  | inl same =>
      rw [same]
      exact streams
  | inr spoke =>
      obtain ⟨count, log, heard, spoken⟩ := spoke
      have forth : ∀ source command left, write = .data left → Flow t source handle.conn command (.sending left) →
          Flow (trace t (.pump conn side answer)) source handle.conn command (afterSend write count) := by
        intro source command left data flow
        have here : (trace t (.pump conn side answer)).log handle.conn = log := by rw [spoken.logs, Function.update_self]
        cases heard with
        | nothing mute =>
            exact flow_stops t (trace t _) source handle.conn command _ flow rfl (congrArg forwarded here) _ (.inl rfl)
        | more count positive able whole =>
            rw [data] at here ⊢
            exact flow_sends t _ source handle.conn command left count positive flow rfl (congrFun rx source) here
      have elsewhere : ∀ other, other ≠ handle.conn → (trace t (.pump conn side answer)).log other = t.log other :=
        fun other different => by rw [spoken.logs, Function.update_of_ne different]
      have pcs : (trace t (.pump conn side answer)).server.pc conn = (t.server.pc conn).onward side (afterSend write count) := by
        rw [spoken.pcs]
        exact Function.update_self _ _ _
      cases speaks with
      | up conn answer slot dev left down pc =>
          have same := move_same_roles t _ conn moved (by simp [pc]) (by simp [pc])
          have different := (device_facts t roles conn handle (by rw [pc]; rfl)).2.2.1
          simp only [pc, Pc.onward] at pcs
          apply streams_pair t _ conn slot handle _ down _ down streams speech same beside.nextConn pc pcs beside.others rfl
            (fun other _ _ => congrFun rx other) (fun other _ apart => elsewhere other apart)
          · exact fun id flow => forth conn (.connect id) left rfl flow
          · intro name flow
            exact flow_same t _ handle.conn conn _ _ flow rfl (congrFun rx _) (by rw [elsewhere conn different.symm])
      | down conn answer slot dev up left pc =>
          have same := move_same_roles t _ conn moved (by simp [pc]) (by simp [pc])
          have different := (device_facts t roles conn dev (by rw [pc]; rfl)).2.2.1
          simp only [pc, Pc.onward] at pcs
          apply streams_pair t _ conn slot dev up _ up _ streams speech same beside.nextConn pc pcs beside.others rfl
            (fun other _ _ => congrFun rx other) (fun other apart _ => elsewhere other apart)
          · intro id flow
            exact flow_same t _ conn dev.conn _ _ flow rfl (congrFun rx _) (by rw [elsewhere dev.conn different])
          · exact fun name flow => forth dev.conn (.register name) left rfl flow

theorem read_on_byte (head line : Bytes) (byte : UInt8) (reading : readOn [] head = (.reading line, [])) :
    readOn [] (head ++ [byte]) = (readByte line byte, []) := by
  rw [read_on_append head [byte] [] line reading, readOn]
  split
  · rename_i longer same
    rw [same]
    rfl
  · rfl

theorem streams_read (t : Traced) (conn : ConnId) (answer : Answer) (streams : Streams t) (line : Bytes) (byte : UInt8) (rest : Bytes)
    (pc : t.server.pc conn = .reading line) (speech : Speech (trace t (.thread conn answer)))
    (waiting : t.server.rx conn = byte :: rest) (pcHere : (trace t (.thread conn answer)).server.pc conn = readByte line byte)
    (rx : (trace t (.thread conn answer)).server.rx = Function.update t.server.rx conn rest) :
    Streams (trace t (.thread conn answer)) := by
  have roles := streams.speech.roles
  have moved : Move t.server conn (step t.server (.thread conn answer)) := thread_moves t.server conn answer
  have beside := move_beside t.server conn _ roles.exclusive.base moved
  have same := move_same_roles t _ conn moved (by simp [pc]) (by simp [pc])
  have forward := thread_forwarded t conn answer
  have born : conn < t.server.nextConn := base_born t.server roles.exclusive.base conn (by simp [pc])
  have others : ∀ other, other ≠ conn → (trace t (.thread conn answer)).server.pc other = t.server.pc other := beside.others
  have rxElse : ∀ other, other ≠ conn → (trace t (.thread conn answer)).server.rx other = t.server.rx other :=
    fun other different => by rw [rx, Function.update_of_ne different]
  have stranger : ∀ device, Enrolled t.history device → device ≠ conn := by
    intro device enrolled here
    have unopened := device_unopened t roles device enrolled
    rw [here, pc] at unopened
    cases unopened
  constructor
  · exact speech
  · intro other unborn
    have next : (trace t (.thread conn answer)).server.nextConn = t.server.nextConn := beside.nextConn
    rw [next] at unborn
    rw [rxElse other fun here => absurd born (Nat.not_lt.mpr (here ▸ unborn))]
    exact streams.unborn other unborn
  · intro other opens
    by_cases here : other = conn
    · obtain ⟨head, whole, opened⟩ := streams.opens conn (by rw [pc]; rfl)
      rw [pc] at opened
      rw [here, pcHere, rx, Function.update_self]
      refine ⟨head ++ [byte], ?_, read_on_byte head line byte opened⟩
      rw [List.append_assoc, List.singleton_append, ← waiting]
      exact whole
    · rw [others other here] at opens ⊢
      rw [rxElse other here]
      exact opening_same t _ other _ _ rfl (streams.opens other opens)
  · intro device enrolled free
    rw [same.enrolled] at enrolled
    rw [same.taken] at free
    obtain ⟨name, opening⟩ := streams.idle device enrolled free
    rw [rxElse device (stranger device enrolled)]
    exact ⟨name, opening_same t _ device _ _ rfl opening⟩
  · intro other free idle
    rw [forward]
    rw [same.taken] at free
    exact streams.plain other free fun slot device member => idle slot device ((same.took _ _ _).mpr member)
  · intro client slot device took
    rw [same.took] at took
    have notClient : client ≠ conn := by
      intro here
      have unopened := client_unopened t roles client slot device took
      rw [here, pc] at unopened
      cases unopened
    have notDevice := stranger device (taken_enrolled t roles device ⟨client, slot, took⟩)
    obtain ⟨⟨id, up⟩, name, down⟩ := streams.flows client slot device took
    rw [others client notClient]
    exact ⟨⟨id, flow_same t _ client device _ _ up rfl (rxElse client notClient) (forward device)⟩,
      name, flow_same t _ device client _ _ down rfl (rxElse device notDevice) (forward client)⟩

inductive Reads (t : Traced) (conn : ConnId) (answer : Answer) (line : Bytes) : Prop where
  | blocked (server : (trace t (.thread conn answer)).server = t.server)
  | over_ (failed : recv t.server (t.server.fd conn) 1 answer = some .failed)
      (server : (trace t (.thread conn answer)).server = t.server.goto conn .closing)
  | takes (byte : UInt8) (rest : Bytes) (waiting : t.server.rx conn = byte :: rest)
      (server : (trace t (.thread conn answer)).server = (t.server.consume conn [byte]).goto conn (readByte line byte))

theorem recv_one (s : Server) (fd : Nat) (answer : Answer) (origin : ConnId) (bytes : Bytes)
    (received : recv s fd 1 answer = some (.data origin bytes)) : bytes.length = 1 := by
  unfold recv at received
  split at received
  · cases received
  · split at received
    · split at received <;> cases received
    · split at received
      · split at received <;> cases received
      · rename_i count more
        cases received
        have some_ : 0 < (s.rx origin).length := List.length_pos_iff.mpr more
        rw [List.length_take, Nat.min_eq_left (by omega : 1 ≤ (s.rx origin).length), Nat.mod_one]
        omega

theorem steady_reads (t : Traced) (conn : ConnId) (answer : Answer) (line : Bytes) (meets : steady t (.thread conn answer) = true)
    (pc : t.server.pc conn = .reading line) : Reads t conn answer line := by
  have server : (trace t (.thread conn answer)).server = (readStep t.server conn line answer).1 := by
    simp only [trace, next, Runs.record, step, threadStep, pc]
  cases received : recv t.server (t.server.fd conn) 1 answer with
  | none =>
      apply Reads.blocked
      rw [server, readStep, received]
  | some result =>
      cases result with
      | failed =>
          apply Reads.over_ received
          rw [server, readStep, received]
      | data origin bytes =>
          obtain ⟨live, split⟩ := recv_data t.server _ _ _ origin bytes received
          have own : origin = conn := steady_listens t _ meets (t.server.own conn) (by simp [listens, pc]) origin live
          obtain ⟨byte, rfl⟩ := List.length_eq_one_iff.mp (recv_one t.server _ answer origin bytes received)
          rw [own] at split received
          apply Reads.takes byte _ split.symm
          rw [server, readStep, received]
          rfl

theorem streams_reading (t : Traced) (conn : ConnId) (answer : Answer) (streams : Streams t) (line : Bytes)
    (meets : steady t (.thread conn answer) = true) (pc : t.server.pc conn = .reading line) :
    Streams (trace t (.thread conn answer)) := by
  have speech := speech_trace t _ streams.speech meets
  have born := base_born t.server streams.speech.roles.exclusive.base conn (by simp [pc])
  have server : (trace t (.thread conn answer)).server = (threadStep t.server conn answer).1 := rfl
  cases steady_reads t conn answer line meets pc with
  | blocked still =>
      apply streams_lets t conn answer streams born speech
      rw [← server, still]
      exact lets_same t.server _ conn rfl rfl
  | over_ failed closes =>
      apply streams_lets t conn answer streams born speech
      rw [← server, closes]
      exact lets_goto t.server _ conn _ rfl rfl (by rw [pc]; rfl)
  | takes byte rest waiting after =>
      apply streams_read t conn answer streams line byte rest pc speech waiting
      · rw [after, goto_conn]
      · rw [after, Server.consume, waiting]
        rfl

theorem streams_outside (t : Traced) (label : Label) (streams : Streams t) (silent : sends t.server label = none)
    (outside : Outside t.server (step t.server label))
    (more : ∀ conn, ∃ bytes, (trace t label).arrived conn = t.arrived conn ++ bytes ∧
      (trace t label).server.rx conn = t.server.rx conn ++ bytes ∧ (t.server.nextConn ≤ conn → bytes = [])) :
    Streams (trace t label) := by
  have roles := streams.speech.roles
  have speech := speech_outside t label streams.speech silent outside
  have same := outside_same t label outside
  have logs := (silent_log t label silent).1
  have pcs := outside_pc t label outside
  have empty : ∀ conn, t.server.nextConn ≤ conn → (trace t label).arrived conn = [] ∧ (trace t label).server.rx conn = [] := by
    intro conn unborn
    obtain ⟨bytes, arrived, rx, nothing⟩ := more conn
    obtain ⟨before, waiting⟩ := streams.unborn conn unborn
    rw [arrived, rx, nothing unborn, before, waiting]
    exact ⟨rfl, rfl⟩
  have grown : ∀ conn command, Opening t conn command (t.server.rx conn) →
      Opening (trace t label) conn command ((trace t label).server.rx conn) := by
    intro conn command opening
    obtain ⟨bytes, arrived, rx, _⟩ := more conn
    rw [rx]
    exact opening_more t _ conn command _ bytes opening arrived
  have kept : ∀ source target command pump, Flow t source target command pump → Flow (trace t label) source target command pump := by
    intro source target command pump flow
    obtain ⟨bytes, arrived, rx, _⟩ := more source
    exact flow_kept t _ source target command pump bytes flow arrived rx (by rw [logs])
  constructor
  · exact speech
  · intro conn unborn
    exact empty conn (Nat.le_trans outside.more unborn)
  · intro conn opens
    by_cases born : conn < t.server.nextConn
    · rw [pcs conn born] at opens ⊢
      exact grown conn _ (streams.opens conn opens)
    · obtain ⟨arrived, rx⟩ := empty conn (Nat.le_of_not_lt born)
      have fresh : (trace t label).server.pc conn = .reading [] ∨ (trace t label).server.pc conn = .finished :=
        outside.fresh conn (Nat.le_of_not_lt born)
      cases fresh with
      | inl reading =>
          rw [reading, rx]
          exact ⟨[], arrived, rfl⟩
      | inr finished =>
          rw [finished] at opens
          cases opens
  · intro device enrolled free
    rw [same.enrolled] at enrolled
    rw [same.taken] at free
    obtain ⟨name, opening⟩ := streams.idle device enrolled free
    exact ⟨name, grown device _ opening⟩
  · intro conn free idle
    rw [same.taken] at free
    rw [logs]
    exact streams.plain conn free fun slot device member => idle slot device ((same.took _ _ _).mpr member)
  · intro client slot device took
    rw [same.took] at took
    obtain ⟨⟨id, up⟩, name, down⟩ := streams.flows client slot device took
    rw [pcs client (roles.clients client slot device took).1]
    exact ⟨⟨id, kept _ _ _ _ up⟩, name, kept _ _ _ _ down⟩

theorem nothing_more (t : Traced) (label : Label) (arrived : (trace t label).arrived = t.arrived)
    (rx : (trace t label).server.rx = t.server.rx) (conn : ConnId) :
    ∃ bytes, (trace t label).arrived conn = t.arrived conn ++ bytes ∧
      (trace t label).server.rx conn = t.server.rx conn ++ bytes ∧ (t.server.nextConn ≤ conn → bytes = []) :=
  ⟨[], by rw [arrived, List.append_nil], by rw [rx, List.append_nil], fun _ => rfl⟩

theorem deliver_more (t : Traced) (target : ConnId) (bytes : Bytes) (conn : ConnId) :
    ∃ more, (trace t (.deliver target bytes)).arrived conn = t.arrived conn ++ more ∧
      (trace t (.deliver target bytes)).server.rx conn = t.server.rx conn ++ more ∧ (t.server.nextConn ≤ conn → more = []) := by
  by_cases born : target < t.server.nextConn
  · by_cases here : conn = target
    · refine ⟨bytes, ?_, ?_, fun unborn => absurd born (Nat.not_lt.mpr (here ▸ unborn))⟩
      · simp only [trace, arrive, if_pos born, here, Function.update_self]
      · simp only [trace, next, Runs.record, step, if_pos born, here, Function.update_self]
    · refine ⟨[], ?_, ?_, fun _ => rfl⟩
      · simp only [trace, arrive, if_pos born, Function.update_of_ne here, List.append_nil]
      · simp only [trace, next, Runs.record, step, if_pos born, Function.update_of_ne here, List.append_nil]
  · apply nothing_more
    · simp only [trace, arrive, if_neg born]
    · simp only [trace, next, Runs.record, step, if_neg born]

theorem streams_trace (t : Traced) (label : Label) (streams : Streams t) (meets : steady t label = true) :
    Streams (trace t label) := by
  have base : Base t.server := streams.speech.roles.exclusive.base
  have speech := speech_trace t label streams.speech meets
  cases label with
  | accept fd =>
      apply streams_outside t _ streams rfl (outside_accept t.server base fd)
      apply nothing_more t _ rfl
      simp only [trace, next, Runs.record, step, acceptStep]
      split <;> rfl
  | deliver conn bytes => exact streams_outside t _ streams rfl (outside_deliver t.server base conn bytes) (deliver_more t conn bytes)
  | hangUp conn =>
      apply streams_outside t _ streams rfl (outside_hang_up t.server base conn)
      apply nothing_more t _ rfl
      simp only [trace, next, Runs.record, step]
      split <;> rfl
  | thread conn answer =>
      by_cases reading : ∃ line, t.server.pc conn = .reading line
      · obtain ⟨line, pc⟩ := reading
        exact streams_reading t conn answer streams line meets pc
      · have lets := thread_lets t.server conn answer fun line pc => reading ⟨line, pc⟩
        by_cases born : conn < t.server.nextConn
        · exact streams_lets t conn answer streams born speech lets
        · have idle := (base.unborn conn (Nat.le_of_not_lt born)).1
          exact streams_outside t _ streams (by simp only [sends, idle]) (outside_unborn t.server base conn born .up answer).1
            (nothing_more t _ rfl lets.rx)
  | pump conn side answer =>
      by_cases bridging : ∃ slot dev up down, t.server.pc conn = .bridge slot dev up down
      · obtain ⟨slot, dev, up, down, pc⟩ := bridging
        cases sending : sends t.server (.pump conn side answer) with
        | none => exact streams_pump_silent t conn side answer streams meets speech sending slot dev up down pc
        | some sent => exact streams_pump_sends t conn side answer streams meets sent.1 sent.2 sending
      · have elsewhere : ∀ slot dev up down, t.server.pc conn ≠ .bridge slot dev up down :=
          fun slot dev up down pc => bridging ⟨slot, dev, up, down, pc⟩
        have still : step t.server (.pump conn side answer) = (t.server, []) := by
          simp only [step, bridgeStep]
        have silent : sends t.server (.pump conn side answer) = none := by
          simp only [sends]
          split
          · rename_i slot dev left down pc
            exact absurd pc (elsewhere slot dev _ down)
          · rename_i slot dev up left pc
            exact absurd pc (elsewhere slot dev up _)
          · rfl
        apply streams_outside t _ streams silent (still ▸ outside_still t.server base)
        apply nothing_more t _ rfl
        simp only [trace, next, Runs.record, still]

theorem streams_initial : Streams {} := by
  have speech : Speech {} := by
    constructor
    · exact roles_initial
    · exact fun _ _ => rfl
    · exact fun _ _ => rfl
    · exact fun _ _ => trivial
    · exact fun _ ⟨_, _, member⟩ => absurd member List.not_mem_nil
    · exact fun _ _ stage => absurd stage (by simp [Pc.stage])
    · exact fun _ _ stage => absurd stage (by simp [Pc.stage])
    · exact fun _ ⟨_, _, member⟩ => absurd member List.not_mem_nil
    · exact fun _ _ => .inl rfl
    · exact fun _ _ _ member => absurd member List.not_mem_nil
  constructor
  · exact speech
  · exact fun _ _ => ⟨rfl, rfl⟩
  · exact fun _ opens => absurd opens (by simp [Pc.opens])
  · exact fun _ ⟨_, _, member⟩ => absurd member List.not_mem_nil
  · exact fun _ _ _ => rfl
  · exact fun _ _ _ member => absurd member List.not_mem_nil

end Intercom.Relay
