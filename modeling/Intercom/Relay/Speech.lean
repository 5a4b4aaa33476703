import Intercom.Relay.Wires

set_option autoImplicit false

/- What the relay has said on each connection follows from where its threads stand, as long as every step is steady. -/
namespace Intercom.Relay

open ByteText

-- What a thread has said to its own peer so far.
inductive Stage where
  | early
  | answering
  | waiting (dev : Handle)
  | greeted (dev : Handle)
  | joined (dev : Handle)
  | quiet
deriving DecidableEq, Repr

def Pc.stage : Pc → Stage
  | .reading _ => .early
  | .refuse _ => .early
  | .register _ => .early
  | .connect _ => .early
  | .answer _ => .answering
  | .accepted _ dev => .waiting dev
  | .notify _ dev => .greeted dev
  | .bridge _ dev _ _ => .joined dev
  | _ => .quiet

def Greeted (log : List Write) : Prop := ∃ data, log = .line okLine :: data ∧ data.all Write.isData = true

def Tunnelled (log : List Write) : Prop :=
  ∃ data, log = .line okLine :: .line bridgeLine :: data ∧ data.all Write.isData = true

def DeviceTalk (log : List Write) : Prop := log = [] ∨ log = [.line okLine] ∨ Tunnelled log

def ClientTalk (log : List Write) : Prop := log = [] ∨ (∃ message, log = [.line message]) ∨ Greeted log

def OwnLog (log : List Write) : Stage → Prop
  | .early => log = []
  | .answering => log = []
  | .waiting _ => log = []
  | .greeted _ => log = [.line okLine]
  | .joined _ => Greeted log
  | .quiet => True

def Enrolled (history : List Event) (device : ConnId) : Prop := ∃ taken id, .registered device taken id ∈ history

def Taken (history : List Event) (device : ConnId) : Prop := ∃ client slot, .took client slot device ∈ history

structure Speech (t : Traced) : Prop where
  roles : Roles (t.server, t.history)
  unborn : ∀ conn, t.server.nextConn ≤ conn → t.log conn = []
  early : ∀ conn, (t.server.pc conn).stage = .early → t.log conn = []
  own : ∀ conn, ¬ Mute t conn → OwnLog (t.log conn) (t.server.pc conn).stage
  untaken : ∀ device, Enrolled t.history device → ¬ Taken t.history device → ¬ Mute t device →
    (t.server.pc device).stage ≠ .answering → t.log device = [.line okLine]
  promised : ∀ client dev, ((t.server.pc client).stage = .waiting dev ∨ (t.server.pc client).stage = .greeted dev) →
    ¬ Mute t dev.conn → (t.server.pc dev.conn).stage ≠ .answering → t.log dev.conn = [.line okLine]
  joined : ∀ client dev, (t.server.pc client).stage = .joined dev →
    (t.server.pc dev.conn).stage ≠ .answering ∧ (¬ Mute t dev.conn → Tunnelled (t.log dev.conn))
  devices : ∀ device, Enrolled t.history device → DeviceTalk (t.log device)
  clients : ∀ conn, ¬ Enrolled t.history conn → ClientTalk (t.log conn)
  partners : ∀ client slot device, .took client slot device ∈ t.history → t.log client = [] ∨ Greeted (t.log client)

theorem stage_device (pc : Pc) (dev : Handle)
    (stage : pc.stage = .waiting dev ∨ pc.stage = .greeted dev ∨ pc.stage = .joined dev) : pc.device = some dev := by
  cases pc <;> simp_all [Pc.stage, Pc.device]

theorem settled_stage (pc : Pc) (settled : pc.settled = true) : pc.stage = .answering ∨ pc.stage = .quiet := by
  cases pc <;> simp_all [Pc.settled, Pc.stage]

-- Where a step that sends nothing takes its thread.
inductive Passes (s : Server) (conn : ConnId) (after : Pc) : Prop where
  | stays (same : after.stage = (s.pc conn).stage)
  | rests (quiet : after.stage = .quiet) (before : (s.pc conn).stage = .early ∨ ∃ dev, (s.pc conn).stage = .joined dev)
  | registers (id : Bytes) (slot : Fin maxDevices) (pc : s.pc conn = .register id) (answers : after = .answer slot)
  | connects (id : Bytes) (slot : Fin maxDevices) (pc : s.pc conn = .connect id) (found : findDevice s.slots id = some slot)
      (accepts : after = .accepted slot (s.slots slot).sock)

theorem parse_line_early (text : Bytes) : (parseLine text).stage = .early := by
  rw [parseLine, parseRegister]
  repeat' split
  all_goals rfl

-- An empty line ends the conversation.
theorem read_byte_stage (line : Bytes) (byte : UInt8) : (readByte line byte).stage = .early ∨ readByte line byte = .closing := by
  rw [readByte]
  split
  · split
    · exact .inr rfl
    · exact .inl (parse_line_early _)
  · split
    · exact .inl rfl
    · exact .inl (parse_line_early _)

theorem thread_passes (s : Server) (conn : ConnId) (answer : Answer) (silent : sends s (.thread conn answer) = none) :
    Passes s conn ((threadStep s conn answer).1.pc conn) := by
  have still : Passes s conn (s.pc conn) := Passes.stays rfl
  simp only [sends] at silent
  unfold threadStep
  split <;> rename_i pc <;> simp only [pc] at silent <;> try cases silent
  · rename_i line
    rw [readStep]
    split
    · exact still
    · rw [goto_conn]
      exact Passes.rests rfl (.inl (by rw [pc]; rfl))
    · rw [goto_conn]
      cases read_byte_stage line _ with
      | inl early =>
          apply Passes.stays
          rw [early, pc]
          rfl
      | inr closing => exact Passes.rests (by rw [closing]; rfl) (.inl (by rw [pc]; rfl))
  · rename_i id
    cases free : allocDeviceSlot (clearDevice s id).1.slots with
    | none =>
        simp only [registerStep, free]
        rw [goto_conn]
        apply Passes.stays
        rw [pc]
        rfl
    | some slot => exact Passes.registers id slot pc (register_slots s conn id slot free).2.1
  · rw [watchStep]
    split
    · exact still
    · rw [goto_conn]
      apply Passes.stays
      rw [pc]
      rfl
    · exact still
  · rw [releasingStep]
    split <;> rw [goto_conn] <;> exact Passes.stays (by rw [pc]; rfl)
  · rename_i id
    cases found : findDevice s.slots id with
    | none =>
        simp only [connectStep, found]
        rw [goto_conn]
        apply Passes.stays
        rw [pc]
        rfl
    | some slot => exact Passes.connects id slot pc found (connect_events s conn id slot found).2
  · rw [goto_conn]
    exact Passes.rests rfl (.inr ⟨_, by rw [pc]; rfl⟩)
  · exact still
  · rw [releaseStep, goto_conn]
    exact Passes.stays (by rw [pc]; rfl)
  · rw [closeStep, goto_conn]
    exact Passes.stays (by rw [pc]; rfl)
  · rw [closeStep, goto_conn]
    exact Passes.stays (by rw [pc]; rfl)
  · rw [closeStep, goto_conn]
    exact Passes.stays (by rw [pc]; rfl)
  · exact still

theorem pump_stays (s : Server) (conn : ConnId) (source target : Handle) (pump : Pump) (back : Pump → Pc) (answer : Answer) :
    (pumpStep s conn source target pump back answer).1.pc conn = s.pc conn ∨
      ∃ after, (pumpStep s conn source target pump back answer).1.pc conn = back after := by
  cases pump with
  | receiving =>
      simp only [pumpStep]
      split
      · exact .inl rfl
      · exact .inr ⟨_, goto_conn _ _ _⟩
      · exact .inr ⟨_, goto_conn _ _ _⟩
  | sending left =>
      simp only [pumpStep]
      split
      · exact .inl rfl
      · split
        · exact .inr ⟨_, goto_conn _ _ _⟩
        · exact .inr ⟨_, goto_conn _ _ _⟩
  | stopping => exact .inr ⟨_, goto_conn _ _ _⟩
  | done => exact .inl rfl

theorem bridge_stage (s : Server) (conn : ConnId) (side : Side) (answer : Answer) :
    ((bridgeStep s conn side answer).1.pc conn).stage = (s.pc conn).stage := by
  unfold bridgeStep
  split
  · rename_i slot dev up down pc
    cases side with
    | up =>
        cases pump_stays s conn (s.own conn) dev up (fun next => .bridge slot dev next down) answer with
        | inl same => rw [same]
        | inr moved =>
            obtain ⟨after, moved⟩ := moved
            rw [moved, pc]
            rfl
    | down =>
        cases pump_stays s conn dev (s.own conn) down (fun next => .bridge slot dev up next) answer with
        | inl same => rw [same]
        | inr moved =>
            obtain ⟨after, moved⟩ := moved
            rw [moved, pc]
            rfl
  · rfl

def Event.idle : Event → Bool
  | .registered _ _ _ => false
  | .took _ _ _ => false
  | _ => true

-- Nobody gets a role.
structure SameRoles (t after : Traced) : Prop where
  enrolled : ∀ device, Enrolled after.history device ↔ Enrolled t.history device
  taken : ∀ device, Taken after.history device ↔ Taken t.history device
  took : ∀ client slot device, .took client slot device ∈ after.history ↔ .took client slot device ∈ t.history

theorem same_roles_idle (t after : Traced) (events : List Event) (history : after.history = t.history ++ events)
    (idle : ∀ event ∈ events, event.idle = true) : SameRoles t after := by
  have same : ∀ event, event.idle = false → (event ∈ after.history ↔ event ∈ t.history) := by
    intro event role
    rw [history, List.mem_append]
    constructor
    · intro member
      exact member.resolve_right fun now => absurd ((idle event now).symm.trans role) (by decide)
    · exact fun member => .inl member
  constructor
  · exact fun device => exists_congr fun taken => exists_congr fun id => same _ rfl
  · exact fun device => exists_congr fun client => exists_congr fun slot => same _ rfl
  · exact fun client slot device => same _ rfl

-- The device of a thread has registered and belongs to this thread alone.
theorem device_facts (t : Traced) (roles : Roles (t.server, t.history)) (client : ConnId) (dev : Handle)
    (has : (t.server.pc client).device = some dev) :
    Enrolled t.history dev.conn ∧ Taken t.history dev.conn ∧ dev.conn ≠ client ∧ dev.fd = t.server.fd dev.conn ∧
      (t.server.pc dev.conn).settled = true ∧ dev.conn < t.server.nextConn ∧
      ∀ other handle, (t.server.pc other).device = some handle → handle.conn = dev.conn → other = client := by
  obtain ⟨slot, member⟩ := roles.takers client dev has
  obtain ⟨taken, id, registered⟩ := roles.known client slot dev.conn member
  obtain ⟨number, settled, born⟩ := roles.exclusive.base.devices client dev has
  refine ⟨⟨taken, id, registered⟩, ⟨client, slot, member⟩, ?_, number, settled, born, ?_⟩
  · intro same
    rw [same] at registered
    exact roles.apart client taken id slot dev.conn registered member
  · intro other handle also same
    obtain ⟨place, took⟩ := roles.takers other handle also
    rw [same] at took
    exact roles_sole (t.server, t.history) roles other client place slot dev.conn took member

-- A step that sends, moves its own thread and adds to the log of one connection at most.
structure Spoken (t after : Traced) (conn target : ConnId) (pc : Pc) (log : List Write) : Prop where
  roles : Roles (after.server, after.history)
  next : after.server.nextConn = t.server.nextConn
  born : target < t.server.nextConn
  pcs : after.server.pc = Function.update t.server.pc conn pc
  logs : after.log = Function.update t.log target log
  same : SameRoles t after
  mute : ∀ other, other < t.server.nextConn → Mute t other → Mute after other
  stage : pc.stage ≠ .answering
  late : pc.stage ≠ .early
  answered : (t.server.pc conn).stage = .answering → target = conn
  promise : ∀ dev, (pc.stage = .waiting dev ∨ pc.stage = .greeted dev) → (t.server.pc conn).stage = .waiting dev

section Spoken

variable {t after : Traced} {conn target : ConnId} {pc : Pc} {log : List Write} (spoken : Spoken t after conn target pc log)

include spoken

theorem spoken_pc : after.server.pc conn = pc := by
  rw [spoken.pcs, Function.update_self]

theorem spoken_pc_other (other : ConnId) (different : other ≠ conn) : after.server.pc other = t.server.pc other := by
  rw [spoken.pcs, Function.update_of_ne different]

theorem spoken_log : after.log target = log := by
  rw [spoken.logs, Function.update_self]

theorem spoken_log_other (other : ConnId) (different : other ≠ target) : after.log other = t.log other := by
  rw [spoken.logs, Function.update_of_ne different]

theorem spoken_audible (other : ConnId) (born : other < t.server.nextConn) (now : ¬ Mute after other) : ¬ Mute t other :=
  fun before => now (spoken.mute other born before)

-- Only the log of the target is another one.
theorem spoken_logs (Said : ConnId → List Write → Prop) (here : Said target log)
    (others : ∀ other, other ≠ target → Said other (t.log other)) (other : ConnId) : Said other (after.log other) := by
  rw [spoken.logs]
  exact (Function.forall_update_iff t.log Said).mpr ⟨here, others⟩ other

-- A thread that answers speaks to its own peer.
theorem spoken_unanswered (other : ConnId) (different : other ≠ target) (now : (after.server.pc other).stage ≠ .answering) :
    (t.server.pc other).stage ≠ .answering := by
  by_cases same : other = conn
  · intro before
    exact different (same.trans (spoken.answered (same ▸ before)).symm)
  · rwa [spoken_pc_other spoken other same] at now

theorem spoken_unanswering (other : ConnId) (before : (t.server.pc other).stage ≠ .answering) :
    (after.server.pc other).stage ≠ .answering := by
  by_cases same : other = conn
  · rw [same, spoken_pc spoken]
    exact spoken.stage
  · rwa [spoken_pc_other spoken other same]

theorem spoken_promise (client : ConnId) (dev : Handle)
    (stage : (after.server.pc client).stage = .waiting dev ∨ (after.server.pc client).stage = .greeted dev) :
    (t.server.pc client).stage = .waiting dev ∨ (t.server.pc client).stage = .greeted dev := by
  by_cases here : client = conn
  · rw [here, spoken_pc spoken] at stage
    rw [here]
    exact .inl (spoken.promise dev stage)
  · rwa [spoken_pc_other spoken client here] at stage

-- A thread other than the one that moves has not been told anything, or is quiet.
theorem spoken_other (other : ConnId) (ownTarget : target ≠ conn → (t.server.pc target).stage = .quiet) (different : other ≠ conn) :
    (t.server.pc other).stage = .quiet ∨ after.log other = t.log other := by
  by_cases also : other = target
  · rw [also]
    exact .inl (ownTarget (also ▸ different))
  · exact .inr (spoken_log_other spoken other also)

section Kept

variable (speech : Speech t)

include speech

theorem spoken_unborn (other : ConnId) (unborn : after.server.nextConn ≤ other) : after.log other = [] := by
  rw [spoken.next] at unborn
  rw [spoken_log_other spoken other fun same => absurd spoken.born (Nat.not_lt.mpr (same ▸ unborn))]
  exact speech.unborn other unborn

theorem spoken_early (ownTarget : target ≠ conn → (t.server.pc target).stage = .quiet) (other : ConnId)
    (early : (after.server.pc other).stage = .early) : after.log other = [] := by
  by_cases same : other = conn
  · rw [same, spoken_pc spoken] at early
    exact absurd early spoken.late
  · rw [spoken_pc_other spoken other same] at early
    cases spoken_other spoken other ownTarget same with
    | inl quiet => cases quiet.symm.trans early
    | inr still =>
        rw [still]
        exact speech.early other early

theorem spoken_own (own : ¬ Mute after conn → OwnLog (after.log conn) pc.stage)
    (ownTarget : target ≠ conn → (t.server.pc target).stage = .quiet) (other : ConnId) (audibleNow : ¬ Mute after other) :
    OwnLog (after.log other) (after.server.pc other).stage := by
  by_cases same : other = conn
  · rw [same] at audibleNow ⊢
    rw [spoken_pc spoken]
    exact own audibleNow
  · rw [spoken_pc_other spoken other same]
    cases spoken_other spoken other ownTarget same with
    | inl quiet =>
        rw [quiet]
        trivial
    | inr still =>
        rw [still]
        by_cases born : other < t.server.nextConn
        · exact speech.own other (spoken_audible spoken other born audibleNow)
        · rw [(speech.roles.exclusive.base.unborn other (Nat.le_of_not_lt born)).1]
          trivial

theorem spoken_untaken
    (untaken : Enrolled t.history target → ¬ Taken t.history target → ¬ Mute after target → log = [.line okLine]) (device : ConnId)
    (enrolled : Enrolled after.history device) (free : ¬ Taken after.history device) (audibleNow : ¬ Mute after device)
    (stage : (after.server.pc device).stage ≠ .answering) : after.log device = [.line okLine] := by
  rw [spoken.same.enrolled] at enrolled
  rw [spoken.same.taken] at free
  obtain ⟨_, _, registered⟩ := enrolled
  have born := (speech.roles.enrolled device _ _ registered).2
  by_cases same : device = target
  · rw [same, spoken_log spoken]
    exact untaken (same ▸ ⟨_, _, registered⟩) (same ▸ free) (same ▸ audibleNow)
  · rw [spoken_log_other spoken device same]
    exact speech.untaken device ⟨_, _, registered⟩ free (spoken_audible spoken device born audibleNow)
      (spoken_unanswered spoken device same stage)

theorem spoken_promised
    (promised : ∀ client dev, (after.server.pc client).stage = .waiting dev ∨ (after.server.pc client).stage = .greeted dev →
      dev.conn = target → ¬ Mute after target → log = [.line okLine])
    (client : ConnId) (dev : Handle)
    (stage : (after.server.pc client).stage = .waiting dev ∨ (after.server.pc client).stage = .greeted dev)
    (audibleNow : ¬ Mute after dev.conn) (answered : (after.server.pc dev.conn).stage ≠ .answering) :
    after.log dev.conn = [.line okLine] := by
  by_cases same : dev.conn = target
  · rw [same, spoken_log spoken]
    exact promised client dev stage same (same ▸ audibleNow)
  · have before := spoken_promise spoken client dev stage
    have has := stage_device _ dev (before.imp_right .inl)
    have born := (device_facts t speech.roles client dev has).2.2.2.2.2.1
    rw [spoken_log_other spoken _ same]
    exact speech.promised client dev before (spoken_audible spoken _ born audibleNow) (spoken_unanswered spoken _ same answered)

theorem spoken_joined
    (joined : ∀ client dev, (after.server.pc client).stage = .joined dev → dev.conn = target ∨ client = conn →
      (after.server.pc dev.conn).stage ≠ .answering ∧ (¬ Mute after dev.conn → Tunnelled (after.log dev.conn)))
    (client : ConnId) (dev : Handle) (stage : (after.server.pc client).stage = .joined dev) :
    (after.server.pc dev.conn).stage ≠ .answering ∧ (¬ Mute after dev.conn → Tunnelled (after.log dev.conn)) := by
  by_cases here : dev.conn = target ∨ client = conn
  · exact joined client dev stage here
  · rw [not_or] at here
    rw [spoken_pc_other spoken client here.2] at stage
    have has := stage_device _ dev (.inr (.inr stage))
    have born := (device_facts t speech.roles client dev has).2.2.2.2.2.1
    obtain ⟨unanswering, tunnelled⟩ := speech.joined client dev stage
    refine ⟨spoken_unanswering spoken dev.conn unanswering, fun audibleNow => ?_⟩
    rw [spoken_log_other spoken _ here.1]
    exact tunnelled (spoken_audible spoken _ born audibleNow)

end Kept

end Spoken

theorem speech_spoken (t after : Traced) (conn target : ConnId) (pc : Pc) (log : List Write) (speech : Speech t)
    (spoken : Spoken t after conn target pc log)
    (own : ¬ Mute after conn → OwnLog (after.log conn) pc.stage)
    (ownTarget : target ≠ conn → (t.server.pc target).stage = .quiet)
    (untaken : Enrolled t.history target → ¬ Taken t.history target → ¬ Mute after target → log = [.line okLine])
    (promised : ∀ client dev, (after.server.pc client).stage = .waiting dev ∨ (after.server.pc client).stage = .greeted dev →
      dev.conn = target → ¬ Mute after target → log = [.line okLine])
    (joined : ∀ client dev, (after.server.pc client).stage = .joined dev → dev.conn = target ∨ client = conn →
      (after.server.pc dev.conn).stage ≠ .answering ∧ (¬ Mute after dev.conn → Tunnelled (after.log dev.conn)))
    (device : Enrolled t.history target → DeviceTalk log) (talk : ¬ Enrolled t.history target → ClientTalk log)
    (partner : ∀ slot device, .took target slot device ∈ t.history → log = [] ∨ Greeted log) : Speech after := by
  constructor
  case roles => exact spoken.roles
  case unborn => exact spoken_unborn spoken speech
  case early => exact spoken_early spoken speech ownTarget
  case own => exact spoken_own spoken speech own ownTarget
  case untaken => exact spoken_untaken spoken speech untaken
  case promised => exact spoken_promised spoken speech promised
  case joined => exact spoken_joined spoken speech joined
  case devices =>
    simp only [spoken.same.enrolled]
    exact spoken_logs spoken (fun other log => Enrolled t.history other → DeviceTalk log) device
      fun other _ => speech.devices other
  case clients =>
    simp only [spoken.same.enrolled]
    exact spoken_logs spoken (fun other log => ¬ Enrolled t.history other → ClientTalk log) talk
      fun other _ => speech.clients other
  case partners =>
    simp only [spoken.same.took]
    exact spoken_logs spoken (fun client log => ∀ slot device, .took client slot device ∈ t.history → log = [] ∨ Greeted log) partner
      fun client _ => speech.partners client

-- The descriptor a thread speaks on is its own or its device's.
theorem speaks_handle (t : Traced) (label : Label) (handle : Handle) (write : Write) (roles : Roles (t.server, t.history))
    (speaks : Speaks t.server label handle write) :
    handle.fd = t.server.fd handle.conn ∧ handle.conn < t.server.nextConn ∧ label.mover < t.server.nextConn := by
  have born : ∀ conn, t.server.pc conn ≠ .finished → conn < t.server.nextConn := base_born t.server roles.exclusive.base
  have device : ∀ client dev, (t.server.pc client).device = some dev →
      dev.fd = t.server.fd dev.conn ∧ dev.conn < t.server.nextConn ∧ client < t.server.nextConn := by
    intro client dev has
    obtain ⟨number, _, known⟩ := roles.exclusive.base.devices client dev has
    refine ⟨number, known, born client fun idle => ?_⟩
    rw [idle] at has
    cases has
  have own : ∀ conn, t.server.pc conn ≠ .finished →
      (t.server.own conn).fd = t.server.fd (t.server.own conn).conn ∧ (t.server.own conn).conn < t.server.nextConn ∧
        conn < t.server.nextConn := fun conn running => ⟨rfl, born conn running, born conn running⟩
  cases speaks with
  | refuse conn answer message pc => exact own conn (by simp [pc])
  | answer conn answer slot pc => exact own conn (by simp [pc])
  | accepted conn answer slot dev pc => exact own conn (by simp [pc])
  | notify conn answer slot dev pc => exact device conn _ (by rw [pc]; rfl)
  | up conn answer slot dev left down pc => exact device conn _ (by rw [pc]; rfl)
  | down conn answer slot dev up left pc => exact own conn (by simp [pc])

-- How much the connection that is spoken to takes, and its new log.
inductive Heard (t after : Traced) (target : ConnId) (write : Write) : Nat → List Write → Prop where
  | nothing (mute : Mute after target) : Heard t after target write 0 (t.log target)
  | more (count : Nat) (positive : 0 < count) (able : ¬ Mute t target)
      (whole : ∀ text, write = .line text → write.cut count = write) :
      Heard t after target write count (t.log target ++ [write.cut count])

theorem onward_stage (s : Server) (label : Label) (handle : Handle) (write : Write) (pump : Pump) (speaks : Speaks s label handle write) :
    ((s.pc label.mover).onward label.side pump).stage ≠ .answering ∧
      ((s.pc label.mover).onward label.side pump).stage ≠ .early ∧
      ((s.pc label.mover).stage = .answering → handle.conn = label.mover) ∧
      ∀ dev, ((s.pc label.mover).onward label.side pump).stage = .waiting dev ∨
        ((s.pc label.mover).onward label.side pump).stage = .greeted dev → (s.pc label.mover).stage = .waiting dev := by
  cases speaks with
  | refuse conn answer message pc => simp [Label.mover, pc, Pc.onward, Pc.stage]
  | answer conn answer slot pc => simp [Label.mover, pc, Pc.onward, Pc.stage, Server.own]
  | accepted conn answer slot dev pc => simp [Label.mover, pc, Pc.onward, Pc.stage]
  | notify conn answer slot dev pc => simp [Label.mover, pc, Pc.onward, Pc.stage]
  | up conn answer slot dev left down pc => simp [Label.mover, Label.side, pc, Pc.onward, Pc.stage]
  | down conn answer slot dev up left pc => simp [Label.mover, Label.side, pc, Pc.onward, Pc.stage]

theorem speaks_spoken (t : Traced) (label : Label) (handle : Handle) (write : Write) (speech : Speech t)
    (meets : steady t label = true) (sending : sends t.server label = some (handle, write)) :
    trace t label = t ∨ ∃ count log, Heard t (trace t label) handle.conn write count log ∧
      Spoken t (trace t label) label.mover handle.conn ((t.server.pc label.mover).onward label.side (afterSend write count)) log := by
  have speaks := sends_speaks t.server label handle write sending
  have base := speech.roles.exclusive.base
  obtain ⟨number, born, _⟩ := speaks_handle t label handle write speech.roles speaks
  have stepped := speaks_step t.server label handle write speaks
  have arrived : arrive t label = t.arrived := by cases speaks <;> rfl
  have roles := roles_next (t.server, t.history) label speech.roles
  have idle : ∀ event ∈ [Event.call handle (.send write.bytes)], event.idle = true :=
    fun event member => List.mem_singleton.mp member ▸ rfl
  have muted := mute_kept t label base
  cases steady_tried t label base meets handle write sending number born with
  | blocked sent log broken =>
      left
      rw [sent] at stepped
      have same : next (t.server, t.history) label = (t.server, t.history) := by
        simp only [next, Runs.record, stepped, List.append_nil]
      cases t with
      | mk server history before said failed =>
          simp only [trace] at same log broken arrived ⊢
          rw [same, log, broken, arrived]
  | muted sent log mute why =>
      right
      rw [sent] at stepped
      obtain ⟨stage, late, answered, promise⟩ := onward_stage t.server label handle write (afterSend write 0) speaks
      refine ⟨0, t.log handle.conn, Heard.nothing mute, ?_⟩
      exact
        { roles := roles, stage := stage, late := late, answered := answered, promise := promise, mute := muted, born := born
          next := by simp only [trace, next, Runs.record, stepped]; rfl
          pcs := by simp only [trace, next, Runs.record, stepped]; rfl
          logs := by rw [log, Function.update_eq_self]
          same := same_roles_idle t _ _ (by simp only [trace, next, Runs.record, stepped]) idle }
  | written count tx positive sent log able whole =>
      right
      rw [sent] at stepped
      obtain ⟨stage, late, answered, promise⟩ := onward_stage t.server label handle write (afterSend write count) speaks
      refine ⟨count, t.log handle.conn ++ [write.cut count], Heard.more count positive able whole, ?_⟩
      exact
        { roles := roles, stage := stage, late := late, answered := answered, promise := promise, mute := muted, born := born
          next := by simp only [trace, next, Runs.record, stepped]; rfl
          pcs := by simp only [trace, next, Runs.record, stepped]; rfl
          logs := log
          same := same_roles_idle t _ _ (by simp only [trace, next, Runs.record, stepped]) idle }

theorem unsettled_unenrolled (t : Traced) (roles : Roles (t.server, t.history)) (conn : ConnId)
    (unsettled : (t.server.pc conn).settled = false) : ¬ Enrolled t.history conn := by
  intro enrolled
  obtain ⟨taken, id, member⟩ := enrolled
  exact absurd ((roles.enrolled conn taken id member).1.symm.trans unsettled) (by decide)

theorem greeted_more (log : List Write) (bytes : Bytes) (greeted : Greeted log) : Greeted (log ++ [.data bytes]) := by
  obtain ⟨data, rfl, every⟩ := greeted
  exact ⟨data ++ [.data bytes], rfl, by simp [every, Write.isData]⟩

theorem tunnelled_more (log : List Write) (bytes : Bytes) (tunnelled : Tunnelled log) : Tunnelled (log ++ [.data bytes]) := by
  obtain ⟨data, rfl, every⟩ := tunnelled
  exact ⟨data ++ [.data bytes], rfl, by simp [every, Write.isData]⟩

-- A thread that is no device speaks to its own peer.
theorem speech_client (t after : Traced) (conn : ConnId) (pc : Pc) (log : List Write) (speech : Speech t)
    (spoken : Spoken t after conn conn pc log) (unsettled : (t.server.pc conn).settled = false)
    (joined : ∀ dev, pc.stage = .joined dev → (t.server.pc conn).stage = .joined dev)
    (said : Mute after conn ∧ log = t.log conn ∨ OwnLog log pc.stage ∧ ClientTalk log)
    (greeted : (t.server.pc conn).device ≠ none → OwnLog log pc.stage → Greeted log) (running : t.server.pc conn ≠ .finished) :
    Speech after := by
  have stranger := unsettled_unenrolled t speech.roles conn unsettled
  have nobody : ∀ client dev, (after.server.pc client).device = some dev → dev.conn ≠ conn := by
    intro client dev has same
    have enrolled := (device_facts after spoken.roles client dev has).1
    rw [same, spoken.same.enrolled] at enrolled
    exact stranger enrolled
  apply speech_spoken t after conn conn pc log speech spoken
  · intro audible
    rw [spoken.logs, Function.update_self]
    exact (said.resolve_left fun mute => audible mute.1).1
  · exact fun different => absurd rfl different
  · exact fun enrolled => absurd enrolled stranger
  · intro client dev stage same
    exact absurd same (nobody client dev (stage_device _ dev (stage.imp_right .inl)))
  · intro client dev stage here
    have has := stage_device _ dev (.inr (.inr stage))
    have different := nobody client dev has
    have same := here.resolve_left different
    rw [same, spoken.pcs, Function.update_self] at stage
    obtain ⟨unanswering, tunnelled⟩ := speech.joined conn dev (joined dev stage)
    have born := (device_facts after spoken.roles client dev has).2.2.2.2.2.1
    rw [spoken.next] at born
    rw [spoken.pcs, Function.update_of_ne different, spoken.logs, Function.update_of_ne different]
    exact ⟨unanswering, fun audible => tunnelled fun before => audible (spoken.mute _ born before)⟩
  · exact fun enrolled => absurd enrolled stranger
  · intro _
    cases said with
    | inl mute =>
        rw [mute.2]
        exact speech.clients conn stranger
    | inr talk => exact talk.2
  · intro slot device took
    cases said with
    | inl mute =>
        rw [mute.2]
        exact speech.partners conn slot device took
    | inr talk =>
        have has := (speech.roles.clients conn slot device took).2.resolve_right running
        refine .inr (greeted (fun none_ => ?_) talk.1)
        dsimp only at has
        rw [none_] at has
        cases has

-- A thread speaks to its device.
theorem speech_device (t after : Traced) (conn : ConnId) (dev : Handle) (pc : Pc) (log : List Write) (speech : Speech t)
    (spoken : Spoken t after conn dev.conn pc log) (stage : pc.stage = .joined dev)
    (has : (t.server.pc conn).device = some dev) (unanswering : (t.server.pc dev.conn).stage ≠ .answering)
    (own : ¬ Mute t conn → Greeted (t.log conn))
    (said : Mute after dev.conn ∧ log = t.log dev.conn ∨ Tunnelled log) : Speech after := by
  obtain ⟨enrolled, taken, different, _, settled, _, _⟩ := device_facts t speech.roles conn dev has
  have pcHere : after.server.pc conn = pc := by rw [spoken.pcs, Function.update_self]
  have hasNow : (after.server.pc conn).device = some dev := by
    rw [pcHere]
    exact stage_device pc dev (.inr (.inr stage))
  have sole := (device_facts after spoken.roles conn dev hasNow).2.2.2.2.2.2
  have born : conn < t.server.nextConn := base_born t.server speech.roles.exclusive.base conn fun idle => by
    rw [idle] at has
    cases has
  apply speech_spoken t after conn dev.conn pc log speech spoken
  · intro audible
    rw [stage, spoken.logs, Function.update_of_ne different.symm]
    exact own fun before => audible (spoken.mute conn born before)
  · exact fun _ => (settled_stage _ settled).resolve_left unanswering
  · exact fun _ free => absurd taken free
  · intro client other promise same
    have here := sole client other (stage_device _ other (promise.imp_right .inl)) same
    rw [here, pcHere, stage] at promise
    cases promise with
    | inl impossible => cases impossible
    | inr impossible => cases impossible
  · intro client other joins here
    have itself : client = conn := by
      cases here with
      | inl same => exact sole client other (stage_device _ other (.inr (.inr joins))) same
      | inr same => exact same
    rw [itself, pcHere, stage] at joins
    cases joins
    rw [spoken.pcs, Function.update_of_ne different, spoken.logs, Function.update_self]
    exact ⟨unanswering, fun audible => said.resolve_left fun mute => audible mute.1⟩
  · intro _
    cases said with
    | inl mute =>
        rw [mute.2]
        exact speech.devices _ enrolled
    | inr tunnelled => exact .inr (.inr tunnelled)
  · exact fun stranger => absurd enrolled stranger
  · intro slot device took
    obtain ⟨_, _, registered⟩ := enrolled
    exact absurd took (speech.roles.apart _ _ _ slot device registered)

theorem speech_answer (t after : Traced) (conn : ConnId) (pc : Pc) (log : List Write) (speech : Speech t)
    (spoken : Spoken t after conn conn pc log) (before : (t.server.pc conn).stage = .answering) (stage : pc.stage = .quiet)
    (said : Mute after conn ∧ log = t.log conn ∨ log = [.line okLine]) : Speech after := by
  have pcHere : after.server.pc conn = pc := by rw [spoken.pcs, Function.update_self]
  have heard : ¬ Mute after conn → log = [.line okLine] := fun audible => said.resolve_left fun mute => audible mute.1
  apply speech_spoken t after conn conn pc log speech spoken
  · intro _
    rw [stage]
    trivial
  · exact fun different => absurd rfl different
  · exact fun _ _ => heard
  · exact fun _ _ _ _ => heard
  · intro client dev joins here
    by_cases same : client = conn
    · rw [same, pcHere, stage] at joins
      cases joins
    · have target := here.resolve_right same
      rw [spoken.pcs, Function.update_of_ne same] at joins
      have unanswering := (speech.joined client dev joins).1
      rw [target] at unanswering
      exact absurd before unanswering
  · intro enrolled
    cases said with
    | inl mute =>
        rw [mute.2]
        exact speech.devices conn enrolled
    | inr here => exact .inr (.inl here)
  · intro stranger
    cases said with
    | inl mute =>
        rw [mute.2]
        exact speech.clients conn stranger
    | inr here => exact .inr (.inl ⟨okLine, here⟩)
  · intro slot device took
    cases said with
    | inl mute =>
        rw [mute.2]
        exact speech.partners conn slot device took
    | inr here => exact .inr ⟨[], here, rfl⟩

theorem heard_said (t after : Traced) (target : ConnId) (write : Write) (taken : Nat) (log : List Write) (said : List Write → Prop)
    (heard : Heard t after target write taken log)
    (more : ∀ count, ¬ Mute t target → (∀ text, write = .line text → write.cut count = write) →
      said (t.log target ++ [write.cut count])) : Mute after target ∧ log = t.log target ∨ said log := by
  cases heard with
  | nothing mute => exact .inl ⟨mute, rfl⟩
  | more count positive able whole => exact .inr (more taken able whole)

theorem steady_notify (t : Traced) (conn : ConnId) (answer : Answer) (slot : Fin maxDevices) (dev : Handle)
    (pc : t.server.pc conn = .notify slot dev) (meets : steady t (.thread conn answer) = true) :
    (t.server.pc dev.conn).stage ≠ .answering := by
  simp only [steady, pc, Bool.and_eq_true, Bool.not_eq_true'] at meets
  intro stage
  cases now : t.server.pc dev.conn <;> simp_all [Pc.stage, Pc.answering]

theorem speech_speaks (t : Traced) (label : Label) (handle : Handle) (write : Write) (speech : Speech t)
    (meets : steady t label = true) (sending : sends t.server label = some (handle, write)) : Speech (trace t label) := by
  cases speaks_spoken t label handle write speech meets sending with
  | inl same =>
      rw [same]
      exact speech
  | inr moved =>
      obtain ⟨count, log, heard, spoken⟩ := moved
      have speaks := sends_speaks t.server label handle write sending
      generalize trace t label = after at heard spoken
      have own := fun conn => speech.own conn
      cases speaks with
      | refuse conn answer message pc =>
          simp only [Label.mover, pc, Pc.onward, Server.own] at spoken heard
          apply speech_client t after conn _ log speech spoken (by rw [pc]; rfl) (fun _ stage => by cases stage)
          · apply heard_said t after conn _ count log (fun log => OwnLog log .quiet ∧ ClientTalk log) heard
            intro count able whole
            have empty : t.log conn = [] := by simpa [pc, Pc.stage, OwnLog] using own conn able
            rw [whole message rfl, empty]
            exact ⟨trivial, .inr (.inl ⟨message, rfl⟩)⟩
          · exact fun has => absurd (by rw [pc]; rfl) has
          · rw [pc]
            exact fun impossible => by cases impossible
      | answer conn answer slot pc =>
          simp only [Label.mover, pc, Pc.onward, Server.own] at spoken heard
          apply speech_answer t after conn _ log speech spoken (by rw [pc]; rfl) rfl
          apply heard_said t after conn _ count log (fun log => log = [.line okLine]) heard
          intro count able whole
          have empty : t.log conn = [] := by simpa [pc, Pc.stage, OwnLog] using own conn able
          rw [whole okLine rfl, empty]
          rfl
      | accepted conn answer slot dev pc =>
          simp only [Label.mover, pc, Pc.onward, Server.own] at spoken heard
          apply speech_client t after conn _ log speech spoken (by rw [pc]; rfl) (fun _ stage => by cases stage)
          · apply heard_said t after conn _ count log (fun log => OwnLog log (.greeted dev) ∧ ClientTalk log) heard
            intro count able whole
            have empty : t.log conn = [] := by simpa [pc, Pc.stage, OwnLog] using own conn able
            rw [whole okLine rfl, empty]
            exact ⟨rfl, .inr (.inl ⟨okLine, rfl⟩)⟩
          · exact fun _ said => ⟨[], said, rfl⟩
          · rw [pc]
            exact fun impossible => by cases impossible
      | notify conn answer slot dev pc =>
          have unanswering := steady_notify t conn answer slot handle pc meets
          simp only [Label.mover, pc, Pc.onward] at spoken
          apply speech_device t after conn handle _ log speech spoken rfl (by rw [pc]; rfl) unanswering
          · intro able
            exact ⟨[], by simpa [pc, Pc.stage, OwnLog] using own conn able, rfl⟩
          · apply heard_said t after handle.conn _ count log Tunnelled heard
            intro count able whole
            rw [whole bridgeLine rfl, speech.promised conn handle (.inr (by rw [pc]; rfl)) able unanswering]
            exact ⟨[], rfl, rfl⟩
      | up conn answer slot dev left down pc =>
          have joins : (t.server.pc conn).stage = .joined handle := by rw [pc]; rfl
          obtain ⟨unanswering, tunnelled⟩ := speech.joined conn handle joins
          simp only [Label.mover, Label.side, pc, Pc.onward] at spoken
          apply speech_device t after conn handle _ log speech spoken rfl (by rw [pc]; rfl) unanswering
          · intro able
            simpa [pc, Pc.stage, OwnLog] using own conn able
          · apply heard_said t after handle.conn _ count log Tunnelled heard
            exact fun count able _ => tunnelled_more _ _ (tunnelled able)
      | down conn answer slot dev up left pc =>
          simp only [Label.mover, Label.side, pc, Pc.onward, Server.own] at spoken heard
          apply speech_client t after conn _ log speech spoken (by rw [pc]; rfl) (fun _ stage => pc ▸ stage)
          · apply heard_said t after conn _ count log (fun log => OwnLog log (.joined dev) ∧ ClientTalk log) heard
            intro count able _
            have greeted : Greeted (t.log conn) := by simpa [pc, Pc.stage, OwnLog] using own conn able
            exact ⟨greeted_more _ _ greeted, .inr (.inr (greeted_more _ _ greeted))⟩
          · exact fun _ said => said
          · rw [pc]
            exact fun impossible => by cases impossible

theorem free_untaken (reached : Server × List Event) (exclusive : Exclusive reached) (slot : Fin maxDevices)
    (used : (reached.1.slots slot).inUse = true) (free : (reached.1.slots slot).bridging = false) :
    ¬ Taken reached.2 (reached.1.slots slot).sock.conn := by
  intro taken
  obtain ⟨client, place, member⟩ := taken
  have positive : 0 < timesGranted reached.2 (reached.1.slots slot).sock.conn :=
    List.countP_pos_iff.mpr ⟨_, member, by simp [Event.grants]⟩
  have marked := (exclusive.spent _ positive).2.2 slot used rfl
  exact absurd (marked.symm.trans free) (by decide)

structure Unspoken (t after : Traced) (conn : ConnId) : Prop where
  roles : Roles (after.server, after.history)
  born : conn < t.server.nextConn
  next : after.server.nextConn = t.server.nextConn
  others : ∀ other, other ≠ conn → after.server.pc other = t.server.pc other
  passes : Passes t.server conn (after.server.pc conn)
  logs : after.log = t.log
  enrolled : ∀ device, Enrolled t.history device → Enrolled after.history device
  joiners : ∀ device, Enrolled after.history device → Enrolled t.history device ∨
    (device = conn ∧ (t.server.pc conn).stage = .early ∧ (after.server.pc conn).stage = .answering)
  taken : ∀ device, Taken t.history device → Taken after.history device
  takers : ∀ client slot device, .took client slot device ∈ after.history → .took client slot device ∈ t.history ∨
    (client = conn ∧ (t.server.pc conn).stage = .early)
  mute : ∀ other, other < t.server.nextConn → Mute t other → Mute after other

theorem passes_answering (t after : Traced) (conn : ConnId) (silent : Unspoken t after conn) (other : ConnId)
    (now : (after.server.pc other).stage ≠ .answering) : (t.server.pc other).stage ≠ .answering := by
  by_cases same : other = conn
  · rw [same] at now ⊢
    cases silent.passes with
    | stays same => rwa [same] at now
    | rests quiet before =>
        cases before with
        | inl early => rw [early]; exact fun impossible => by cases impossible
        | inr joined =>
            obtain ⟨dev, stage⟩ := joined
            rw [stage]
            exact fun impossible => by cases impossible
    | registers id slot pc answers => rw [pc]; exact fun impossible => by cases impossible
    | connects id slot pc found accepts => rw [pc]; exact fun impossible => by cases impossible
  · rwa [silent.others other same] at now

section Silent

variable (t after : Traced) (conn : ConnId) (speech : Speech t) (silent : Unspoken t after conn)

include silent

-- Nobody falls back to the start, and nobody joins in silence.
theorem silent_early (other : ConnId) (early : (after.server.pc other).stage = .early) : (t.server.pc other).stage = .early := by
  by_cases same : other = conn
  · rw [same] at early ⊢
    cases silent.passes with
    | stays same => exact same.symm.trans early
    | rests quiet _ => cases quiet.symm.trans early
    | registers id slot pc answers => rw [answers] at early; cases early
    | connects id slot pc found accepts => rw [accepts] at early; cases early
  · rwa [silent.others other same] at early

theorem silent_joined (client : ConnId) (dev : Handle) (stage : (after.server.pc client).stage = .joined dev) :
    (t.server.pc client).stage = .joined dev := by
  by_cases same : client = conn
  · rw [same] at stage ⊢
    cases silent.passes with
    | stays same => rwa [same] at stage
    | rests quiet _ => cases quiet.symm.trans stage
    | registers id slot pc answers => rw [answers] at stage; cases stage
    | connects id slot pc found accepts => rw [accepts] at stage; cases stage
  · rwa [silent.others client same] at stage

theorem silent_settled (other : ConnId) (settled : (t.server.pc other).settled = true) (unanswering : (t.server.pc other).stage ≠ .answering) :
    (after.server.pc other).stage ≠ .answering := by
  by_cases same : other = conn
  · rw [same] at unanswering settled ⊢
    cases silent.passes with
    | stays same => rwa [same]
    | rests quiet _ => rw [quiet]; exact fun impossible => by cases impossible
    | registers id slot pc answers => rw [pc] at settled; cases settled
    | connects id slot pc found accepts => rw [accepts]; exact fun impossible => by cases impossible
  · rwa [silent.others _ same]

-- A client waits for its device as before, or has just been given one that is enrolled and free.
theorem silent_promise (client : ConnId) (dev : Handle)
    (stage : (after.server.pc client).stage = .waiting dev ∨ (after.server.pc client).stage = .greeted dev) :
    ((t.server.pc client).stage = .waiting dev ∨ (t.server.pc client).stage = .greeted dev) ∨
      ∃ id slot, findDevice t.server.slots id = some slot ∧ dev = (t.server.slots slot).sock := by
  by_cases same : client = conn
  · rw [same] at stage ⊢
    cases silent.passes with
    | stays same =>
        rw [same] at stage
        exact .inl stage
    | rests quiet _ =>
        rw [quiet] at stage
        cases stage with
        | inl impossible => cases impossible
        | inr impossible => cases impossible
    | registers id slot pc answers =>
        rw [answers] at stage
        cases stage with
        | inl impossible => cases impossible
        | inr impossible => cases impossible
    | connects id slot pc found accepts =>
        rw [accepts] at stage
        cases stage with
        | inr impossible => cases impossible
        | inl here =>
            cases here
            exact .inr ⟨id, slot, found, rfl⟩
  · rw [silent.others client same] at stage
    exact .inl stage

theorem silent_audible (other : ConnId) (born : other < t.server.nextConn) (now : ¬ Mute after other) : ¬ Mute t other :=
  fun before => now (silent.mute other born before)

include speech

theorem silent_own (other : ConnId) (audible : ¬ Mute after other) : OwnLog (after.log other) (after.server.pc other).stage := by
  rw [silent.logs]
  by_cases same : other = conn
  · rw [same] at audible ⊢
    have before := speech.own conn (silent_audible t after conn silent conn silent.born audible)
    cases silent.passes with
    | stays same => rwa [same]
    | rests quiet _ =>
        rw [quiet]
        trivial
    | registers id slot pc answers =>
        rw [answers]
        exact speech.early conn (by rw [pc]; rfl)
    | connects id slot pc found accepts =>
        rw [accepts]
        exact speech.early conn (by rw [pc]; rfl)
  · rw [silent.others other same]
    by_cases born : other < t.server.nextConn
    · exact speech.own other (silent_audible t after conn silent other born audible)
    · rw [(speech.roles.exclusive.base.unborn other (Nat.le_of_not_lt born)).1]
      trivial

theorem silent_promised (client : ConnId) (dev : Handle)
    (stage : (after.server.pc client).stage = .waiting dev ∨ (after.server.pc client).stage = .greeted dev)
    (audible : ¬ Mute after dev.conn) (answered : (after.server.pc dev.conn).stage ≠ .answering) : after.log dev.conn = [.line okLine] := by
  have base := speech.roles.exclusive.base
  have unanswering := passes_answering t after conn silent dev.conn answered
  rw [silent.logs]
  rcases silent_promise t after conn silent client dev stage with before | ⟨id, slot, found, rfl⟩
  · have born := (base.devices client dev (stage_device _ dev (before.imp_right .inl))).2.2
    exact speech.promised client dev before (silent_audible t after conn silent _ born audible) unanswering
  · obtain ⟨used, free, _⟩ := find_device_found t.server.slots id slot found
    have watches := (base.held slot used).1
    have born := base_born t.server base _ (watches_settled _ slot watches).2.2
    exact speech.untaken _ (speech.roles.stored slot used) (free_untaken (t.server, t.history) speech.roles.exclusive slot used free)
      (silent_audible t after conn silent _ born audible) unanswering

theorem speech_silent : Speech after := by
  have base := speech.roles.exclusive.base
  constructor
  case roles => exact silent.roles
  case unborn =>
    intro other unborn
    rw [silent.next] at unborn
    rw [silent.logs]
    exact speech.unborn other unborn
  case early =>
    intro other early
    rw [silent.logs]
    exact speech.early other (silent_early t after conn silent other early)
  case own => exact silent_own t after conn speech silent
  case untaken =>
    intro device enrolled free audibleNow stage
    rw [silent.logs]
    cases silent.joiners device enrolled with
    | inl before =>
        obtain ⟨_, _, registered⟩ := before
        have born := (speech.roles.enrolled device _ _ registered).2
        exact speech.untaken device ⟨_, _, registered⟩ (fun taken => free (silent.taken device taken))
          (silent_audible t after conn silent device born audibleNow) (passes_answering t after conn silent device stage)
    | inr now => exact absurd (now.1 ▸ now.2.2) stage
  case promised => exact silent_promised t after conn speech silent
  case joined =>
    intro client dev stage
    have before := silent_joined t after conn silent client dev stage
    obtain ⟨_, settled, born⟩ := base.devices client dev (stage_device _ dev (.inr (.inr before)))
    obtain ⟨unanswering, tunnelled⟩ := speech.joined client dev before
    refine ⟨silent_settled t after conn silent dev.conn settled unanswering, fun audibleNow => ?_⟩
    rw [silent.logs]
    exact tunnelled (silent_audible t after conn silent _ born audibleNow)
  case devices =>
    intro device enrolled
    rw [silent.logs]
    cases silent.joiners device enrolled with
    | inl before => exact speech.devices device before
    | inr now =>
        rw [now.1]
        exact .inl (speech.early conn now.2.1)
  case clients =>
    intro other stranger
    rw [silent.logs]
    exact speech.clients other fun before => stranger (silent.enrolled other before)
  case partners =>
    intro client slot device took
    rw [silent.logs]
    cases silent.takers client slot device took with
    | inl before => exact speech.partners client slot device before
    | inr now =>
        rw [now.1]
        exact .inl (speech.early conn now.2)

end Silent

-- The network, or a thread that does not run: nobody moves, a new connection may begin to read.
structure Outside (s : Server) (result : Server × List Event) : Prop where
  pcs : ∀ conn, conn < s.nextConn → result.1.pc conn = s.pc conn
  fresh : ∀ conn, s.nextConn ≤ conn → result.1.pc conn = .reading [] ∨ result.1.pc conn = .finished
  more : s.nextConn ≤ result.1.nextConn
  idle : ∀ event ∈ result.2, event.idle = true

theorem outside_still (s : Server) (base : Base s) : Outside s (s, []) :=
  ⟨fun _ _ => rfl, fun conn unborn => .inr (base.unborn conn unborn).1, Nat.le_refl _,
    fun _ member => absurd member List.not_mem_nil⟩

theorem outside_accept (s : Server) (base : Base s) (fd : Nat) : Outside s (step s (.accept fd)) := by
  simp only [step, acceptStep]
  split
  · exact outside_still s base
  · constructor
    · exact fun conn born => Function.update_of_ne (Nat.ne_of_lt born) _ _
    · intro conn unborn
      by_cases same : conn = s.nextConn
      · left
        dsimp only
        rw [same, Function.update_self]
      · right
        dsimp only
        rw [Function.update_of_ne same]
        exact (base.unborn conn unborn).1
    · exact Nat.le_succ _
    · exact fun event member => List.mem_singleton.mp member ▸ rfl

theorem outside_deliver (s : Server) (base : Base s) (conn : ConnId) (bytes : Bytes) :
    Outside s (step s (.deliver conn bytes)) := by
  simp only [step]
  split
  · exact ⟨fun _ _ => rfl, fun other unborn => .inr (base.unborn other unborn).1, Nat.le_refl _,
      fun _ member => absurd member List.not_mem_nil⟩
  · exact outside_still s base

theorem outside_hang_up (s : Server) (base : Base s) (conn : ConnId) : Outside s (step s (.hangUp conn)) := by
  simp only [step]
  split
  · exact ⟨fun _ _ => rfl, fun other unborn => .inr (base.unborn other unborn).1, Nat.le_refl _,
      fun event member => List.mem_singleton.mp member ▸ rfl⟩
  · exact outside_still s base

-- A label for a thread or a pump of a connection that does not exist yet.
theorem outside_unborn (s : Server) (base : Base s) (conn : ConnId) (unborn : ¬ conn < s.nextConn) (side : Side) (answer : Answer) :
    Outside s (step s (.thread conn answer)) ∧ Outside s (step s (.pump conn side answer)) := by
  have idle := (base.unborn conn (Nat.le_of_not_lt unborn)).1
  simp only [step, threadStep, bridgeStep, idle]
  exact ⟨outside_still s base, outside_still s base⟩

section Beside

variable (t : Traced) (label : Label) (outside : Outside t.server (step t.server label))

include outside

theorem outside_pc (conn : ConnId) (born : conn < t.server.nextConn) : (trace t label).server.pc conn = t.server.pc conn :=
  outside.pcs conn born

theorem outside_fresh (conn : ConnId) (unborn : ¬ conn < t.server.nextConn) :
    ((trace t label).server.pc conn).stage = .early ∨ ((trace t label).server.pc conn).stage = .quiet := by
  cases outside.fresh conn (Nat.le_of_not_lt unborn) with
  | inl reading => exact .inl (congrArg Pc.stage reading)
  | inr finished => exact .inr (congrArg Pc.stage finished)

theorem outside_same : SameRoles t (trace t label) := same_roles_idle t _ _ rfl outside.idle

theorem outside_device (base : Base t.server) (client : ConnId) (dev : Handle)
    (stage : ((trace t label).server.pc client).stage = .waiting dev ∨ ((trace t label).server.pc client).stage = .greeted dev ∨
      ((trace t label).server.pc client).stage = .joined dev) :
    (trace t label).server.pc client = t.server.pc client ∧ dev.conn < t.server.nextConn := by
  by_cases born : client < t.server.nextConn
  · rw [outside_pc t label outside client born] at stage ⊢
    exact ⟨rfl, (base.devices client dev (stage_device _ dev stage)).2.2⟩
  · cases outside_fresh t label outside client born with
    | inl early => simp [early] at stage
    | inr quiet => simp [quiet] at stage

theorem outside_own (speech : Speech t) (conn : ConnId) (audible : ¬ Mute (trace t label) conn) :
    OwnLog (t.log conn) ((trace t label).server.pc conn).stage := by
  by_cases born : conn < t.server.nextConn
  · rw [outside_pc t label outside conn born]
    exact speech.own conn fun before => audible (mute_kept t label speech.roles.exclusive.base conn born before)
  · cases outside_fresh t label outside conn born with
    | inl early =>
        rw [early]
        exact speech.unborn conn (Nat.le_of_not_lt born)
    | inr quiet =>
        rw [quiet]
        trivial

end Beside

theorem speech_outside (t : Traced) (label : Label) (speech : Speech t) (silent : sends t.server label = none)
    (outside : Outside t.server (step t.server label)) : Speech (trace t label) := by
  have base := speech.roles.exclusive.base
  have logs := (silent_log t label silent).1
  have same := outside_same t label outside
  have pcs := outside_pc t label outside
  have audible : ∀ conn, conn < t.server.nextConn → ¬ Mute (trace t label) conn → ¬ Mute t conn :=
    fun conn born now before => now (mute_kept t label base conn born before)
  constructor
  case roles => exact roles_next (t.server, t.history) label speech.roles
  case unborn =>
    intro conn unborn
    rw [logs]
    exact speech.unborn conn (Nat.le_trans outside.more unborn)
  case early =>
    intro conn early
    rw [logs]
    by_cases born : conn < t.server.nextConn
    · rw [pcs conn born] at early
      exact speech.early conn early
    · exact speech.unborn conn (Nat.le_of_not_lt born)
  case own =>
    rw [logs]
    exact outside_own t label outside speech
  case untaken =>
    intro device known free audibleNow stage
    rw [same.enrolled] at known
    rw [same.taken] at free
    obtain ⟨_, _, registered⟩ := known
    have born := (speech.roles.enrolled device _ _ registered).2
    rw [pcs device born] at stage
    rw [logs]
    exact speech.untaken device ⟨_, _, registered⟩ free (audible device born audibleNow) stage
  case promised =>
    intro client dev stage audibleNow answered
    obtain ⟨still, born⟩ := outside_device t label outside base client dev (stage.imp_right .inl)
    rw [still] at stage
    rw [pcs dev.conn born] at answered
    rw [logs]
    exact speech.promised client dev stage (audible _ born audibleNow) answered
  case joined =>
    intro client dev stage
    obtain ⟨still, born⟩ := outside_device t label outside base client dev (.inr (.inr stage))
    rw [still] at stage
    rw [pcs dev.conn born, logs]
    obtain ⟨unanswering, tunnelled⟩ := speech.joined client dev stage
    exact ⟨unanswering, fun audibleNow => tunnelled (audible _ born audibleNow)⟩
  case devices =>
    simp only [same.enrolled, logs]
    exact speech.devices
  case clients =>
    simp only [same.enrolled, logs]
    exact speech.clients
  case partners =>
    simp only [same.took, logs]
    exact speech.partners

theorem move_unspoken (t : Traced) (label : Label) (conn : ConnId) (speech : Speech t) (born : conn < t.server.nextConn)
    (moved : Move t.server conn (step t.server label)) (silent : sends t.server label = none)
    (passes : Passes t.server conn ((step t.server label).1.pc conn)) : Unspoken t (trace t label) conn := by
  have beside := move_beside t.server conn _ speech.roles.exclusive.base moved
  have history : (trace t label).history = t.history ++ (step t.server label).2 := rfl
  exact
    { roles := roles_next (t.server, t.history) label speech.roles
      born := born, next := beside.nextConn, others := beside.others, passes := passes
      logs := (silent_log t label silent).1
      enrolled := fun device ⟨taken, id, member⟩ => ⟨taken, id, history ▸ List.mem_append_left _ member⟩
      joiners := fun device ⟨taken, id, member⟩ => by
        rw [history] at member
        cases List.mem_append.mp member with
        | inl before => exact .inl ⟨taken, id, before⟩
        | inr now =>
            obtain ⟨rfl, pc, after⟩ := move_registers t.server conn _ moved device taken id now
            exact .inr ⟨rfl, by rw [pc]; rfl, (congrArg Pc.stage after).trans rfl⟩
      taken := fun device ⟨client, slot, member⟩ => ⟨client, slot, history ▸ List.mem_append_left _ member⟩
      takers := fun client slot device member => by
        rw [history] at member
        cases List.mem_append.mp member with
        | inl before => exact .inl before
        | inr now =>
            obtain ⟨id, pc, _, rfl, _⟩ := move_takes t.server conn _ moved client slot device now
            exact .inr ⟨rfl, by rw [pc]; rfl⟩
      mute := mute_kept t label speech.roles.exclusive.base }

theorem speech_trace (t : Traced) (label : Label) (speech : Speech t) (meets : steady t label = true) :
    Speech (trace t label) := by
  have base : Base t.server := speech.roles.exclusive.base
  cases sending : sends t.server label with
  | some sent => exact speech_speaks t label sent.1 sent.2 speech meets sending
  | none =>
      cases label with
      | accept fd => exact speech_outside t _ speech sending (outside_accept t.server base fd)
      | deliver conn bytes => exact speech_outside t _ speech sending (outside_deliver t.server base conn bytes)
      | hangUp conn => exact speech_outside t _ speech sending (outside_hang_up t.server base conn)
      | thread conn answer =>
          by_cases born : conn < t.server.nextConn
          · exact speech_silent t _ conn speech
              (move_unspoken t _ conn speech born (thread_moves t.server conn answer) sending
                (thread_passes t.server conn answer sending))
          · exact speech_outside t _ speech sending (outside_unborn t.server base conn born .up answer).1
      | pump conn side answer =>
          by_cases born : conn < t.server.nextConn
          · exact speech_silent t _ conn speech
              (move_unspoken t _ conn speech born (bridge_moves t.server conn side answer) sending
                (.stays (bridge_stage t.server conn side answer)))
          · exact speech_outside t _ speech sending (outside_unborn t.server base conn born side answer).2

end Intercom.Relay
