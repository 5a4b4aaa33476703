import Intercom.Relay.Streams
import Intercom.Android.RelayConnection

set_option autoImplicit false

/- The tunnel: after its two control lines a device is sent nothing but the first bytes that its client has sent, and
   the client after its OK nothing but the first bytes that the device has sent. -/
namespace Intercom.Relay

open ByteText

-- Whatever the peer has sent after a first line that readline can hold, a first part of it has been carried.
def Carried (t : Traced) (source : ConnId) (written : Bytes → Prop) : Prop :=
  ∀ line sent, t.arrived source = line ++ crlf ++ sent → 10 ∉ line → line.length ≤ 253 →
    ∃ passed, passed <+: sent ∧ written passed

-- What the device has been sent is its two lines and these bytes, or no more than its OK.
def ToDevice (t : Traced) (device : ConnId) (passed : Bytes) : Prop :=
  t.server.tx device = okLine ++ bridgeLine ++ passed ∨
    passed = [] ∧ (t.server.tx device = [] ∨ t.server.tx device = okLine)

-- What the app has been sent is its OK and these bytes, and these are what connect leaves to be read.
def ToClient (t : Traced) (client : ConnId) (passed : Bytes) : Prop :=
  t.server.tx client = okLine ++ passed ∧
      (∀ deviceId, (Android.RelayConnection.connect deviceId (t.server.tx client)).2 = .ok passed) ∨
    passed = [] ∧ t.server.tx client = []

def Tunnel (t : Traced) (client device : ConnId) : Prop :=
  Carried t client (ToDevice t device) ∧ Carried t device (ToClient t client)

def Tunnels (t : Traced) : Prop := ∀ client slot device, .took client slot device ∈ t.history → Tunnel t client device

-- After a first line that readline can hold, exactly these bytes of the peer have been received.
def Consumed (t : Traced) (source : ConnId) (bytes : Bytes) : Prop :=
  ∀ line sent, t.arrived source = line ++ crlf ++ sent → 10 ∉ line → line.length ≤ 253 → sent = bytes ++ t.server.rx source

-- A direction that stops because its stream is over has forwarded all it received; nothing is left at an end of stream.
structure Ending (t : Traced) (label : Label) : Prop where
  up : ∀ client answer slot dev down, label = .pump client .up answer → t.server.pc client = .bridge slot dev .receiving down →
    (trace t label).server.pc client = .bridge slot dev .stopping down →
      (∃ passed, ToDevice t dev.conn passed ∧ Consumed t client passed) ∧
        (t.server.fds (t.server.fd client) = some client → answer ≠ .fails → t.server.rx client = [])
  down : ∀ client answer slot dev up, label = .pump client .down answer → t.server.pc client = .bridge slot dev up .receiving →
    (trace t label).server.pc client = .bridge slot dev up .stopping →
      (∃ passed, ToClient t client passed ∧ Consumed t dev.conn passed) ∧
        (t.server.fds dev.fd = some dev.conn → answer ≠ .fails → t.server.rx dev.conn = [])

theorem parse_line_over (text : Bytes) (line : Bytes) : parseLine text ≠ .reading line := by
  rw [parseLine, parseRegister]
  repeat' split
  all_goals exact fun impossible => by cases impossible

theorem read_on_line (line : Bytes) (start : Bytes) (unbroken : 10 ∉ line) (short : start.length + line.length ≤ 253) :
    ∃ command, (∀ longer, command ≠ .reading longer) ∧ readOn start (line ++ crlf) = (command, []) := by
  induction line generalizing start with
  | nil =>
      have room : (start ++ [(13 : UInt8)]).length < maxLine - 1 := by
        rw [List.length_append, List.length_singleton, maxLine]
        simp only [List.length_nil] at short
        omega
      have first : readByte start 13 = .reading (start ++ [13]) := by
        rw [readByte, if_neg (by decide), if_pos room]
      have over_ : ∀ longer, readByte (start ++ [13]) 10 ≠ .reading longer := by
        intro longer
        rw [readByte, if_pos rfl]
        split
        · exact fun impossible => by cases impossible
        · exact parse_line_over _ longer
      refine ⟨readByte (start ++ [13]) 10, over_, ?_⟩
      rw [List.nil_append, crlf, readOn, first]
      dsimp only
      rw [readOn]
      split
      · rename_i longer same
        exact absurd same (over_ longer)
      · rfl
  | cons byte rest ih =>
      have other : byte ≠ 10 := fun same => unbroken (same ▸ List.mem_cons_self)
      have room : (start ++ [byte]).length < maxLine - 1 := by
        rw [List.length_append, List.length_singleton, maxLine]
        simp only [List.length_cons] at short
        omega
      have read : readByte start byte = .reading (start ++ [byte]) := by
        rw [readByte, if_neg other, if_pos room]
      obtain ⟨command, over_, later⟩ := ih (start ++ [byte]) (fun member => unbroken (List.mem_cons_of_mem _ member)) (by
        rw [List.length_append, List.length_singleton]
        simp only [List.length_cons] at short
        omega)
      refine ⟨command, over_, ?_⟩
      rw [List.cons_append, readOn, read]
      exact later

theorem opening_rest (t : Traced) (conn : ConnId) (command : Pc) (rest line sent : Bytes) (opening : Opening t conn command rest)
    (other : ∀ longer, command ≠ .reading longer) (arrived : t.arrived conn = line ++ crlf ++ sent) (unbroken : 10 ∉ line)
    (short : line.length ≤ 253) : rest = sent := by
  obtain ⟨head, whole, opened⟩ := opening
  obtain ⟨found, over_, read⟩ := read_on_line line [] unbroken (by simpa using short)
  have one := read_on_rest head rest [] command other opened
  have two := read_on_rest (line ++ crlf) sent [] found over_ read
  rw [← whole, arrived, two] at one
  exact (congrArg Prod.snd one).symm

theorem data_bytes (data : List Write) (every : data.all Write.isData = true) : data.flatMap Write.bytes = forwarded data := by
  induction data with
  | nil => rfl
  | cons first rest ih =>
      simp only [List.all_cons, Bool.and_eq_true] at every
      cases first with
      | line text => cases every.1
      | data bytes =>
          rw [forwarded, List.flatMap_cons, List.flatMap_cons, ih every.2]
          rfl

theorem greeted_bytes (log : List Write) (greeted : Greeted log) : log.flatMap Write.bytes = okLine ++ forwarded log := by
  obtain ⟨data, rfl, every⟩ := greeted
  rw [List.flatMap_cons, data_bytes data every]
  rfl

theorem tunnelled_bytes (log : List Write) (tunnelled : Tunnelled log) :
    log.flatMap Write.bytes = okLine ++ bridgeLine ++ forwarded log := by
  obtain ⟨data, rfl, every⟩ := tunnelled
  rw [List.flatMap_cons, List.flatMap_cons, data_bytes data every, ← List.append_assoc]
  rfl

theorem flow_begun (t : Traced) (source target : ConnId) (command : Pc) (pump : Pump) (flow : Flow t source target command pump) :
    ∃ rest, Opening t source command rest ∧ forwarded (t.log target) <+: rest := by
  obtain ⟨rest, opening, holds⟩ := flow
  refine ⟨rest, opening, ?_⟩
  cases pump with
  | receiving => exact holds ▸ List.prefix_append _ _
  | sending left => exact holds ▸ List.prefix_append _ _
  | stopping => exact holds
  | done => exact holds

theorem carried_flow (t : Traced) (source target : ConnId) (command : Pc) (pump : Pump) (flow : Flow t source target command pump)
    (other : ∀ longer, command ≠ .reading longer) (written : Bytes → Prop) (here : written (forwarded (t.log target))) :
    Carried t source written := by
  intro line sent arrived unbroken short
  obtain ⟨rest, opening, begun⟩ := flow_begun t source target command pump flow
  have same := opening_rest t source command rest line sent opening other arrived unbroken short
  exact ⟨forwarded (t.log target), same ▸ begun, here⟩

theorem to_device_forwarded (t : Traced) (speech : Speech t) (recorded : Recorded t) (device : ConnId)
    (enrolled : Enrolled t.history device) : ToDevice t device (forwarded (t.log device)) := by
  rw [ToDevice, recorded device]
  cases speech.devices device enrolled with
  | inl nothing =>
      rw [nothing]
      exact .inr ⟨rfl, .inl rfl⟩
  | inr more =>
      cases more with
      | inl ok =>
          rw [ok]
          exact .inr ⟨rfl, .inr rfl⟩
      | inr tunnelled => exact .inl (tunnelled_bytes _ tunnelled)

theorem to_client_forwarded (t : Traced) (speech : Speech t) (recorded : Recorded t) (client : ConnId) (slot : Fin maxDevices)
    (device : ConnId) (took : .took client slot device ∈ t.history) : ToClient t client (forwarded (t.log client)) := by
  rw [ToClient, recorded client]
  cases speech.partners client slot device took with
  | inl nothing =>
      rw [nothing]
      exact .inr ⟨rfl, rfl⟩
  | inr greeted =>
      rw [greeted_bytes _ greeted]
      exact .inl ⟨rfl, fun deviceId => Android.RelayConnection.connect_after_ok deviceId _⟩

theorem streams_tunnels (t : Traced) (streams : Streams t) (recorded : Recorded t) : Tunnels t := by
  intro client slot device took
  obtain ⟨⟨id, up⟩, name, down⟩ := streams.flows client slot device took
  have enrolled := taken_enrolled t streams.speech.roles device ⟨client, slot, took⟩
  constructor
  · exact carried_flow t client device _ _ up (fun _ impossible => by cases impossible) _
      (to_device_forwarded t streams.speech recorded device enrolled)
  · exact carried_flow t device client _ _ down (fun _ impossible => by cases impossible) _
      (to_client_forwarded t streams.speech recorded client slot device took)

theorem recv_over (s : Server) (fd size : Nat) (answer : Answer) (target : ConnId) (live : s.fds fd = some target)
    (able : answer ≠ .fails) (failed : recv s fd size answer = some .failed) : s.rx target = [] := by
  unfold recv at failed
  rw [live] at failed
  cases answer with
  | fails => exact absurd rfl able
  | gives count =>
      simp only at failed
      split at failed
      · assumption
      · cases failed

theorem consumed_flow (t : Traced) (source target : ConnId) (command : Pc) (flow : Flow t source target command .receiving)
    (other : ∀ longer, command ≠ .reading longer) : Consumed t source (forwarded (t.log target)) := by
  intro line sent arrived unbroken short
  obtain ⟨rest, opening, holds⟩ := flow
  have same := opening_rest t source command rest line sent opening other arrived unbroken short
  exact same ▸ holds

theorem stops_failed (s : Server) (conn : ConnId) (source target : Handle) (back : Pump → Pc) (answer : Answer)
    (pc : s.pc conn = back .receiving) (inject : ∀ pump, back pump = back .stopping → pump = .stopping)
    (stops : (pumpStep s conn source target .receiving back answer).1.pc conn = back .stopping) :
    recv s source.fd bridgeBufSize answer = some .failed := by
  cases received : recv s source.fd bridgeBufSize answer with
  | none =>
      simp only [pumpStep, received] at stops
      cases inject _ (pc.symm.trans stops)
  | some result =>
      cases result with
      | failed => rfl
      | data origin bytes =>
          simp only [pumpStep, received] at stops
          rw [goto_conn] at stops
          cases inject _ stops

theorem streams_ending (t : Traced) (label : Label) (streams : Streams t) (recorded : Recorded t) : Ending t label := by
  constructor
  · intro client answer slot dev down here pc stops
    obtain ⟨place, took⟩ := streams.speech.roles.takers client dev (by dsimp only; rw [pc]; rfl)
    have enrolled := taken_enrolled t streams.speech.roles dev.conn ⟨client, place, took⟩
    obtain ⟨⟨id, flow⟩, _⟩ := streams.flows client place dev.conn took
    rw [pc] at flow
    refine ⟨⟨_, to_device_forwarded t streams.speech recorded dev.conn enrolled,
      consumed_flow t client dev.conn _ flow (fun _ impossible => by cases impossible)⟩, ?_⟩
    intro live able
    rw [here] at stops
    simp only [trace, next, Runs.record, step, bridgeStep, pc] at stops
    have failed := stops_failed t.server client (t.server.own client) dev (fun next => .bridge slot dev next down) answer pc
      (fun pump same => (Pc.bridge.inj same).2.2.1) stops
    exact recv_over t.server _ _ answer client live able failed
  · intro client answer slot dev up here pc stops
    obtain ⟨place, took⟩ := streams.speech.roles.takers client dev (by dsimp only; rw [pc]; rfl)
    obtain ⟨_, name, flow⟩ := streams.flows client place dev.conn took
    rw [pc] at flow
    refine ⟨⟨_, to_client_forwarded t streams.speech recorded client place dev.conn took,
      consumed_flow t dev.conn client _ flow (fun _ impossible => by cases impossible)⟩, ?_⟩
    intro live able
    rw [here] at stops
    simp only [trace, next, Runs.record, step, bridgeStep, pc] at stops
    have failed := stops_failed t.server client dev (t.server.own client) (fun next => .bridge slot dev up next) answer pc
      (fun pump same => (Pc.bridge.inj same).2.2.2) stops
    exact recv_over t.server _ _ answer dev.conn live able failed

theorem valid_id_plain (byte : UInt8) (valid : validIdChar byte = true) : byte < 128 := by
  simp only [validIdChar, Bool.or_eq_true, Bool.and_eq_true, decide_eq_true_eq, beq_iff_eq, UInt8.le_iff_toNat_le,
    ← UInt8.toNat_inj] at valid
  rw [UInt8.lt_iff_toNat_lt]
  simp only [UInt8.reduceToNat] at valid ⊢
  omega

theorem steady_runs_tunnel (labels : List Label)
    (meets : Runs.EachStep trace (fun t label => steady t label = true) {} labels) :
    Runs.EachState trace Tunnels {} labels ∧ Runs.EachStep trace Ending {} labels ∧
      ∀ id input, id.all validIdChar = true →
        (Android.RelayConnection.connect (Android.ofChars id) input).1 = ascii "CONNECT " ++ id ++ crlf := by
  have inv := Runs.each_state_of_steps trace (fun t => Streams t ∧ Recorded t) _ {} labels
    (fun t label before steps => ⟨streams_trace t label before.1 steps, recorded_trace t label before.2⟩)
    ⟨streams_initial, fun _ => rfl⟩ meets
  refine ⟨Runs.each_state_mono trace _ _ {} labels (fun t kept => streams_tunnels t kept.1 kept.2) inv, ?_, ?_⟩
  · exact Runs.each_step_of_states trace _ Ending {} labels (fun t label kept => streams_ending t label kept.1 kept.2) inv
  · intro id input valid
    apply Android.RelayConnection.command_bytes
    exact fun byte member => valid_id_plain byte (List.all_eq_true.mp valid byte member)

-- An app sends its first bytes with its line, in both directions short counts split what is forwarded, and the app leaves.
def tunnelRun : List Label :=
  registerRun 0 3 "REGISTER a smartlock2026\r\n" ++
  ([Label.accept 4, .deliver 1 (ascii "CONNECT a\r\nhello")] ++ List.replicate 14 (Label.thread 1 (.gives 0))) ++
  [Label.deliver 0 (ascii "world"), .thread 0 (.gives 0), .pump 1 .up (.gives 2), .pump 1 .down (.gives 9), .pump 1 .up (.gives 0),
    .pump 1 .down (.gives 1), .pump 1 .up (.gives 7), .pump 1 .up (.gives 4), .pump 1 .up (.gives 0), .hangUp 1,
    .pump 1 .up (.gives 0), .pump 1 .up (.gives 0), .pump 1 .up (.gives 0)]

theorem tunnel_run_forwards :
    Runs.EachStep trace (fun t label => steady t label = true) {} tunnelRun ∧ Runs.EachState trace Tunnels {} tunnelRun ∧
      (Runs.run trace {} tunnelRun).server.tx 0 = ascii "OK\r\nBRIDGE\r\nhello" := by
  have meets : Runs.EachStep trace (fun t label => steady t label = true) {} tunnelRun := by decide +kernel
  exact ⟨meets, (steady_runs_tunnel tunnelRun meets).1, by decide +kernel⟩

-- A CONNECT takes the device between its registration and its OK, which then arrives among the app's bytes.
def lateRun : List Label :=
  [Label.accept 3, .deliver 0 (ascii "REGISTER a smartlock2026\r\n")] ++ List.replicate 27 (Label.thread 0 (.gives 0)) ++
  ([Label.accept 4, .deliver 1 (ascii "CONNECT a\r\nhi")] ++ List.replicate 14 (Label.thread 1 (.gives 0))) ++
  [Label.pump 1 .up (.gives 9), .pump 1 .up (.gives 9), .thread 0 (.gives 0)]

theorem late_ok_enters_tunnel :
    (Runs.run trace {} lateRun).server.tx 0 = ascii "BRIDGE\r\nhiOK\r\n" ∧ ¬ Runs.EachState trace Tunnels {} lateRun := by
  have wire : (Runs.run trace {} lateRun).server.tx 0 = ascii "BRIDGE\r\nhiOK\r\n" := by decide +kernel
  refine ⟨wire, fun every => ?_⟩
  have last := Runs.each_state_last trace Tunnels {} lateRun every
  have took : Event.took 1 ⟨0, by decide⟩ 0 ∈ (Runs.run trace {} lateRun).history := by decide +kernel
  have arrived : (Runs.run trace {} lateRun).arrived 1 = ascii "CONNECT a" ++ crlf ++ ascii "hi" := by decide +kernel
  obtain ⟨passed, _, written⟩ := (last 1 _ 0 took).1 _ _ arrived (by decide) (by decide)
  rw [ToDevice, wire] at written
  cases written with
  | inl tunnelled =>
      have start : okLine.head? = some 79 := by decide
      have first := congrArg List.head? tunnelled
      rw [List.append_assoc, List.head?_append, start, Option.some_or] at first
      exact absurd first (by decide)
  | inr silent =>
      cases silent.2 with
      | inl nothing => exact absurd nothing (by decide)
      | inr ok => exact absurd ok (by decide)

end Intercom.Relay
