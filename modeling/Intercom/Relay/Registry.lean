import Intercom.Relay.Slots

set_option autoImplicit false

/- A registration stays in its slot until its device leaves, is replaced or is taken, as long as no step goes by
   a descriptor number that has been given to another connection, no slot is handed out under a running bridge
   and every id fits its slot. -/
namespace Intercom.Relay

open ByteText

-- The connection has registered the id in the slot; its peer has not left, the id has not been registered again
-- and no CONNECT has taken the device.
def Stands (history : List Event) (conn : ConnId) (slot : Fin maxDevices) (id : Bytes) : Prop :=
  ∃ early late, history = early ++ .registered conn slot id :: late ∧ .hungUp conn ∉ history ∧
    (∀ other taken, .registered other taken id ∉ late) ∧ ∀ client taken, .took client taken conn ∉ late

def Answered (history : List Event) (conn : ConnId) : Prop :=
  ∃ fd, .call ⟨fd, conn⟩ (.send (ascii "OK\r\n")) ∈ history

structure Offered (s : Server) (conn : ConnId) (slot : Fin maxDevices) (id : Bytes) : Prop where
  inUse : (s.slots slot).inUse = true
  sock : (s.slots slot).sock = s.own conn
  bridging : (s.slots slot).bridging = false
  found : findDevice s.slots id = some slot

def Kept (reached : Server × List Event) : Prop :=
  ∀ conn slot id, Stands reached.2 conn slot id → Answered reached.2 conn → Offered reached.1 conn slot id

-- The descriptors that a step closes or shuts down.
def cuts (s : Server) : Label → List Handle
  | .thread conn _ => closing s conn
  | .pump conn side _ =>
      match s.pc conn, side with
      | .bridge _ dev .stopping _, .up => [dev]
      | .bridge _ _ _ .stopping, .down => [s.own conn]
      | _, _ => []
  | _ => []

-- A registration fits a slot that no bridge uses; a watcher gives up the registration of its own connection.
def fits (s : Server) (conn : ConnId) : Bool :=
  match s.pc conn with
  | .register id =>
      decide (id.length ≤ 63) && (allocDeviceSlot (clearDevice s id).1.slots).all fun slot => !(s.slots slot).bridging
  | .releasing slot =>
      !((s.slots slot).inUse && (s.slots slot).sock.fd == s.fd conn) || (s.slots slot).sock.conn == conn
  | _ => true

def careful (reached : Server × List Event) (label : Label) : Bool :=
  (cuts reached.1 label).all (fun handle => !reissued reached.1 handle) &&
    match label with
    | .thread conn _ => fits reached.1 conn
    | _ => true

theorem stands_append (history events : List Event) (conn : ConnId) (slot : Fin maxDevices) (id : Bytes)
    (stands : Stands (history ++ events) conn slot id) :
    .registered conn slot id ∈ events ∨
      (Stands history conn slot id ∧ .hungUp conn ∉ events ∧ (∀ other taken, .registered other taken id ∉ events) ∧
        ∀ client taken, .took client taken conn ∉ events) := by
  obtain ⟨early, late, split, present, again, untaken⟩ := stands
  rw [List.mem_append, not_or] at present
  cases List.append_eq_append_iff.mp split with
  | inl inside =>
      obtain ⟨more, _, rest⟩ := inside
      left
      rw [rest]
      exact List.mem_append_right _ List.mem_cons_self
  | inr outside =>
      obtain ⟨more, before, rest⟩ := outside
      cases more with
      | nil =>
          left
          rw [List.nil_append] at rest
          rw [← rest]
          exact List.mem_cons_self
      | cons first tail =>
          right
          rw [List.cons_append, List.cons.injEq] at rest
          obtain ⟨rfl, rfl⟩ := rest
          refine ⟨⟨early, tail, before, present.1, ?_, ?_⟩, present.2, ?_, ?_⟩
          · exact fun other taken member => again other taken (List.mem_append_left _ member)
          · exact fun client taken member => untaken client taken (List.mem_append_left _ member)
          · exact fun other taken member => again other taken (List.mem_append_right _ member)
          · exact fun client taken member => untaken client taken (List.mem_append_right _ member)

structure Registered (s : Server) (conn : ConnId) (slot : Fin maxDevices) (id : Bytes) : Prop where
  found : Free s slot
  sock : (s.slots slot).sock = s.own conn
  named : (s.slots slot).deviceId = id

structure Registry (reached : Server × List Event) : Prop where
  base : Base reached.1
  sound : Sound reached.1
  left : ∀ conn, reached.1.gone conn = true → .hungUp conn ∈ reached.2
  kept : ∀ conn slot id, Stands reached.2 conn slot id → Registered reached.1 conn slot id

theorem registry_initial : Registry initial := by
  refine ⟨base_initial, ?_, fun _ gone => absurd gone (by simp [initial]), ?_⟩
  · constructor
    · exact fun _ _ uses => absurd uses (by simp [initial, Pc.uses])
    · exact fun _ _ _ uses => absurd uses (by simp [initial, Pc.uses])
    · exact fun _ _ found => absurd found.1 (by simp [initial])
    · exact fun _ early => absurd early (by simp [initial, Pc.early])
    · exact fun _ found => absurd found.1 (by simp [initial])
  · intro conn slot id stands
    obtain ⟨early, late, split, _⟩ := stands
    simp [initial] at split

theorem registered_now (s : Server) (conn owner : ConnId) (result : Server × List Event) (moved : Move s conn result)
    (careful : Careful s conn result.2) (slot : Fin maxDevices) (id : Bytes)
    (now : .registered owner slot id ∈ result.2) : Registered result.1 owner slot id := by
  cases moved with
  | quiet pc rx tx events alike calls =>
      obtain ⟨handle, call, impossible, _⟩ := calls _ now
      cases impossible
  | lost other pc why => cases List.mem_singleton.mp now
  | shuts pc handle other bridging alike has => cases List.mem_singleton.mp now
  | closes handle pc step => cases List.mem_singleton.mp now
  | register name pc =>
      obtain ⟨short, unbridged⟩ := careful.registers name pc
      have cleared : .registered owner slot id ∉ (clearDevice s name).2 := by
        rw [clear_device_events, Option.mem_toList, Option.map_eq_some_iff]
        rintro ⟨_, _, impossible⟩
        cases impossible
      cases free : allocDeviceSlot (clearDevice s name).1.slots with
      | none =>
          simp only [registerStep, free] at now
          exact absurd now cleared
      | some taken =>
          simp only [registerStep, free, List.mem_append, List.mem_singleton, Event.registered.injEq] at now
          obtain ⟨rfl, rfl, rfl⟩ := now.resolve_left cleared
          have bridging := (clear_device_bridging s id slot).trans (unbridged slot free)
          simp only [registerStep, free, Server.goto]
          constructor
          · exact ⟨by simp, by simpa using bridging⟩
          · simp [Server.own, (clear_device_same s id).2.1]
          · simpa using short
  | releasing other pc =>
      rw [releasingStep] at now
      split at now <;> exact absurd now List.not_mem_nil
  | connect name pc =>
      rw [connectStep] at now
      split at now
      · exact absurd now List.not_mem_nil
      · cases List.mem_singleton.mp now
  | release other dev pc => exact absurd now List.not_mem_nil

theorem registry_move (reached : Server × List Event) (conn : ConnId) (born : conn < reached.1.nextConn)
    (result : Server × List Event) (registry : Registry reached) (moved : Move reached.1 conn result)
    (careful : Careful reached.1 conn result.2) : Registry (result.1, reached.2 ++ result.2) := by
  have beside := move_beside reached.1 conn result registry.base moved
  constructor
  · exact base_beside reached.1 result.1 conn born registry.base beside
  · exact sound_move reached.1 conn result registry.base registry.sound moved careful
  · intro other gone
    dsimp only at gone
    rw [move_gone reached.1 conn result moved] at gone
    exact List.mem_append_left _ (registry.left other gone)
  · intro owner slot id stands
    cases stands_append reached.2 result.2 owner slot id stands with
    | inl now => exact registered_now reached.1 conn owner result moved careful slot id now
    | inr before =>
        obtain ⟨stood, _, again, untaken⟩ := before
        obtain ⟨found, sock, named⟩ := registry.kept owner slot id stood
        have present : reached.1.gone owner = false := by
          obtain ⟨_, _, _, present, _⟩ := stood
          exact Bool.eq_false_iff.mpr fun gone => present (registry.left owner gone)
        have same : result.1.slots slot = reached.1.slots slot := by
          apply given_up reached.1 conn result registry.sound moved careful slot found
          · rw [sock]
            exact present
          · rw [named]
            exact again
          · rw [sock]
            exact untaken
        constructor
        · rw [Free, same]
          exact found
        · dsimp only
          rw [same, sock, Server.own, Server.own, beside.fd]
        · dsimp only
          rw [same, named]

-- A step of the environment leaves the slots as they are.
theorem registry_environment (reached : Server × List Event) (after : Server) (events : List Event)
    (registry : Registry reached) (base : Base after) (sound : Sound after) (slots : after.slots = reached.1.slots)
    (fd : ∀ conn, conn < reached.1.nextConn → after.fd conn = reached.1.fd conn)
    (left : ∀ conn, after.gone conn = true → reached.1.gone conn = true ∨ .hungUp conn ∈ events)
    (quiet : ∀ conn slot id, .registered conn slot id ∉ events) : Registry (after, reached.2 ++ events) := by
  constructor
  · exact base
  · exact sound
  · intro conn gone
    cases left conn gone with
    | inl before => exact List.mem_append_left _ (registry.left conn before)
    | inr now => exact List.mem_append_right _ now
  · intro conn slot id stands
    have before := (stands_append reached.2 events conn slot id stands).resolve_left (quiet conn slot id)
    obtain ⟨found, sock, named⟩ := registry.kept conn slot id before.1
    have watches := (registry.base.held slot found.1).1
    rw [sock] at watches
    have born := base_born reached.1 registry.base conn (watches_settled _ slot watches).2.2
    constructor
    · rw [Free, slots]
      exact found
    · dsimp only
      rw [slots, sock, Server.own, Server.own, fd conn born]
    · dsimp only
      rw [slots, named]

-- Reading and talking cut nothing.
theorem say_gentle (s : Server) (conn : ConnId) (handle : Handle) (line : Bytes) (pc : Pc) (answer : Answer) (cut : Handle)
    (call : Call) (member : .call cut call ∈ (sayStep s conn handle line pc answer).2) : call.gentle = true := by
  rw [sayStep] at member
  split at member
  · exact absurd member List.not_mem_nil
  · cases List.mem_singleton.mp member
    rfl

theorem read_gentle (s : Server) (conn : ConnId) (line : Bytes) (answer : Answer) (cut : Handle) (call : Call)
    (member : .call cut call ∈ (readStep s conn line answer).2) : call.gentle = true := by
  rw [readStep] at member
  split at member
  · exact absurd member List.not_mem_nil
  · cases List.mem_singleton.mp member
    rfl
  · cases List.mem_singleton.mp member
    rfl

theorem watch_gentle (s : Server) (conn : ConnId) (slot : Fin maxDevices) (answer : Answer) (cut : Handle) (call : Call)
    (member : .call cut call ∈ (watchStep s conn slot answer).2) : call.gentle = true := by
  rw [watchStep] at member
  split at member
  · exact absurd member List.not_mem_nil
  · cases List.mem_singleton.mp member
    rfl
  · cases List.mem_singleton.mp member
    rfl

theorem register_cuts (s : Server) (conn : ConnId) (id : Bytes) (pc : s.pc conn = .register id) (cut : Handle) (call : Call)
    (member : .call cut call ∈ (registerStep s conn id).2) : cut ∈ closing s conn := by
  have cleared : .call cut call ∈ (clearDevice s id).2 := by
    cases register_events s conn id with
    | inl same => exact same ▸ member
    | inr more =>
        obtain ⟨slot, same⟩ := more
        rw [same, List.mem_append] at member
        cases member with
        | inl early => exact early
        | inr last => cases List.mem_singleton.mp last
  rw [clear_device_events, Option.mem_toList, Option.map_eq_some_iff] at cleared
  obtain ⟨slot, found, same⟩ := cleared
  cases same
  simp [closing, pc, found]

theorem thread_cuts (s : Server) (conn : ConnId) (answer : Answer) (cut : Handle) (call : Call)
    (member : .call cut call ∈ (threadStep s conn answer).2) (rough : call.gentle = false) : cut ∈ closing s conn := by
  have contradiction : call.gentle = true → cut ∈ closing s conn := fun gentle => absurd (gentle.symm.trans rough) (by decide)
  unfold threadStep at member
  split at member
  · exact contradiction (read_gentle s conn _ answer cut call member)
  · exact contradiction (say_gentle s conn _ _ _ answer cut call member)
  · rename_i id pc
    exact register_cuts s conn id pc cut call member
  · exact contradiction (say_gentle s conn _ _ _ answer cut call member)
  · exact contradiction (watch_gentle s conn _ answer cut call member)
  · rw [releasingStep] at member
    split at member <;> exact absurd member List.not_mem_nil
  · rw [connectStep] at member
    split at member
    · exact absurd member List.not_mem_nil
    · cases List.mem_singleton.mp member
  · exact contradiction (say_gentle s conn _ _ _ answer cut call member)
  · exact contradiction (say_gentle s conn _ _ _ answer cut call member)
  · exact absurd member List.not_mem_nil
  · exact absurd member List.not_mem_nil
  · exact absurd member List.not_mem_nil
  · rename_i dev pc
    cases List.mem_singleton.mp member
    simp [closing, pc]
  · rename_i dev pc
    cases List.mem_singleton.mp member
    simp [closing, pc]
  · rename_i pc
    cases List.mem_singleton.mp member
    simp [closing, pc]
  · exact absurd member List.not_mem_nil

theorem pump_cuts (s : Server) (conn : ConnId) (source target : Handle) (pump : Pump) (back : Pump → Pc) (answer : Answer)
    (cut : Handle) (call : Call) (member : .call cut call ∈ (pumpStep s conn source target pump back answer).2)
    (rough : call.gentle = false) : pump = .stopping ∧ cut = target := by
  have contradiction : call.gentle = true → pump = .stopping ∧ cut = target :=
    fun gentle => absurd (gentle.symm.trans rough) (by decide)
  cases pump with
  | receiving =>
      simp only [pumpStep] at member
      split at member
      · exact absurd member List.not_mem_nil
      · cases List.mem_singleton.mp member
        exact contradiction rfl
      · cases List.mem_singleton.mp member
        exact contradiction rfl
  | sending left =>
      simp only [pumpStep] at member
      split at member
      · exact absurd member List.not_mem_nil
      · split at member
        · cases List.mem_singleton.mp member
          exact contradiction rfl
        · cases List.mem_singleton.mp member
          exact contradiction rfl
  | stopping =>
      cases List.mem_singleton.mp member
      exact ⟨rfl, rfl⟩
  | done => exact absurd member List.not_mem_nil

theorem bridge_cuts (s : Server) (conn : ConnId) (side : Side) (answer : Answer) (cut : Handle) (call : Call)
    (member : .call cut call ∈ (bridgeStep s conn side answer).2) (rough : call.gentle = false) :
    cut ∈ cuts s (.pump conn side answer) := by
  unfold bridgeStep at member
  split at member
  · rename_i slot dev up down pc
    cases side with
    | up =>
        obtain ⟨stopping, rfl⟩ := pump_cuts s conn _ dev up _ answer cut call member rough
        simp [cuts, pc, stopping]
    | down =>
        obtain ⟨stopping, rfl⟩ := pump_cuts s conn dev _ down _ answer cut call member rough
        simp [cuts, pc, stopping]
  · exact absurd member List.not_mem_nil

theorem careful_cuts (reached : Server × List Event) (label : Label) (meets : careful reached label = true) (cut : Handle)
    (member : cut ∈ cuts reached.1 label) : reissued reached.1 cut = false := by
  unfold careful at meets
  rw [Bool.and_eq_true, List.all_eq_true] at meets
  simpa using meets.1 cut member

theorem careful_thread (reached : Server × List Event) (conn : ConnId) (answer : Answer)
    (meets : careful reached (.thread conn answer) = true) : Careful reached.1 conn (threadStep reached.1 conn answer).2 := by
  have fitting : fits reached.1 conn = true := by
    rw [careful, Bool.and_eq_true] at meets
    exact meets.2
  constructor
  · intro handle call member rough
    exact careful_cuts reached _ meets handle (thread_cuts reached.1 conn answer handle call member rough)
  · intro id pc
    simp only [fits, pc, Bool.and_eq_true, decide_eq_true_eq] at fitting
    refine ⟨fitting.1, fun slot found => ?_⟩
    simpa [found] using fitting.2
  · intro slot pc used number
    simpa [fits, pc, used, number] using fitting

theorem careful_pump (reached : Server × List Event) (conn : ConnId) (side : Side) (answer : Answer)
    (bridging : ∃ slot, (reached.1.pc conn).uses = some slot) (meets : careful reached (.pump conn side answer) = true) :
    Careful reached.1 conn (bridgeStep reached.1 conn side answer).2 := by
  obtain ⟨slot, uses⟩ := bridging
  constructor
  · intro handle call member rough
    exact careful_cuts reached _ meets handle (bridge_cuts reached.1 conn side answer handle call member rough)
  · intro id pc
    rw [pc] at uses
    cases uses
  · intro other pc
    rw [pc] at uses
    cases uses

theorem bridge_uses (s : Server) (conn : ConnId) (side : Side) (answer : Answer) :
    (∃ slot, (s.pc conn).uses = some slot) ∨ bridgeStep s conn side answer = (s, []) := by
  unfold bridgeStep
  split
  · rename_i slot dev up down pc
    exact .inl ⟨slot, by rw [pc]; rfl⟩
  · exact .inr rfl

theorem registry_still (reached : Server × List Event) (registry : Registry reached) : Registry (reached.1, reached.2 ++ []) := by
  rw [List.append_nil]
  exact registry

theorem registry_next (reached : Server × List Event) (label : Label) (registry : Registry reached)
    (meets : careful reached label = true) : Registry (next reached label) := by
  have base := base_change reached.1 _ registry.base (step_changes reached.1 registry.base label)
  rw [next, Runs.record]
  cases label with
  | accept fd =>
      simp only [step, acceptStep] at base ⊢
      split
      · exact registry_still reached registry
      · rename_i closed
        rw [if_neg closed] at base
        apply registry_environment reached _ _ registry base
        · exact sound_accept reached.1 fd registry.base registry.sound (by simpa using closed)
        · rfl
        · exact fun conn born => Function.update_of_ne (Nat.ne_of_lt born) _ _
        · exact fun conn gone => .inl gone
        · exact fun conn slot id member => by cases List.mem_singleton.mp member
  | deliver conn bytes =>
      simp only [step] at base ⊢
      split
      · rename_i born
        rw [if_pos born] at base
        have sound := registry.sound
        apply registry_environment reached _ _ registry base
        · exact ⟨sound.users, sound.exclusive, sound.unique, sound.early, fun slot found => (by
            have socket := sound.sockets slot found
            exact ⟨socket.opened, socket.unshut, socket.apart, socket.attends⟩)⟩
        · rfl
        · exact fun _ _ => rfl
        · exact fun conn gone => .inl gone
        · exact fun _ _ _ member => absurd member List.not_mem_nil
      · exact registry_still reached registry
  | hangUp conn =>
      simp only [step] at base ⊢
      split
      · rename_i born
        rw [if_pos born] at base
        apply registry_environment reached _ _ registry base
        · exact sound_hang_up reached.1 conn registry.sound
        · rfl
        · exact fun _ _ => rfl
        · intro other gone
          by_cases same : other = conn
          · exact .inr (by simp [same])
          · exact .inl (by simpa [Function.update_of_ne same] using gone)
        · exact fun _ _ _ member => by cases List.mem_singleton.mp member
      · exact registry_still reached registry
  | thread conn answer =>
      by_cases born : conn < reached.1.nextConn
      · exact registry_move reached conn born _ registry (thread_moves reached.1 conn answer)
          (careful_thread reached conn answer meets)
      · have idle := (registry.base.unborn conn (Nat.le_of_not_lt born)).1
        simp only [step, threadStep, idle]
        exact registry_still reached registry
  | pump conn side answer =>
      simp only [step]
      cases bridge_uses reached.1 conn side answer with
      | inl bridging =>
          have born : conn < reached.1.nextConn := by
            apply base_born reached.1 registry.base
            obtain ⟨slot, uses⟩ := bridging
            intro idle
            rw [idle] at uses
            cases uses
          exact registry_move reached conn born _ registry (bridge_moves reached.1 conn side answer)
            (careful_pump reached conn side answer bridging meets)
      | inr still =>
          rw [still]
          exact registry_still reached registry

theorem registry_offers (reached : Server × List Event) (registry : Registry reached) : Kept reached := by
  intro conn slot id stands _
  obtain ⟨found, sock, named⟩ := registry.kept conn slot id stands
  refine ⟨found.1, sock, found.2, ?_⟩
  apply find_device_only
  · simp [visible, found.1, found.2, named]
  · intro other seen
    simp only [visible, Bool.and_eq_true, Bool.not_eq_true', beq_iff_eq] at seen
    exact registry.sound.unique other slot ⟨seen.1.1, seen.1.2⟩ found (seen.2.trans named.symm)

theorem careful_runs_keep_registrations (labels : List Label)
    (meets : Runs.EachStep next (fun reached label => careful reached label = true) initial labels) :
    Runs.EachState next Kept initial labels := by
  have registry := Runs.each_state_of_steps next Registry _ initial labels
    (fun reached label before kept => registry_next reached label before kept) registry_initial meets
  exact Runs.each_state_mono next Kept Registry initial labels registry_offers registry

-- Two devices register; one is taken, bridged and closed, and the other is still found.
def neighbourRun : List Label :=
  registerRun 0 3 "REGISTER a smartlock2026\r\n" ++ registerRun 1 4 "REGISTER d smartlock2026\r\n" ++
  ([Label.accept 5, .deliver 2 (ascii "CONNECT a\r\n")] ++ List.replicate 14 (Label.thread 2 (.gives 0))) ++
  [Label.hangUp 2, .pump 2 .up .fails, .pump 2 .up .fails, .pump 2 .down .fails, .pump 2 .down .fails] ++
  List.replicate 4 (Label.thread 2 .fails) ++ [Label.thread 0 .fails, .thread 0 .fails, .thread 0 .fails]

theorem neighbour_keeps_registration :
    Runs.EachStep next (fun reached label => careful reached label = true) initial neighbourRun ∧
      Runs.EachState next Kept initial neighbourRun ∧
      (findDevice (Runs.run next initial neighbourRun).1.slots (ascii "d")).isSome = true := by
  have meets : Runs.EachStep next (fun reached label => careful reached label = true) initial neighbourRun := by
    decide +kernel
  exact ⟨meets, careful_runs_keep_registrations neighbourRun meets, by decide +kernel⟩

-- A device leaves during its bridge and its watcher frees the slot; another device gets the slot and loses it at
-- the end of the bridge.
def removedRun : List Label :=
  registerRun 0 3 "REGISTER a smartlock2026\r\n" ++
  ([Label.accept 4, .deliver 1 (ascii "CONNECT a\r\n")] ++ List.replicate 14 (Label.thread 1 (.gives 0))) ++
  [Label.hangUp 0, .thread 0 .fails, .thread 0 .fails] ++ registerRun 2 5 "REGISTER d smartlock2026\r\n" ++
  [Label.pump 1 .down .fails, .pump 1 .down .fails, .pump 1 .up .fails, .pump 1 .up .fails, .thread 1 .fails, .thread 1 .fails]

theorem removed_run_stands :
    Stands (Runs.run next initial removedRun).2 2 ⟨0, by decide⟩ (ascii "d") := by
  refine ⟨(Runs.run next initial removedRun).2.take 73,
    [.call ⟨5, 2⟩ (.send (ascii "OK\r\n")), .call ⟨3, 0⟩ .recv, .call ⟨4, 1⟩ .shutdown, .call ⟨4, 1⟩ .recv,
      .call ⟨3, 0⟩ .shutdown], by decide +kernel, by decide +kernel, ?_, ?_⟩
  · intro other taken member
    simp at member
  · intro client taken member
    simp at member

theorem bridge_end_removes_registration : ¬ Runs.EachState next Kept initial removedRun := by
  intro every
  have last := Runs.each_state_last next Kept initial removedRun every
  have offered := last 2 ⟨0, by decide⟩ (ascii "d") removed_run_stands ⟨5, by decide +kernel⟩
  have removed : ((Runs.run next initial removedRun).1.slots ⟨0, by decide⟩).inUse = false := by decide +kernel
  exact absurd (offered.inUse.symm.trans removed) (by decide)

end Intercom.Relay
