import Intercom.Relay.Moves

set_option autoImplicit false

/- What holds in every state of the relay, whatever the threads do: a slot in use is looked after by the thread
   of its connection, and every stored descriptor is the one its connection was accepted with. -/
namespace Intercom.Relay

open ByteText

def visible (slot : Slot) (id : Bytes) : Bool := slot.inUse && !slot.bridging && slot.deviceId == id

theorem find_device_found (slots : Fin maxDevices → Slot) (id : Bytes) (slot : Fin maxDevices)
    (found : findDevice slots id = some slot) :
    (slots slot).inUse = true ∧ (slots slot).bridging = false ∧ (slots slot).deviceId = id := by
  have holds := List.find?_some found
  simpa [and_assoc] using holds

theorem find_device_only (slots : Fin maxDevices → Slot) (id : Bytes) (slot : Fin maxDevices)
    (here : visible (slots slot) id = true) (only : ∀ other, visible (slots other) id = true → other = slot) :
    findDevice slots id = some slot := by
  cases found : findDevice slots id with
  | none =>
      have nowhere := List.find?_eq_none.mp found slot (List.mem_finRange slot)
      exact absurd here nowhere
  | some other =>
      have there : visible (slots other) id = true := by
        obtain ⟨used, free, same⟩ := find_device_found slots id other found
        simp [visible, used, free, same]
      exact congrArg some (only other there)

theorem find_device_none (slots : Fin maxDevices → Slot) (id : Bytes) (missing : findDevice slots id = none)
    (slot : Fin maxDevices) : visible (slots slot) id = false := by
  have nowhere := List.find?_eq_none.mp missing slot (List.mem_finRange slot)
  simpa [visible] using nowhere

theorem alloc_free (slots : Fin maxDevices → Slot) (slot : Fin maxDevices) (found : allocDeviceSlot slots = some slot) :
    (slots slot).inUse = false := by
  simpa using List.find?_some found

theorem alloc_none (slots : Fin maxDevices → Slot) (full : allocDeviceSlot slots = none) (slot : Fin maxDevices) :
    (slots slot).inUse = true := by
  simpa using List.find?_eq_none.mp full slot (List.mem_finRange slot)

structure Base (s : Server) : Prop where
  held : ∀ slot, (s.slots slot).inUse = true →
    (s.pc (s.slots slot).sock.conn).watches = some slot ∧ (s.slots slot).sock.fd = s.fd (s.slots slot).sock.conn
  devices : ∀ conn dev, (s.pc conn).device = some dev →
    dev.fd = s.fd dev.conn ∧ (s.pc dev.conn).settled = true ∧ dev.conn < s.nextConn
  unborn : ∀ conn, s.nextConn ≤ conn → s.pc conn = .finished ∧ s.gone conn = false ∧ s.shut conn = false
  opened : ∀ fd conn, s.fds fd = some conn → s.fd conn = fd ∧ conn < s.nextConn

theorem base_initial : Base initial.1 :=
  ⟨fun _ used => absurd used (by simp [initial]), fun _ _ held => absurd held (by simp [initial, Pc.device]),
    fun _ _ => ⟨rfl, rfl, rfl⟩, fun _ _ live => absurd live (by simp [initial])⟩

theorem base_born (s : Server) (base : Base s) (conn : ConnId) (running : s.pc conn ≠ .finished) : conn < s.nextConn := by
  by_contra unborn
  exact running (base.unborn conn (Nat.le_of_not_lt unborn)).1

inductive Change (s : Server) : Server × List Event → Prop where
  | accept (fd : Nat) (free : s.fds fd = none) : Change s
      ({ s with
          fds := Function.update s.fds fd (some s.nextConn), fd := Function.update s.fd s.nextConn fd
          pc := Function.update s.pc s.nextConn (.reading []), nextConn := s.nextConn + 1 },
        [.accepted s.nextConn])
  | deliver (rx : ConnId → Bytes) : Change s ({ s with rx := rx }, [])
  | hangUp (conn : ConnId) (born : conn < s.nextConn) :
      Change s ({ s with gone := Function.update s.gone conn true }, [.hungUp conn])
  | move (conn : ConnId) (born : conn < s.nextConn) (result : Server × List Event) (moved : Move s conn result) :
      Change s result

-- A label for a thread that does not run changes nothing.
theorem step_changes (s : Server) (base : Base s) (label : Label) : Change s (step s label) := by
  have nothing : Change s (s, []) := Change.deliver s.rx
  cases label with
  | accept fd =>
      simp only [step, acceptStep]
      split
      · exact nothing
      · rename_i closed
        exact Change.accept fd (by simpa using closed)
  | deliver conn bytes =>
      simp only [step]
      split
      · exact Change.deliver _
      · exact nothing
  | hangUp conn =>
      simp only [step]
      split
      · exact Change.hangUp conn ‹_›
      · exact nothing
  | thread conn answer =>
      by_cases born : conn < s.nextConn
      · exact Change.move conn born _ (thread_moves s conn answer)
      · have idle := (base.unborn conn (Nat.le_of_not_lt born)).1
        simp only [step, threadStep, idle]
        exact nothing
  | pump conn side answer =>
      by_cases born : conn < s.nextConn
      · exact Change.move conn born _ (bridge_moves s conn side answer)
      · have idle := (base.unborn conn (Nat.le_of_not_lt born)).1
        simp only [step, bridgeStep, idle]
        exact nothing

theorem shutdown_fds (s : Server) (fd : Nat) :
    (shutdownFd s fd).fds = s.fds ∧ (shutdownFd s fd).slots = s.slots ∧ (shutdownFd s fd).fd = s.fd ∧
      (shutdownFd s fd).nextConn = s.nextConn ∧ (shutdownFd s fd).gone = s.gone ∧ (shutdownFd s fd).pc = s.pc := by
  unfold shutdownFd
  split <;> exact ⟨rfl, rfl, rfl, rfl, rfl, rfl⟩

theorem shutdown_others (s : Server) (fd : Nat) (conn : ConnId) (other : s.fds fd ≠ some conn) :
    (shutdownFd s fd).shut conn = s.shut conn := by
  unfold shutdownFd
  split
  · rfl
  · rename_i target live
    have different : conn ≠ target := fun same => other (same ▸ live)
    exact Function.update_of_ne different _ _

theorem close_fds (s : Server) (fd number : Nat) (conn : ConnId) (live : (closeFd s fd).fds number = some conn) :
    s.fds number = some conn ∧ number ≠ fd := by
  by_cases same : number = fd
  · rw [same, closeFd] at live
    simp at live
  · rw [closeFd] at live
    simp only [Function.update_of_ne same] at live
    exact ⟨live, same⟩

-- One thread moves; a slot in use afterwards was in use before, or is the one the thread has just taken.
structure Beside (s after : Server) (conn : ConnId) : Prop where
  slots : ∀ slot, (after.slots slot).inUse = true →
    ((after.slots slot).sock = s.own conn ∧ (after.pc conn).watches = some slot) ∨
    ((s.slots slot).inUse = true ∧ (after.slots slot).sock = (s.slots slot).sock ∧
      ((s.slots slot).sock.conn = conn → (after.pc conn).watches = some slot))
  fd : after.fd = s.fd
  nextConn : after.nextConn = s.nextConn
  fds : ∀ fd target, after.fds fd = some target → s.fds fd = some target
  flags : ∀ other, s.nextConn ≤ other → after.gone other = s.gone other ∧ after.shut other = s.shut other
  others : ∀ other, other ≠ conn → after.pc other = s.pc other
  device : ∀ dev, (after.pc conn).device = some dev →
    (s.pc conn).device = some dev ∨ ∃ slot, (s.slots slot).inUse = true ∧ (s.slots slot).sock = dev
  settled : (s.pc conn).settled = true → (after.pc conn).settled = true

theorem watches_settled (pc : Pc) (slot : Fin maxDevices) (watches : pc.watches = some slot) :
    pc.settled = true ∧ pc.live = true ∧ pc ≠ .finished := by
  cases pc <;> simp_all [Pc.watches, Pc.settled, Pc.live]

theorem base_beside (s after : Server) (conn : ConnId) (born : conn < s.nextConn) (base : Base s)
    (beside : Beside s after conn) : Base after := by
  have settled : ∀ other, (s.pc other).settled = true → (after.pc other).settled = true := by
    intro other before
    by_cases same : other = conn
    · rw [same] at before ⊢
      exact beside.settled before
    · rwa [beside.others other same]
  have known : ∀ other dev, (after.pc other).device = some dev →
      dev.fd = s.fd dev.conn ∧ (s.pc dev.conn).settled = true ∧ dev.conn < s.nextConn := by
    intro other dev has
    by_cases same : other = conn
    · rw [same] at has
      cases beside.device dev has with
      | inl before => exact base.devices conn dev before
      | inr stored =>
          obtain ⟨slot, used, sock⟩ := stored
          obtain ⟨watches, number⟩ := base.held slot used
          rw [sock] at watches number
          obtain ⟨settledDevice, _, running⟩ := watches_settled _ slot watches
          exact ⟨number, settledDevice, base_born s base dev.conn running⟩
    · rw [beside.others other same] at has
      exact base.devices other dev has
  constructor
  · intro slot used
    cases beside.slots slot used with
    | inl fresh =>
        rw [fresh.1, beside.fd]
        exact ⟨fresh.2, rfl⟩
    | inr old =>
        obtain ⟨usedBefore, sock, own⟩ := old
        obtain ⟨watches, number⟩ := base.held slot usedBefore
        rw [sock, beside.fd]
        refine ⟨?_, number⟩
        by_cases same : (s.slots slot).sock.conn = conn
        · rw [same]
          exact own same
        · rw [beside.others _ same]
          exact watches
  · intro other dev has
    obtain ⟨number, before, bornDevice⟩ := known other dev has
    rw [beside.fd, beside.nextConn]
    exact ⟨number, settled dev.conn before, bornDevice⟩
  · intro other unborn
    rw [beside.nextConn] at unborn
    have different : other ≠ conn := fun same => absurd born (Nat.not_lt.mpr (same ▸ unborn))
    rw [beside.others other different, (beside.flags other unborn).1, (beside.flags other unborn).2]
    exact base.unborn other unborn
  · intro fd target live
    rw [beside.fd, beside.nextConn]
    exact base.opened fd target (beside.fds fd target live)

theorem goto_conn (s : Server) (conn : ConnId) (pc : Pc) : (s.goto conn pc).pc conn = pc := Function.update_self _ _ _

theorem goto_other (s : Server) (conn other : ConnId) (pc : Pc) (different : other ≠ conn) :
    (s.goto conn pc).pc other = s.pc other :=
  Function.update_of_ne different _ _

-- The thread of a slot keeps watching it.
theorem kept_slots (s after : Server) (conn : ConnId) (base : Base s) (same : after.slots = s.slots)
    (watches : (after.pc conn).watches = (s.pc conn).watches) (slot : Fin maxDevices)
    (used : (after.slots slot).inUse = true) :
    ((after.slots slot).sock = s.own conn ∧ (after.pc conn).watches = some slot) ∨
    ((s.slots slot).inUse = true ∧ (after.slots slot).sock = (s.slots slot).sock ∧
      ((s.slots slot).sock.conn = conn → (after.pc conn).watches = some slot)) := by
  rw [same] at used ⊢
  refine .inr ⟨used, rfl, fun own => ?_⟩
  rw [watches, ← own]
  exact (base.held slot used).1

theorem clear_device_same (s : Server) (id : Bytes) :
    (clearDevice s id).1.pc = s.pc ∧ (clearDevice s id).1.fd = s.fd ∧ (clearDevice s id).1.nextConn = s.nextConn ∧
      (clearDevice s id).1.gone = s.gone ∧ (clearDevice s id).1.shut = s.shut := by
  unfold clearDevice
  split <;> exact ⟨rfl, rfl, rfl, rfl, rfl⟩

theorem clear_device_fds (s : Server) (id : Bytes) (fd : Nat) (target : ConnId)
    (live : (clearDevice s id).1.fds fd = some target) : s.fds fd = some target := by
  unfold clearDevice at live
  split at live
  · exact live
  · exact (close_fds s _ fd target live).1

theorem clear_device_slots (s : Server) (id : Bytes) (slot : Fin maxDevices)
    (used : ((clearDevice s id).1.slots slot).inUse = true) : (clearDevice s id).1.slots slot = s.slots slot := by
  unfold clearDevice at used ⊢
  split at used
  · rfl
  · rename_i existing _
    by_cases same : slot = existing
    · rw [same] at used
      simp at used
    · simp [Function.update_of_ne same]

theorem clear_device_bridging (s : Server) (id : Bytes) (slot : Fin maxDevices) :
    ((clearDevice s id).1.slots slot).bridging = (s.slots slot).bridging := by
  cases found : findDevice s.slots id with
  | none => simp only [clearDevice, found]
  | some existing =>
      by_cases same : slot = existing
      · simp [clearDevice, found, same]
      · simp [clearDevice, found, Function.update_of_ne same]

theorem register_beside (s : Server) (conn : ConnId) (id : Bytes) (base : Base s) (pc : s.pc conn = .register id) :
    Beside s (registerStep s conn id).1 conn := by
  obtain ⟨samePc, sameFd, sameNext, sameGone, sameShut⟩ := clear_device_same s id
  have foreign : ∀ slot, (s.slots slot).inUse = true → (s.slots slot).sock.conn ≠ conn := by
    intro slot used same
    have watches := (base.held slot used).1
    rw [same, pc] at watches
    cases watches
  have old : ∀ slot, ((clearDevice s id).1.slots slot).inUse = true → (s.slots slot).inUse = true ∧
      ((clearDevice s id).1.slots slot).sock = (s.slots slot).sock := by
    intro slot used
    have same := clear_device_slots s id slot used
    rw [same] at used ⊢
    exact ⟨used, rfl⟩
  rw [registerStep]
  dsimp only
  split
  · exact
      { slots := fun slot used => .inr ⟨(old slot used).1, (old slot used).2, fun own => absurd own (foreign slot (old slot used).1)⟩
        fd := sameFd, nextConn := sameNext, fds := clear_device_fds s id
        flags := fun other _ => ⟨congrFun sameGone other, congrFun sameShut other⟩
        others := fun other different => (goto_other _ conn other _ different).trans (congrFun samePc other)
        device := fun dev has => by rw [goto_conn] at has; cases has
        settled := fun before => by rw [pc] at before; cases before }
  · rename_i slot free
    refine
      { slots := fun other used => ?_
        fd := sameFd, nextConn := sameNext, fds := clear_device_fds s id
        flags := fun other _ => ⟨congrFun sameGone other, congrFun sameShut other⟩
        others := fun other different => (goto_other _ conn other _ different).trans (congrFun samePc other)
        device := fun dev has => by rw [goto_conn] at has; cases has
        settled := fun _ => by rw [goto_conn]; rfl }
    by_cases same : other = slot
    · left
      rw [goto_conn, same]
      exact ⟨by simp [Server.goto], rfl⟩
    · right
      have before : ((clearDevice s id).1.slots other).inUse = true := by
        simpa [Server.goto, Function.update_of_ne same] using used
      obtain ⟨usedBefore, sock⟩ := old other before
      exact ⟨usedBefore, by simpa [Server.goto, Function.update_of_ne same] using sock,
        fun own => absurd own (foreign other usedBefore)⟩

theorem releasing_beside (s : Server) (conn : ConnId) (slot : Fin maxDevices) (base : Base s)
    (pc : s.pc conn = .releasing slot) : Beside s (releasingStep s conn slot).1 conn := by
  -- The thread's own registration can only stand in the slot it names, under its own descriptor.
  have mine : ∀ other, (s.slots other).inUse = true → (s.slots other).sock.conn = conn →
      other = slot ∧ (s.slots other).sock.fd = s.fd conn := by
    intro other used own
    obtain ⟨watches, number⟩ := base.held other used
    rw [own] at watches number
    rw [pc] at watches
    exact ⟨(Option.some.inj watches).symm, number⟩
  rw [releasingStep]
  split
  · rename_i matched
    refine
      { slots := fun other used => ?_
        fd := rfl, nextConn := rfl, fds := fun _ _ live => live, flags := fun _ _ => ⟨rfl, rfl⟩
        others := fun other different => goto_other _ conn other _ different
        device := fun dev has => by rw [goto_conn] at has; cases has
        settled := fun _ => by rw [goto_conn]; rfl }
    by_cases same : other = slot
    · rw [same] at used
      simp [Server.goto] at used
    · have before : (s.slots other).inUse = true := by simpa [Server.goto, Function.update_of_ne same] using used
      exact .inr ⟨before, by simp [Server.goto, Function.update_of_ne same], fun own => absurd (mine other before own).1 same⟩
  · rename_i unmatched
    refine
      { slots := fun other used => ?_
        fd := rfl, nextConn := rfl, fds := fun _ _ live => live, flags := fun _ _ => ⟨rfl, rfl⟩
        others := fun other different => goto_other _ conn other _ different
        device := fun dev has => by rw [goto_conn] at has; cases has
        settled := fun _ => by rw [goto_conn]; rfl }
    refine .inr ⟨used, rfl, fun own => absurd ?_ unmatched⟩
    obtain ⟨same, number⟩ := mine other used own
    rw [← same]
    simp only [Bool.and_eq_true, beq_iff_eq]
    exact ⟨used, number⟩

theorem connect_beside (s : Server) (conn : ConnId) (id : Bytes) (base : Base s) (pc : s.pc conn = .connect id) :
    Beside s (connectStep s conn id).1 conn := by
  rw [connectStep]
  split
  · exact
      { slots := kept_slots s _ conn base rfl (by rw [goto_conn, pc]; rfl)
        fd := rfl, nextConn := rfl, fds := fun _ _ live => live, flags := fun _ _ => ⟨rfl, rfl⟩
        others := fun other different => goto_other _ conn other _ different
        device := fun dev has => by rw [goto_conn] at has; cases has
        settled := fun before => by rw [pc] at before; cases before }
  · rename_i slot found
    obtain ⟨usedSlot, _, _⟩ := find_device_found s.slots id slot found
    refine
      { slots := fun other used => ?_
        fd := rfl, nextConn := rfl, fds := fun _ _ live => live, flags := fun _ _ => ⟨rfl, rfl⟩
        others := fun other different => goto_other _ conn other _ different
        device := fun dev has => ?_
        settled := fun before => by rw [pc] at before; cases before }
    · have before : (s.slots other).inUse = true ∧
          (Function.update s.slots slot { s.slots slot with bridging := true } other).sock = (s.slots other).sock := by
        by_cases same : other = slot
        · rw [same]
          exact ⟨usedSlot, by simp⟩
        · exact ⟨by simpa [Server.goto, Function.update_of_ne same] using used, by rw [Function.update_of_ne same]⟩
      refine .inr ⟨before.1, before.2, fun own => ?_⟩
      have watches := (base.held other before.1).1
      rw [own, pc] at watches
      cases watches
    · rw [goto_conn] at has
      exact .inr ⟨slot, usedSlot, Option.some.inj has⟩

theorem release_beside (s : Server) (conn : ConnId) (slot : Fin maxDevices) (dev : Handle) (base : Base s)
    (pc : s.pc conn = .release slot dev) : Beside s (releaseStep s conn slot dev).1 conn := by
  rw [releaseStep]
  refine
    { slots := fun other used => ?_
      fd := rfl, nextConn := rfl, fds := fun _ _ live => live, flags := fun _ _ => ⟨rfl, rfl⟩
      others := fun other different => goto_other _ conn other _ different
      device := fun other has => ?_
      settled := fun before => by rw [pc] at before; cases before }
  · by_cases same : other = slot
    · rw [same] at used
      simp [Server.goto] at used
    · have before : (s.slots other).inUse = true := by simpa [Server.goto, Function.update_of_ne same] using used
      refine .inr ⟨before, by simp [Server.goto, Function.update_of_ne same], fun own => ?_⟩
      have watches := (base.held other before).1
      rw [own, pc] at watches
      cases watches
  · rw [goto_conn] at has
    rw [pc]
    exact .inl has

theorem closes_shape (s : Server) (conn : ConnId) (handle : Handle) (pc : Pc) (closing : Closes s conn handle pc) :
    pc.watches = none ∧ (s.pc conn).watches = none ∧ pc.uses = none ∧ (s.pc conn).uses = none ∧
      ((s.pc conn).settled = true → pc.settled = true) ∧ (∀ dev, pc.device = some dev → (s.pc conn).device = some dev) := by
  cases closing with
  | last before =>
      rw [before]
      exact ⟨rfl, rfl, rfl, rfl, fun _ => rfl, fun _ has => has⟩
  | first dev before =>
      rw [before]
      exact ⟨rfl, rfl, rfl, rfl, fun settled => settled, fun _ has => has⟩
  | device dev before =>
      rw [before]
      exact ⟨rfl, rfl, rfl, rfl, fun _ => rfl, fun _ impossible => by cases impossible⟩

theorem move_beside (s : Server) (conn : ConnId) (result : Server × List Event) (base : Base s)
    (moved : Move s conn result) : Beside s result.1 conn := by
  cases moved with
  | quiet pc rx tx events alike calls =>
      have now : (Function.update s.pc conn pc) conn = pc := Function.update_self _ _ _
      exact
        { slots := kept_slots s _ conn base rfl (by dsimp only; rw [now, alike.watches])
          fd := rfl, nextConn := rfl, fds := fun _ _ live => live, flags := fun _ _ => ⟨rfl, rfl⟩
          others := fun other different => Function.update_of_ne different _ _
          device := fun dev has => .inl (by dsimp only at has; rwa [now, alike.device] at has)
          settled := fun before => by dsimp only; rw [now]; exact alike.settled before }
  | lost slot pc why =>
      exact
        { slots := kept_slots s _ conn base rfl (by rw [goto_conn, pc]; rfl)
          fd := rfl, nextConn := rfl, fds := fun _ _ live => live, flags := fun _ _ => ⟨rfl, rfl⟩
          others := fun other different => goto_other _ conn other _ different
          device := fun dev has => by rw [goto_conn] at has; cases has
          settled := fun _ => by rw [goto_conn]; rfl }
  | shuts pc handle slot bridging alike has =>
      obtain ⟨fds, slots, fd, next, gone, pcs⟩ := shutdown_fds s handle.fd
      exact
        { slots := kept_slots s _ conn base slots (by rw [goto_conn, alike.watches])
          fd := fd, nextConn := next, fds := fun number target live => (congrFun fds number).symm.trans live
          flags := fun other unborn => ⟨congrFun gone other, shutdown_others s handle.fd other fun live =>
            absurd (base.opened handle.fd other live).2 (Nat.not_lt.mpr unborn)⟩
          others := fun other different => (goto_other _ conn other _ different).trans (congrFun pcs other)
          device := fun dev now => .inl (by rwa [goto_conn, alike.device] at now)
          settled := fun before => by rw [goto_conn]; exact alike.settled before }
  | closes handle pc closing =>
      obtain ⟨watches, watchesBefore, _, _, settled, device⟩ := closes_shape s conn handle pc closing
      exact
        { slots := kept_slots s _ conn base rfl (by rw [goto_conn, watches, watchesBefore])
          fd := rfl, nextConn := rfl, fds := fun number target live => (close_fds s handle.fd number target live).1
          flags := fun _ _ => ⟨rfl, rfl⟩
          others := fun other different => goto_other _ conn other _ different
          device := fun dev has => .inl (device dev (by rwa [goto_conn] at has))
          settled := fun before => by rw [goto_conn]; exact settled before }
  | register id pc => exact register_beside s conn id base pc
  | releasing slot pc => exact releasing_beside s conn slot base pc
  | connect id pc => exact connect_beside s conn id base pc
  | release slot dev pc => exact release_beside s conn slot dev base pc

theorem base_accept (s : Server) (fd : Nat) (base : Base s) :
    Base { s with
      fds := Function.update s.fds fd (some s.nextConn), fd := Function.update s.fd s.nextConn fd
      pc := Function.update s.pc s.nextConn (.reading []), nextConn := s.nextConn + 1 } := by
  have older : ∀ other, other < s.nextConn → Function.update s.pc s.nextConn (.reading []) other = s.pc other ∧
      Function.update s.fd s.nextConn fd other = s.fd other := fun other born =>
    ⟨Function.update_of_ne (Nat.ne_of_lt born) _ _, Function.update_of_ne (Nat.ne_of_lt born) _ _⟩
  constructor
  · intro slot used
    obtain ⟨watches, number⟩ := base.held slot used
    obtain ⟨samePc, sameFd⟩ := older _ (base_born s base _ (watches_settled _ slot watches).2.2)
    dsimp only
    rw [samePc, sameFd]
    exact ⟨watches, number⟩
  · intro conn dev has
    have known : (s.pc conn).device = some dev := by
      by_cases same : conn = s.nextConn
      · rw [same] at has
        simp [Pc.device] at has
      · simpa [Function.update_of_ne same] using has
    obtain ⟨number, settled, born⟩ := base.devices conn dev known
    obtain ⟨samePc, sameFd⟩ := older dev.conn born
    dsimp only
    rw [samePc, sameFd]
    exact ⟨number, settled, Nat.lt_succ_of_lt born⟩
  · intro conn unborn
    have different : conn ≠ s.nextConn := Nat.ne_of_gt unborn
    dsimp only
    rw [Function.update_of_ne different]
    exact base.unborn conn (Nat.le_of_succ_le unborn)
  · intro number conn live
    by_cases same : number = fd
    · rw [same] at live ⊢
      simp only [Function.update_self, Option.some.injEq] at live
      rw [← live]
      exact ⟨Function.update_self _ _ _, Nat.lt_succ_self _⟩
    · simp only [Function.update_of_ne same] at live
      obtain ⟨numbered, born⟩ := base.opened number conn live
      exact ⟨(older conn born).2.trans numbered, Nat.lt_succ_of_lt born⟩

theorem base_change (s : Server) (result : Server × List Event) (base : Base s) (change : Change s result) :
    Base result.1 := by
  cases change with
  | accept fd free => exact base_accept s fd base
  | deliver rx => exact ⟨base.held, base.devices, base.unborn, base.opened⟩
  | hangUp conn born =>
      refine ⟨base.held, base.devices, ?_, base.opened⟩
      intro other unborn
      obtain ⟨idle, gone, shut⟩ := base.unborn other unborn
      have different : other ≠ conn := fun same => absurd born (Nat.not_lt.mpr (same ▸ unborn))
      exact ⟨idle, (Function.update_of_ne different _ _).trans gone, shut⟩
  | move conn born _ moved => exact base_beside s _ conn born base (move_beside s conn _ base moved)

end Intercom.Relay
