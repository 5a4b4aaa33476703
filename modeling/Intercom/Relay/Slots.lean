import Intercom.Relay.Sockets

set_option autoImplicit false

/- The slots of the relay: a slot that is handed out while no bridge uses it, and a socket that is cut only while
   its number has not gone to another connection, keep every slot with one watcher, one user and one id. -/
namespace Intercom.Relay

open ByteText

-- The number belongs to another connection now.
def reissued (s : Server) (handle : Handle) : Bool := (s.fds handle.fd).any fun conn => conn != handle.conn

-- A slot that a CONNECT can find.
def Free (s : Server) (slot : Fin maxDevices) : Prop := (s.slots slot).inUse = true ∧ (s.slots slot).bridging = false

-- The socket of such a slot: open, and nobody's but its watcher's.
structure Open (s : Server) (slot : Fin maxDevices) : Prop where
  opened : s.fds (s.slots slot).sock.fd = some (s.slots slot).sock.conn
  unshut : s.shut (s.slots slot).sock.conn = false
  apart : ∀ other dev, (s.pc other).device = some dev → dev.conn ≠ (s.slots slot).sock.conn
  attends : s.gone (s.slots slot).sock.conn = false → (s.pc (s.slots slot).sock.conn).attends = some slot

structure Sound (s : Server) : Prop where
  users : ∀ conn slot, (s.pc conn).uses = some slot → (s.slots slot).bridging = true
  exclusive : ∀ one two slot, (s.pc one).uses = some slot → (s.pc two).uses = some slot → one = two
  unique : ∀ one two, Free s one → Free s two → (s.slots one).deviceId = (s.slots two).deviceId → one = two
  early : ∀ conn, (s.pc conn).early = true → s.fds (s.fd conn) = some conn ∧ s.shut conn = false
  sockets : ∀ slot, Free s slot → Open s slot

-- No slot is newly taken.
structure Shrinks (s after : Server) : Prop where
  slots : ∀ slot, after.slots slot = s.slots slot ∨ (after.slots slot).inUse = false
  users : ∀ conn slot, (after.pc conn).uses = some slot → (after.slots slot).bridging = true
  uses : ∀ conn slot, (after.pc conn).uses = some slot → (s.pc conn).uses = some slot
  device : ∀ conn dev, (after.pc conn).device = some dev → (s.pc conn).device = some dev
  early : ∀ conn, (after.pc conn).early = true → after.fds (after.fd conn) = some conn ∧ after.shut conn = false
  opened : ∀ slot, Free s slot → Free after slot → after.fds (s.slots slot).sock.fd = some (s.slots slot).sock.conn
  unshut : ∀ slot, Free s slot → after.shut (s.slots slot).sock.conn = false
  attends : ∀ slot, Free s slot → Free after slot → after.gone (s.slots slot).sock.conn = false →
    (after.pc (s.slots slot).sock.conn).attends = some slot

theorem shrinks_free (s after : Server) (shrinks : Shrinks s after) (slot : Fin maxDevices) (now : Free after slot) :
    after.slots slot = s.slots slot ∧ Free s slot := by
  cases shrinks.slots slot with
  | inl same =>
      rw [Free, same] at now
      exact ⟨same, now⟩
  | inr unused => exact absurd (now.1.symm.trans unused) (by decide)

theorem sound_shrinks (s after : Server) (sound : Sound s) (shrinks : Shrinks s after) : Sound after := by
  have same : ∀ slot, Free after slot → after.slots slot = s.slots slot ∧ Free s slot := shrinks_free s after shrinks
  constructor
  · exact shrinks.users
  · intro one two slot first second
    exact sound.exclusive one two slot (shrinks.uses one slot first) (shrinks.uses two slot second)
  · intro one two first second ids
    rw [(same one first).1, (same two second).1] at ids
    exact sound.unique one two (same one first).2 (same two second).2 ids
  · exact shrinks.early
  · intro slot now
    obtain ⟨kept, before⟩ := same slot now
    constructor
    · rw [kept]
      exact shrinks.opened slot before now
    · rw [kept]
      exact shrinks.unshut slot before
    · intro other dev has
      rw [kept]
      exact (sound.sockets slot before).apart other dev (shrinks.device other dev has)
    · rw [kept]
      exact shrinks.attends slot before now

-- The thread is about to register or looks after a slot that a CONNECT can find.
def Guarded (s : Server) (conn : ConnId) : Prop :=
  (s.pc conn).early = true ∨ ∃ slot, Free s slot ∧ (s.slots slot).sock.conn = conn

theorem guarded_open (s : Server) (base : Base s) (sound : Sound s) (conn : ConnId) (guarded : Guarded s conn) :
    s.fds (s.fd conn) = some conn ∧ s.shut conn = false := by
  cases guarded with
  | inl early => exact sound.early conn early
  | inr stored =>
      obtain ⟨slot, found, rfl⟩ := stored
      have socket := sound.sockets slot found
      rw [← (base.held slot found.1).2]
      exact ⟨socket.opened, socket.unshut⟩

-- A thread that neither is about to register nor watches a slot has no descriptor of a guarded connection.
theorem guarded_foreign (s : Server) (base : Base s) (sound : Sound s) (conn other : ConnId) (handle : Handle)
    (has : s.has conn handle) (late : (s.pc conn).early = false) (unwatched : (s.pc conn).watches = none)
    (guarded : Guarded s other) : handle.conn ≠ other := by
  intro same
  cases has with
  | inl own =>
      have mover : conn = other := by rw [← same, own.1]; rfl
      cases guarded with
      | inl early => exact absurd (early.symm.trans (mover ▸ late)) (by decide)
      | inr stored =>
          obtain ⟨slot, found, watcher⟩ := stored
          have watches := (base.held slot found.1).1
          rw [watcher, ← mover, unwatched] at watches
          cases watches
  | inr device =>
      cases guarded with
      | inl early =>
          have settled := (base.devices conn handle device).2.1
          rw [same] at settled
          cases here : s.pc other <;> simp [here, Pc.early, Pc.settled] at early settled
      | inr stored =>
          obtain ⟨slot, found, watcher⟩ := stored
          exact (sound.sockets slot found).apart conn handle device (same.trans watcher.symm)

theorem reissued_target (s : Server) (handle : Handle) (target : ConnId) (ours : reissued s handle = false)
    (live : s.fds handle.fd = some target) : target = handle.conn := by
  simpa [reissued, live] using ours

theorem guarded_closed (s : Server) (base : Base s) (sound : Sound s) (handle : Handle) (conn : ConnId)
    (ours : reissued s handle = false) (different : handle.conn ≠ conn) (guarded : Guarded s conn) :
    (closeFd s handle.fd).fds (s.fd conn) = some conn ∧ s.shut conn = false := by
  obtain ⟨opened, unshut⟩ := guarded_open s base sound conn guarded
  have apart : s.fd conn ≠ handle.fd := by
    intro same
    rw [same] at opened
    exact different (reissued_target s handle conn ours opened).symm
  exact ⟨(Function.update_of_ne apart _ _).trans opened, unshut⟩

theorem guarded_shut (s : Server) (base : Base s) (sound : Sound s) (handle : Handle) (conn : ConnId)
    (ours : reissued s handle = false) (different : handle.conn ≠ conn) (guarded : Guarded s conn) :
    (shutdownFd s handle.fd).fds (s.fd conn) = some conn ∧ (shutdownFd s handle.fd).shut conn = false := by
  obtain ⟨opened, unshut⟩ := guarded_open s base sound conn guarded
  have other : s.fds handle.fd ≠ some conn := fun live => different (reissued_target s handle conn ours live).symm
  rw [(shutdown_fds s handle.fd).1, shutdown_others s handle.fd conn other]
  exact ⟨opened, unshut⟩

-- One thread moves and takes no slot.
theorem move_shrinks (s after : Server) (conn : ConnId) (base : Base s) (sound : Sound s) (beside : Beside s after conn)
    (gone : after.gone = s.gone)
    (slots : ∀ slot, after.slots slot = s.slots slot ∨ (after.slots slot).inUse = false)
    (bridging : ∀ other slot, (s.pc other).uses = some slot → (after.pc other).uses = some slot →
      (after.slots slot).bridging = (s.slots slot).bridging)
    (uses : ∀ slot, (after.pc conn).uses = some slot → (s.pc conn).uses = some slot)
    (device : ∀ dev, (after.pc conn).device = some dev → (s.pc conn).device = some dev)
    (early : (after.pc conn).early = true → (s.pc conn).early = true)
    (spared : ∀ other, Guarded s other → after.fds (s.fd other) = some other ∧ after.shut other = false)
    (attends : ∀ slot, Free s slot → (s.slots slot).sock.conn = conn → s.gone conn = false →
      (s.pc conn).attends = some slot → (after.pc conn).attends = some slot) : Shrinks s after := by
  have usesBefore : ∀ other slot, (after.pc other).uses = some slot → (s.pc other).uses = some slot := by
    intro other slot now
    by_cases same : other = conn
    · rw [same] at now ⊢
      exact uses slot now
    · rwa [beside.others other same] at now
  have guarded : ∀ slot, Free s slot → Guarded s (s.slots slot).sock.conn := fun slot found => .inr ⟨slot, found, rfl⟩
  constructor
  · exact slots
  · intro other slot now
    rw [bridging other slot (usesBefore other slot now) now]
    exact sound.users other slot (usesBefore other slot now)
  · exact usesBefore
  · intro other dev has
    by_cases same : other = conn
    · rw [same] at has ⊢
      exact device dev has
    · rwa [beside.others other same] at has
  · intro other now
    have before : (s.pc other).early = true := by
      by_cases same : other = conn
      · rw [same] at now ⊢
        exact early now
      · rwa [beside.others other same] at now
    rw [beside.fd]
    exact spared other (.inl before)
  · intro slot found _
    rw [(base.held slot found.1).2]
    exact (spared _ (guarded slot found)).1
  · intro slot found
    exact (spared _ (guarded slot found)).2
  · intro slot found _ here
    rw [gone] at here
    have before := (sound.sockets slot found).attends here
    by_cases same : (s.slots slot).sock.conn = conn
    · rw [same] at here before ⊢
      exact attends slot found same here before
    · rwa [beside.others _ same]

-- What a step of a thread must respect, said of the calls it makes.
structure Careful (s : Server) (conn : ConnId) (events : List Event) : Prop where
  cuts : ∀ handle call, .call handle call ∈ events → call.gentle = false → reissued s handle = false
  registers : ∀ id, s.pc conn = .register id → id.length ≤ 63 ∧
    ∀ slot, allocDeviceSlot (clearDevice s id).1.slots = some slot → (s.slots slot).bridging = false
  releases : ∀ slot, s.pc conn = .releasing slot → (s.slots slot).inUse = true →
    (s.slots slot).sock.fd = s.fd conn → (s.slots slot).sock.conn = conn

theorem move_gone (s : Server) (conn : ConnId) (result : Server × List Event) (moved : Move s conn result) :
    result.1.gone = s.gone := by
  cases moved with
  | quiet pc rx tx events alike calls => rfl
  | lost slot pc why => rfl
  | shuts pc handle slot bridging alike has => exact (shutdown_fds s handle.fd).2.2.2.2.1
  | closes handle pc step => rfl
  | register id pc =>
      rw [registerStep]
      dsimp only
      split <;> exact (clear_device_same s id).2.2.2.1
  | releasing slot pc =>
      rw [releasingStep]
      split <;> rfl
  | connect id pc =>
      rw [connectStep]
      split <;> rfl
  | release slot dev pc => rfl

theorem uses_shape (pc : Pc) (slot : Fin maxDevices) (uses : pc.uses = some slot) :
    pc.early = false ∧ pc.watches = none := by
  cases pc <;> simp_all [Pc.uses, Pc.early, Pc.watches]

theorem closes_late (s : Server) (conn : ConnId) (handle : Handle) (pc : Pc) (step : Closes s conn handle pc) :
    (s.pc conn).early = false ∧ pc.early = false ∧ (s.pc conn).attends = none := by
  cases step with
  | last before => rw [before]; exact ⟨rfl, rfl, rfl⟩
  | first dev before => rw [before]; exact ⟨rfl, rfl, rfl⟩
  | device dev before => rw [before]; exact ⟨rfl, rfl, rfl⟩

theorem quiet_shrinks (s : Server) (conn : ConnId) (pc : Pc) (rx tx : ConnId → Bytes) (base : Base s) (sound : Sound s)
    (alike : Pc.Alike (s.pc conn) pc)
    (beside : Beside s { s with pc := Function.update s.pc conn pc, rx := rx, tx := tx } conn) :
    Shrinks s { s with pc := Function.update s.pc conn pc, rx := rx, tx := tx } := by
  have now : Function.update s.pc conn pc conn = pc := Function.update_self _ _ _
  apply move_shrinks s _ conn base sound beside rfl
  · exact fun slot => .inl rfl
  · exact fun _ _ _ _ => rfl
  · intro slot uses
    dsimp only at uses
    rwa [now, alike.uses] at uses
  · intro dev has
    dsimp only at has
    rwa [now, alike.device] at has
  · intro early
    dsimp only at early
    rw [now] at early
    exact alike.early early
  · exact guarded_open s base sound
  · intro slot _ _ _ before
    dsimp only
    rw [now, alike.attends]
    exact before

-- The peek of a guarded connection cannot fail before its peer leaves.
theorem lost_shrinks (s : Server) (conn : ConnId) (slot : Fin maxDevices) (base : Base s) (sound : Sound s)
    (why : ∀ target, s.fds (s.fd conn) = some target → s.ended target = true)
    (beside : Beside s (s.goto conn (.releasing slot)) conn) : Shrinks s (s.goto conn (.releasing slot)) := by
  apply move_shrinks s _ conn base sound beside rfl
  · exact fun slot => .inl rfl
  · exact fun _ _ _ _ => rfl
  · intro other uses
    rw [goto_conn] at uses
    cases uses
  · intro dev has
    rw [goto_conn] at has
    cases has
  · intro early
    rw [goto_conn] at early
    cases early
  · exact guarded_open s base sound
  · intro other found watcher here _
    obtain ⟨opened, unshut⟩ := guarded_open s base sound conn (.inr ⟨other, found, watcher⟩)
    have ended := why conn opened
    simp [Server.ended, here, unshut] at ended

theorem shuts_shrinks (s : Server) (conn : ConnId) (pc : Pc) (handle : Handle) (slot : Fin maxDevices) (base : Base s)
    (sound : Sound s) (bridging : (s.pc conn).uses = some slot) (alike : Pc.Alike (s.pc conn) pc) (has : s.has conn handle)
    (ours : reissued s handle = false) (beside : Beside s ((shutdownFd s handle.fd).goto conn pc) conn) :
    Shrinks s ((shutdownFd s handle.fd).goto conn pc) := by
  obtain ⟨_, slots, _, _, gone, _⟩ := shutdown_fds s handle.fd
  obtain ⟨late, unwatched⟩ := uses_shape (s.pc conn) slot bridging
  apply move_shrinks s _ conn base sound beside gone
  · exact fun slot => .inl (congrFun slots slot)
  · exact fun _ slot _ _ => congrArg Slot.bridging (congrFun slots slot)
  · intro other uses
    rwa [goto_conn, alike.uses] at uses
  · intro dev now
    rwa [goto_conn, alike.device] at now
  · intro early
    rw [goto_conn] at early
    exact alike.early early
  · intro other guarded
    have different := guarded_foreign s base sound conn other handle has late unwatched guarded
    exact guarded_shut s base sound handle other ours different guarded
  · intro other _ _ _ before
    rw [goto_conn, alike.attends]
    exact before

theorem closes_shrinks (s : Server) (conn : ConnId) (handle : Handle) (pc : Pc) (base : Base s) (sound : Sound s)
    (step : Closes s conn handle pc) (ours : reissued s handle = false)
    (beside : Beside s ((closeFd s handle.fd).goto conn pc) conn) : Shrinks s ((closeFd s handle.fd).goto conn pc) := by
  obtain ⟨_, unwatched, unused, _, _, device⟩ := closes_shape s conn handle pc step
  obtain ⟨late, after, unattended⟩ := closes_late s conn handle pc step
  apply move_shrinks s _ conn base sound beside rfl
  · exact fun slot => .inl rfl
  · exact fun _ _ _ _ => rfl
  · intro slot uses
    rw [goto_conn, unused] at uses
    cases uses
  · intro dev has
    rw [goto_conn] at has
    exact device dev has
  · intro early
    rw [goto_conn, after] at early
    cases early
  · intro other guarded
    have different := guarded_foreign s base sound conn other handle (closes_has s conn handle pc step) late unwatched guarded
    exact guarded_closed s base sound handle other ours different guarded
  · intro slot _ _ _ before
    rw [unattended] at before
    cases before

theorem releasing_shrinks (s : Server) (conn : ConnId) (slot : Fin maxDevices) (base : Base s) (sound : Sound s)
    (pc : s.pc conn = .releasing slot) : Shrinks s (releasingStep s conn slot).1 := by
  have beside := releasing_beside s conn slot base pc
  have unattended : (s.pc conn).attends = none := by rw [pc]; rfl
  have after : (releasingStep s conn slot).1.pc conn = .closing := by
    rw [releasingStep]
    split <;> exact goto_conn _ conn _
  have sockets : (releasingStep s conn slot).1.fds = s.fds ∧ (releasingStep s conn slot).1.shut = s.shut := by
    rw [releasingStep]
    split <;> exact ⟨rfl, rfl⟩
  have slots : ∀ other, (releasingStep s conn slot).1.slots other = s.slots other ∨
      (((releasingStep s conn slot).1.slots other).inUse = false ∧
        ((releasingStep s conn slot).1.slots other).bridging = (s.slots other).bridging) := by
    intro other
    rw [releasingStep]
    split
    · by_cases same : other = slot
      · right
        rw [same]
        simp [Server.goto]
      · left
        simp [Server.goto, Function.update_of_ne same]
    · exact .inl rfl
  apply move_shrinks s _ conn base sound beside (move_gone s conn _ (Move.releasing slot pc))
  · exact fun other => (slots other).imp id And.left
  · intro _ other _ _
    cases slots other with
    | inl same => rw [same]
    | inr freed => exact freed.2
  · intro other uses
    rw [after] at uses
    cases uses
  · intro dev has
    rw [after] at has
    cases has
  · intro early
    rw [after] at early
    cases early
  · rw [sockets.1, sockets.2]
    exact guarded_open s base sound
  · intro other _ _ _ before
    rw [unattended] at before
    cases before

theorem release_shrinks (s : Server) (conn : ConnId) (slot : Fin maxDevices) (dev : Handle) (base : Base s) (sound : Sound s)
    (pc : s.pc conn = .release slot dev) : Shrinks s (releaseStep s conn slot dev).1 := by
  have beside := release_beside s conn slot dev base pc
  have mine : (s.pc conn).uses = some slot := by rw [pc]; rfl
  have after : (releaseStep s conn slot dev).1.pc conn = .closeOwn dev := goto_conn _ conn _
  apply move_shrinks s _ conn base sound beside rfl
  · intro other
    rw [releaseStep]
    by_cases same : other = slot
    · right
      rw [same]
      simp [Server.goto]
    · left
      simp [Server.goto, Function.update_of_ne same]
  · intro user other before now
    -- The thread that uses the slot is the one that has just left it.
    have different : other ≠ slot := by
      intro same
      rw [sound.exclusive user conn slot (same ▸ before) mine, after] at now
      cases now
    simp [releaseStep, Server.goto, Function.update_of_ne different]
  · intro other uses
    rw [after] at uses
    cases uses
  · intro held has
    rw [after] at has
    rw [pc]
    exact has
  · intro early
    rw [after] at early
    cases early
  · exact guarded_open s base sound
  · intro other _ _ _ before
    rw [pc] at before
    cases before

section Marked

-- The slot that findDevice has found is marked, and the client that asked for it goes on with its socket.
variable (s : Server) (conn : ConnId) (slot : Fin maxDevices)

def markSlot : Fin maxDevices → Slot := Function.update s.slots slot { s.slots slot with bridging := true }

theorem mark_bridging (other : Fin maxDevices) : (markSlot s slot other).bridging = true ↔ other = slot ∨ (s.slots other).bridging = true := by
  rw [markSlot]
  by_cases same : other = slot
  · simp [same]
  · simp [same]

theorem mark_others (other : Fin maxDevices) (unmarked : (markSlot s slot other).bridging = false) :
    other ≠ slot ∧ markSlot s slot other = s.slots other := by
  have different : other ≠ slot := by
    intro same
    rw [markSlot, same] at unmarked
    simp at unmarked
  exact ⟨different, Function.update_of_ne different _ _⟩

theorem mark_users (sound : Sound s) (unbridged : (s.slots slot).bridging = false) (other : ConnId) (taken : Fin maxDevices)
    (uses : (Function.update s.pc conn (.accepted slot (s.slots slot).sock) other).uses = some taken) :
    (other = conn ∧ taken = slot) ∨ (other ≠ conn ∧ taken ≠ slot ∧ (s.pc other).uses = some taken) := by
  by_cases same : other = conn
  · rw [same, Function.update_self] at uses
    exact .inl ⟨same, (Option.some.inj uses).symm⟩
  · rw [Function.update_of_ne same] at uses
    refine .inr ⟨same, fun here => ?_, uses⟩
    have marked := sound.users other taken uses
    rw [here, unbridged] at marked
    cases marked

def marked : Server := { s with slots := markSlot s slot }.goto conn (.accepted slot (s.slots slot).sock)

-- A slot that is still free was free before, and its socket is not the one handed out.
theorem marked_open (id : Bytes) (base : Base s) (sound : Sound s) (pc : s.pc conn = .connect id) (used : (s.slots slot).inUse = true)
    (other : Fin maxDevices) (now : Free (marked s conn slot) other) : Open (marked s conn slot) other := by
  obtain ⟨different, same⟩ := mark_others s slot other now.2
  simp only [Free, marked, Server.goto, same] at now
  have socket := sound.sockets other now
  have watches := (base.held other now.1).1
  have foreign : (s.slots other).sock.conn ≠ conn := by
    intro here
    rw [here, pc] at watches
    cases watches
  constructor
  · simp only [marked, Server.goto, same]
    exact socket.opened
  · simp only [marked, Server.goto, same]
    exact socket.unshut
  · intro holder dev has
    simp only [marked, Server.goto, same] at has ⊢
    by_cases mover : holder = conn
    · simp only [mover, Function.update_self, Pc.device, Option.some.injEq] at has
      -- A connection watches one slot.
      intro here
      rw [← here, ← has, (base.held slot used).1] at watches
      exact different (Option.some.inj watches).symm
    · simp only [Function.update_of_ne mover] at has
      exact socket.apart holder dev has
  · simp only [marked, Server.goto, same, Function.update_of_ne foreign]
    exact socket.attends

theorem marked_sound (id : Bytes) (base : Base s) (sound : Sound s) (pc : s.pc conn = .connect id) (used : (s.slots slot).inUse = true)
    (unbridged : (s.slots slot).bridging = false) : Sound (marked s conn slot) := by
  have users := mark_users s conn slot sound unbridged
  constructor
  · intro other taken uses
    apply (mark_bridging s slot taken).mpr
    cases users other taken uses with
    | inl mine => exact .inl mine.2
    | inr theirs => exact .inr (sound.users other taken theirs.2.2)
  · intro one two taken first second
    cases users one taken first with
    | inl mine =>
        cases users two taken second with
        | inl also => exact mine.1.trans also.1.symm
        | inr theirs => exact absurd mine.2 theirs.2.1
    | inr theirs =>
        cases users two taken second with
        | inl mine => exact absurd mine.2 theirs.2.1
        | inr also => exact sound.exclusive one two taken theirs.2.2 also.2.2
  · intro one two first second ids
    obtain ⟨_, sameOne⟩ := mark_others s slot one first.2
    obtain ⟨_, sameTwo⟩ := mark_others s slot two second.2
    simp only [Free, marked, Server.goto, sameOne, sameTwo] at first second ids
    exact sound.unique one two first second ids
  · intro other early
    have different : other ≠ conn := by
      intro same
      simp [marked, Server.goto, same, Pc.early] at early
    simp only [marked, Server.goto, Function.update_of_ne different] at early
    exact sound.early other early
  · exact marked_open s conn slot id base sound pc used

end Marked

theorem connect_sound (s : Server) (conn : ConnId) (id : Bytes) (base : Base s) (sound : Sound s)
    (pc : s.pc conn = .connect id) : Sound (connectStep s conn id).1 := by
  cases found : findDevice s.slots id with
  | none =>
      have beside := connect_beside s conn id base pc
      simp only [connectStep, found] at beside ⊢
      apply sound_shrinks s _ sound
      rw [Server.goto] at beside ⊢
      exact quiet_shrinks s conn _ s.rx s.tx base sound (pc ▸ alike_of rfl rfl rfl) beside
  | some slot =>
      obtain ⟨used, unbridged, _⟩ := find_device_found s.slots id slot found
      simp only [connectStep, found]
      exact marked_sound s conn slot id base sound pc used unbridged

theorem shrinks_refl (s : Server) (sound : Sound s) : Shrinks s s :=
  { slots := fun _ => .inl rfl, users := sound.users, uses := fun _ _ uses => uses, device := fun _ _ has => has
    early := sound.early, opened := fun slot found _ => (sound.sockets slot found).opened
    unshut := fun slot found => (sound.sockets slot found).unshut
    attends := fun slot found _ => (sound.sockets slot found).attends }

theorem clear_device_shrinks (s : Server) (id : Bytes) (base : Base s) (sound : Sound s) :
    Shrinks s (clearDevice s id).1 := by
  cases found : findDevice s.slots id with
  | none =>
      simp only [clearDevice, found]
      exact shrinks_refl s sound
  | some existing =>
      obtain ⟨used, unbridged, _⟩ := find_device_found s.slots id existing found
      have socket := sound.sockets existing ⟨used, unbridged⟩
      have watches := (base.held existing used).1
      have ours : reissued s (s.slots existing).sock = false := by simp [reissued, socket.opened]
      have slots : ∀ slot, slot ≠ existing →
          Function.update s.slots existing { s.slots existing with inUse := false } slot = s.slots slot :=
        fun slot different => Function.update_of_ne different _ _
      have replaced : (Function.update s.slots existing { s.slots existing with inUse := false } existing).inUse = false := by
        simp
      simp only [clearDevice, found, closeFd]
      constructor
      · intro slot
        by_cases same : slot = existing
        · exact .inr (same ▸ replaced)
        · exact .inl (slots slot same)
      · intro conn slot uses
        have marked := sound.users conn slot uses
        have different : slot ≠ existing := by
          intro same
          rw [same, unbridged] at marked
          cases marked
        dsimp only
        rw [slots slot different]
        exact marked
      · exact fun _ _ uses => uses
      · exact fun _ _ has => has
      · intro conn early
        have different : (s.slots existing).sock.conn ≠ conn := by
          intro same
          rw [same] at watches
          cases here : s.pc conn <;> simp [here, Pc.early, Pc.watches] at early watches
        exact guarded_closed s base sound _ conn ours different (.inl early)
      · intro slot before now
        have different : slot ≠ existing := by
          intro same
          rw [same] at now
          exact absurd (now.1.symm.trans replaced) (by decide)
        have other : (s.slots existing).sock.conn ≠ (s.slots slot).sock.conn := by
          intro same
          rw [same, (base.held slot before.1).1] at watches
          exact different (Option.some.inj watches)
        rw [(base.held slot before.1).2]
        exact (guarded_closed s base sound _ _ ours other (.inr ⟨slot, before, rfl⟩)).1
      · exact fun slot before => (sound.sockets slot before).unshut
      · exact fun slot before _ => (sound.sockets slot before).attends

-- The id is not found any more once its registration has been cleared.
theorem cleared_missing (s : Server) (id : Bytes) (base : Base s) (sound : Sound s) (slot : Fin maxDevices)
    (found : Free (clearDevice s id).1 slot) : ((clearDevice s id).1.slots slot).deviceId ≠ id := by
  obtain ⟨same, before⟩ := shrinks_free s _ (clear_device_shrinks s id base sound) slot found
  rw [same]
  intro named
  cases search : findDevice s.slots id with
  | none =>
      have hidden := find_device_none s.slots id search slot
      simp [visible, before.1, before.2, named] at hidden
  | some existing =>
      obtain ⟨used, unbridged, alsoNamed⟩ := find_device_found s.slots id existing search
      have here := sound.unique slot existing before ⟨used, unbridged⟩ (named.trans alsoNamed.symm)
      have replaced : ((clearDevice s id).1.slots existing).inUse = false := by simp [clearDevice, search]
      rw [← here] at replaced
      exact absurd (found.1.symm.trans replaced) (by decide)

def answering (s : Server) (conn : ConnId) (slot : Fin maxDevices) (taken : Slot) : Server :=
  { s with slots := Function.update s.slots slot taken }.goto conn (.answer slot)

section Answering

variable (s : Server) (conn : ConnId) (slot : Fin maxDevices) (taken : Slot)

theorem answering_slot : (answering s conn slot taken).slots slot = taken := Function.update_self _ _ _

theorem answering_slot_other (other : Fin maxDevices) (different : other ≠ slot) :
    (answering s conn slot taken).slots other = s.slots other := Function.update_of_ne different _ _

theorem answering_pc : (answering s conn slot taken).pc conn = .answer slot := goto_conn _ conn _

theorem answering_pc_other (other : ConnId) (different : other ≠ conn) : (answering s conn slot taken).pc other = s.pc other :=
  goto_other _ conn other _ different

theorem answering_uses (other : ConnId) (used : Fin maxDevices)
    (now : ((answering s conn slot taken).pc other).uses = some used) : (s.pc other).uses = some used := by
  by_cases same : other = conn
  · rw [same, answering_pc] at now
    cases now
  · rwa [answering_pc_other s conn slot taken other same] at now

theorem answering_device (other : ConnId) (dev : Handle)
    (now : ((answering s conn slot taken).pc other).device = some dev) : (s.pc other).device = some dev := by
  by_cases same : other = conn
  · rw [same, answering_pc] at now
    cases now
  · rwa [answering_pc_other s conn slot taken other same] at now

theorem answering_free (other : Fin maxDevices) (different : other ≠ slot) (now : Free (answering s conn slot taken) other) :
    Free s other := by
  rwa [Free, answering_slot_other s conn slot taken other different] at now

theorem answering_unique (sound : Sound s) (fresh : ∀ other, Free s other → (s.slots other).deviceId ≠ taken.deviceId)
    (one two : Fin maxDevices) (first : Free (answering s conn slot taken) one) (second : Free (answering s conn slot taken) two)
    (ids : ((answering s conn slot taken).slots one).deviceId = ((answering s conn slot taken).slots two).deviceId) : one = two := by
  have older := answering_free s conn slot taken
  have there := answering_slot_other s conn slot taken
  by_cases sameOne : one = slot
  · by_cases sameTwo : two = slot
    · exact sameOne.trans sameTwo.symm
    · rw [sameOne, answering_slot, there two sameTwo] at ids
      exact absurd ids.symm (fresh two (older two sameTwo second))
  · by_cases sameTwo : two = slot
    · rw [sameTwo, answering_slot, there one sameOne] at ids
      exact absurd ids (fresh one (older one sameOne first))
    · rw [there one sameOne, there two sameTwo] at ids
      exact sound.unique one two (older one sameOne first) (older two sameTwo second) ids

-- The new slot's socket is the thread's own, which nobody else has to do with.
theorem answering_open (sound : Sound s) (early : (s.pc conn).early = true) (sock : taken.sock = s.own conn)
    (apart : ∀ other dev, (s.pc other).device = some dev → dev.conn ≠ conn) : Open (answering s conn slot taken) slot := by
  obtain ⟨opened, unshut⟩ := sound.early conn early
  constructor
  · rw [answering_slot, sock]
    exact opened
  · rw [answering_slot, sock]
    exact unshut
  · intro holder dev has
    rw [answering_slot, sock]
    exact apart holder dev (answering_device s conn slot taken holder dev has)
  · intro _
    rw [answering_slot, sock, Server.own, answering_pc]
    rfl

theorem answering_open_other (sound : Sound s) (other : Fin maxDevices) (different : other ≠ slot) (free : Free s other)
    (foreign : (s.slots other).sock.conn ≠ conn) : Open (answering s conn slot taken) other := by
  have socket := sound.sockets other free
  have there := answering_slot_other s conn slot taken other different
  constructor
  · rw [there]
    exact socket.opened
  · rw [there]
    exact socket.unshut
  · intro holder dev has
    rw [there]
    exact socket.apart holder dev (answering_device s conn slot taken holder dev has)
  · rw [there, answering_pc_other s conn slot taken _ foreign]
    exact socket.attends

theorem answering_sound (sound : Sound s)
    (early : (s.pc conn).early = true) (unbridged : (s.slots slot).bridging = false) (sock : taken.sock = s.own conn)
    (fresh : ∀ other, Free s other → (s.slots other).deviceId ≠ taken.deviceId)
    (foreign : ∀ other, Free s other → (s.slots other).sock.conn ≠ conn)
    (apart : ∀ other dev, (s.pc other).device = some dev → dev.conn ≠ conn) :
    Sound (answering s conn slot taken) := by
  have uses := answering_uses s conn slot taken
  constructor
  · intro other used now
    have marked := sound.users other used (uses other used now)
    have different : used ≠ slot := by
      intro same
      rw [same, unbridged] at marked
      cases marked
    rw [answering_slot_other s conn slot taken used different]
    exact marked
  · intro one two used first second
    exact sound.exclusive one two used (uses one used first) (uses two used second)
  · exact answering_unique s conn slot taken sound fresh
  · intro other now
    by_cases same : other = conn
    · rw [same, answering_pc] at now
      cases now
    · rw [answering_pc_other s conn slot taken other same] at now
      exact sound.early other now
  · intro other now
    by_cases same : other = slot
    · rw [same]
      exact answering_open s conn slot taken sound early sock apart
    · have before := answering_free s conn slot taken other same now
      exact answering_open_other s conn slot taken sound other same before (foreign other before)

end Answering

-- A replaced registration leaves room for the new one.
theorem full_clears_nothing (s : Server) (id : Bytes) (full : allocDeviceSlot (clearDevice s id).1.slots = none) :
    clearDevice s id = (s, []) := by
  cases found : findDevice s.slots id with
  | none => simp only [clearDevice, found]
  | some existing =>
      have used := alloc_none _ full existing
      simp [clearDevice, found] at used

theorem register_sound (s : Server) (conn : ConnId) (id : Bytes) (base : Base s) (sound : Sound s)
    (pc : s.pc conn = .register id) (careful : Careful s conn (registerStep s conn id).2) :
    Sound (registerStep s conn id).1 := by
  obtain ⟨short, unbridged⟩ := careful.registers id pc
  have beside := register_beside s conn id base pc
  cases free : allocDeviceSlot (clearDevice s id).1.slots with
  | none =>
      have same := full_clears_nothing s id free
      rw [same] at free
      simp only [registerStep, same, free, Server.goto] at beside ⊢
      apply sound_shrinks s _ sound
      exact quiet_shrinks s conn _ s.rx s.tx base sound (pc ▸ alike_of rfl rfl rfl) beside
  | some slot =>
      have shrinks := clear_device_shrinks s id base sound
      obtain ⟨samePc, sameFd, _, _, _⟩ := clear_device_same s id
      have before : ∀ other, Free (clearDevice s id).1 other →
          (clearDevice s id).1.slots other = s.slots other ∧ Free s other := shrinks_free s _ shrinks
      have same : (registerStep s conn id).1 = answering (clearDevice s id).1 conn slot
          { (clearDevice s id).1.slots slot with inUse := true, deviceId := id.take 63, sock := s.own conn } := by
        simp only [registerStep, free, answering]
      rw [same]
      apply answering_sound _ conn slot _ (sound_shrinks s _ sound shrinks)
      · rw [samePc, pc]
        rfl
      · rw [clear_device_bridging]
        exact unbridged slot free
      · rw [Server.own, Server.own, sameFd]
      · intro other found
        dsimp only
        rw [List.take_of_length_le short]
        exact cleared_missing s id base sound other found
      · intro other found
        rw [(before other found).1]
        intro here
        have watches := (base.held other (before other found).2.1).1
        rw [here, pc] at watches
        cases watches
      · intro other dev has here
        rw [samePc] at has
        have settled := (base.devices other dev has).2.1
        rw [here, pc] at settled
        cases settled

theorem sound_move (s : Server) (conn : ConnId) (result : Server × List Event) (base : Base s) (sound : Sound s)
    (moved : Move s conn result) (careful : Careful s conn result.2) : Sound result.1 := by
  have beside := move_beside s conn result base moved
  cases moved with
  | quiet pc rx tx events alike calls => exact sound_shrinks s _ sound (quiet_shrinks s conn pc rx tx base sound alike beside)
  | lost slot pc why => exact sound_shrinks s _ sound (lost_shrinks s conn slot base sound why beside)
  | shuts pc handle slot bridging alike has =>
      have ours := careful.cuts handle .shutdown (List.mem_singleton.mpr rfl) rfl
      exact sound_shrinks s _ sound (shuts_shrinks s conn pc handle slot base sound bridging alike has ours beside)
  | closes handle pc step =>
      have ours := careful.cuts handle .close (List.mem_singleton.mpr rfl) rfl
      exact sound_shrinks s _ sound (closes_shrinks s conn handle pc base sound step ours beside)
  | register id pc => exact register_sound s conn id base sound pc careful
  | releasing slot pc => exact sound_shrinks s _ sound (releasing_shrinks s conn slot base sound pc)
  | connect id pc => exact connect_sound s conn id base sound pc
  | release slot dev pc => exact sound_shrinks s _ sound (release_shrinks s conn slot dev base sound pc)

theorem sound_accept (s : Server) (fd : Nat) (base : Base s) (sound : Sound s) (closed : s.fds fd = none) :
    Sound { s with
      fds := Function.update s.fds fd (some s.nextConn), fd := Function.update s.fd s.nextConn fd
      pc := Function.update s.pc s.nextConn (.reading []), nextConn := s.nextConn + 1 } := by
  have live : ∀ number conn, s.fds number = some conn → Function.update s.fds fd (some s.nextConn) number = some conn := by
    intro number conn opened
    have different : number ≠ fd := by
      intro same
      rw [same, closed] at opened
      cases opened
    exact (Function.update_of_ne different _ _).trans opened
  have older : ∀ conn, conn ≠ s.nextConn → Function.update s.pc s.nextConn (.reading []) conn = s.pc conn :=
    fun conn different => Function.update_of_ne different _ _
  have uses : ∀ conn slot, (Function.update s.pc s.nextConn (.reading []) conn).uses = some slot →
      (s.pc conn).uses = some slot := by
    intro conn slot now
    by_cases same : conn = s.nextConn
    · rw [same, Function.update_self] at now
      cases now
    · rwa [older conn same] at now
  apply sound_shrinks s _ sound
  constructor
  · exact fun slot => .inl rfl
  · exact fun conn slot now => sound.users conn slot (uses conn slot now)
  · exact uses
  · intro conn dev has
    by_cases same : conn = s.nextConn
    · rw [same] at has
      simp [Pc.device] at has
    · dsimp only at has
      rwa [older conn same] at has
  · intro conn early
    by_cases same : conn = s.nextConn
    · rw [same]
      exact ⟨by simp, (base.unborn s.nextConn (Nat.le_refl _)).2.2⟩
    · dsimp only at early ⊢
      rw [older conn same] at early
      rw [Function.update_of_ne same]
      exact ⟨live _ conn (sound.early conn early).1, (sound.early conn early).2⟩
  · exact fun slot found _ => live _ _ (sound.sockets slot found).opened
  · exact fun slot found => (sound.sockets slot found).unshut
  · intro slot found _ here
    have watches := (base.held slot found.1).1
    have born := base_born s base _ (watches_settled _ slot watches).2.2
    dsimp only
    rw [older _ (Nat.ne_of_lt born)]
    exact (sound.sockets slot found).attends here

theorem sound_hang_up (s : Server) (conn : ConnId) (sound : Sound s) :
    Sound { s with gone := Function.update s.gone conn true } := by
  apply sound_shrinks s _ sound
  have shrinks := shrinks_refl s sound
  refine ⟨shrinks.slots, shrinks.users, shrinks.uses, shrinks.device, shrinks.early, shrinks.opened, shrinks.unshut, ?_⟩
  intro slot found _ here
  have different : (s.slots slot).sock.conn ≠ conn := by
    intro same
    simp [same] at here
  simp only [Function.update_of_ne different] at here
  exact (sound.sockets slot found).attends here

-- A slot that a CONNECT can find is given up when its peer has left, its id is registered again or it is taken.
theorem given_up (s : Server) (conn : ConnId) (result : Server × List Event) (sound : Sound s)
    (moved : Move s conn result) (careful : Careful s conn result.2) (slot : Fin maxDevices) (found : Free s slot)
    (here : s.gone (s.slots slot).sock.conn = false)
    (again : ∀ other taken, .registered other taken (s.slots slot).deviceId ∉ result.2)
    (untaken : ∀ client taken, .took client taken (s.slots slot).sock.conn ∉ result.2) :
    result.1.slots slot = s.slots slot := by
  have attends := (sound.sockets slot found).attends here
  cases moved with
  | quiet pc rx tx events alike calls => rfl
  | lost other pc why => rfl
  | shuts pc handle other bridging alike has => exact congrFun (shutdown_fds s handle.fd).2.1 slot
  | closes handle pc step => rfl
  | register id pc =>
      cases free : allocDeviceSlot (clearDevice s id).1.slots with
      | none =>
          have same := full_clears_nothing s id free
          rw [same] at free
          simp only [registerStep, same, free, Server.goto]
      | some taken =>
          have different : (s.slots slot).deviceId ≠ id := by
            intro same
            apply again conn taken
            simp only [registerStep, free, same]
            exact List.mem_append_right _ (List.mem_singleton.mpr rfl)
          have kept : (clearDevice s id).1.slots slot = s.slots slot := by
            cases search : findDevice s.slots id with
            | none => simp only [clearDevice, search]
            | some existing =>
                have other : slot ≠ existing := by
                  intro same
                  exact different (same ▸ (find_device_found s.slots id existing search).2.2)
                simp [clearDevice, search, Function.update_of_ne other]
          have other : slot ≠ taken := by
            intro same
            have unused := alloc_free _ taken free
            rw [← same, kept, found.1] at unused
            cases unused
          simp only [registerStep, free, Server.goto, Function.update_of_ne other]
          exact kept
  | releasing other pc =>
      rw [releasingStep]
      split
      · rename_i matched
        simp only [Bool.and_eq_true, beq_iff_eq] at matched
        have mine := careful.releases other pc matched.1 matched.2
        have different : slot ≠ other := by
          intro same
          rw [same, mine, pc] at attends
          cases attends
        simp [Server.goto, Function.update_of_ne different]
      · rfl
  | connect id pc =>
      cases search : findDevice s.slots id with
      | none => simp only [connectStep, search, Server.goto]
      | some taken =>
          have different : slot ≠ taken := by
            intro same
            apply untaken conn taken
            simp only [connectStep, search, same]
            exact List.mem_singleton.mpr rfl
          simp [connectStep, search, Server.goto, Function.update_of_ne different]
  | release other dev pc =>
      have marked := sound.users conn other (by rw [pc]; rfl)
      have different : slot ≠ other := by
        intro same
        rw [← same, found.2] at marked
        cases marked
      simp [releaseStep, Server.goto, Function.update_of_ne different]

end Intercom.Relay
