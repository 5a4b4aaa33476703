import Mathlib.Data.List.Nodup
import Intercom.Relay.Base

set_option autoImplicit false

/- One bridge for each slot and one for each registration. A slot is marked exactly while one CONNECT thread uses it,
   even when its in_use flag has been cleared and set again under the bridge. -/
namespace Intercom.Relay

open ByteText

-- A registration is given to the CONNECT that finds its slot, whatever the descriptor in it leads to by then.
def Event.grants (device : ConnId) : Event → Bool
  | .took _ _ taken => taken == device
  | _ => false

def timesGranted (history : List Event) (device : ConnId) : Nat := history.countP (Event.grants device)

-- What a move of a thread does to the marks: nothing, or it takes a slot, or it gives one back.
inductive Marks (s : Server) (conn : ConnId) (result : Server × List Event) : Prop where
  | calm (bridging : ∀ slot, (result.1.slots slot).bridging = (s.slots slot).bridging)
      (uses : (result.1.pc conn).uses = (s.pc conn).uses) (quiet : ∀ device, timesGranted result.2 device = 0)
  | takes (slot : Fin maxDevices) (free : (s.slots slot).inUse = true ∧ (s.slots slot).bridging = false)
      (slots : result.1.slots = Function.update s.slots slot { s.slots slot with bridging := true })
      (before : (s.pc conn).uses = none) (after : (result.1.pc conn).uses = some slot)
      (events : result.2 = [.took conn slot (s.slots slot).sock.conn])
  | leaves (slot : Fin maxDevices)
      (slots : result.1.slots = Function.update s.slots slot { s.slots slot with inUse := false, bridging := false })
      (before : (s.pc conn).uses = some slot) (after : (result.1.pc conn).uses = none) (events : result.2 = [])

theorem calls_take_nothing (events : List Event) (calls : ∀ event ∈ events, ∃ handle call, event = .call handle call)
    (device : ConnId) : timesGranted events device = 0 := by
  apply List.countP_eq_zero.mpr
  intro event member
  obtain ⟨handle, call, rfl⟩ := calls event member
  exact Bool.false_ne_true

theorem clear_device_takes_nothing (s : Server) (id : Bytes) (device : ConnId) : timesGranted (clearDevice s id).2 device = 0 := by
  apply calls_take_nothing
  intro event member
  cases found : findDevice s.slots id with
  | none => simp [clearDevice, found] at member
  | some existing =>
      simp only [clearDevice, found] at member
      exact ⟨_, _, List.mem_singleton.mp member⟩

theorem register_marks (s : Server) (conn : ConnId) (id : Bytes) (pc : s.pc conn = .register id) :
    Marks s conn (registerStep s conn id) := by
  rw [registerStep]
  dsimp only
  split
  · apply Marks.calm
    · exact clear_device_bridging s id
    · rw [goto_conn, pc]
      rfl
    · exact clear_device_takes_nothing s id
  · rename_i taken _
    apply Marks.calm
    · intro slot
      by_cases same : slot = taken
      · rw [same]
        simpa [Server.goto] using clear_device_bridging s id taken
      · simpa [Server.goto, Function.update_of_ne same] using clear_device_bridging s id slot
    · rw [goto_conn, pc]
      rfl
    · intro device
      rw [timesGranted, List.countP_append]
      exact clear_device_takes_nothing s id device

theorem releasing_marks (s : Server) (conn : ConnId) (slot : Fin maxDevices) (pc : s.pc conn = .releasing slot) :
    Marks s conn (releasingStep s conn slot) := by
  rw [releasingStep]
  split
  · apply Marks.calm
    · intro other
      by_cases same : other = slot
      · simp [Server.goto, same]
      · simp [Server.goto, Function.update_of_ne same]
    · rw [goto_conn, pc]
      rfl
    · exact fun _ => rfl
  · apply Marks.calm
    · exact fun _ => rfl
    · rw [goto_conn, pc]
      rfl
    · exact fun _ => rfl

theorem connect_marks (s : Server) (conn : ConnId) (id : Bytes) (pc : s.pc conn = .connect id) :
    Marks s conn (connectStep s conn id) := by
  rw [connectStep]
  split
  · apply Marks.calm
    · exact fun _ => rfl
    · rw [goto_conn, pc]
      rfl
    · exact fun _ => rfl
  · rename_i slot found
    obtain ⟨used, unbridged, _⟩ := find_device_found s.slots id slot found
    apply Marks.takes slot ⟨used, unbridged⟩
    · rfl
    · rw [pc]
      rfl
    · rw [goto_conn]
      rfl
    · rfl

theorem move_marks (s : Server) (conn : ConnId) (result : Server × List Event) (moved : Move s conn result) :
    Marks s conn result := by
  cases moved with
  | quiet pc rx tx events alike calls =>
      apply Marks.calm
      · exact fun _ => rfl
      · dsimp only
        rw [Function.update_self]
        exact alike.uses
      · apply calls_take_nothing
        intro event member
        obtain ⟨handle, call, same, _⟩ := calls event member
        exact ⟨handle, call, same⟩
  | lost slot pc why =>
      apply Marks.calm
      · exact fun _ => rfl
      · rw [goto_conn, pc]
        rfl
      · exact fun _ => rfl
  | shuts pc handle slot bridging alike has =>
      apply Marks.calm
      · intro other
        exact congrArg Slot.bridging (congrFun (shutdown_fds s handle.fd).2.1 other)
      · rw [goto_conn]
        exact alike.uses
      · exact fun _ => rfl
  | closes handle pc closing =>
      obtain ⟨_, _, after, before, _, _⟩ := closes_shape s conn handle pc closing
      apply Marks.calm
      · exact fun _ => rfl
      · rw [goto_conn, after, before]
      · exact fun _ => rfl
  | register id pc => exact register_marks s conn id pc
  | releasing slot pc => exact releasing_marks s conn slot pc
  | connect id pc => exact connect_marks s conn id pc
  | release slot dev pc =>
      apply Marks.leaves slot
      · rfl
      · rw [pc]
        rfl
      · rw [releaseStep, goto_conn]
        rfl
      · rfl

-- A slot in use was in use before with the same socket, or its thread has just registered.
theorem move_stored (s : Server) (conn : ConnId) (result : Server × List Event) (moved : Move s conn result)
    (slot : Fin maxDevices) (used : (result.1.slots slot).inUse = true) :
    ((s.slots slot).inUse = true ∧ (result.1.slots slot).sock = (s.slots slot).sock) ∨
      ((s.pc conn).settled = false ∧ (result.1.slots slot).sock = s.own conn) := by
  cases moved with
  | quiet pc rx tx events alike calls => exact .inl ⟨used, rfl⟩
  | lost other pc why => exact .inl ⟨used, rfl⟩
  | shuts pc handle other bridging alike has =>
      have same : ((shutdownFd s handle.fd).goto conn pc).slots = s.slots := (shutdown_fds s handle.fd).2.1
      rw [same] at used ⊢
      exact .inl ⟨used, rfl⟩
  | closes handle pc closing => exact .inl ⟨used, rfl⟩
  | register id pc =>
      have cleared : ((clearDevice s id).1.slots slot).inUse = true →
          (s.slots slot).inUse = true ∧ ((clearDevice s id).1.slots slot).sock = (s.slots slot).sock := by
        intro still
        have same := clear_device_slots s id slot still
        rw [same] at still ⊢
        exact ⟨still, rfl⟩
      cases free : allocDeviceSlot (clearDevice s id).1.slots with
      | none =>
          simp only [registerStep, free, Server.goto] at used ⊢
          exact .inl (cleared used)
      | some taken =>
          by_cases same : slot = taken
          · right
            rw [same, pc]
            simp [registerStep, free, Server.goto, Pc.settled]
          · simp only [registerStep, free, Server.goto, Function.update_of_ne same] at used ⊢
            exact .inl (cleared used)
  | releasing other pc =>
      rw [releasingStep] at used ⊢
      split at used
      · rename_i matched
        by_cases same : slot = other
        · simp [Server.goto, same] at used
        · rw [if_pos matched]
          simp only [Server.goto, Function.update_of_ne same] at used ⊢
          exact .inl ⟨used, trivial⟩
      · rename_i unmatched
        rw [if_neg unmatched]
        exact .inl ⟨used, rfl⟩
  | connect id pc =>
      cases found : findDevice s.slots id with
      | none =>
          simp only [connectStep, found, Server.goto] at used ⊢
          exact .inl ⟨used, trivial⟩
      | some taken =>
          by_cases same : slot = taken
          · rw [same]
            simp [connectStep, found, Server.goto, (find_device_found s.slots id taken found).1]
          · simp only [connectStep, found, Server.goto, Function.update_of_ne same] at used ⊢
            exact .inl ⟨used, trivial⟩
  | release other dev pc =>
      by_cases same : slot = other
      · simp [releaseStep, Server.goto, same] at used
      · simp only [releaseStep, Server.goto, Function.update_of_ne same] at used ⊢
        exact .inl ⟨used, trivial⟩

structure Exclusive (reached : Server × List Event) : Prop where
  base : Base reached.1
  marked : ∀ slot, (reached.1.slots slot).bridging = true ↔ ∃ conn, (reached.1.pc conn).uses = some slot
  sole : ∀ one two slot, (reached.1.pc one).uses = some slot → (reached.1.pc two).uses = some slot → one = two
  once : ∀ device, timesGranted reached.2 device ≤ 1
  spent : ∀ device, 0 < timesGranted reached.2 device →
    (reached.1.pc device).settled = true ∧ device < reached.1.nextConn ∧
      ∀ slot, (reached.1.slots slot).inUse = true → (reached.1.slots slot).sock.conn = device →
        (reached.1.slots slot).bridging = true

theorem exclusive_initial : Exclusive initial :=
  { base := base_initial
    marked := fun _ => by simp [initial, Pc.uses]
    sole := fun _ _ _ uses => absurd uses (by simp [initial, Pc.uses])
    once := fun _ => Nat.zero_le _
    spent := fun _ taken => absurd taken (Nat.lt_irrefl 0) }

theorem exclusive_calm (reached : Server × List Event) (result : Server × List Event) (inv : Exclusive reached)
    (base : Base result.1) (bridging : ∀ slot, (result.1.slots slot).bridging = (reached.1.slots slot).bridging)
    (uses : ∀ conn, (result.1.pc conn).uses = (reached.1.pc conn).uses)
    (quiet : ∀ device, timesGranted result.2 device = 0) (next : reached.1.nextConn ≤ result.1.nextConn)
    (settled : ∀ device, device < reached.1.nextConn → (reached.1.pc device).settled = true →
      (result.1.pc device).settled = true)
    (stored : ∀ slot, (result.1.slots slot).inUse = true →
      ((reached.1.slots slot).inUse = true ∧ (result.1.slots slot).sock = (reached.1.slots slot).sock) ∨
        (reached.1.pc (result.1.slots slot).sock.conn).settled = false) :
    Exclusive (result.1, reached.2 ++ result.2) := by
  have count : ∀ device, timesGranted (reached.2 ++ result.2) device = timesGranted reached.2 device := by
    intro device
    rw [timesGranted, List.countP_append]
    exact congrArg (timesGranted reached.2 device + ·) (quiet device)
  constructor
  · exact base
  · intro slot
    simp only [bridging, uses]
    exact inv.marked slot
  · intro one two slot first second
    simp only [uses] at first second
    exact inv.sole one two slot first second
  · intro device
    rw [count]
    exact inv.once device
  · intro device taken
    rw [count] at taken
    obtain ⟨resting, born, busy⟩ := inv.spent device taken
    refine ⟨settled device born resting, Nat.lt_of_lt_of_le born next, ?_⟩
    intro slot used here
    cases stored slot used with
    | inl old =>
        rw [bridging]
        rw [old.2] at here
        exact busy slot old.1 here
    | inr fresh =>
        rw [here, resting] at fresh
        cases fresh

-- The device that is found has not been taken before.
section Takes

-- A client takes the device of a free slot.
variable (reached : Server × List Event) (conn : ConnId) (result : Server × List Event) (inv : Exclusive reached)
  (beside : Beside reached.1 result.1 conn) (base : Base result.1) (slot : Fin maxDevices)
  (free : (reached.1.slots slot).inUse = true ∧ (reached.1.slots slot).bridging = false)
  (slots : result.1.slots = Function.update reached.1.slots slot { reached.1.slots slot with bridging := true })
  (before : (reached.1.pc conn).uses = none) (after : (result.1.pc conn).uses = some slot)
  (events : result.2 = [.took conn slot (reached.1.slots slot).sock.conn])

include beside after in
theorem takes_users (other : ConnId) (taken : Fin maxDevices) : (result.1.pc other).uses = some taken ↔
    (other = conn ∧ taken = slot) ∨ (other ≠ conn ∧ (reached.1.pc other).uses = some taken) := by
  by_cases same : other = conn
  · rw [same, after, Option.some.injEq]
    simp [eq_comm]
  · rw [beside.others other same]
    simp [same]

include events in
theorem takes_count (device : ConnId) : timesGranted (reached.2 ++ result.2) device =
    timesGranted reached.2 device + if (reached.1.slots slot).sock.conn = device then 1 else 0 := by
  rw [timesGranted, List.countP_append, events]
  simp [timesGranted, List.countP_cons, Event.grants]

include inv beside slots before after in
theorem takes_marked (other : Fin maxDevices) :
    (result.1.slots other).bridging = true ↔ ∃ user, (result.1.pc user).uses = some other := by
  have users := takes_users reached conn result beside slot after
  rw [slots]
  by_cases same : other = slot
  · rw [same]
    simpa using ⟨conn, after⟩
  · rw [Function.update_of_ne same, inv.marked other]
    constructor
    · rintro ⟨user, uses⟩
      have different : user ≠ conn := by
        intro here
        rw [here, before] at uses
        cases uses
      exact ⟨user, (users user other).mpr (.inr ⟨different, uses⟩)⟩
    · rintro ⟨user, uses⟩
      cases (users user other).mp uses with
      | inl mine => exact absurd mine.2 same
      | inr theirs => exact ⟨user, theirs.2⟩

include inv free

theorem takes_unused (other : ConnId) : (reached.1.pc other).uses ≠ some slot := by
  intro uses
  have marked := (inv.marked slot).mpr ⟨other, uses⟩
  rw [free.2] at marked
  cases marked

theorem takes_fresh : timesGranted reached.2 (reached.1.slots slot).sock.conn = 0 := by
  by_contra taken
  have marked := (inv.spent _ (Nat.pos_of_ne_zero taken)).2.2 slot free.1 rfl
  rw [free.2] at marked
  cases marked

include beside slots events in
theorem takes_spent (device : ConnId) (taken : 0 < timesGranted (reached.2 ++ result.2) device) :
    (result.1.pc device).settled = true ∧ device < result.1.nextConn ∧
      ∀ other, (result.1.slots other).inUse = true → (result.1.slots other).sock.conn = device → (result.1.slots other).bridging = true := by
  have count := takes_count reached conn result slot events
  have watches := (inv.base.held slot free.1).1
  have resting : (reached.1.pc device).settled = true ∧ device < reached.1.nextConn := by
    by_cases same : (reached.1.slots slot).sock.conn = device
    · obtain ⟨settled, _, running⟩ := watches_settled _ slot watches
      rw [← same]
      exact ⟨settled, base_born reached.1 inv.base _ running⟩
    · rw [count, if_neg same] at taken
      exact ⟨(inv.spent device taken).1, (inv.spent device taken).2.1⟩
  refine ⟨?_, by rw [beside.nextConn]; exact resting.2, ?_⟩
  · by_cases same : device = conn
    · rw [same] at resting ⊢
      exact beside.settled resting.1
    · rw [beside.others device same]
      exact resting.1
  · intro other used here
    rw [slots] at used here ⊢
    by_cases same : other = slot
    · rw [same]
      simp
    · rw [Function.update_of_ne same] at used here ⊢
      have different : (reached.1.slots slot).sock.conn ≠ device := by
        intro also
        rw [also, ← here, (inv.base.held other used).1] at watches
        exact same (Option.some.inj watches)
      rw [count, if_neg different] at taken
      exact (inv.spent device taken).2.2 other used here

include beside base slots before after events

theorem exclusive_takes : Exclusive (result.1, reached.2 ++ result.2) := by
  have users := takes_users reached conn result beside slot after
  have unused := takes_unused reached inv slot free
  constructor
  · exact base
  · exact takes_marked reached conn result inv beside slot slots before after
  · intro one two taken first second
    cases (users one taken).mp first with
    | inl mine =>
        cases (users two taken).mp second with
        | inl also => exact mine.1.trans also.1.symm
        | inr theirs => exact absurd (mine.2 ▸ theirs.2) (unused two)
    | inr theirs =>
        cases (users two taken).mp second with
        | inl mine => exact absurd (mine.2 ▸ theirs.2) (unused one)
        | inr also => exact inv.sole one two taken theirs.2 also.2
  · intro device
    rw [takes_count reached conn result slot events]
    by_cases same : (reached.1.slots slot).sock.conn = device
    · rw [if_pos same, ← same, takes_fresh reached inv slot free]
    · rw [if_neg same]
      exact inv.once device
  · exact takes_spent reached conn result inv beside slot free slots events

end Takes

theorem exclusive_leaves (reached : Server × List Event) (conn : ConnId) (result : Server × List Event) (inv : Exclusive reached)
    (beside : Beside reached.1 result.1 conn) (base : Base result.1) (slot : Fin maxDevices)
    (slots : result.1.slots = Function.update reached.1.slots slot { reached.1.slots slot with inUse := false, bridging := false })
    (before : (reached.1.pc conn).uses = some slot) (after : (result.1.pc conn).uses = none) (events : result.2 = []) :
    Exclusive (result.1, reached.2 ++ result.2) := by
  have users : ∀ other taken, (result.1.pc other).uses = some taken ↔
      other ≠ conn ∧ (reached.1.pc other).uses = some taken := by
    intro other taken
    by_cases same : other = conn
    · rw [same, after]
      simp
    · rw [beside.others other same]
      simp [same]
  rw [events, List.append_nil]
  constructor
  · exact base
  · intro other
    rw [slots]
    by_cases same : other = slot
    · rw [same, Function.update_self]
      constructor
      · exact fun marked => absurd marked Bool.false_ne_true
      · rintro ⟨user, uses⟩
        obtain ⟨different, old⟩ := (users user slot).mp uses
        exact absurd (inv.sole user conn slot old before) different
    · rw [Function.update_of_ne same, inv.marked other]
      constructor
      · rintro ⟨user, uses⟩
        have different : user ≠ conn := by
          intro here
          rw [here, before] at uses
          exact same (Option.some.inj uses).symm
        exact ⟨user, (users user other).mpr ⟨different, uses⟩⟩
      · rintro ⟨user, uses⟩
        exact ⟨user, ((users user other).mp uses).2⟩
  · intro one two taken first second
    exact inv.sole one two taken ((users one taken).mp first).2 ((users two taken).mp second).2
  · exact inv.once
  · intro device taken
    obtain ⟨resting, born, busy⟩ := inv.spent device taken
    refine ⟨?_, by rw [beside.nextConn]; exact born, ?_⟩
    · by_cases same : device = conn
      · rw [same] at resting ⊢
        exact beside.settled resting
      · rw [beside.others device same]
        exact resting
    · intro other used here
      rw [slots] at used here ⊢
      by_cases same : other = slot
      · rw [same] at used
        simp at used
      · rw [Function.update_of_ne same] at used here ⊢
        exact busy other used here

theorem exclusive_move (reached : Server × List Event) (conn : ConnId) (born : conn < reached.1.nextConn)
    (result : Server × List Event) (inv : Exclusive reached) (moved : Move reached.1 conn result) :
    Exclusive (result.1, reached.2 ++ result.2) := by
  have beside := move_beside reached.1 conn result inv.base moved
  have base := base_beside reached.1 result.1 conn born inv.base beside
  cases move_marks reached.1 conn result moved with
  | calm bridging uses quiet =>
      apply exclusive_calm reached result inv base bridging
      · intro other
        by_cases same : other = conn
        · rw [same, uses]
        · rw [beside.others other same]
      · exact quiet
      · exact Nat.le_of_eq beside.nextConn.symm
      · intro device _ before
        by_cases same : device = conn
        · rw [same] at before ⊢
          exact beside.settled before
        · rwa [beside.others device same]
      · intro slot used
        cases move_stored reached.1 conn result moved slot used with
        | inl old => exact .inl old
        | inr fresh =>
            rw [fresh.2]
            exact .inr fresh.1
  | takes slot free slots before after events =>
      exact exclusive_takes reached conn result inv beside base slot free slots before after events
  | leaves slot slots before after events =>
      exact exclusive_leaves reached conn result inv beside base slot slots before after events

theorem exclusive_next (reached : Server × List Event) (label : Label) (inv : Exclusive reached) :
    Exclusive (next reached label) := by
  have change := step_changes reached.1 inv.base label
  have base := base_change reached.1 _ inv.base change
  rw [next, Runs.record]
  generalize step reached.1 label = result at change base
  cases change with
  | accept fd free =>
      have older : ∀ conn, conn < reached.1.nextConn →
          Function.update reached.1.pc reached.1.nextConn (.reading []) conn = reached.1.pc conn :=
        fun conn born => Function.update_of_ne (Nat.ne_of_lt born) _ _
      apply exclusive_calm reached _ inv base
      · exact fun _ => rfl
      · intro conn
        by_cases same : conn = reached.1.nextConn
        · have idle := (inv.base.unborn conn (Nat.le_of_eq same.symm)).1
          rw [idle, same]
          simp [Pc.uses]
        · dsimp only
          rw [Function.update_of_ne same]
      · exact fun _ => rfl
      · exact Nat.le_succ _
      · intro device born before
        dsimp only
        rw [older device born]
        exact before
      · exact fun _ used => .inl ⟨used, rfl⟩
  | deliver rx =>
      exact exclusive_calm reached _ inv base (fun _ => rfl) (fun _ => rfl) (fun _ => rfl) (Nat.le_refl _)
        (fun _ _ before => before) (fun _ used => .inl ⟨used, rfl⟩)
  | hangUp conn born =>
      exact exclusive_calm reached _ inv base (fun _ => rfl) (fun _ => rfl) (fun _ => rfl) (Nat.le_refl _)
        (fun _ _ before => before) (fun _ used => .inl ⟨used, rfl⟩)
  | move conn born _ moved => exact exclusive_move reached conn born _ inv moved

end Intercom.Relay
