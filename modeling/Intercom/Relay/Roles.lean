import Intercom.Relay.Exclusive
import Intercom.Relay.Identity

set_option autoImplicit false

/- Who is what to the relay: a connection that has registered is a device, one that has taken a device is its only
   client, and no connection is both. -/
namespace Intercom.Relay

open ByteText

structure Roles (reached : Server × List Event) : Prop where
  exclusive : Exclusive reached
  stored : ∀ slot, (reached.1.slots slot).inUse = true →
    ∃ taken id, .registered (reached.1.slots slot).sock.conn taken id ∈ reached.2
  enrolled : ∀ conn slot id, .registered conn slot id ∈ reached.2 →
    (reached.1.pc conn).settled = true ∧ conn < reached.1.nextConn
  clients : ∀ client slot device, .took client slot device ∈ reached.2 → client < reached.1.nextConn ∧
    ((reached.1.pc client).device.map Handle.conn = some device ∨ reached.1.pc client = .finished)
  takers : ∀ client dev, (reached.1.pc client).device = some dev → ∃ slot, .took client slot dev.conn ∈ reached.2
  known : ∀ client slot device, .took client slot device ∈ reached.2 → ∃ taken id, .registered device taken id ∈ reached.2
  apart : ∀ conn taken id slot device, .registered conn taken id ∈ reached.2 → .took conn slot device ∉ reached.2

theorem roles_initial : Roles initial := by
  constructor
  · exact exclusive_initial
  · exact fun _ used => absurd used (by simp [initial])
  · exact fun _ _ _ member => absurd member List.not_mem_nil
  · exact fun _ _ _ member => absurd member List.not_mem_nil
  · exact fun _ _ has => absurd has (by simp [initial, Pc.device])
  · exact fun _ _ _ member => absurd member List.not_mem_nil
  · exact fun _ _ _ _ _ member => absurd member List.not_mem_nil

theorem roles_sole (reached : Server × List Event) (roles : Roles reached) (one two : ConnId) (slot other : Fin maxDevices)
    (device : ConnId) (first : .took one slot device ∈ reached.2) (second : .took two other device ∈ reached.2) : one = two := by
  by_contra different
  have distinct : Event.took one slot device ≠ .took two other device := fun same => different (Event.took.inj same).1
  have two_ : 2 ≤ timesGranted reached.2 device := by
    have pair : [Event.took one slot device, .took two other device].Subperm reached.2 := by
      apply List.subperm_of_subset
      · simp [distinct]
      · intro event member
        simp only [List.mem_cons, List.not_mem_nil, or_false] at member
        cases member with
        | inl here => exact here ▸ first
        | inr here => exact here ▸ second
    have counted := pair.countP_le (Event.grants device)
    simpa [timesGranted, Event.grants] using counted
  have once := roles.exclusive.once device
  omega

theorem finished_shape (pc : Pc) (over_ : pc.live = false) (device : pc.device = none) : pc = .finished := by
  cases pc <;> simp_all [Pc.live, Pc.device]

-- The device a thread has stays the same until the thread ends, unless a CONNECT finds one.
inductive Hands (s : Server) (conn : ConnId) (result : Server × List Event) : Prop where
  | keeps (device : (result.1.pc conn).device = (s.pc conn).device) (running : s.pc conn ≠ .finished)
  | ends (pc : result.1.pc conn = .finished)
  | finds (id : Bytes) (slot : Fin maxDevices) (pc : s.pc conn = .connect id) (found : findDevice s.slots id = some slot)
      (same : result = connectStep s conn id)

theorem alike_hands (s : Server) (conn : ConnId) (result : Server × List Event) (alike : Pc.Alike (s.pc conn) (result.1.pc conn)) :
    Hands s conn result := by
  by_cases idle : s.pc conn = .finished
  · apply Hands.ends
    apply finished_shape
    · rw [alike.live, idle]
      rfl
    · rw [alike.device, idle]
      rfl
  · exact Hands.keeps alike.device idle

theorem move_hands (s : Server) (conn : ConnId) (result : Server × List Event) (moved : Move s conn result) : Hands s conn result := by
  have running : ∀ pc, s.pc conn = pc → pc ≠ .finished → s.pc conn ≠ .finished := fun pc same other => same ▸ other
  cases moved with
  | quiet pc rx tx events alike calls =>
      apply alike_hands
      dsimp only
      rwa [Function.update_self]
  | lost slot pc why =>
      apply Hands.keeps
      · rw [goto_conn, pc]
        rfl
      · exact running _ pc (fun impossible => by cases impossible)
  | shuts pc handle slot bridging alike has =>
      apply alike_hands
      rwa [goto_conn]
  | closes handle pc closing =>
      cases closing with
      | last before => exact Hands.ends (goto_conn _ _ _)
      | first dev before =>
          apply Hands.keeps
          · rw [goto_conn, before]
            rfl
          · exact running _ before (fun impossible => by cases impossible)
      | device dev before => exact Hands.ends (goto_conn _ _ _)
  | register id pc =>
      apply Hands.keeps
      · rw [registerStep, pc]
        dsimp only
        split <;> rw [goto_conn] <;> rfl
      · exact running _ pc (fun impossible => by cases impossible)
  | releasing slot pc =>
      apply Hands.keeps
      · rw [releasingStep, pc]
        split <;> rw [goto_conn] <;> rfl
      · exact running _ pc (fun impossible => by cases impossible)
  | connect id pc =>
      cases found : findDevice s.slots id with
      | none =>
          apply Hands.keeps
          · simp only [connectStep, found]
            rw [goto_conn, pc]
            rfl
          · exact running _ pc (fun impossible => by cases impossible)
      | some slot => exact Hands.finds id slot pc found rfl
  | release slot dev pc =>
      apply Hands.keeps
      · rw [releaseStep, goto_conn, pc]
        rfl
      · exact running _ pc (fun impossible => by cases impossible)

theorem connect_events (s : Server) (conn : ConnId) (id : Bytes) (slot : Fin maxDevices) (found : findDevice s.slots id = some slot) :
    (connectStep s conn id).2 = [.took conn slot (s.slots slot).sock.conn] ∧
      (connectStep s conn id).1.pc conn = .accepted slot (s.slots slot).sock := by
  simp only [connectStep, found]
  exact ⟨trivial, goto_conn _ _ _⟩

-- Only a CONNECT that finds its device takes one.
theorem move_takes (s : Server) (conn : ConnId) (result : Server × List Event) (moved : Move s conn result)
    (client : ConnId) (slot : Fin maxDevices) (device : ConnId) (member : .took client slot device ∈ result.2) :
    ∃ id, s.pc conn = .connect id ∧ findDevice s.slots id = some slot ∧ client = conn ∧
      device = (s.slots slot).sock.conn ∧ result = connectStep s conn id := by
  cases moved with
  | quiet pc rx tx events alike calls =>
      obtain ⟨handle, call, impossible, _⟩ := calls _ member
      cases impossible
  | lost other pc why => cases List.mem_singleton.mp member
  | shuts pc handle other bridging alike has => cases List.mem_singleton.mp member
  | closes handle pc closing => cases List.mem_singleton.mp member
  | register id pc =>
      have nothing : Event.took client slot device ∉ (clearDevice s id).2 := by
        rw [clear_device_events, Option.mem_toList, Option.map_eq_some_iff]
        rintro ⟨_, _, impossible⟩
        cases impossible
      cases register_events s conn id with
      | inl same => exact absurd (same ▸ member) nothing
      | inr more =>
          obtain ⟨taken, same⟩ := more
          rw [same, List.mem_append, List.mem_singleton] at member
          cases member with
          | inl early => exact absurd early nothing
          | inr last => cases last
  | releasing other pc =>
      rw [releasingStep] at member
      split at member <;> exact absurd member List.not_mem_nil
  | connect id pc =>
      cases found : findDevice s.slots id with
      | none =>
          simp only [connectStep, found] at member
          exact absurd member List.not_mem_nil
      | some other =>
          rw [(connect_events s conn id other found).1, List.mem_singleton, Event.took.injEq] at member
          obtain ⟨rfl, rfl, rfl⟩ := member
          exact ⟨id, pc, found, rfl, rfl, rfl⟩
  | release other dev pc => exact absurd member List.not_mem_nil

-- Only an accepted REGISTER records a registration.
theorem move_registers (s : Server) (conn : ConnId) (result : Server × List Event) (moved : Move s conn result)
    (owner : ConnId) (slot : Fin maxDevices) (id : Bytes) (member : .registered owner slot id ∈ result.2) :
    owner = conn ∧ s.pc conn = .register id ∧ result.1.pc conn = .answer slot := by
  cases move_renames s conn result moved with
  | fades slots quiet => exact absurd member (quiet owner slot id)
  | registers name taken pc free same =>
      obtain ⟨_, after, events⟩ := register_slots s conn name taken free
      rw [same, events, List.mem_append, List.mem_singleton, Event.registered.injEq] at member
      obtain ⟨rfl, rfl, rfl⟩ := member.resolve_left (clear_device_quiet s name owner slot id)
      exact ⟨rfl, pc, same ▸ after⟩

theorem stored_move (reached : Server × List Event) (conn : ConnId) (result : Server × List Event) (roles : Roles reached)
    (moved : Move reached.1 conn result) (slot : Fin maxDevices) (used : (result.1.slots slot).inUse = true) :
    ∃ taken id, .registered (result.1.slots slot).sock.conn taken id ∈ reached.2 ++ result.2 := by
  have old : (reached.1.slots slot).inUse = true →
      ∃ taken id, .registered (reached.1.slots slot).sock.conn taken id ∈ reached.2 ++ result.2 := by
    intro before
    obtain ⟨taken, id, member⟩ := roles.stored slot before
    exact ⟨taken, id, List.mem_append_left _ member⟩
  cases move_renames reached.1 conn result moved with
  | fades slots quiet =>
      have fades := slots slot used
      rw [fades.sock]
      exact old fades.inUse
  | registers id taken pc free same =>
      obtain ⟨slots, _, events⟩ := register_slots reached.1 conn id taken free
      rw [same, slots] at used
      rw [same, slots, events]
      by_cases here : slot = taken
      · rw [here, Function.update_self]
        exact ⟨taken, id, List.mem_append_right _ (List.mem_append_right _ (List.mem_singleton.mpr rfl))⟩
      · rw [Function.update_of_ne here] at used ⊢
        have kept := clear_device_slots reached.1 id slot used
        rw [kept] at used ⊢
        obtain ⟨other, name, member⟩ := roles.stored slot used
        exact ⟨other, name, List.mem_append_left _ member⟩

section Moved

variable (reached : Server × List Event) (conn : ConnId) (result : Server × List Event) (roles : Roles reached)
  (moved : Move reached.1 conn result)

include roles

-- Who still registers or connects has taken nothing.
theorem beginner_took_nothing (id : Bytes) (pc : reached.1.pc conn = .connect id ∨ reached.1.pc conn = .register id)
    (slot : Fin maxDevices) (device : ConnId) : .took conn slot device ∉ reached.2 := by
  intro member
  cases (roles.clients conn slot device member).2 with
  | inl has => cases pc with
      | inl connects => rw [connects] at has; cases has
      | inr registers => rw [registers] at has; cases has
  | inr finished => cases pc with
      | inl connects => rw [connects] at finished; cases finished
      | inr registers => rw [registers] at finished; cases finished

include moved

theorem enrolled_move (born : conn < reached.1.nextConn) (owner : ConnId) (slot : Fin maxDevices) (id : Bytes)
    (member : .registered owner slot id ∈ reached.2 ++ result.2) :
    (result.1.pc owner).settled = true ∧ owner < result.1.nextConn := by
  have beside := move_beside reached.1 conn result roles.exclusive.base moved
  rw [beside.nextConn]
  cases List.mem_append.mp member with
  | inl before =>
      obtain ⟨settled, known⟩ := roles.enrolled owner slot id before
      refine ⟨?_, known⟩
      by_cases same : owner = conn
      · rw [same] at settled ⊢
        exact beside.settled settled
      · rwa [beside.others owner same]
  | inr now =>
      obtain ⟨rfl, _, after⟩ := move_registers reached.1 conn result moved owner slot id now
      rw [after]
      exact ⟨rfl, born⟩

theorem takers_move (client : ConnId) (dev : Handle) (has : (result.1.pc client).device = some dev) :
    ∃ slot, .took client slot dev.conn ∈ reached.2 ++ result.2 := by
  have beside := move_beside reached.1 conn result roles.exclusive.base moved
  by_cases same : client = conn
  · rw [same] at has ⊢
    cases move_hands reached.1 conn result moved with
    | keeps kept running =>
        rw [kept] at has
        obtain ⟨slot, member⟩ := roles.takers conn dev has
        exact ⟨slot, List.mem_append_left _ member⟩
    | ends finished =>
        rw [finished] at has
        cases has
    | finds id slot pc found after =>
        obtain ⟨events, accepted⟩ := connect_events reached.1 conn id slot found
        rw [after, accepted] at has
        cases has
        rw [after, events]
        exact ⟨slot, List.mem_append_right _ (List.mem_singleton.mpr rfl)⟩
  · rw [beside.others client same] at has
    obtain ⟨slot, member⟩ := roles.takers client dev has
    exact ⟨slot, List.mem_append_left _ member⟩

theorem apart_move (owner : ConnId) (taken : Fin maxDevices) (id : Bytes) (slot : Fin maxDevices) (device : ConnId)
    (registered : .registered owner taken id ∈ reached.2 ++ result.2) (took : .took owner slot device ∈ reached.2 ++ result.2) : False := by
  cases List.mem_append.mp registered with
  | inl before =>
      cases List.mem_append.mp took with
      | inl also => exact roles.apart owner taken id slot device before also
      | inr now =>
          obtain ⟨name, pc, _, rfl, _, _⟩ := move_takes reached.1 conn result moved owner slot device now
          have settled := (roles.enrolled owner taken id before).1
          rw [pc] at settled
          cases settled
  | inr now =>
      obtain ⟨rfl, pc, _⟩ := move_registers reached.1 conn result moved owner taken id now
      cases List.mem_append.mp took with
      | inl before => exact beginner_took_nothing reached owner roles id (.inr pc) slot device before
      | inr also =>
          obtain ⟨name, other, _⟩ := move_takes reached.1 owner result moved owner slot device also
          rw [pc] at other
          cases other

theorem roles_move (born : conn < reached.1.nextConn) : Roles (result.1, reached.2 ++ result.2) := by
  have beside := move_beside reached.1 conn result roles.exclusive.base moved
  constructor
  · exact exclusive_move reached conn born result roles.exclusive moved
  · exact stored_move reached conn result roles moved
  · exact enrolled_move reached conn result roles moved born
  · intro client slot device member
    dsimp only
    rw [beside.nextConn]
    cases List.mem_append.mp member with
    | inl before =>
        obtain ⟨known, has⟩ := roles.clients client slot device before
        refine ⟨known, ?_⟩
        by_cases same : client = conn
        · rw [same] at has before ⊢
          cases move_hands reached.1 conn result moved with
          | keeps kept running =>
              rw [kept]
              exact has.imp_right fun finished => absurd finished running
          | ends finished => exact .inr finished
          | finds id found pc search after => exact absurd before (beginner_took_nothing reached conn roles id (.inl pc) slot device)
        · rwa [beside.others client same]
    | inr now =>
        obtain ⟨id, pc, found, rfl, rfl, same⟩ := move_takes reached.1 conn result moved client slot device now
        rw [same, (connect_events reached.1 client id slot found).2]
        exact ⟨born, .inl rfl⟩
  · exact takers_move reached conn result roles moved
  · intro client slot device member
    have before : ∃ taken id, .registered device taken id ∈ reached.2 := by
      cases List.mem_append.mp member with
      | inl old => exact roles.known client slot device old
      | inr now =>
          obtain ⟨id, _, found, _, rfl, _⟩ := move_takes reached.1 conn result moved client slot device now
          exact roles.stored slot (find_device_found reached.1.slots id slot found).1
    obtain ⟨taken, id, recorded⟩ := before
    exact ⟨taken, id, List.mem_append_left _ recorded⟩
  · exact apart_move reached conn result roles moved

end Moved

-- The environment gives nobody a role.
theorem roles_environment (reached : Server × List Event) (after : Server) (events : List Event) (roles : Roles reached)
    (exclusive : Exclusive (after, reached.2 ++ events)) (slots : after.slots = reached.1.slots)
    (pcs : ∀ conn, conn < reached.1.nextConn → after.pc conn = reached.1.pc conn)
    (fresh : ∀ conn, reached.1.nextConn ≤ conn → (after.pc conn).device = none)
    (more : reached.1.nextConn ≤ after.nextConn)
    (quiet : ∀ event ∈ events, (∃ conn, event = .accepted conn) ∨ ∃ conn, event = .hungUp conn) :
    Roles (after, reached.2 ++ events) := by
  have registrations : ∀ conn slot id, .registered conn slot id ∈ reached.2 ++ events → .registered conn slot id ∈ reached.2 := by
    intro conn slot id member
    apply (List.mem_append.mp member).resolve_right
    intro now
    rcases quiet _ now with ⟨_, impossible⟩ | ⟨_, impossible⟩
    · cases impossible
    · cases impossible
  have takings : ∀ client slot device, .took client slot device ∈ reached.2 ++ events → .took client slot device ∈ reached.2 := by
    intro client slot device member
    apply (List.mem_append.mp member).resolve_right
    intro now
    rcases quiet _ now with ⟨_, impossible⟩ | ⟨_, impossible⟩
    · cases impossible
    · cases impossible
  constructor
  · exact exclusive
  · intro slot used
    dsimp only at used ⊢
    rw [slots] at used ⊢
    obtain ⟨taken, id, member⟩ := roles.stored slot used
    exact ⟨taken, id, List.mem_append_left _ member⟩
  · intro conn slot id member
    obtain ⟨settled, born⟩ := roles.enrolled conn slot id (registrations conn slot id member)
    dsimp only
    rw [pcs conn born]
    exact ⟨settled, Nat.lt_of_lt_of_le born more⟩
  · intro client slot device member
    obtain ⟨born, has⟩ := roles.clients client slot device (takings client slot device member)
    dsimp only
    rw [pcs client born]
    exact ⟨Nat.lt_of_lt_of_le born more, has⟩
  · intro client dev has
    dsimp only at has
    by_cases born : client < reached.1.nextConn
    · rw [pcs client born] at has
      obtain ⟨slot, member⟩ := roles.takers client dev has
      exact ⟨slot, List.mem_append_left _ member⟩
    · rw [fresh client (Nat.le_of_not_lt born)] at has
      cases has
  · intro client slot device member
    obtain ⟨taken, id, recorded⟩ := roles.known client slot device (takings client slot device member)
    exact ⟨taken, id, List.mem_append_left _ recorded⟩
  · intro conn taken id slot device registered took
    exact roles.apart conn taken id slot device (registrations conn taken id registered) (takings conn slot device took)

theorem roles_next (reached : Server × List Event) (label : Label) (roles : Roles reached) : Roles (next reached label) := by
  have exclusive := exclusive_next reached label roles.exclusive
  have change := step_changes reached.1 roles.exclusive.base label
  have unborn : ∀ conn, reached.1.nextConn ≤ conn → (reached.1.pc conn).device = none := by
    intro conn later
    rw [(roles.exclusive.base.unborn conn later).1]
    rfl
  rw [next, Runs.record] at exclusive ⊢
  generalize step reached.1 label = result at change exclusive
  cases change with
  | accept fd free =>
      apply roles_environment reached _ _ roles exclusive rfl
      · exact fun conn born => Function.update_of_ne (Nat.ne_of_lt born) _ _
      · intro conn later
        by_cases same : conn = reached.1.nextConn
        · dsimp only
          rw [same, Function.update_self]
          rfl
        · dsimp only
          rw [Function.update_of_ne same]
          exact unborn conn later
      · exact Nat.le_succ _
      · exact fun event member => .inl ⟨_, List.mem_singleton.mp member⟩
  | deliver rx =>
      exact roles_environment reached _ _ roles exclusive rfl (fun _ _ => rfl) unborn (Nat.le_refl _)
        (fun _ member => absurd member List.not_mem_nil)
  | hangUp conn born =>
      exact roles_environment reached _ _ roles exclusive rfl (fun _ _ => rfl) unborn (Nat.le_refl _)
        (fun _ member => .inr ⟨_, List.mem_singleton.mp member⟩)
  | move conn born _ moved => exact roles_move reached conn _ roles moved born

end Intercom.Relay
