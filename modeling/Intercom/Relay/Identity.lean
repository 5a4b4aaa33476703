import Mathlib.Data.Fintype.Card
import Intercom.Relay.Registry

set_option autoImplicit false

/- REGISTER and CONNECT mean the same device by the same id, as long as every id that is given a slot fits it, no
   slot is handed out under a running bridge, no id is registered beside a bridge that still holds its slot and no
   CONNECT goes by a descriptor number that has been given to another connection. -/
namespace Intercom.Relay

open ByteText

def usedSlots (slots : Fin maxDevices → Slot) : Finset (Fin maxDevices) := Finset.univ.filter fun slot => (slots slot).inUse

-- The slot is in use by a connection that has registered the id, bridged or not. What is stored is not asked.
def HoldsId (reached : Server × List Event) (slot : Fin maxDevices) (id : Bytes) : Prop :=
  (reached.1.slots slot).inUse = true ∧ .registered (reached.1.slots slot).sock.conn slot id ∈ reached.2

def OneAnswers (reached : Server × List Event) : Prop :=
  ∀ id one two, visible (reached.1.slots one) id = true → visible (reached.1.slots two) id = true → one = two

-- The device has registered under the id and under no other.
def KnownAs (history : List Event) (device : ConnId) (id : Bytes) : Prop :=
  (∃ slot, .registered device slot id ∈ history) ∧ ∀ slot other, .registered device slot other ∈ history → other = id

structure Agreement (reached : Server × List Event) (label : Label) : Prop where
  found : ∀ conn answer id slot, label = .thread conn answer → reached.1.pc conn = .register id →
    (next reached label).1.pc conn = .answer slot → ∀ client,
      (connectStep (next reached label).1 client id).1.pc client = .accepted slot (reached.1.own conn)
  again : ∀ conn answer id slot, label = .thread conn answer → reached.1.pc conn = .register id → HoldsId reached slot id →
    (usedSlots (next reached label).1.slots).card ≤ (usedSlots reached.1.slots).card
  meant : ∀ client answer id slot dev, label = .thread client answer → reached.1.pc client = .connect id →
    (next reached label).1.pc client = .accepted slot dev →
      KnownAs reached.2 dev.conn id ∧ ∀ target, reached.1.fds dev.fd = some target → target = dev.conn

-- No slot in use carries the id, or the registration that is replaced does.
def unheld (s : Server) (id : Bytes) : Bool :=
  (findDevice s.slots id).isSome || (List.finRange maxDevices).all fun slot => !((s.slots slot).inUse && (s.slots slot).deviceId == id)

def identified (reached : Server × List Event) : Label → Bool
  | .thread conn _ =>
      match reached.1.pc conn with
      | .register id =>
          (allocDeviceSlot (clearDevice reached.1 id).1.slots).all fun slot =>
            decide (id.length ≤ 63) && !(reached.1.slots slot).bridging && unheld reached.1 id
      | .connect id => (findDevice reached.1.slots id).all fun slot => !reissued reached.1 (reached.1.slots slot).sock
      | _ => true
  | _ => true

structure Names (reached : Server × List Event) : Prop where
  base : Base reached.1
  stored : ∀ slot, (reached.1.slots slot).inUse = true →
    .registered (reached.1.slots slot).sock.conn slot (reached.1.slots slot).deviceId ∈ reached.2
  single : ∀ conn one two id other, .registered conn one id ∈ reached.2 → .registered conn two other ∈ reached.2 → other = id
  begun : ∀ conn slot id, .registered conn slot id ∈ reached.2 → conn < reached.1.nextConn ∧ (reached.1.pc conn).early = false
  unique : OneAnswers reached

theorem names_initial : Names initial := by
  constructor
  · exact base_initial
  · exact fun _ used => absurd used (by simp [initial])
  · exact fun _ _ _ _ _ member => absurd member List.not_mem_nil
  · exact fun _ _ _ member => absurd member List.not_mem_nil
  · exact fun _ _ _ seen => absurd seen (by simp [initial, visible])

theorem visible_shape (slot : Slot) (id : Bytes) :
    visible slot id = true ↔ slot.inUse = true ∧ slot.bridging = false ∧ slot.deviceId = id := by
  simp [visible, and_assoc]

theorem names_held (reached : Server × List Event) (names : Names reached) (slot : Fin maxDevices) (id : Bytes)
    (used : (reached.1.slots slot).inUse = true) : HoldsId reached slot id ↔ (reached.1.slots slot).deviceId = id := by
  have stored := names.stored slot used
  constructor
  · intro holds
    exact (names.single _ slot slot id _ holds.2 stored)
  · intro named
    rw [named] at stored
    exact ⟨used, stored⟩

-- The slots that still answer for the id after the earlier registration is gone: none.
theorem cleared_hidden (s : Server) (history : List Event) (unique : OneAnswers (s, history)) (id : Bytes) (slot : Fin maxDevices) :
    visible ((clearDevice s id).1.slots slot) id = false := by
  cases found : findDevice s.slots id with
  | none =>
      simp only [clearDevice, found]
      exact find_device_none s.slots id found slot
  | some existing =>
      by_cases same : slot = existing
      · simp [clearDevice, found, same, visible]
      · have there := (visible_shape (s.slots existing) id).mpr (find_device_found s.slots id existing found)
        simp only [clearDevice, found, Function.update_of_ne same]
        exact Bool.eq_false_iff.mpr fun seen => same (unique id slot existing seen there)

-- What a move other than an accepted registration leaves of a slot.
structure Fades (before after : Slot) : Prop where
  inUse : before.inUse = true
  sock : after.sock = before.sock
  named : after.deviceId = before.deviceId
  bridging : after.bridging = false → before.bridging = false

inductive Renames (s : Server) (conn : ConnId) (result : Server × List Event) : Prop where
  | fades (slots : ∀ slot, (result.1.slots slot).inUse = true → Fades (s.slots slot) (result.1.slots slot))
      (quiet : ∀ owner slot id, .registered owner slot id ∉ result.2)
  | registers (id : Bytes) (slot : Fin maxDevices) (pc : s.pc conn = .register id)
      (free : allocDeviceSlot (clearDevice s id).1.slots = some slot) (same : result = registerStep s conn id)

theorem clear_device_quiet (s : Server) (id : Bytes) (owner : ConnId) (slot : Fin maxDevices) (name : Bytes) :
    .registered owner slot name ∉ (clearDevice s id).2 := by
  rw [clear_device_events, Option.mem_toList, Option.map_eq_some_iff]
  rintro ⟨_, _, impossible⟩
  cases impossible

theorem fades_same (slot : Slot) (used : slot.inUse = true) : Fades slot slot := ⟨used, rfl, rfl, id⟩

theorem releasing_fades (s : Server) (conn : ConnId) (released : Fin maxDevices) : Renames s conn (releasingStep s conn released) := by
  rw [releasingStep]
  split
  · apply Renames.fades
    · intro slot used
      by_cases same : slot = released
      · simp [Server.goto, same] at used
      · simp only [Server.goto, Function.update_of_ne same] at used ⊢
        exact fades_same _ used
    · exact fun _ _ _ => List.not_mem_nil
  · exact Renames.fades (fun slot used => fades_same _ used) (fun _ _ _ => List.not_mem_nil)

theorem connect_fades (s : Server) (conn : ConnId) (id : Bytes) : Renames s conn (connectStep s conn id) := by
  cases found : findDevice s.slots id with
  | none =>
      simp only [connectStep, found]
      exact Renames.fades (fun slot used => fades_same _ used) (fun _ _ _ => List.not_mem_nil)
  | some taken =>
      simp only [connectStep, found]
      apply Renames.fades
      · intro slot used
        by_cases same : slot = taken
        · rw [same] at used ⊢
          simp only [Server.goto, Function.update_self] at used ⊢
          exact ⟨used, rfl, rfl, (fun impossible => by cases impossible)⟩
        · simp only [Server.goto, Function.update_of_ne same] at used ⊢
          exact fades_same _ used
      · intro owner slot name member
        cases List.mem_singleton.mp member

theorem release_fades (s : Server) (conn : ConnId) (released : Fin maxDevices) (dev : Handle) :
    Renames s conn (releaseStep s conn released dev) := by
  apply Renames.fades
  · intro slot used
    by_cases same : slot = released
    · simp [releaseStep, Server.goto, same] at used
    · simp only [releaseStep, Server.goto, Function.update_of_ne same] at used ⊢
      exact fades_same _ used
  · exact fun _ _ _ => List.not_mem_nil

theorem register_renames (s : Server) (conn : ConnId) (id : Bytes) (pc : s.pc conn = .register id) :
    Renames s conn (registerStep s conn id) := by
  cases free : allocDeviceSlot (clearDevice s id).1.slots with
  | none =>
      have same := full_clears_nothing s id free
      rw [same] at free
      simp only [registerStep, same, free]
      exact Renames.fades (fun slot used => fades_same _ used) (fun _ _ _ => List.not_mem_nil)
  | some slot => exact Renames.registers id slot pc free rfl

theorem move_renames (s : Server) (conn : ConnId) (result : Server × List Event) (moved : Move s conn result) :
    Renames s conn result := by
  have single : ∀ (handle : Handle) (call : Call) (owner : ConnId) (slot : Fin maxDevices) (id : Bytes),
      .registered owner slot id ∉ [Event.call handle call] :=
    fun _ _ _ _ _ member => by cases List.mem_singleton.mp member
  cases moved with
  | quiet pc rx tx events alike calls =>
      apply Renames.fades
      · exact fun slot used => fades_same _ used
      · intro owner slot id member
        obtain ⟨handle, call, impossible, _⟩ := calls _ member
        cases impossible
  | lost slot pc why => exact Renames.fades (fun slot used => fades_same _ used) (single _ _)
  | shuts pc handle slot bridging alike has =>
      have same : ((shutdownFd s handle.fd).goto conn pc).slots = s.slots := (shutdown_fds s handle.fd).2.1
      apply Renames.fades
      · intro other used
        rw [same] at used ⊢
        exact fades_same _ used
      · exact single _ _
  | closes handle pc closing => exact Renames.fades (fun slot used => fades_same _ used) (single _ _)
  | register id pc => exact register_renames s conn id pc
  | releasing slot pc => exact releasing_fades s conn slot
  | connect id pc => exact connect_fades s conn id
  | release slot dev pc => exact release_fades s conn slot dev

theorem closes_begun (s : Server) (conn : ConnId) (handle : Handle) (pc : Pc) (step : Closes s conn handle pc) :
    pc.early = false := by
  cases step with
  | last before => rfl
  | first dev before => rfl
  | device dev before => rfl

theorem register_begun (s : Server) (conn : ConnId) (id : Bytes) : ((registerStep s conn id).1.pc conn).early = false := by
  rw [registerStep]
  dsimp only
  split
  · rw [goto_conn]
    rfl
  · rw [goto_conn]
    rfl

-- No thread goes back to its first line.
theorem move_begun (s : Server) (conn : ConnId) (result : Server × List Event) (moved : Move s conn result)
    (begun : (s.pc conn).early = false) : (result.1.pc conn).early = false := by
  cases moved with
  | quiet pc rx tx events alike calls =>
      dsimp only
      rw [Function.update_self]
      exact Bool.eq_false_iff.mpr fun early => absurd ((alike.early early).symm.trans begun) (by decide)
  | lost slot pc why =>
      rw [goto_conn]
      rfl
  | shuts pc handle slot bridging alike has =>
      rw [goto_conn]
      exact Bool.eq_false_iff.mpr fun early => absurd ((alike.early early).symm.trans begun) (by decide)
  | closes handle pc closing =>
      rw [goto_conn]
      exact closes_begun s conn handle pc closing
  | register id pc => exact register_begun s conn id
  | releasing slot pc =>
      rw [releasingStep]
      split
      · rw [goto_conn]
        rfl
      · rw [goto_conn]
        rfl
  | connect id pc =>
      rw [connectStep]
      split
      · rw [goto_conn]
        rfl
      · rw [goto_conn]
        rfl
  | release slot dev pc =>
      rw [releaseStep, goto_conn]
      rfl

theorem names_fade (reached : Server × List Event) (result : Server × List Event) (names : Names reached) (base : Base result.1)
    (slots : ∀ slot, (result.1.slots slot).inUse = true → Fades (reached.1.slots slot) (result.1.slots slot))
    (quiet : ∀ owner slot id, .registered owner slot id ∉ result.2)
    (begun : ∀ conn, conn < reached.1.nextConn → (reached.1.pc conn).early = false →
      conn < result.1.nextConn ∧ (result.1.pc conn).early = false) :
    Names (result.1, reached.2 ++ result.2) := by
  have old : ∀ owner slot id, .registered owner slot id ∈ reached.2 ++ result.2 → .registered owner slot id ∈ reached.2 :=
    fun owner slot id member => (List.mem_append.mp member).resolve_right (quiet owner slot id)
  have seen : ∀ id slot, visible (result.1.slots slot) id = true → visible (reached.1.slots slot) id = true := by
    intro id slot now
    obtain ⟨used, unbridged, named⟩ := (visible_shape _ id).mp now
    have fades := slots slot used
    exact (visible_shape _ id).mpr ⟨fades.inUse, fades.bridging unbridged, fades.named.symm.trans named⟩
  constructor
  · exact base
  · intro slot used
    have fades := slots slot used
    rw [fades.sock, fades.named]
    exact List.mem_append_left _ (names.stored slot fades.inUse)
  · intro conn one two id other first second
    exact names.single conn one two id other (old _ _ _ first) (old _ _ _ second)
  · intro conn slot id member
    obtain ⟨born, late⟩ := names.begun conn slot id (old _ _ _ member)
    exact begun conn born late
  · exact fun id one two first second => names.unique id one two (seen id one first) (seen id two second)

-- The slots after an accepted registration.
theorem register_slots (s : Server) (conn : ConnId) (id : Bytes) (slot : Fin maxDevices)
    (free : allocDeviceSlot (clearDevice s id).1.slots = some slot) :
    (registerStep s conn id).1.slots = Function.update (clearDevice s id).1.slots slot
        { (clearDevice s id).1.slots slot with inUse := true, deviceId := id.take 63, sock := s.own conn } ∧
      (registerStep s conn id).1.pc conn = .answer slot ∧
      (registerStep s conn id).2 = (clearDevice s id).2 ++ [.registered conn slot id] := by
  simp only [registerStep, free]
  exact ⟨rfl, goto_conn _ _ _, trivial⟩

theorem names_register (reached : Server × List Event) (conn : ConnId) (born : conn < reached.1.nextConn) (id : Bytes)
    (slot : Fin maxDevices) (names : Names reached) (pc : reached.1.pc conn = .register id)
    (free : allocDeviceSlot (clearDevice reached.1 id).1.slots = some slot) (short : id.length ≤ 63) :
    Names ((registerStep reached.1 conn id).1, reached.2 ++ (registerStep reached.1 conn id).2) := by
  have beside := register_beside reached.1 conn id names.base pc
  obtain ⟨slots, after, events⟩ := register_slots reached.1 conn id slot free
  have name : id.take 63 = id := List.take_of_length_le short
  have fresh : ∀ one other, .registered conn one other ∉ reached.2 := by
    intro one other member
    have late := (names.begun conn one other member).2
    rw [pc] at late
    cases late
  have recorded : ∀ owner one other, .registered owner one other ∈ reached.2 ++ (registerStep reached.1 conn id).2 →
      .registered owner one other ∈ reached.2 ∨ (owner = conn ∧ one = slot ∧ other = id) := by
    intro owner one other member
    rw [events, List.mem_append, List.mem_append, List.mem_singleton, Event.registered.injEq] at member
    exact member.imp_right fun now => now.resolve_left (clear_device_quiet reached.1 id owner one other)
  have answers : ∀ other named, visible ((registerStep reached.1 conn id).1.slots other) named = true →
      (other = slot ∧ named = id) ∨ (visible (reached.1.slots other) named = true ∧ named ≠ id) := by
    intro other named seen
    rw [slots] at seen
    by_cases same : other = slot
    · rw [same, Function.update_self, visible_shape] at seen
      exact .inl ⟨same, seen.2.2.symm.trans name⟩
    · rw [Function.update_of_ne same] at seen
      have kept := clear_device_slots reached.1 id other ((visible_shape _ named).mp seen).1
      refine .inr ⟨kept ▸ seen, fun here => ?_⟩
      rw [here, cleared_hidden reached.1 reached.2 names.unique id other] at seen
      cases seen
  constructor
  · exact base_beside reached.1 _ conn born names.base beside
  · intro other used
    dsimp only at used ⊢
    rw [slots] at used ⊢
    by_cases same : other = slot
    · rw [same, Function.update_self, name, events]
      exact List.mem_append_right _ (List.mem_append_right _ (List.mem_singleton.mpr rfl))
    · rw [Function.update_of_ne same] at used ⊢
      have kept := clear_device_slots reached.1 id other used
      rw [kept] at used ⊢
      exact List.mem_append_left _ (names.stored other used)
  · intro owner one two named other first second
    cases recorded owner one named first with
    | inl before =>
        cases recorded owner two other second with
        | inl also => exact names.single owner one two named other before also
        | inr now => exact absurd (now.1 ▸ before) (fresh one named)
    | inr now =>
        cases recorded owner two other second with
        | inl before => exact absurd (now.1 ▸ before) (fresh two other)
        | inr also => exact also.2.2.trans now.2.2.symm
  · intro owner one named member
    dsimp only
    rw [beside.nextConn]
    cases recorded owner one named member with
    | inl before =>
        have different : owner ≠ conn := fun same => fresh one named (same ▸ before)
        rw [beside.others owner different]
        exact names.begun owner one named before
    | inr now =>
        rw [now.1, after]
        exact ⟨born, rfl⟩
  · intro named one two first second
    cases answers one named first with
    | inl here =>
        cases answers two named second with
        | inl also => exact here.1.trans also.1.symm
        | inr old => exact absurd here.2 old.2
    | inr old =>
        cases answers two named second with
        | inl here => exact absurd here.2 old.2
        | inr also => exact names.unique named one two old.1 also.1

theorem names_move (reached : Server × List Event) (conn : ConnId) (born : conn < reached.1.nextConn)
    (result : Server × List Event) (names : Names reached) (moved : Move reached.1 conn result)
    (short : ∀ id, reached.1.pc conn = .register id → (allocDeviceSlot (clearDevice reached.1 id).1.slots).isSome = true →
      id.length ≤ 63) : Names (result.1, reached.2 ++ result.2) := by
  have beside := move_beside reached.1 conn result names.base moved
  cases move_renames reached.1 conn result moved with
  | fades slots quiet =>
      apply names_fade reached result names (base_beside reached.1 result.1 conn born names.base beside) slots quiet
      intro other known late
      rw [beside.nextConn]
      by_cases same : other = conn
      · rw [same] at late ⊢
        exact ⟨born, move_begun reached.1 conn result moved late⟩
      · rw [beside.others other same]
        exact ⟨known, late⟩
  | registers id slot pc free same =>
      rw [same]
      exact names_register reached conn born id slot names pc free (short id pc (by rw [free]; rfl))

theorem names_still (reached : Server × List Event) (names : Names reached) : Names (reached.1, reached.2 ++ []) := by
  rw [List.append_nil]
  exact names

theorem names_next (reached : Server × List Event) (label : Label) (names : Names reached)
    (meets : identified reached label = true) : Names (next reached label) := by
  have base := base_change reached.1 _ names.base (step_changes reached.1 names.base label)
  rw [next, Runs.record]
  cases label with
  | accept fd =>
      simp only [step, acceptStep] at base ⊢
      split
      · exact names_still reached names
      · rename_i closed
        rw [if_neg closed] at base
        apply names_fade reached _ names base
        · exact fun _ used => fades_same _ used
        · exact fun _ _ _ member => by cases List.mem_singleton.mp member
        · intro conn born late
          dsimp only
          rw [Function.update_of_ne (Nat.ne_of_lt born)]
          exact ⟨Nat.lt_succ_of_lt born, late⟩
  | deliver conn bytes =>
      simp only [step] at base ⊢
      split
      · rename_i born
        rw [if_pos born] at base
        exact names_fade reached _ names base (fun _ used => fades_same _ used) (fun _ _ _ => List.not_mem_nil)
          (fun _ known late => ⟨known, late⟩)
      · exact names_still reached names
  | hangUp conn =>
      simp only [step] at base ⊢
      split
      · rename_i born
        rw [if_pos born] at base
        exact names_fade reached _ names base (fun _ used => fades_same _ used)
          (fun _ _ _ member => by cases List.mem_singleton.mp member) (fun _ known late => ⟨known, late⟩)
      · exact names_still reached names
  | thread conn answer =>
      by_cases born : conn < reached.1.nextConn
      · apply names_move reached conn born _ names (thread_moves reached.1 conn answer)
        intro id pc free
        obtain ⟨slot, found⟩ := Option.isSome_iff_exists.mp free
        simp only [identified, pc, found, Option.all_some, Bool.and_eq_true, decide_eq_true_eq] at meets
        exact meets.1.1
      · have idle := (names.base.unborn conn (Nat.le_of_not_lt born)).1
        simp only [step, threadStep, idle]
        exact names_still reached names
  | pump conn side answer =>
      simp only [step]
      cases bridge_uses reached.1 conn side answer with
      | inl bridging =>
          obtain ⟨slot, uses⟩ := bridging
          have born : conn < reached.1.nextConn := base_born reached.1 names.base conn fun idle => by
            rw [idle] at uses
            cases uses
          apply names_move reached conn born _ names (bridge_moves reached.1 conn side answer)
          intro id pc _
          rw [pc] at uses
          cases uses
      | inr still =>
          rw [still]
          exact names_still reached names

-- Replacing frees the slot that the new registration takes; without a replacement one more slot is in use.
theorem register_used (s : Server) (conn : ConnId) (id : Bytes) (slot : Fin maxDevices)
    (free : allocDeviceSlot (clearDevice s id).1.slots = some slot) :
    (usedSlots (registerStep s conn id).1.slots).card ≤ (usedSlots s.slots).card ↔ (findDevice s.slots id).isSome = true := by
  have after : usedSlots (registerStep s conn id).1.slots = insert slot (usedSlots (clearDevice s id).1.slots) := by
    apply Finset.ext
    intro other
    rw [(register_slots s conn id slot free).1, Finset.mem_insert]
    by_cases same : other = slot
    · simp [usedSlots, same]
    · simp [usedSlots, same]
  have absent : slot ∉ usedSlots (clearDevice s id).1.slots := by
    simp [usedSlots, alloc_free _ slot free]
  rw [after, Finset.card_insert_of_notMem absent]
  cases found : findDevice s.slots id with
  | none =>
      simp only [clearDevice, found]
      simp
  | some existing =>
      have used := (find_device_found s.slots id existing found).1
      have cleared : usedSlots (clearDevice s id).1.slots = (usedSlots s.slots).erase existing := by
        apply Finset.ext
        intro other
        by_cases same : other = existing
        · simp [usedSlots, clearDevice, found, same]
        · simp [usedSlots, clearDevice, found, same]
      have member : existing ∈ usedSlots s.slots := by simp [usedSlots, used]
      rw [cleared, Finset.card_erase_add_one member]
      simp

theorem connect_finds (s : Server) (client : ConnId) (id : Bytes) (slot : Fin maxDevices) (dev : Handle) :
    (connectStep s client id).1.pc client = .accepted slot dev ↔ findDevice s.slots id = some slot ∧ (s.slots slot).sock = dev := by
  cases found : findDevice s.slots id with
  | none => simp [connectStep, found, goto_conn]
  | some other =>
      simp only [connectStep, found, goto_conn, Pc.accepted.injEq, Option.some.injEq]
      constructor
      · intro same
        exact ⟨same.1, same.1 ▸ same.2⟩
      · intro same
        exact ⟨same.1, same.1 ▸ same.2⟩

-- The new registration is the one that is found exactly when the whole id is stored and no bridge marks the slot.
theorem register_found (s : Server) (history : List Event) (unique : OneAnswers (s, history)) (conn : ConnId) (id : Bytes)
    (slot : Fin maxDevices) (free : allocDeviceSlot (clearDevice s id).1.slots = some slot) :
    findDevice (registerStep s conn id).1.slots id = some slot ↔ id.length ≤ 63 ∧ (s.slots slot).bridging = false := by
  have slots := (register_slots s conn id slot free).1
  constructor
  · intro found
    obtain ⟨_, unbridged, named⟩ := find_device_found _ id slot found
    rw [slots, Function.update_self] at unbridged named
    have cut := congrArg List.length named
    rw [List.length_take] at cut
    exact ⟨by omega, (clear_device_bridging s id slot).symm.trans unbridged⟩
  · intro fitting
    have name : id.take 63 = id := List.take_of_length_le fitting.1
    rw [slots]
    apply find_device_only
    · rw [Function.update_self, visible_shape]
      exact ⟨rfl, (clear_device_bridging s id slot).trans fitting.2, name⟩
    · intro other seen
      by_contra different
      rw [Function.update_of_ne different, cleared_hidden s history unique id other] at seen
      cases seen

theorem unheld_shape (reached : Server × List Event) (names : Names reached) (id : Bytes) :
    unheld reached.1 id = true ↔ ((∃ slot, HoldsId reached slot id) → (findDevice reached.1.slots id).isSome = true) := by
  simp only [unheld, Bool.or_eq_true, List.all_eq_true, Bool.not_eq_true', Bool.and_eq_false_imp, beq_eq_false_iff_ne]
  constructor
  · intro either held
    obtain ⟨slot, holds⟩ := held
    cases either with
    | inl found => exact found
    | inr nowhere =>
        have named := (names_held reached names slot id holds.1).mp holds
        exact absurd named (nowhere slot (List.mem_finRange slot) holds.1)
  · intro replaced
    by_cases held : ∃ slot, HoldsId reached slot id
    · exact .inl (replaced held)
    · right
      intro slot _ used named
      exact held ⟨slot, (names_held reached names slot id used).mpr named⟩

theorem agreement_register (reached : Server × List Event) (conn : ConnId) (answer : Answer) (id : Bytes) (names : Names reached)
    (pc : reached.1.pc conn = .register id) :
    Agreement reached (.thread conn answer) ↔ identified reached (.thread conn answer) = true := by
  have after : (next reached (.thread conn answer)).1 = (registerStep reached.1 conn id).1 := by
    simp only [next, Runs.record, step, threadStep, pc]
  have other : ∀ client name, conn = client → reached.1.pc client ≠ .connect name := by
    intro client name same connects
    rw [← same, pc] at connects
    cases connects
  cases free : allocDeviceSlot (clearDevice reached.1 id).1.slots with
  | none =>
      have same := full_clears_nothing reached.1 id free
      have full := free
      rw [same] at full
      have refused : (registerStep reached.1 conn id).1 = reached.1.goto conn (.refuse (ascii "ERROR server_full\r\n")) := by
        simp only [registerStep, same, full]
      simp only [identified, pc, free, Option.all_none, iff_true]
      constructor
      · intro owner _ name slot label _ answers
        cases label
        rw [after, refused, goto_conn] at answers
        cases answers
      · intro owner _ name slot label _ _
        rw [after, refused]
        exact Nat.le_refl _
      · intro client _ name slot dev label connects
        cases label
        exact absurd connects (other conn name rfl)
  | some slot =>
      obtain ⟨slots, answers, _⟩ := register_slots reached.1 conn id slot free
      have sock : ((registerStep reached.1 conn id).1.slots slot).sock = reached.1.own conn := by
        rw [slots, Function.update_self]
      have fits := register_found reached.1 reached.2 names.unique conn id slot free
      have counted := register_used reached.1 conn id slot free
      have holder := unheld_shape reached names id
      simp only [identified, pc, free, Option.all_some, Bool.and_eq_true, decide_eq_true_eq, Bool.not_eq_true', holder]
      constructor
      · intro agreement
        have found := agreement.found conn answer id slot rfl pc (by rw [after]; exact answers) 0
        rw [after, connect_finds] at found
        refine ⟨fits.mp found.1, fun held => ?_⟩
        obtain ⟨taken, holds⟩ := held
        have count := agreement.again conn answer id taken rfl pc holds
        rw [after] at count
        exact counted.mp count
      · intro meets
        constructor
        · intro owner _ name taken label registers answered client
          cases label
          rw [pc] at registers
          cases registers
          rw [after] at answered ⊢
          rw [answers] at answered
          cases answered
          exact (connect_finds _ client id slot _).mpr ⟨fits.mpr meets.1, sock⟩
        · intro owner _ name taken label registers holds
          cases label
          rw [pc] at registers
          cases registers
          rw [after]
          exact counted.mpr (meets.2 ⟨taken, holds⟩)
        · intro client _ name taken dev label connects
          cases label
          exact absurd connects (other conn name rfl)

theorem reissued_never (s : Server) (handle : Handle) :
    reissued s handle = false ↔ ∀ target, s.fds handle.fd = some target → target = handle.conn := by
  cases open_ : s.fds handle.fd with
  | none => simp [reissued, open_]
  | some target => simp [reissued, open_]

theorem agreement_connect (reached : Server × List Event) (client : ConnId) (answer : Answer) (id : Bytes) (names : Names reached)
    (pc : reached.1.pc client = .connect id) :
    Agreement reached (.thread client answer) ↔ identified reached (.thread client answer) = true := by
  have after : (next reached (.thread client answer)).1 = (connectStep reached.1 client id).1 := by
    simp only [next, Runs.record, step, threadStep, pc]
  have other : ∀ conn name, client = conn → reached.1.pc conn ≠ .register name := by
    intro conn name same registers
    rw [← same, pc] at registers
    cases registers
  have shape : identified reached (.thread client answer) = true ↔
      ∀ slot, findDevice reached.1.slots id = some slot → reissued reached.1 (reached.1.slots slot).sock = false := by
    simp [identified, pc, Option.all_eq_true]
  rw [shape]
  constructor
  · intro agreement slot found
    have accepted := (connect_finds reached.1 client id slot _).mpr ⟨found, rfl⟩
    have meant := agreement.meant client answer id slot _ rfl pc (by rw [after]; exact accepted)
    exact (reissued_never reached.1 _).mpr meant.2
  · intro meets
    constructor
    · intro conn _ name slot label registers
      cases label
      exact absurd registers (other client name rfl)
    · intro conn _ name slot label registers
      cases label
      exact absurd registers (other client name rfl)
    · intro conn _ name slot dev label connects accepted
      cases label
      rw [pc] at connects
      cases connects
      rw [after, connect_finds] at accepted
      obtain ⟨found, rfl⟩ := accepted
      obtain ⟨used, _, named⟩ := find_device_found reached.1.slots id slot found
      have stored := names.stored slot used
      rw [named] at stored
      refine ⟨⟨⟨slot, stored⟩, fun one name member => names.single _ slot one id name stored member⟩, ?_⟩
      exact (reissued_never reached.1 _).mp (meets slot found)

theorem agreement_iff (reached : Server × List Event) (label : Label) (names : Names reached) :
    Agreement reached label ↔ identified reached label = true := by
  have idle : (∀ conn answer, label = .thread conn answer →
      (∀ id, reached.1.pc conn ≠ .register id) ∧ ∀ id, reached.1.pc conn ≠ .connect id) → Agreement reached label := by
    intro elsewhere
    constructor
    · exact fun conn answer id _ label registers => absurd registers ((elsewhere conn answer label).1 id)
    · exact fun conn answer id _ label registers => absurd registers ((elsewhere conn answer label).1 id)
    · exact fun client answer id _ _ label connects => absurd connects ((elsewhere client answer label).2 id)
  cases label with
  | accept fd => exact ⟨fun _ => rfl, fun _ => idle (fun _ _ impossible => by cases impossible)⟩
  | deliver conn bytes => exact ⟨fun _ => rfl, fun _ => idle (fun _ _ impossible => by cases impossible)⟩
  | hangUp conn => exact ⟨fun _ => rfl, fun _ => idle (fun _ _ impossible => by cases impossible)⟩
  | pump conn side answer => exact ⟨fun _ => rfl, fun _ => idle (fun _ _ impossible => by cases impossible)⟩
  | thread conn answer =>
      by_cases registers : ∃ id, reached.1.pc conn = .register id
      · obtain ⟨id, pc⟩ := registers
        exact agreement_register reached conn answer id names pc
      · by_cases connects : ∃ id, reached.1.pc conn = .connect id
        · obtain ⟨id, pc⟩ := connects
          exact agreement_connect reached conn answer id names pc
        · have agreed : Agreement reached (.thread conn answer) := by
            apply idle
            intro owner _ same
            cases same
            exact ⟨fun id pc => registers ⟨id, pc⟩, fun id pc => connects ⟨id, pc⟩⟩
          have free : identified reached (.thread conn answer) = true := by
            simp only [identified]
            split
            · rename_i id pc
              exact absurd ⟨id, pc⟩ registers
            · rename_i id pc
              exact absurd ⟨id, pc⟩ connects
            · rfl
          exact ⟨fun _ => free, fun _ => agreed⟩

theorem agreed_steps (labels : List Label) :
    Runs.EachStep next Agreement initial labels ↔
      Runs.EachStep next (fun reached label => identified reached label = true) initial labels :=
  Runs.each_step_guarded next Names Agreement _ initial labels names_next agreement_iff names_initial

theorem lookups_agree_iff_identified (labels : List Label) :
    (Runs.EachState next OneAnswers initial labels ∧ Runs.EachStep next Agreement initial labels) ↔
      Runs.EachStep next (fun reached label => identified reached label = true) initial labels := by
  constructor
  · exact fun both => (agreed_steps labels).mp both.2
  · intro meets
    have names := Runs.each_state_of_steps next Names _ initial labels names_next names_initial meets
    exact ⟨Runs.each_state_mono next OneAnswers Names initial labels (fun _ kept => kept.unique) names,
      (agreed_steps labels).mpr meets⟩

def longId : String := String.ofList (List.replicate 64 'a')

-- The id is stored without its last character and is not found under its full length.
def longRun : List Label := registerRun 0 3 ("REGISTER " ++ longId ++ " smartlock2026\r\n")

theorem long_id_not_found :
    .call ⟨3, 0⟩ (.send (ascii "OK\r\n")) ∈ (Runs.run next initial longRun).2 ∧
      (connectStep (Runs.run next initial longRun).1 1 (ascii longId)).1.pc 1 = .refuse (ascii "ERROR device_not_found\r\n") ∧
      ¬ (Runs.EachState next OneAnswers initial longRun ∧ Runs.EachStep next Agreement initial longRun) := by
  refine ⟨by decide +kernel, by decide +kernel, fun both => ?_⟩
  have meets := (agreed_steps longRun).mp both.2
  exact absurd meets (by decide +kernel)

end Intercom.Relay
