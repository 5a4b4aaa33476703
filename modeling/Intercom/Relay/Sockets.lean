import Intercom.Relay.Base

set_option autoImplicit false

/- Who may still use a socket. A thread that closes a descriptor while another one has it makes the other touch a
   closed number, or a number that has gone to another peer; nothing else does. -/
namespace Intercom.Relay

open ByteText

def Event.touches : Event → Option ConnId
  | .call handle _ => some handle.conn
  | _ => none

def Event.closes : Event → Option ConnId
  | .call handle .close => some handle.conn
  | _ => none

-- After the close of a connection's descriptor no call is made on it, not even another close.
def Tidy (history : List Event) : Prop :=
  history.Pairwise fun early late => ∀ conn, early.closes = some conn → late.touches ≠ some conn

-- The descriptors that the next step of a thread closes.
def closing (s : Server) (conn : ConnId) : List Handle :=
  match s.pc conn with
  | .register id => ((findDevice s.slots id).map fun slot => (s.slots slot).sock).toList
  | .closing => [s.own conn]
  | .closeOwn _ => [s.own conn]
  | .closeDev dev => [dev]
  | _ => []

def holds (s : Server) (other conn : ConnId) : Bool :=
  (other == conn && (s.pc other).live) || (s.pc other).device.any fun dev => dev.conn == conn

-- A thread closes only what no other running thread has.
def soleHolder (reached : Server × List Event) : Label → Bool
  | .thread conn _ =>
      (closing reached.1 conn).all fun handle =>
        (List.range reached.1.nextConn).all fun other => other == conn || !holds reached.1 other handle.conn
  | _ => true

structure Released (s : Server) (conn : ConnId) : Prop where
  born : conn < s.nextConn
  own : (s.pc conn).live = false
  devices : ∀ other dev, (s.pc other).device = some dev → dev.conn ≠ conn

theorem tidy_append (history events : List Event) (before : Tidy history) (now : Tidy events)
    (apart : ∀ early ∈ history, ∀ late ∈ events, ∀ conn, early.closes = some conn → late.touches ≠ some conn) :
    Tidy (history ++ events) :=
  List.pairwise_append.mpr ⟨before, now, apart⟩

theorem tidy_single (event : Event) : Tidy [event] := List.pairwise_singleton _ _

theorem has_not_released (s : Server) (conn : ConnId) (handle : Handle) (has : s.has conn handle) :
    ¬ Released s handle.conn := by
  intro released
  cases has with
  | inl own =>
      rw [own.1] at released
      exact absurd (own.2.symm.trans released.own) (by decide)
  | inr device => exact released.devices conn handle device rfl

theorem stored_not_released (s : Server) (base : Base s) (slot : Fin maxDevices) (used : (s.slots slot).inUse = true) :
    ¬ Released s (s.slots slot).sock.conn := by
  intro released
  have live := (watches_settled _ slot (base.held slot used).1).2.1
  exact absurd (live.symm.trans released.own) (by decide)

theorem closes_has (s : Server) (conn : ConnId) (handle : Handle) (pc : Pc) (step : Closes s conn handle pc) :
    s.has conn handle := by
  cases step with
  | last before => exact .inl ⟨rfl, by rw [before]; rfl⟩
  | first dev before => exact .inl ⟨rfl, by rw [before]; rfl⟩
  | device dev before => exact .inr (by rw [before]; rfl)

theorem clear_device_events (s : Server) (id : Bytes) :
    (clearDevice s id).2 = (((findDevice s.slots id).map fun slot => Event.call (s.slots slot).sock .close).toList) := by
  unfold clearDevice
  split <;> rename_i found <;> simp [found]

theorem register_events (s : Server) (conn : ConnId) (id : Bytes) :
    (registerStep s conn id).2 = (clearDevice s id).2 ∨
      ∃ slot, (registerStep s conn id).2 = (clearDevice s id).2 ++ [.registered conn slot id] := by
  rw [registerStep]
  dsimp only
  split
  · exact .inl rfl
  · exact .inr ⟨_, rfl⟩

theorem touched_not_released (s : Server) (conn : ConnId) (result : Server × List Event) (base : Base s)
    (moved : Move s conn result) (event : Event) (member : event ∈ result.2) (touched : ConnId)
    (touches : event.touches = some touched) : ¬ Released s touched := by
  cases moved with
  | quiet pc rx tx events alike calls =>
      obtain ⟨handle, call, rfl, has, _⟩ := calls event member
      exact Option.some.inj touches ▸ has_not_released s conn handle has
  | lost slot pc why =>
      rw [List.mem_singleton.mp member] at touches
      have has : s.has conn (s.own conn) := .inl ⟨rfl, by rw [pc]; rfl⟩
      exact Option.some.inj touches ▸ has_not_released s conn _ has
  | shuts pc handle slot bridging alike has =>
      rw [List.mem_singleton.mp member] at touches
      exact Option.some.inj touches ▸ has_not_released s conn handle has
  | closes handle pc step =>
      rw [List.mem_singleton.mp member] at touches
      exact Option.some.inj touches ▸ has_not_released s conn handle (closes_has s conn handle pc step)
  | register id pc =>
      have cleared : event ∈ (clearDevice s id).2 := by
        cases register_events s conn id with
        | inl same => exact same ▸ member
        | inr more =>
            obtain ⟨slot, same⟩ := more
            rw [same, List.mem_append] at member
            cases member with
            | inl early => exact early
            | inr last =>
                rw [List.mem_singleton.mp last] at touches
                cases touches
      rw [clear_device_events, Option.mem_toList, Option.map_eq_some_iff] at cleared
      obtain ⟨slot, found, rfl⟩ := cleared
      have used := (find_device_found s.slots id slot found).1
      exact Option.some.inj touches ▸ stored_not_released s base slot used
  | releasing slot pc =>
      rw [releasingStep] at member
      split at member <;> exact absurd member List.not_mem_nil
  | connect id pc =>
      rw [connectStep] at member
      split at member
      · exact absurd member List.not_mem_nil
      · rw [List.mem_singleton.mp member] at touches
        cases touches
  | release slot dev pc => exact absurd member List.not_mem_nil

theorem move_live (s : Server) (conn : ConnId) (result : Server × List Event) (moved : Move s conn result)
    (live : (result.1.pc conn).live = true) : (s.pc conn).live = true := by
  cases moved with
  | quiet pc rx tx events alike calls =>
      have now : (Function.update s.pc conn pc) conn = pc := Function.update_self _ _ _
      dsimp only at live
      rwa [now, alike.live] at live
  | lost slot pc why => rw [pc]; rfl
  | shuts pc handle slot bridging alike has => rwa [goto_conn, alike.live] at live
  | closes handle pc step =>
      cases step with
      | last before => rw [before]; rfl
      | first dev before => rw [before]; rfl
      | device dev before =>
          rw [goto_conn] at live
          cases live
  | register id pc => rw [pc]; rfl
  | releasing slot pc => rw [pc]; rfl
  | connect id pc => rw [pc]; rfl
  | release slot dev pc => rw [pc]; rfl

theorem released_move (s : Server) (conn gone : ConnId) (result : Server × List Event) (base : Base s)
    (moved : Move s conn result) (released : Released s gone) : Released result.1 gone := by
  have beside := move_beside s conn result base moved
  constructor
  · rw [beside.nextConn]
    exact released.born
  · by_cases same : gone = conn
    · rw [same]
      exact Bool.eq_false_iff.mpr fun live =>
        absurd ((move_live s conn result moved live).symm.trans (same ▸ released.own)) (by decide)
    · rw [beside.others gone same]
      exact released.own
  · intro other dev has
    by_cases same : other = conn
    · rw [same] at has
      cases beside.device dev has with
      | inl before => exact released.devices conn dev before
      | inr stored =>
          obtain ⟨slot, used, rfl⟩ := stored
          intro here
          exact stored_not_released s base slot used (here ▸ released)
    · rw [beside.others other same] at has
      exact released.devices other dev has

theorem released_change (s : Server) (gone : ConnId) (result : Server × List Event) (base : Base s)
    (change : Change s result) (released : Released s gone) : Released result.1 gone := by
  cases change with
  | accept fd free =>
      have older : gone ≠ s.nextConn := Nat.ne_of_lt released.born
      refine ⟨Nat.lt_succ_of_lt released.born, ?_, ?_⟩
      · dsimp only
        rw [Function.update_of_ne older]
        exact released.own
      · intro other dev has
        by_cases same : other = s.nextConn
        · rw [same] at has
          simp [Pc.device] at has
        · dsimp only at has
          rw [Function.update_of_ne same] at has
          exact released.devices other dev has
  | deliver rx => exact ⟨released.born, released.own, released.devices⟩
  | hangUp conn born => exact ⟨released.born, released.own, released.devices⟩
  | move conn born _ moved => exact released_move s conn gone _ base moved released

def Alone (s : Server) (conn : ConnId) : Prop :=
  ∀ handle ∈ closing s conn, ∀ other, other ≠ conn → holds s other handle.conn = false

theorem alone_device (s : Server) (conn other : ConnId) (handle dev : Handle) (alone : Alone s conn)
    (member : handle ∈ closing s conn) (different : other ≠ conn) (has : (s.pc other).device = some dev) :
    dev.conn ≠ handle.conn := by
  intro same
  have free := alone handle member other different
  simp [holds, has, same] at free

theorem closed_released (s : Server) (conn : ConnId) (handle : Handle) (pc : Pc) (born : conn < s.nextConn) (base : Base s)
    (step : Closes s conn handle pc) (alone : Alone s conn) :
    Released ((closeFd s handle.fd).goto conn pc) handle.conn := by
  have others : ∀ other dev, other ≠ conn → handle ∈ closing s conn →
      (((closeFd s handle.fd).goto conn pc).pc other).device = some dev → dev.conn ≠ handle.conn := by
    intro other dev different member has
    rw [goto_other _ conn other _ different] at has
    exact alone_device s conn other handle dev alone member different has
  cases step with
  | last before =>
      refine ⟨born, by rw [Server.own, goto_conn]; rfl, fun other dev has => ?_⟩
      by_cases same : other = conn
      · rw [same, goto_conn] at has
        cases has
      · exact others other dev same (by simp [closing, before]) has
  | first dev before =>
      refine ⟨born, by rw [Server.own, goto_conn]; rfl, fun other held has => ?_⟩
      by_cases same : other = conn
      · rw [same, goto_conn] at has
        cases has
        -- A connection that asked for a device has never registered itself.
        intro own
        have settled := (base.devices conn dev (by rw [before]; rfl)).2.1
        rw [own, Server.own, before] at settled
        cases settled
      · exact others other held same (by simp [closing, before]) has
  | device dev before =>
      obtain ⟨_, settled, bornDevice⟩ := base.devices conn handle (by rw [before]; rfl)
      have different : handle.conn ≠ conn := by
        intro same
        rw [same, before] at settled
        cases settled
      have member : handle ∈ closing s conn := by simp [closing, before]
      refine ⟨bornDevice, ?_, fun other held has => ?_⟩
      · rw [goto_other _ conn handle.conn _ different]
        have free := alone handle member handle.conn different
        simp only [holds, beq_self_eq_true, Bool.true_and, Bool.or_eq_false_iff] at free
        exact free.1
      · by_cases same : other = conn
        · rw [same, goto_conn] at has
          cases has
        · exact others other held same member has

-- A registration that is replaced is still watched by its thread.
theorem alone_replaces_nothing (s : Server) (conn : ConnId) (id : Bytes) (base : Base s) (pc : s.pc conn = .register id)
    (alone : Alone s conn) : (clearDevice s id).2 = [] := by
  cases found : findDevice s.slots id with
  | none => simp [clear_device_events, found]
  | some slot =>
      have used := (find_device_found s.slots id slot found).1
      have watches := (base.held slot used).1
      have live := (watches_settled _ slot watches).2.1
      have different : (s.slots slot).sock.conn ≠ conn := by
        intro same
        rw [same, pc] at watches
        cases watches
      have free := alone (s.slots slot).sock (by simp [closing, pc, found]) _ different
      simp [holds, live] at free

theorem tidy_quiet (events : List Event) (none : ∀ event ∈ events, event.closes = none) : Tidy events := by
  induction events with
  | nil => exact List.Pairwise.nil
  | cons event rest ih =>
      refine List.Pairwise.cons (fun late _ conn closes => ?_) (ih fun other member => none other (by simp [member]))
      rw [none event (by simp)] at closes
      cases closes

structure Orderly (reached : Server × List Event) : Prop where
  base : Base reached.1
  released : ∀ event ∈ reached.2, ∀ conn, event.closes = some conn → Released reached.1 conn
  tidy : Tidy reached.2

-- What one move adds to the history: no close, or one close by a thread that is alone.
theorem move_closes (s : Server) (conn : ConnId) (result : Server × List Event) (born : conn < s.nextConn) (base : Base s)
    (moved : Move s conn result) (alone : Alone s conn) :
    Tidy result.2 ∧ ∀ event ∈ result.2, ∀ closed, event.closes = some closed → Released result.1 closed := by
  have quietly : ∀ events : List Event, (∀ event ∈ events, event.closes = none) →
      Tidy events ∧ ∀ event ∈ events, ∀ closed, event.closes = some closed → Released result.1 closed := by
    intro events none
    refine ⟨tidy_quiet events none, fun event member closed closes => ?_⟩
    rw [none event member] at closes
    cases closes
  cases moved with
  | quiet pc rx tx events alike calls =>
      apply quietly
      intro event member
      obtain ⟨handle, call, rfl, _, gentle⟩ := calls event member
      cases call <;> simp_all [Event.closes, Call.gentle]
  | lost slot pc why => exact quietly _ fun event member => by rw [List.mem_singleton.mp member]; rfl
  | shuts pc handle slot bridging alike has => exact quietly _ fun event member => by rw [List.mem_singleton.mp member]; rfl
  | closes handle pc step =>
      refine ⟨tidy_single _, fun event member closed closes => ?_⟩
      rw [List.mem_singleton.mp member] at closes
      exact Option.some.inj closes ▸ closed_released s conn handle pc born base step alone
  | register id pc =>
      apply quietly
      intro event member
      cases register_events s conn id with
      | inl same =>
          rw [same, alone_replaces_nothing s conn id base pc alone] at member
          exact absurd member List.not_mem_nil
      | inr more =>
          obtain ⟨slot, same⟩ := more
          rw [same, alone_replaces_nothing s conn id base pc alone] at member
          rw [List.mem_singleton.mp member]
          rfl
  | releasing slot pc =>
      apply quietly
      intro event member
      rw [releasingStep] at member
      split at member <;> exact absurd member List.not_mem_nil
  | connect id pc =>
      apply quietly
      intro event member
      rw [connectStep] at member
      split at member
      · exact absurd member List.not_mem_nil
      · rw [List.mem_singleton.mp member]
        rfl
  | release slot dev pc => exact quietly _ fun event member => absurd member List.not_mem_nil

theorem change_untouched (s : Server) (result : Server × List Event) (base : Base s) (change : Change s result)
    (event : Event) (member : event ∈ result.2) (touched : ConnId) (touches : event.touches = some touched) :
    ¬ Released s touched := by
  cases change with
  | accept fd free =>
      rw [List.mem_singleton.mp member] at touches
      cases touches
  | deliver rx => exact absurd member List.not_mem_nil
  | hangUp conn born =>
      rw [List.mem_singleton.mp member] at touches
      cases touches
  | move conn born _ moved => exact touched_not_released s conn _ base moved event member touched touches

theorem orderly_change (reached : Server × List Event) (result : Server × List Event) (orderly : Orderly reached)
    (change : Change reached.1 result) (tidy : Tidy result.2)
    (released : ∀ event ∈ result.2, ∀ conn, event.closes = some conn → Released result.1 conn) :
    Orderly (result.1, reached.2 ++ result.2) := by
  refine ⟨base_change _ result orderly.base change, ?_, ?_⟩
  · intro event member conn closes
    cases List.mem_append.mp member with
    | inl before => exact released_change _ conn result orderly.base change (orderly.released event before conn closes)
    | inr now => exact released event now conn closes
  · apply tidy_append _ _ orderly.tidy tidy
    intro early before late now conn closes touches
    exact change_untouched _ _ orderly.base change late now conn touches (orderly.released early before conn closes)

theorem sole_alone (reached : Server × List Event) (conn : ConnId) (answer : Answer) (base : Base reached.1)
    (sole : soleHolder reached (.thread conn answer) = true) : Alone reached.1 conn := by
  intro handle member other different
  by_cases born : other < reached.1.nextConn
  · simp only [soleHolder, List.all_eq_true, List.mem_range] at sole
    simpa [different] using sole handle member other born
  · have idle := (base.unborn other (Nat.le_of_not_lt born)).1
    simp [holds, idle, Pc.live, Pc.device]

theorem bridge_closes_nothing (s : Server) (conn : ConnId) (side : Side) (answer : Answer) :
    Alone s conn ∨ bridgeStep s conn side answer = (s, []) := by
  unfold bridgeStep
  split
  · rename_i slot dev up down pc
    left
    intro handle member
    simp [closing, pc] at member
  · exact .inr rfl

theorem orderly_next (reached : Server × List Event) (label : Label) (orderly : Orderly reached)
    (sole : soleHolder reached label = true) : Orderly (next reached label) := by
  have change := step_changes reached.1 orderly.base label
  have nothing : ∀ (result : Server × List Event), Change reached.1 result →
      (∀ event ∈ result.2, event.closes = none) → Orderly (result.1, reached.2 ++ result.2) := by
    intro result changed none
    apply orderly_change reached result orderly changed (tidy_quiet _ none)
    intro event member conn closes
    rw [none event member] at closes
    cases closes
  cases label with
  | accept fd =>
      apply nothing _ change
      intro event member
      simp only [step, acceptStep] at member
      split at member
      · exact absurd member List.not_mem_nil
      · rw [List.mem_singleton.mp member]
        rfl
  | deliver conn bytes =>
      apply nothing _ change
      intro event member
      simp only [step] at member
      split at member <;> exact absurd member List.not_mem_nil
  | hangUp conn =>
      apply nothing _ change
      intro event member
      simp only [step] at member
      split at member
      · rw [List.mem_singleton.mp member]
        rfl
      · exact absurd member List.not_mem_nil
  | thread conn answer =>
      by_cases born : conn < reached.1.nextConn
      · obtain ⟨tidy, released⟩ := move_closes reached.1 conn _ born orderly.base (thread_moves reached.1 conn answer)
          (sole_alone reached conn answer orderly.base sole)
        exact orderly_change reached _ orderly change tidy released
      · have idle := (orderly.base.unborn conn (Nat.le_of_not_lt born)).1
        apply nothing _ change
        intro event member
        simp [step, threadStep, idle] at member
  | pump conn side answer =>
      cases bridge_closes_nothing reached.1 conn side answer with
      | inl alone =>
          by_cases born : conn < reached.1.nextConn
          · obtain ⟨tidy, released⟩ := move_closes reached.1 conn _ born orderly.base (bridge_moves reached.1 conn side answer) alone
            exact orderly_change reached _ orderly change tidy released
          · have idle := (orderly.base.unborn conn (Nat.le_of_not_lt born)).1
            apply nothing _ change
            intro event member
            simp [step, bridgeStep, idle] at member
      | inr still =>
          apply nothing _ change
          intro event member
          simp [step, still] at member

-- While every close is made by the only thread that has the descriptor, no closed socket is touched again.
theorem sole_holders_keep_sockets_tidy (labels : List Label)
    (sole : Runs.EachStep next (fun reached label => soleHolder reached label = true) initial labels) :
    Runs.EachState next (fun reached => Tidy reached.2) initial labels := by
  have start : Orderly initial :=
    ⟨base_initial, fun _ member => absurd member List.not_mem_nil, List.Pairwise.nil⟩
  have orderly := Runs.each_state_of_steps next Orderly _ initial labels
    (fun reached label before alone => orderly_next reached label before alone) start sole
  exact Runs.each_state_mono next _ Orderly initial labels (fun _ reached => reached.tidy) orderly

def registerRun (conn : ConnId) (fd : Nat) (line : String) : List Label :=
  [Label.accept fd, .deliver conn (ascii line)] ++ List.replicate ((ascii line).length + 2) (Label.thread conn (.gives 0))

def visitRun : List Label :=
  registerRun 0 3 "REGISTER a smartlock2026\r\n" ++ [Label.hangUp 0, .thread 0 .fails, .thread 0 .fails, .thread 0 .fails]

theorem visit_keeps_sockets_tidy :
    Runs.EachStep next (fun reached label => soleHolder reached label = true) initial visitRun ∧
      Runs.EachState next (fun reached => Tidy reached.2) initial visitRun ∧
      Event.call ⟨3, 0⟩ .close ∈ (Runs.run next initial visitRun).2 := by
  have sole : Runs.EachStep next (fun reached label => soleHolder reached label = true) initial visitRun := by decide +kernel
  exact ⟨sole, sole_holders_keep_sockets_tidy visitRun sole, by decide +kernel⟩

-- The app of a bridge hangs up; the bridge closes the device's descriptor under its watcher.
def bridgeRun : List Label :=
  registerRun 0 3 "REGISTER a smartlock2026\r\n" ++
  ([Label.accept 4, .deliver 1 (ascii "CONNECT a\r\n")] ++ List.replicate 14 (Label.thread 1 (.gives 0))) ++
  [Label.hangUp 1, .pump 1 .up .fails, .pump 1 .up .fails, .pump 1 .down .fails, .pump 1 .down .fails] ++
  List.replicate 4 (Label.thread 1 .fails) ++ [Label.thread 0 .fails, .thread 0 .fails, .thread 0 .fails]

theorem bridge_end_closes_twice : ¬ Runs.EachState next (fun reached => Tidy reached.2) initial bridgeRun := by
  intro every
  have last := Runs.each_state_last next (fun reached => Tidy reached.2) initial bridgeRun every
  have twice : [Event.call ⟨3, 0⟩ .close, Event.call ⟨3, 0⟩ .close].Sublist (Runs.run next initial bridgeRun).2 := by
    decide +kernel
  have apart := List.pairwise_iff_forall_sublist.mp last twice
  exact apart 0 rfl rfl

end Intercom.Relay
