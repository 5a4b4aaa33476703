import Intercom.Relay.Server

set_option autoImplicit false

/- What one step of a relay thread can do, said once: most steps only move the thread along and make one socket
   call; the others shut down or close a descriptor or are one of the four locked sections. -/
namespace Intercom.Relay

open ByteText

-- The slot whose registration the thread looks after.
def Pc.watches : Pc → Option (Fin maxDevices)
  | .answer slot => some slot
  | .watching slot => some slot
  | .releasing slot => some slot
  | _ => none

-- The same while the thread has not seen its connection end.
def Pc.attends : Pc → Option (Fin maxDevices)
  | .answer slot => some slot
  | .watching slot => some slot
  | _ => none

def Pc.uses : Pc → Option (Fin maxDevices)
  | .accepted slot _ => some slot
  | .notify slot _ => some slot
  | .bridge slot _ _ _ => some slot
  | .release slot _ => some slot
  | _ => none

def Pc.device : Pc → Option Handle
  | .accepted _ dev => some dev
  | .notify _ dev => some dev
  | .bridge _ dev _ _ => some dev
  | .release _ dev => some dev
  | .closeOwn dev => some dev
  | .closeDev dev => some dev
  | _ => none

-- Where the thread of a connection can be once it has registered.
def Pc.settled : Pc → Bool
  | .answer _ => true
  | .watching _ => true
  | .releasing _ => true
  | .closing => true
  | .finished => true
  | _ => false

def Pc.early : Pc → Bool
  | .reading _ => true
  | .register _ => true
  | _ => false

def Pc.live : Pc → Bool
  | .closeDev _ => false
  | .finished => false
  | _ => true

structure Pc.Alike (before after : Pc) : Prop where
  watches : after.watches = before.watches
  attends : after.attends = before.attends
  uses : after.uses = before.uses
  device : after.device = before.device
  live : after.live = before.live
  settled : before.settled = true → after.settled = true
  early : after.early = true → before.early = true

theorem alike_refl (pc : Pc) : Pc.Alike pc pc := ⟨rfl, rfl, rfl, rfl, rfl, id, id⟩

-- The same holdings, never less settled and never earlier: for two given points each is seen by evaluation.
theorem alike_of {before after : Pc}
    (same : (after.watches, after.attends, after.uses, after.device, after.live) =
      (before.watches, before.attends, before.uses, before.device, before.live))
    (settled : (before.settled && !after.settled) = false) (early : (after.early && !before.early) = false) :
    Pc.Alike before after := by
  simp only [Prod.mk.injEq] at same
  obtain ⟨watches, attends, uses, device, live⟩ := same
  refine ⟨watches, attends, uses, device, live, ?_, ?_⟩
  · intro was
    simpa [was] using settled
  · intro now
    simpa [now] using early

def Server.has (s : Server) (conn : ConnId) (handle : Handle) : Prop :=
  (handle = s.own conn ∧ (s.pc conn).live = true) ∨ (s.pc conn).device = some handle

def Call.gentle : Call → Bool
  | .recv => true
  | .send _ => true
  | _ => false

inductive Closes (s : Server) (conn : ConnId) : Handle → Pc → Prop where
  | last (pc : s.pc conn = .closing) : Closes s conn (s.own conn) .finished
  | first (dev : Handle) (pc : s.pc conn = .closeOwn dev) : Closes s conn (s.own conn) (.closeDev dev)
  | device (dev : Handle) (pc : s.pc conn = .closeDev dev) : Closes s conn dev .finished

inductive Move (s : Server) (conn : ConnId) : Server × List Event → Prop where
  | quiet (pc : Pc) (rx tx : ConnId → Bytes) (events : List Event) (alike : Pc.Alike (s.pc conn) pc)
      (calls : ∀ event ∈ events, ∃ handle call, event = .call handle call ∧ s.has conn handle ∧ call.gentle = true) :
      Move s conn ({ s with pc := Function.update s.pc conn pc, rx := rx, tx := tx }, events)
  | lost (slot : Fin maxDevices) (pc : s.pc conn = .watching slot)
      (why : ∀ target, s.fds (s.fd conn) = some target → s.ended target = true) :
      Move s conn (s.goto conn (.releasing slot), [.call (s.own conn) .recv])
  | shuts (pc : Pc) (handle : Handle) (slot : Fin maxDevices) (bridging : (s.pc conn).uses = some slot)
      (alike : Pc.Alike (s.pc conn) pc) (has : s.has conn handle) :
      Move s conn ((shutdownFd s handle.fd).goto conn pc, [.call handle .shutdown])
  | closes (handle : Handle) (pc : Pc) (closing : Closes s conn handle pc) :
      Move s conn ((closeFd s handle.fd).goto conn pc, [.call handle .close])
  | register (id : Bytes) (pc : s.pc conn = .register id) : Move s conn (registerStep s conn id)
  | releasing (slot : Fin maxDevices) (pc : s.pc conn = .releasing slot) : Move s conn (releasingStep s conn slot)
  | connect (id : Bytes) (pc : s.pc conn = .connect id) : Move s conn (connectStep s conn id)
  | release (slot : Fin maxDevices) (dev : Handle) (pc : s.pc conn = .release slot dev) :
      Move s conn (releaseStep s conn slot dev)

theorem stays (s : Server) (conn : ConnId) : Move s conn (s, []) := by
  have same := @Move.quiet s conn (s.pc conn) s.rx s.tx [] (alike_refl _)
    (fun _ member => absurd member List.not_mem_nil)
  rwa [Function.update_eq_self] at same

theorem one_call (s : Server) (conn : ConnId) (pc : Pc) (rx tx : ConnId → Bytes) (handle : Handle) (call : Call)
    (alike : Pc.Alike (s.pc conn) pc) (has : s.has conn handle) (gentle : call.gentle = true) :
    Move s conn ({ s with pc := Function.update s.pc conn pc, rx := rx, tx := tx }, [.call handle call]) := by
  apply Move.quiet pc rx tx _ alike
  intro event member
  exact ⟨handle, call, List.mem_singleton.mp member, has, gentle⟩

theorem send_writes (s sent : Server) (fd count : Nat) (bytes : Bytes) (answer : Answer)
    (result : send s fd bytes answer = some (sent, count)) : ∃ tx, sent = { s with tx := tx } := by
  unfold send at result
  split at result
  · cases result
    exact ⟨s.tx, rfl⟩
  · split at result
    · cases result
      exact ⟨s.tx, rfl⟩
    · split at result
      · split at result
        · cases result
          exact ⟨s.tx, rfl⟩
        · cases result
      · cases result
        exact ⟨_, rfl⟩

theorem say_moves (s : Server) (conn : ConnId) (handle : Handle) (line : Bytes) (pc : Pc) (answer : Answer)
    (alike : Pc.Alike (s.pc conn) pc) (has : s.has conn handle) :
    Move s conn (sayStep s conn handle line pc answer) := by
  rw [sayStep, sendLine]
  cases result : send s handle.fd line (whole line answer) with
  | none => exact stays s conn
  | some sent =>
      obtain ⟨tx, same⟩ := send_writes s sent.1 handle.fd sent.2 line (whole line answer) result
      simp only [Option.map_some, same]
      exact one_call s conn pc s.rx tx handle (.send line) alike has rfl

theorem read_byte_alike (line : Bytes) (byte : UInt8) : Pc.Alike (.reading line) (readByte line byte) := by
  have closing : Pc.Alike (.reading line) .closing := alike_of rfl rfl rfl
  have parsed : ∀ text, Pc.Alike (.reading line) (parseLine text) := by
    intro text
    rw [parseLine, parseRegister]
    repeat' split
    all_goals exact alike_of rfl rfl rfl
  rw [readByte]
  split
  · split
    · exact closing
    · exact parsed _
  · split
    · exact alike_of rfl rfl rfl
    · exact parsed _

theorem read_moves (s : Server) (conn : ConnId) (line : Bytes) (answer : Answer) (pc : s.pc conn = .reading line) :
    Move s conn (readStep s conn line answer) := by
  have has : s.has conn (s.own conn) := .inl ⟨rfl, by rw [pc]; rfl⟩
  rw [readStep]
  split
  · exact stays s conn
  · exact one_call s conn .closing s.rx s.tx _ .recv (pc ▸ alike_of rfl rfl rfl) has rfl
  · rename_i target bytes _
    exact one_call s conn _ (s.consume target bytes).rx s.tx _ .recv (pc ▸ read_byte_alike line _) has rfl

theorem recv_failed (s : Server) (fd size : Nat) (answer : Answer) (failed : recv s fd size answer = some .failed)
    (target : ConnId) (live : s.fds fd = some target) : s.ended target = true := by
  unfold recv at failed
  rw [live] at failed
  simp only at failed
  split at failed
  · split at failed
    · assumption
    · cases failed
  · split at failed
    · split at failed
      · assumption
      · cases failed
    · cases failed

theorem watch_moves (s : Server) (conn : ConnId) (slot : Fin maxDevices) (answer : Answer)
    (pc : s.pc conn = .watching slot) : Move s conn (watchStep s conn slot answer) := by
  have has : s.has conn (s.own conn) := .inl ⟨rfl, by rw [pc]; rfl⟩
  rw [watchStep]
  split
  · exact stays s conn
  · rename_i failed
    exact Move.lost slot pc (recv_failed s (s.fd conn) 1 answer failed)
  · have same := one_call s conn (s.pc conn) s.rx s.tx (s.own conn) .recv (alike_refl _) has rfl
    rwa [Function.update_eq_self] at same

theorem thread_moves (s : Server) (conn : ConnId) (answer : Answer) : Move s conn (threadStep s conn answer) := by
  have has : (s.pc conn).live = true → s.has conn (s.own conn) := fun live => .inl ⟨rfl, live⟩
  unfold threadStep
  split
  · rename_i line pc
    exact read_moves s conn line answer pc
  · rename_i message pc
    exact say_moves s conn _ message _ answer (pc ▸ alike_of rfl rfl rfl) (has (by rw [pc]; rfl))
  · rename_i id pc
    exact Move.register id pc
  · rename_i slot pc
    exact say_moves s conn _ _ _ answer (pc ▸ alike_of rfl rfl rfl) (has (by rw [pc]; rfl))
  · rename_i slot pc
    exact watch_moves s conn slot answer pc
  · rename_i slot pc
    exact Move.releasing slot pc
  · rename_i id pc
    exact Move.connect id pc
  · rename_i slot dev pc
    exact say_moves s conn _ _ _ answer (pc ▸ alike_of rfl rfl rfl) (has (by rw [pc]; rfl))
  · rename_i slot dev pc
    exact say_moves s conn _ _ _ answer (pc ▸ alike_of rfl rfl rfl) (.inr (by rw [pc]; rfl))
  · rename_i slot dev pc
    exact Move.quiet (.release slot dev) s.rx s.tx [] (pc ▸ alike_of rfl rfl rfl)
      (fun _ member => absurd member List.not_mem_nil)
  · exact stays s conn
  · rename_i slot dev pc
    exact Move.release slot dev pc
  · rename_i dev pc
    exact Move.closes _ _ (.first dev pc)
  · rename_i dev pc
    exact Move.closes _ _ (.device dev pc)
  · rename_i pc
    exact Move.closes _ _ (.last pc)
  · exact stays s conn

theorem pump_moves (s : Server) (conn : ConnId) (source target : Handle) (pump : Pump) (back : Pump → Pc) (answer : Answer)
    (slot : Fin maxDevices) (bridging : (s.pc conn).uses = some slot)
    (alike : ∀ after, Pc.Alike (s.pc conn) (back after)) (hasSource : s.has conn source) (hasTarget : s.has conn target) :
    Move s conn (pumpStep s conn source target pump back answer) := by
  cases pump with
  | receiving =>
      simp only [pumpStep]
      split
      · exact stays s conn
      · exact one_call s conn _ s.rx s.tx source .recv (alike .stopping) hasSource rfl
      · rename_i origin bytes _
        exact one_call s conn _ (s.consume origin bytes).rx s.tx source .recv (alike _) hasSource rfl
  | sending left =>
      simp only [pumpStep]
      cases result : send s target.fd left answer with
      | none => exact stays s conn
      | some sent =>
          obtain ⟨tx, same⟩ := send_writes s sent.1 target.fd sent.2 left answer result
          simp only [same]
          split
          · exact one_call s conn _ s.rx tx target (.send left) (alike .stopping) hasTarget rfl
          · exact one_call s conn _ s.rx tx target (.send left) (alike _) hasTarget rfl
  | stopping => exact Move.shuts (back .done) target slot bridging (alike .done) hasTarget
  | done => exact stays s conn

theorem bridge_moves (s : Server) (conn : ConnId) (side : Side) (answer : Answer) :
    Move s conn (bridgeStep s conn side answer) := by
  unfold bridgeStep
  split
  · rename_i slot dev up down pc
    have own : s.has conn (s.own conn) := .inl ⟨rfl, by rw [pc]; rfl⟩
    have device : s.has conn dev := .inr (by rw [pc]; rfl)
    have bridging : (s.pc conn).uses = some slot := by rw [pc]; rfl
    cases side with
    | up => exact pump_moves s conn _ dev up _ answer slot bridging (fun _ => pc ▸ alike_of rfl rfl rfl) own device
    | down => exact pump_moves s conn dev _ down _ answer slot bridging (fun _ => pc ▸ alike_of rfl rfl rfl) device own
  · exact stays s conn

end Intercom.Relay
