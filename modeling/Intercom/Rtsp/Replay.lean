import Mathlib.Data.List.Nodup
import Intercom.Lib.Runs
import Intercom.Rtsp.Receive

set_option autoImplicit false

/- g_auth as the calls on it see it, whichever connection they are made for. The nonce in force is the last one
   generated, and every other one generated was used up by exactly one accepted check. -/
namespace Intercom

open ByteText

-- calls counts the numbers taken from rand() so far.
structure Guard where
  auth : Auth
  calls : Nat
deriving DecidableEq, Repr

inductive AuthCall where
  | check (conn : ConnId) (method uri : Bytes) (header : Option Bytes)
  | challenge (conn : ConnId)
  | draw (count : Nat)
deriving DecidableEq, Repr

inductive AuthEvent where
  | generated (nonce : Bytes)
  | accepted (conn : ConnId) (header : Option Bytes) (current : Bytes)
  | rejected (conn : ConnId)
  | challenged (conn : ConnId) (nonce : Bytes)
deriving DecidableEq, Repr

def authStep (rand : Nat → Nat) (md5 : Bytes → Fin 16 → UInt8) (guard : Guard) : AuthCall → Guard × List AuthEvent
  | .check conn method uri header =>
      if rtspAuthCheck md5 guard.auth method uri header then
        if guard.auth.enabled then
          let auth := rotateNonce rand guard.calls guard.auth
          ({ auth, calls := guard.calls + nonceLen }, [.accepted conn header guard.auth.nonce, .generated auth.nonce])
        else (guard, [.accepted conn header guard.auth.nonce])
      else (guard, [.rejected conn])
  | .challenge conn => (guard, [.challenged conn guard.auth.nonce])
  | .draw count => ({ guard with calls := guard.calls + count }, [])

def authInit (rand : Nat → Nat) (call : Nat) (username password : Bytes) : Guard × List AuthEvent :=
  let auth := rtspAuthInit rand call username password
  ({ auth, calls := call + nonceLen }, [.generated auth.nonce])

def authRun (rand : Nat → Nat) (md5 : Bytes → Fin 16 → UInt8) (start : Guard × List AuthEvent) (calls : List AuthCall) :
    Guard × List AuthEvent :=
  Runs.run (Runs.record (authStep rand md5)) start calls

def AuthEvent.generated? : AuthEvent → Option Bytes
  | .generated nonce => some nonce
  | _ => none

def AuthEvent.header? : AuthEvent → Option (Option Bytes)
  | .accepted _ header _ => some header
  | _ => none

def AuthEvent.used? : AuthEvent → Option Bytes
  | .accepted _ _ current => some current
  | _ => none

def generatedIn (log : List AuthEvent) : List Bytes := log.filterMap AuthEvent.generated?

-- The Authorization headers of the accepted checks, oldest first.
def acceptedIn (log : List AuthEvent) : List (Option Bytes) := log.filterMap AuthEvent.header?

def usedIn (log : List AuthEvent) : List Bytes := log.filterMap AuthEvent.used?

def nonceField (header : Option Bytes) : Option Bytes := header.bind fun hdr => parseDigestField hdr (ascii "nonce") 64

-- What the process does to g_auth when it checks a request is the call of the same name.
theorem auth_check_call (w : World) (d : Device) (req : RtspReq) (conn : ConnId) (enabled : d.auth.enabled = true) :
    (authStep w.rand w.md5 ⟨d.auth, d.calls⟩ (.check conn req.method req.uri
      (if req.authorization = [] then none else some req.authorization))).1 =
        ⟨(authCheck w d req).1.auth, (authCheck w d req).1.calls⟩ := by
  rw [authStep, authCheck]
  dsimp only
  generalize (if req.authorization = [] then none else some req.authorization) = header
  by_cases accepted : rtspAuthCheck w.md5 d.auth req.method req.uri header = true
  · simp only [if_pos accepted, if_pos enabled]
  · simp only [if_neg accepted]

theorem accepted_carries (md5 : Bytes → Fin 16 → UInt8) (auth : Auth) (method uri : Bytes) (header : Option Bytes)
    (enabled : auth.enabled = true) (accepted : rtspAuthCheck md5 auth method uri header = true) :
    nonceField header = some auth.nonce := by
  unfold rtspAuthCheck at accepted
  rw [if_pos enabled] at accepted
  cases header with
  | none => cases accepted
  | some hdr =>
      dsimp only at accepted
      rw [nonceField, Option.bind_some]
      split at accepted
      · split at accepted
        · rename_i nonce _ _ _ _ found _ _
          have same : nonce = auth.nonce := by
            simp only [Bool.and_eq_true, decide_eq_true_eq] at accepted
            exact accepted.1.2
          rw [found, same]
        · cases accepted
      · cases accepted

structure NonceTrack (reached : Guard × List AuthEvent) : Prop where
  enabled : reached.1.auth.enabled = true
  used : usedIn reached.2 ++ [reached.1.auth.nonce] = generatedIn reached.2
  carried : (acceptedIn reached.2).map nonceField = (usedIn reached.2).map some

theorem events_append (log more : List AuthEvent) :
    generatedIn (log ++ more) = generatedIn log ++ generatedIn more ∧ acceptedIn (log ++ more) = acceptedIn log ++ acceptedIn more ∧
      usedIn (log ++ more) = usedIn log ++ usedIn more :=
  ⟨List.filterMap_append, List.filterMap_append, List.filterMap_append⟩

theorem tracked_idle (guard after : Guard) (log more : List AuthEvent) (inv : NonceTrack (guard, log)) (same : after.auth = guard.auth)
    (generated : generatedIn more = []) (accepted : acceptedIn more = []) (used : usedIn more = []) :
    NonceTrack (after, log ++ more) := by
  obtain ⟨first, second, third⟩ := events_append log more
  rw [generated, List.append_nil] at first
  rw [accepted, List.append_nil] at second
  rw [used, List.append_nil] at third
  refine ⟨same ▸ inv.enabled, ?_, ?_⟩
  · dsimp only
    rw [first, third, same]
    exact inv.used
  · dsimp only
    rw [second, third]
    exact inv.carried

theorem tracked_accepted (rand : Nat → Nat) (guard : Guard) (log : List AuthEvent) (conn : ConnId) (header : Option Bytes)
    (inv : NonceTrack (guard, log)) (field : nonceField header = some guard.auth.nonce) :
    NonceTrack ({ auth := rotateNonce rand guard.calls guard.auth, calls := guard.calls + nonceLen },
      log ++ [.accepted conn header guard.auth.nonce, .generated (rotateNonce rand guard.calls guard.auth).nonce]) := by
  obtain ⟨first, second, third⟩ := events_append log
    [.accepted conn header guard.auth.nonce, .generated (rotateNonce rand guard.calls guard.auth).nonce]
  refine ⟨inv.enabled, ?_, ?_⟩
  · dsimp only
    rw [first, third, ← inv.used]
    rfl
  · dsimp only
    rw [second, third, List.map_append, inv.carried, List.map_append]
    exact congrArg (fun field => (usedIn log).map some ++ [field]) field

theorem auth_step_tracked (rand : Nat → Nat) (md5 : Bytes → Fin 16 → UInt8) (reached : Guard × List AuthEvent) (call : AuthCall)
    (inv : NonceTrack reached) : NonceTrack (Runs.record (authStep rand md5) reached call) := by
  obtain ⟨guard, log⟩ := reached
  cases call with
  | check conn method uri header =>
      by_cases accepted : rtspAuthCheck md5 guard.auth method uri header = true
      · have field := accepted_carries md5 guard.auth method uri header inv.enabled accepted
        have enabled : guard.auth.enabled = true := inv.enabled
        simp only [Runs.record, authStep, if_pos accepted, if_pos enabled]
        exact tracked_accepted rand guard log conn header inv field
      · simp only [Runs.record, authStep, if_neg accepted]
        exact tracked_idle guard guard log [.rejected conn] inv rfl rfl rfl rfl
  | challenge conn => exact tracked_idle guard guard log [.challenged conn guard.auth.nonce] inv rfl rfl rfl rfl
  | draw count => exact tracked_idle guard { guard with calls := guard.calls + count } log [] inv rfl rfl rfl rfl

theorem auth_init_tracked (rand : Nat → Nat) (call : Nat) (username password : Bytes)
    (enabled : (rtspAuthInit rand call username password).enabled = true) : NonceTrack (authInit rand call username password) :=
  ⟨enabled, rfl, rfl⟩

theorem auth_step_idle (rand : Nat → Nat) (md5 : Bytes → Fin 16 → UInt8) (guard : Guard) (call : AuthCall)
    (none : acceptedIn (authStep rand md5 guard call).2 = []) : (authStep rand md5 guard call).1.auth = guard.auth := by
  cases call with
  | check conn method uri header =>
      rw [authStep] at none ⊢
      split at none
      · split at none
        · cases none
        · cases none
      · rename_i rejected
        rw [if_neg rejected]
  | challenge conn => rfl
  | draw count => rfl

theorem auth_run_idle (rand : Nat → Nat) (md5 : Bytes → Fin 16 → UInt8) (start : Guard × List AuthEvent) (calls : List AuthCall)
    (none : acceptedIn (authRun rand md5 start calls).2 = acceptedIn start.2) :
    (authRun rand md5 start calls).1.auth = start.1.auth := by
  induction calls generalizing start with
  | nil => rfl
  | cons call rest ih =>
      have grows : ∀ state more, ∃ later, acceptedIn (authRun rand md5 state more).2 = acceptedIn state.2 ++ later := by
        intro state more
        obtain ⟨guard, log⟩ := state
        rw [authRun, Runs.record_outputs]
        exact ⟨_, List.filterMap_append⟩
      obtain ⟨later, whole⟩ := grows (Runs.record (authStep rand md5) start call) rest
      have first : acceptedIn (Runs.record (authStep rand md5) start call).2 =
          acceptedIn start.2 ++ acceptedIn (authStep rand md5 start.1 call).2 := List.filterMap_append
      have here : acceptedIn (authRun rand md5 start (call :: rest)).2 =
          acceptedIn start.2 ++ acceptedIn (authStep rand md5 start.1 call).2 ++ later := by
        rw [← first, ← whole]
        rfl
      rw [here, List.append_assoc] at none
      have nothing := List.append_eq_nil_iff.mp (List.append_right_eq_self.mp none)
      have same := auth_step_idle rand md5 start.1 call nothing.1
      refine (ih _ ?_).trans same
      rw [whole, nothing.2, List.append_nil]

theorem accepted_once (rand : Nat → Nat) (md5 : Bytes → Fin 16 → UInt8) (start : Guard × List AuthEvent) (calls : List AuthCall)
    (inv : NonceTrack start) (distinct : (generatedIn (authRun rand md5 start calls).2).Nodup) :
    ((acceptedIn (authRun rand md5 start calls).2).map nonceField).Nodup := by
  have reached : NonceTrack (authRun rand md5 start calls) :=
    Runs.run_invariant _ NonceTrack start calls (fun current call => auth_step_tracked rand md5 current call) inv
  rw [reached.carried]
  rw [← reached.used] at distinct
  exact distinct.of_append_left.map fun _ _ same => Option.some.inj same

theorem recorded_header_accepted_once (rand : Nat → Nat) (md5 : Bytes → Fin 16 → UInt8) (username password : Bytes) (call : Nat)
    (calls : List AuthCall) (enabled : (rtspAuthInit rand call username password).enabled = true)
    (distinct : (generatedIn (authRun rand md5 (authInit rand call username password) calls).2).Nodup) :
    ((acceptedIn (authRun rand md5 (authInit rand call username password) calls).2).map nonceField).Nodup ∧
    (acceptedIn (authRun rand md5 (authInit rand call username password) calls).2).Nodup ∧
    (∀ early late conn method uri header, calls = early ++ .check conn method uri header :: late →
      (rtspAuthCheck md5 (authRun rand md5 (authInit rand call username password) early).1.auth method uri header = true →
        nonceField header = some (authRun rand md5 (authInit rand call username password) early).1.auth.nonce) ∧
      (rtspAuthCheck md5 (authRun rand md5 (authInit rand call username password) early).1.auth method uri header = false →
        (authRun rand md5 (authInit rand call username password) (early ++ [.check conn method uri header])).1.auth =
          (authRun rand md5 (authInit rand call username password) early).1.auth)) ∧
    ∀ early late, calls = early ++ late →
      acceptedIn (authRun rand md5 (authInit rand call username password) calls).2 =
        acceptedIn (authRun rand md5 (authInit rand call username password) early).2 →
      (authRun rand md5 (authInit rand call username password) calls).1.auth =
        (authRun rand md5 (authInit rand call username password) early).1.auth := by
  have start := auth_init_tracked rand call username password enabled
  have tracked : ∀ prefixCalls, NonceTrack (authRun rand md5 (authInit rand call username password) prefixCalls) := fun prefixCalls =>
    Runs.run_invariant _ NonceTrack _ prefixCalls (fun current call => auth_step_tracked rand md5 current call) start
  have fields := accepted_once rand md5 _ calls start distinct
  refine ⟨fields, fields.of_map, ?_, ?_⟩
  · intro early late conn method uri header _
    refine ⟨?_, ?_⟩
    · exact accepted_carries md5 _ method uri header (tracked early).enabled
    · intro rejected
      rw [authRun, Runs.run_append]
      refine auth_step_idle rand md5 _ (.check conn method uri header) ?_
      rw [authStep]
      have refused : ¬ rtspAuthCheck md5 (authRun rand md5 (authInit rand call username password) early).1.auth method uri header = true := by
        rw [rejected]
        exact Bool.false_ne_true
      rw [authRun] at refused
      rw [if_neg refused]
      rfl
  · rintro early late rfl none
    rw [authRun, Runs.run_append] at none ⊢
    exact auth_run_idle rand md5 _ late none

def digestHeader : Bytes :=
  ascii "Digest username=\"a\", realm=\"x\", nonce=\"00000000000000000000000000000000\", uri=\"u\", response=\"00000000000000000000000000000000\""

theorem header_replayed :
    acceptedIn (authRun (fun call => call / 32) (fun _ _ => 0) (authInit (fun call => call / 32) 0 (ascii "a") (ascii "b"))
      [.challenge 0, .check 0 (ascii "PLAY") [] (some digestHeader), .check 1 (ascii "PLAY") [] (some digestHeader)]).2 =
        [some digestHeader] ∧
    ((acceptedIn (authRun (fun call => call / 32) (fun _ _ => 0) (authInit (fun call => call / 32) 0 (ascii "a") (ascii "b"))
      [.challenge 0, .check 0 (ascii "PLAY") [] (some digestHeader), .check 1 (ascii "PLAY") [] (some digestHeader)]).2).map
        nonceField).Nodup :=
  ⟨by decide +kernel, (recorded_header_accepted_once (fun call => call / 32) (fun _ _ => 0) (ascii "a") (ascii "b") 0 _
    (by decide) (by decide +kernel)).1⟩

end Intercom
