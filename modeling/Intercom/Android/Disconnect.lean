import Intercom.Android.Threads

set_option autoImplicit false

/- What disconnect leaves behind: the threads that are still running when it makes its last assignment, and the sockets. -/
namespace Intercom.Android.Threads

structure Final (c : Client) : Prop where
  state : c.final = true → c.shared.state = .disconnected
  sockets : c.final = true → (∀ self, (c.pc self).alive = false) → ∀ sock, sock < c.shared.nextSock → c.shared.closed sock = true

def Shared.deaf (s : Shared) : Bool := s.inputStream.all s.closed

-- An exception of doConnect that does not end in ERROR once autoReconnect is false.
def Caller.quiet : Caller → Bool
  | .connect _ => false
  | _ => true

-- Positions from which doConnect no longer assigns the state once that is DISCONNECTED: the check at its entry is ahead,
-- or the exchange it is in has lost its socket.
def DoConnect.harmless (s : Shared) (caller : Caller) : DoConnect → Bool
  | .enter _ => true
  | .isConnecting _ => true
  | .isReconnecting _ => true
  | .inputStream sock => caller.quiet && s.closed sock
  | .outputStream sock => caller.quiet && s.closed sock
  | .send _ _ => caller.quiet && s.deaf
  | .respond _ _ => caller.quiet && s.deaf
  | .read _ _ input => caller.quiet && s.closed input
  | .reader => caller.quiet
  | .start => caller.quiet
  | .throws => caller.quiet
  | .returns => true
  | _ => false

def Pc.harmless (s : Shared) : Pc → Bool
  | .factory caller => caller.quiet
  | .doConnect caller position => position.harmless s caller
  | .caught caller => caller.quiet
  | .cleanup .schedule _ => false
  | .fail => false
  | .reconnecting => false
  | .retrying _ => false
  | .giveUp => false
  | .lost => false
  | _ => true

def settled (c : Client) : Bool :=
  !c.shared.running && !c.shared.live && (List.range c.shared.nextThread).all fun self => (c.pc self).harmless c.shared

-- disconnect makes its last assignment when all this is so, and no step before it loses a socket: doConnect does not
-- turn away one that was made for it, setting its option does not fail, and nobody overwrites one that is still open.
def clear (c : Client) : Label → Bool
  | .call _ => true
  | .app _ =>
      match c.app with
      | .disconnected => settled c
      | .cleanup .dropSocket => !c.shared.live
      | _ => true
  | .thread self answer =>
      match c.pc self with
      | .doConnect _ (.isReconnecting (some _)) => c.shared.state == .reconnecting
      | .doConnect _ (.noDelay _) => answer != .fails
      | .doConnect _ (.socket _) => !c.shared.live
      | .cleanup _ .dropSocket => !c.shared.live
      | _ => true

-- The socket that only this thread knows.
def DoConnect.holds : DoConnect → Option SockId
  | .enter existing => existing
  | .isConnecting existing => existing
  | .isReconnecting existing => existing
  | .noDelay sock => some sock
  | .socket sock => some sock
  | _ => none

def Pc.holds : Pc → Option SockId
  | .doConnect _ position => position.holds
  | _ => none

structure Keeps (s after : Shared) (held kept : Option SockId) : Prop where
  closed : ∀ sock, s.closed sock = true → after.closed sock = true
  fresh : ∀ sock, sock < after.nextSock → sock < s.nextSock ∨ kept = some sock
  field : ∀ sock, s.socket = some sock → after.closed sock = false → after.socket = some sock
  hand : ∀ sock, held = some sock → after.closed sock = false → kept = some sock ∨ after.socket = some sock

structure Still (s : Shared) : Prop where
  state : s.state = .disconnected
  autoReconnect : s.autoReconnect = false
  running : s.running = false
  live : s.live = false

structure Effect (s after : Shared) (held kept : Option SockId) (harmless : Bool) (later : Bool) : Prop where
  keeps : Keeps s after held kept
  autoReconnect : s.autoReconnect = false → after.autoReconnect = false
  calm : Still s → harmless = true → Still after ∧ (s.deaf = true → after.deaf = true) ∧ later = true

structure SameSockets (s after : Shared) : Prop where
  socket : after.socket = s.socket
  closed : after.closed = s.closed
  nextSock : after.nextSock = s.nextSock

structure Frame (s after : Shared) : Prop where
  sockets : SameSockets s after
  inputStream : after.inputStream = s.inputStream
  state : after.state = s.state
  autoReconnect : after.autoReconnect = s.autoReconnect
  running : after.running = s.running

theorem live_none (s : Shared) (dead : s.live = false) (sock : SockId) (field : s.socket = some sock) : s.closed sock = true := by
  simpa [Shared.live, field] using dead

theorem keeps_frame (s after : Shared) (held kept : Option SockId) (frame : SameSockets s after)
    (hand : ∀ sock, held = some sock → kept = some sock) : Keeps s after held kept := by
  constructor
  · exact fun sock before => (congrFun frame.closed sock).trans before
  · exact fun sock born => .inl (frame.nextSock ▸ born)
  · exact fun sock before _ => frame.socket.trans before
  · exact fun sock before _ => .inl (hand sock before)

theorem effect_frame (s after : Shared) (held kept : Option SockId) (harmless later : Bool) (frame : Frame s after)
    (hand : ∀ sock, held = some sock → kept = some sock) (calm : Still s → harmless = true → later = true) :
    Effect s after held kept harmless later := by
  constructor
  · exact keeps_frame s after held kept frame.sockets hand
  · exact fun before => frame.autoReconnect.trans before
  · intro still safe
    have live : after.live = false := by simpa [Shared.live, frame.sockets.socket, frame.sockets.closed] using still.live
    refine ⟨⟨frame.state.trans still.state, frame.autoReconnect.trans still.autoReconnect, frame.running.trans still.running, live⟩,
      ?_, calm still safe⟩
    simp [Shared.deaf, frame.inputStream, frame.sockets.closed]

theorem effect_same (s : Shared) (held kept : Option SockId) (harmless later : Bool)
    (hand : ∀ sock, held = some sock → kept = some sock) (calm : Still s → harmless = true → later = true) :
    Effect s s held kept harmless later :=
  effect_frame s s held kept harmless later ⟨⟨rfl, rfl, rfl⟩, rfl, rfl, rfl, rfl⟩ hand calm

-- A step that a thread of interest does not get to.
theorem effect_harmful (s after : Shared) (held kept : Option SockId) (later : Bool) (keeps : Keeps s after held kept)
    (autoReconnect : s.autoReconnect = false → after.autoReconnect = false) : Effect s after held kept false later :=
  ⟨keeps, autoReconnect, (fun _ impossible => by cases impossible)⟩

theorem accepted_only (s : Shared) (session : Option Text) (backchannel : Bool) (ask : Ask) :
    ∃ id track, (accepted s session backchannel ask).1 = { s with sessionId := id, backchannelTrack := track } ∧
      (accepted s session backchannel ask).2.holds = none := by
  cases ask with
  | options => exact ⟨_, _, rfl, rfl⟩
  | describe => exact ⟨_, _, rfl, rfl⟩
  | setupVideo =>
      simp only [accepted]
      split
      · exact ⟨_, _, rfl, rfl⟩
      · refine ⟨session, s.backchannelTrack, rfl, ?_⟩
        dsimp only
        split <;> rfl
  | setupAudio =>
      refine ⟨_, _, rfl, ?_⟩
      simp only [accepted]
      split <;> rfl
  | setupBackchannel => exact ⟨_, _, rfl, rfl⟩
  | play => exact ⟨_, _, rfl, rfl⟩

theorem response_only (s : Shared) (ask : Ask) (retry : Bool) (answer : Answer) :
    ∃ id track, (response s ask retry answer).1 = { s with sessionId := id, backchannelTrack := track } ∧
      (response s ask retry answer).2.holds = none := by
  cases answer with
  | fails => exact ⟨_, _, rfl, rfl⟩
  | unauthorized =>
      simp only [response]
      split
      · exact accepted_only s none false ask
      · refine ⟨_, _, rfl, ?_⟩
        dsimp only
        split <;> rfl
  | gives session backchannel => exact accepted_only s session backchannel ask

theorem opening_holds (existing : Option SockId) : (opening existing).holds = existing := by cases existing <;> rfl

theorem keeps_opened (s : Shared) : Keeps s { s with nextSock := s.nextSock + 1 } none (some s.nextSock) := by
  constructor
  · exact fun _ closed => closed
  · intro sock born
    cases Nat.lt_succ_iff_lt_or_eq.mp born with
    | inl old => exact .inl old
    | inr new => exact .inr (by rw [new])
  · exact fun _ field _ => field
  · exact fun _ impossible => by cases impossible

-- The field is assigned while it holds no open socket.
theorem keeps_assigned (s : Shared) (held value : Option SockId) (dead : s.live = false) (hand : held = none ∨ held = value) :
    Keeps s { s with socket := value } held none := by
  constructor
  · exact fun _ closed => closed
  · exact fun _ born => .inl born
  · intro sock field lasting
    exact absurd ((live_none s dead sock field).symm.trans lasting) (by decide)
  · intro sock before _
    cases hand with
    | inl nothing => cases nothing.symm.trans before
    | inr same => exact .inr (same.symm.trans before)

theorem connect_effect (s : Shared) (self : ThreadId) (answer : Answer) (caller : Caller) (position : DoConnect)
    (taken : ∀ sock, position = .isReconnecting (some sock) → s.state = .reconnecting)
    (optional : ∀ sock, position = .noDelay sock → answer ≠ .fails) (vacant : ∀ sock, position = .socket sock → s.live = false) :
    Effect s (connectStep s self answer position).1 position.holds (connectStep s self answer position).2.holds
      (position.harmless s caller) ((connectStep s self answer position).2.harmless (connectStep s self answer position).1 caller) := by
  have same : ∀ next : DoConnect, next.holds = position.holds →
      (Still s → position.harmless s caller = true → next.harmless s caller = true) →
      Effect s s position.holds next.holds (position.harmless s caller) (next.harmless s caller) := by
    intro next holds calm
    exact effect_same s _ _ _ _ (fun sock held => holds.trans held) calm
  have quiet : ∀ condition, (caller.quiet && condition) = true → caller.quiet = true := fun _ both => ((Bool.and_eq_true _ _).mp both).1
  cases position with
  | enter existing =>
      simp only [connectStep]
      split
      · exact effect_frame s _ _ _ _ _ ⟨⟨rfl, rfl, rfl⟩, rfl, rfl, rfl, rfl⟩ (fun _ held => held) fun _ _ => rfl
      · exact same _ rfl fun _ safe => safe
  | isConnecting existing =>
      simp only [connectStep]
      split
      · rename_i connecting
        exact same _ (opening_holds existing) fun still _ => by cases still.state.symm.trans connecting
      · exact same _ rfl fun _ _ => rfl
  | isReconnecting existing =>
      simp only [connectStep]
      split
      · rename_i reconnecting
        exact same _ (opening_holds existing) fun still _ => by cases still.state.symm.trans reconnecting
      · rename_i other
        cases existing with
        | none => exact same _ rfl fun _ _ => rfl
        | some sock => exact absurd (taken sock rfl) other
  | noDelay sock =>
      simp only [connectStep, if_neg (optional sock rfl)]
      exact same _ rfl fun _ safe => by cases safe
  | open_ =>
      simp only [connectStep]
      split
      · exact same _ rfl fun _ safe => by cases safe
      · exact effect_harmful s _ _ _ _ (keeps_opened s) fun before => before
  | socket sock => exact effect_harmful s _ _ _ _ (keeps_assigned s _ _ (vacant sock rfl) (.inr rfl)) fun before => before
  | inputStream sock =>
      simp only [connectStep]
      split
      · exact same _ rfl fun _ safe => quiet _ safe
      · rename_i lasting
        exact ⟨keeps_frame s _ _ _ ⟨rfl, rfl, rfl⟩ fun _ held => held, fun before => before,
          fun _ safe => absurd ((Bool.and_eq_true _ _).mp safe).2 lasting⟩
  | outputStream sock =>
      simp only [connectStep]
      split
      · exact same _ rfl fun _ safe => quiet _ safe
      · rename_i lasting
        exact effect_frame s _ _ _ _ _ ⟨⟨rfl, rfl, rfl⟩, rfl, rfl, rfl, rfl⟩ (fun _ held => held) fun _ safe =>
          absurd ((Bool.and_eq_true _ _).mp safe).2 lasting
  | send ask retry =>
      simp only [connectStep]
      split
      · exact same _ rfl fun _ safe => quiet _ safe
      · exact same _ rfl fun _ safe => safe
  | respond ask retry =>
      simp only [connectStep]
      cases input : s.inputStream with
      | none => exact same _ rfl fun _ safe => quiet _ safe
      | some sock =>
          exact same (.read ask retry sock) rfl fun _ safe => by simpa [DoConnect.harmless, Shared.deaf, input] using safe
  | read ask retry input =>
      simp only [connectStep]
      split
      · exact same _ rfl fun _ safe => quiet _ safe
      · rename_i lasting
        obtain ⟨id, track, fields, holds⟩ := response_only s ask retry answer
        rw [fields, holds]
        exact effect_frame s _ _ _ _ _ ⟨⟨rfl, rfl, rfl⟩, rfl, rfl, rfl, rfl⟩ (fun _ held => held) fun _ safe =>
          absurd ((Bool.and_eq_true _ _).mp safe).2 lasting
  | connected => exact effect_harmful s _ _ _ _ (keeps_frame s _ _ _ ⟨rfl, rfl, rfl⟩ fun _ held => held) fun before => before
  | playing => exact effect_harmful s _ _ _ _ (keeps_frame s _ _ _ ⟨rfl, rfl, rfl⟩ fun _ held => held) fun before => before
  | running => exact effect_harmful s _ _ _ _ (keeps_frame s _ _ _ ⟨rfl, rfl, rfl⟩ fun _ held => held) fun before => before
  | reader => exact same _ rfl fun _ safe => safe
  | start => exact same _ rfl fun _ safe => safe
  | returns => exact same _ rfl fun _ safe => safe
  | throws => exact same _ rfl fun _ safe => safe

theorem cleanup_effect (s : Shared) (owner : Owner) (alive : ThreadId → Bool) (answer : Answer) (position : Cleanup)
    (vacant : position = .dropSocket → s.live = false) :
    Effect s (cleanupStep s owner alive answer position).1 none none true true := by
  have same : Effect s s none none true true := effect_same s _ _ _ _ (fun _ held => held) fun _ _ => rfl
  cases position with
  | running =>
      refine ⟨keeps_frame s _ _ _ ⟨rfl, rfl, rfl⟩ fun _ held => held, fun before => before, fun still _ => ?_⟩
      exact ⟨⟨still.state, still.autoReconnect, rfl, still.live⟩, fun deaf => deaf, rfl⟩
  | teardown => exact same
  | enter =>
      simp only [cleanupStep]
      split
      · exact effect_frame s _ _ _ _ _ ⟨⟨rfl, rfl, rfl⟩, rfl, rfl, rfl, rfl⟩ (fun _ held => held) fun _ _ => rfl
      · exact same
  | send => exact effect_frame s _ _ _ _ _ ⟨⟨rfl, rfl, rfl⟩, rfl, rfl, rfl, rfl⟩ (fun _ held => held) fun _ _ => rfl
  | close =>
      simp only [cleanupStep]
      cases field : s.socket with
      | none => exact same
      | some sock =>
          have closes : ∀ other, s.closed other = true → Function.update s.closed sock true other = true := by
            intro other closed
            by_cases here : other = sock
            · rw [here, Function.update_self]
            · rwa [Function.update_of_ne here]
          constructor
          · exact ⟨closes, fun _ born => .inl born, fun _ before _ => field.symm.trans before, (fun _ impossible => by cases impossible)⟩
          · exact fun before => before
          · intro still _
            refine ⟨⟨still.state, still.autoReconnect, still.running, ?_⟩, ?_, rfl⟩
            · simp [Shared.live]
            · intro deaf
              cases input : s.inputStream with
              | none => simp [Shared.deaf]
              | some stream =>
                  have gone : s.closed stream = true := by simpa [Shared.deaf, input] using deaf
                  simpa [Shared.deaf, input] using closes stream gone
  | reader => exact same
  | join reader => exact same
  | dropReader => exact effect_frame s _ _ _ _ _ ⟨⟨rfl, rfl, rfl⟩, rfl, rfl, rfl, rfl⟩ (fun _ held => held) fun _ _ => rfl
  | dropSocket =>
      refine ⟨keeps_assigned s _ _ (vacant rfl) (.inl rfl), fun before => before, fun still _ => ?_⟩
      exact ⟨⟨still.state, still.autoReconnect, still.running, rfl⟩, fun deaf => deaf, rfl⟩
  | dropInput =>
      refine ⟨keeps_frame s _ _ _ ⟨rfl, rfl, rfl⟩ fun _ held => held, fun before => before, fun still _ => ?_⟩
      exact ⟨⟨still.state, still.autoReconnect, still.running, still.live⟩, fun _ => rfl, rfl⟩
  | dropOutput => exact effect_frame s _ _ _ _ _ ⟨⟨rfl, rfl, rfl⟩, rfl, rfl, rfl, rfl⟩ (fun _ held => held) fun _ _ => rfl

-- What clear asks of a thread.
structure Spares (s : Shared) (answer : Answer) (pc : Pc) : Prop where
  taken : ∀ caller sock, pc = .doConnect caller (.isReconnecting (some sock)) → s.state = .reconnecting
  optional : ∀ caller sock, pc = .doConnect caller (.noDelay sock) → answer ≠ .fails
  vacant : ∀ caller sock, pc = .doConnect caller (.socket sock) → s.live = false
  dropped : ∀ after, pc = .cleanup after .dropSocket → s.live = false

theorem clear_spares (c : Client) (self : ThreadId) (answer : Answer) (meets : clear c (.thread self answer) = true) :
    Spares c.shared answer (c.pc self) := by
  constructor
  · intro caller sock pc
    simpa [clear, pc] using meets
  · intro caller sock pc
    simpa [clear, pc] using meets
  · intro caller sock pc
    simpa [clear, pc] using meets
  · intro after pc
    simpa [clear, pc] using meets

-- A thread that is made or started holds nothing and does no harm.
def Begins (s : Shared) (pcs : ThreadId → Pc) (after : Shared) : Option (ThreadId × Pc) → Prop
  | none => after.nextThread = s.nextThread
  | some (other, pc) =>
      pc.holds = none ∧ (∀ shared, pc.harmless shared = true) ∧
        (other = s.nextThread ∧ after.nextThread = s.nextThread + 1 ∨ pcs other = .fresh ∧ after.nextThread = s.nextThread)

theorem connect_threads (s : Shared) (self : ThreadId) (answer : Answer) (position : DoConnect) :
    (connectStep s self answer position).1.nextThread = s.nextThread := by
  cases position <;> simp only [connectStep] <;> try split
  all_goals first | rfl | skip
  obtain ⟨id, track, fields, _⟩ := response_only s _ _ answer
  rw [fields]

theorem cleanup_threads (s : Shared) (owner : Owner) (alive : ThreadId → Bool) (answer : Answer) (position : Cleanup) :
    (cleanupStep s owner alive answer position).1.nextThread = s.nextThread := by
  cases position <;> simp only [cleanupStep] <;> try split
  all_goals first | rfl | skip
  cases s.socket <;> rfl

def Acted.Sound (s : Shared) (pcs : ThreadId → Pc) (pc : Pc) (acted : Acted) : Prop :=
  Effect s acted.shared pc.holds acted.pc.holds (pc.harmless s) (acted.pc.harmless acted.shared) ∧ Begins s pcs acted.shared acted.starts

theorem sound_goto (s : Shared) (pcs : ThreadId → Pc) (pc next : Pc) (hand : ∀ sock, pc.holds = some sock → next.holds = some sock)
    (calm : Still s → pc.harmless s = true → next.harmless s = true) : (s.goto next).Sound s pcs pc :=
  ⟨effect_same s _ _ _ _ hand calm, rfl⟩

theorem sound_if (s : Shared) (pcs : ThreadId → Pc) (pc first second : Pc) (condition : Bool) (free : pc.holds = none)
    (yes : Still s → condition = true → pc.harmless s = true → first.harmless s = true)
    (no : Still s → condition = false → pc.harmless s = true → second.harmless s = true) :
    (s.goto (if condition then first else second)).Sound s pcs pc := by
  cases here : condition with
  | true => exact sound_goto s pcs pc first (fun _ held => by cases free.symm.trans held) fun still => yes still here
  | false => exact sound_goto s pcs pc second (fun _ held => by cases free.symm.trans held) fun still => no still here

theorem connect_sound_step (s : Shared) (pcs : ThreadId → Pc) (self : ThreadId) (answer : Answer) (caller : Caller)
    (position : DoConnect) (spares : Spares s answer (.doConnect caller position)) :
    (threadStep s pcs self answer (.doConnect caller position)).Sound s pcs (.doConnect caller position) := by
  have effect := connect_effect s self answer caller position (fun sock here => spares.taken caller sock (by rw [here]))
    (fun sock here => spares.optional caller sock (by rw [here])) fun sock here => spares.vacant caller sock (by rw [here])
  have inner : ((connectStep s self answer position).1.goto (.doConnect caller (connectStep s self answer position).2)).Sound s pcs
      (.doConnect caller position) := ⟨effect, connect_threads s self answer position⟩
  cases position with
  | reader =>
      refine ⟨effect_frame s _ _ _ _ _ ⟨⟨rfl, rfl, rfl⟩, rfl, rfl, rfl, rfl⟩ (fun _ held => held) fun _ safe => safe, ?_⟩
      exact ⟨rfl, fun _ => rfl, .inl ⟨rfl, rfl⟩⟩
  | start =>
      have thrown : (s.goto (.doConnect caller .throws)).Sound s pcs (.doConnect caller .start) :=
        sound_goto s pcs _ _ (fun _ held => held) fun _ safe => safe
      simp only [threadStep]
      split
      · rename_i reader made
        split
        · rename_i fresh
          exact ⟨effect_same s _ _ _ _ (fun _ held => held) fun _ _ => rfl, rfl, fun _ => rfl, .inr ⟨fresh, rfl⟩⟩
        · exact thrown
      · exact thrown
  | returns => exact ⟨effect_frame s _ _ _ _ _ ⟨⟨rfl, rfl, rfl⟩, rfl, rfl, rfl, rfl⟩ (fun _ held => held) fun _ _ => rfl, rfl⟩
  | throws => exact ⟨effect_frame s _ _ _ _ _ ⟨⟨rfl, rfl, rfl⟩, rfl, rfl, rfl, rfl⟩ (fun _ held => held) fun _ safe => safe, rfl⟩
  | enter existing => exact inner
  | isConnecting existing => exact inner
  | isReconnecting existing => exact inner
  | noDelay sock => exact inner
  | open_ => exact inner
  | socket sock => exact inner
  | inputStream sock => exact inner
  | outputStream sock => exact inner
  | send ask retry => exact inner
  | respond ask retry => exact inner
  | read ask retry input => exact inner
  | connected => exact inner
  | playing => exact inner
  | running => exact inner

theorem cleanup_sound_step (s : Shared) (pcs : ThreadId → Pc) (self : ThreadId) (answer : Answer) (after : After)
    (position : Cleanup) (spares : Spares s answer (.cleanup after position)) :
    (threadStep s pcs self answer (.cleanup after position)).Sound s pcs (.cleanup after position) := by
  have effect := cleanup_effect s (.thread self) (fun other => (pcs other).alive) answer position fun here =>
    spares.dropped after (by rw [here])
  simp only [threadStep]
  split
  · exact sound_goto s pcs _ _ (fun _ impossible => by cases impossible) fun _ _ => rfl
  · refine ⟨?_, cleanup_threads s (.thread self) _ answer position⟩
    have holds : (((cleanupStep s (.thread self) (fun other => (pcs other).alive) answer position).2.map (Pc.cleanup after)).getD
        after.pc).holds = none := by
      cases (cleanupStep s (.thread self) (fun other => (pcs other).alive) answer position).2 with
      | none => cases after <;> rfl
      | some next => rfl
    refine ⟨?_, effect.autoReconnect, fun still safe => ?_⟩
    · rw [Shared.goto, holds]
      exact effect.keeps
    · cases after with
      | schedule => cases safe
      | retry attempt =>
          obtain ⟨later, deaf, _⟩ := effect.calm still rfl
          refine ⟨later, deaf, ?_⟩
          cases (cleanupStep s (.thread self) (fun other => (pcs other).alive) answer position).2 with
          | none => rfl
          | some next => rfl

theorem thread_sound (s : Shared) (pcs : ThreadId → Pc) (self : ThreadId) (answer : Answer) (pc : Pc) (spares : Spares s answer pc) :
    (threadStep s pcs self answer pc).Sound s pcs pc := by
  have stays : ∀ next : Pc, pc.holds = none → (Still s → pc.harmless s = true → next.harmless s = true) →
      (s.goto next).Sound s pcs pc :=
    fun next free calm => sound_goto s pcs pc next (fun _ held => by cases free.symm.trans held) calm
  have assigns : ∀ (after : Shared) (next : Pc), pc.holds = none → pc.harmless s = false → SameSockets s after →
      (s.autoReconnect = false → after.autoReconnect = false) → after.nextThread = s.nextThread → (after.goto next).Sound s pcs pc := by
    intro after next free harmful same autoReconnect threads
    refine ⟨⟨keeps_frame s _ _ _ same (fun _ held => by cases free.symm.trans held), autoReconnect, fun _ safe => ?_⟩, threads⟩
    cases harmful.symm.trans safe
  cases pc with
  | fresh => exact stays _ rfl fun _ _ => rfl
  | factory caller =>
      simp only [threadStep]
      split
      · exact stays _ rfl fun _ safe => safe
      · refine ⟨⟨keeps_opened s, fun before => before, fun still safe => ?_⟩, rfl⟩
        exact ⟨⟨still.state, still.autoReconnect, still.running, still.live⟩, fun deaf => deaf, rfl⟩
  | doConnect caller position => exact connect_sound_step s pcs self answer caller position spares
  | caught caller =>
      cases caller with
      | connect wasReconnecting => exact sound_if s pcs _ _ _ _ rfl (fun _ _ safe => by cases safe) fun _ _ safe => by cases safe
      | factory => exact stays _ rfl fun _ _ => rfl
      | reconnect attempt => exact stays _ rfl fun _ _ => rfl
  | fail => exact assigns _ _ rfl rfl ⟨rfl, rfl, rfl⟩ (fun before => before) rfl
  | schedule => exact sound_if s pcs _ _ _ _ rfl (fun still yes => by cases still.autoReconnect.symm.trans yes) fun _ _ _ => rfl
  | cleanup after position => exact cleanup_sound_step s pcs self answer after position spares
  | reconnecting => exact assigns _ _ rfl rfl ⟨rfl, rfl, rfl⟩ (fun before => before) rfl
  | interrupt =>
      simp only [threadStep]
      cases s.reconnectThread with
      | none => exact stays _ rfl fun _ _ => rfl
      | some other => exact ⟨effect_frame s _ _ _ _ _ ⟨⟨rfl, rfl, rfl⟩, rfl, rfl, rfl, rfl⟩ (fun _ held => held) fun _ _ => rfl, rfl⟩
  | await =>
      simp only [threadStep]
      cases s.reconnectThread with
      | none => exact stays _ rfl fun _ _ => rfl
      | some other => exact stays _ rfl fun _ _ => rfl
  | join other =>
      simp only [threadStep]
      split
      · split
        · exact stays _ rfl fun _ _ => rfl
        · split <;> exact stays _ rfl fun _ _ => rfl
      · exact stays _ rfl fun _ _ => rfl
  | create =>
      refine ⟨effect_frame s _ _ _ _ _ ⟨⟨rfl, rfl, rfl⟩, rfl, rfl, rfl, rfl⟩ (fun _ held => held) fun _ _ => rfl, ?_⟩
      exact ⟨rfl, fun _ => rfl, .inl ⟨rfl, rfl⟩⟩
  | start =>
      simp only [threadStep]
      split
      · split
        · rename_i other made fresh
          exact ⟨effect_same s _ _ _ _ (fun _ held => held) fun _ _ => rfl, rfl, fun _ => rfl, .inr ⟨fresh, rfl⟩⟩
        · exact stays _ rfl fun _ _ => rfl
      · exact stays _ rfl fun _ _ => rfl
  | loop attempt => exact sound_if s pcs _ _ _ _ rfl (fun _ _ _ => rfl) fun _ _ _ => rfl
  | sleep attempt => exact sound_if s pcs _ _ _ _ rfl (fun _ _ _ => rfl) fun _ _ _ => rfl
  | awake attempt => exact sound_if s pcs _ _ _ _ rfl (fun _ _ _ => rfl) fun _ _ _ => rfl
  | choose attempt => exact sound_if s pcs _ _ _ _ rfl (fun _ _ _ => rfl) fun _ _ _ => rfl
  | retry attempt => exact sound_if s pcs _ _ _ _ rfl (fun still yes => by cases still.autoReconnect.symm.trans yes) fun _ _ _ => rfl
  | retrying attempt => exact assigns _ _ rfl rfl ⟨rfl, rfl, rfl⟩ (fun before => before) rfl
  | exhausted => exact sound_if s pcs _ _ _ _ rfl (fun still yes => by cases still.autoReconnect.symm.trans yes) fun _ _ _ => rfl
  | giveUp => exact assigns _ _ rfl rfl ⟨rfl, rfl, rfl⟩ (fun _ => rfl) rfl
  | readInput =>
      simp only [threadStep]
      cases s.inputStream with
      | none => exact stays _ rfl fun _ _ => rfl
      | some input => exact stays _ rfl fun _ _ => rfl
  | readSocket input =>
      simp only [threadStep]
      cases s.socket with
      | none => exact stays _ rfl fun _ _ => rfl
      | some sock => exact stays _ rfl fun _ _ => rfl
  | soTimeout input sock => exact sound_if s pcs _ _ _ _ rfl (fun _ _ _ => rfl) fun _ _ _ => rfl
  | isRunning input => exact sound_if s pcs _ _ _ _ rfl (fun _ _ _ => rfl) fun _ _ _ => rfl
  | read input => exact sound_if s pcs _ _ _ _ rfl (fun _ _ _ => rfl) fun _ _ _ => rfl
  | finally_ =>
      simp only [threadStep]
      split
      · rename_i ran
        refine ⟨⟨keeps_frame s _ _ _ ⟨rfl, rfl, rfl⟩ (fun _ held => held), fun before => before, fun still _ => ?_⟩, rfl⟩
        cases still.running.symm.trans ran
      · refine ⟨⟨keeps_frame s _ _ _ ⟨rfl, rfl, rfl⟩ (fun _ held => held), fun before => before, fun still _ => ?_⟩, rfl⟩
        exact ⟨⟨still.state, still.autoReconnect, rfl, still.live⟩, fun deaf => deaf, rfl⟩
  | lost => exact sound_if s pcs _ _ _ _ rfl (fun _ _ safe => by cases safe) fun _ _ safe => by cases safe
  | ended => exact stays _ rfl fun _ _ => rfl

def App.calling : App → Bool
  | .isDisconnected _ => true
  | .isReconnecting _ => true
  | .wasReconnecting => true
  | .connecting _ => true
  | .autoReconnect _ => true
  | .lastRelaySocket _ => true
  | .spawn _ => true
  | _ => false

def App.stopping : App → Bool
  | .interrupt => true
  | .cleanup _ => true
  | .disconnected => true
  | _ => false

structure AppActed.Sound (s : Shared) (pcs : ThreadId → Pc) (app : App) (acted : AppActed) : Prop where
  keeps : Keeps s acted.shared none none
  begins : Begins s pcs acted.shared acted.starts
  stopped : (app.stopping = true → s.autoReconnect = false) → acted.app.stopping = true → acted.shared.autoReconnect = false
  calm : app.calling = false → Still s → acted.app.calling = false ∧ Still acted.shared ∧ (s.deaf = true → acted.shared.deaf = true)

theorem begin_calls (relay : Bool) : (begin_ relay).stopping = false := by cases relay <;> rfl

theorem app_sound (s : Shared) (pcs : ThreadId → Pc) (answer : Answer) (app : App)
    (dropped : app = .cleanup .dropSocket → s.live = false) : (appStep s pcs answer app).Sound s pcs app := by
  have free : ∀ after : Shared, SameSockets s after → Keeps s after none none := fun after same => keeps_frame s after _ _ same fun _ held => held
  have calls : ∀ (after : Shared) (next : App), app.calling = true → next.stopping = false → SameSockets s after →
      after.nextThread = s.nextThread → (after.leave next).Sound s pcs app := by
    intro after next calling going same threads
    exact ⟨free after same, threads, fun _ stops => absurd (going.symm.trans stops) (by decide),
      fun idle => absurd (calling.symm.trans idle) (by decide)⟩
  cases app with
  | idle => exact ⟨free s ⟨rfl, rfl, rfl⟩, rfl, (fun _ impossible => by cases impossible), fun _ still => ⟨rfl, still, fun deaf => deaf⟩⟩
  | isDisconnected relay =>
      simp only [appStep]
      split
      · exact calls _ _ rfl (begin_calls relay) ⟨rfl, rfl, rfl⟩ rfl
      · exact calls _ _ rfl rfl ⟨rfl, rfl, rfl⟩ rfl
  | isReconnecting relay =>
      simp only [appStep]
      split
      · exact calls _ _ rfl (begin_calls relay) ⟨rfl, rfl, rfl⟩ rfl
      · exact calls _ _ rfl rfl ⟨rfl, rfl, rfl⟩ rfl
  | wasReconnecting => exact calls _ _ rfl rfl ⟨rfl, rfl, rfl⟩ rfl
  | connecting caller => exact calls _ _ rfl rfl ⟨rfl, rfl, rfl⟩ rfl
  | autoReconnect caller => exact calls _ _ rfl rfl ⟨rfl, rfl, rfl⟩ rfl
  | lastRelaySocket caller => exact calls _ _ rfl rfl ⟨rfl, rfl, rfl⟩ rfl
  | spawn caller =>
      refine ⟨free _ ⟨rfl, rfl, rfl⟩, ⟨?_, fun _ => ?_, .inl ⟨rfl, rfl⟩⟩, (fun _ impossible => by cases impossible),
        (fun impossible => by cases impossible)⟩
      · cases caller <;> rfl
      · cases caller <;> rfl
  | stopReconnect =>
      refine ⟨free _ ⟨rfl, rfl, rfl⟩, rfl, fun _ _ => rfl, fun _ still => ⟨rfl, ?_, fun deaf => deaf⟩⟩
      exact ⟨still.state, rfl, still.running, still.live⟩
  | interrupt =>
      simp only [appStep]
      cases s.reconnectThread with
      | none =>
          refine ⟨free _ ⟨rfl, rfl, rfl⟩, rfl, fun before _ => before rfl, fun _ still => ⟨rfl, ?_, fun deaf => deaf⟩⟩
          exact ⟨still.state, still.autoReconnect, still.running, still.live⟩
      | some other =>
          refine ⟨free _ ⟨rfl, rfl, rfl⟩, rfl, fun before _ => before rfl, fun _ still => ⟨rfl, ?_, fun deaf => deaf⟩⟩
          exact ⟨still.state, still.autoReconnect, still.running, still.live⟩
  | cleanup position =>
      have effect := cleanup_effect s .app (fun other => (pcs other).alive) answer position fun here => dropped (by rw [here])
      have going : ∀ next : Option Cleanup, ((next.map App.cleanup).getD .disconnected).calling = false := by
        intro next
        cases next <;> rfl
      refine ⟨effect.keeps, cleanup_threads s .app _ answer position, fun before _ => effect.autoReconnect (before rfl), ?_⟩
      intro _ still
      obtain ⟨later, deaf, _⟩ := effect.calm still rfl
      exact ⟨going _, later, deaf⟩
  | disconnected =>
      refine ⟨free _ ⟨rfl, rfl, rfl⟩, rfl, (fun _ impossible => by cases impossible), fun _ still => ⟨rfl, ?_, fun deaf => deaf⟩⟩
      exact ⟨rfl, still.autoReconnect, still.running, still.live⟩

def Owned (s : Shared) (pcs : ThreadId → Pc) : Prop :=
  ∀ sock, sock < s.nextSock → s.closed sock = false → s.socket = some sock ∨ ∃ self, (pcs self).holds = some sock

structure Inv (c : Client) : Prop where
  unborn : ∀ self, c.shared.nextThread ≤ self → c.pc self = .ended
  owned : Owned c.shared c.pc
  stopped : c.app.stopping = true → c.shared.autoReconnect = false
  over_ : c.final = true → c.app.calling = false ∧ Still c.shared ∧ ∀ self, (c.pc self).harmless c.shared = true

theorem owned_keeps (s after : Shared) (pcs now : ThreadId → Pc) (held kept : Option SockId) (owned : Owned s pcs)
    (keeps : Keeps s after held kept) (mine : ∀ sock, kept = some sock → ∃ self, (now self).holds = some sock)
    (others : ∀ self sock, (pcs self).holds = some sock → (now self).holds = some sock ∨ held = some sock) : Owned after now := by
  intro sock born lasting
  cases keeps.fresh sock born with
  | inr new => exact .inr (mine sock new)
  | inl old =>
      have before : s.closed sock = false := by
        cases closed : s.closed sock with
        | false => rfl
        | true => exact absurd ((keeps.closed sock closed).symm.trans lasting) (by decide)
      cases owned sock old before with
      | inl field => exact .inl (keeps.field sock field lasting)
      | inr known =>
          obtain ⟨self, holds⟩ := known
          cases others self sock holds with
          | inl still => exact .inr ⟨self, still⟩
          | inr own =>
              cases keeps.hand sock own lasting with
              | inl here => exact .inr (mine sock here)
              | inr field => exact .inl field

theorem harmless_kept (s after : Shared) (pc : Pc) (closed : ∀ sock, s.closed sock = true → after.closed sock = true)
    (deaf : s.deaf = true → after.deaf = true) (harmless : pc.harmless s = true) : pc.harmless after = true := by
  have both : ∀ first second third : Bool, (second = true → third = true) → (first && second) = true → (first && third) = true := by
    intro first second third implies holds
    rw [Bool.and_eq_true] at holds ⊢
    exact ⟨holds.1, implies holds.2⟩
  cases pc with
  | doConnect caller position =>
      cases position with
      | inputStream sock => exact both _ _ _ (closed sock) harmless
      | outputStream sock => exact both _ _ _ (closed sock) harmless
      | send ask retry => exact both _ _ _ deaf harmless
      | respond ask retry => exact both _ _ _ deaf harmless
      | read ask retry input => exact both _ _ _ (closed input) harmless
      | _ => exact harmless
  | cleanup next position => cases next <;> exact harmless
  | _ => exact harmless

-- A thread that is made or started was not running.
theorem begun_cases (s after : Shared) (pcs : ThreadId → Pc) (starts : Option (ThreadId × Pc)) (begins : Begins s pcs after starts)
    (unborn : ∀ self, s.nextThread ≤ self → pcs self = .ended) (now : ThreadId → Pc) (self : ThreadId) :
    begun now starts self = now self ∨
      (pcs self).alive = false ∧ (begun now starts self).holds = none ∧ ∀ shared, (begun now starts self).harmless shared = true := by
  cases starts with
  | none => exact .inl rfl
  | some made =>
      obtain ⟨other, pc⟩ := made
      obtain ⟨holds, harmless, kind⟩ := begins
      by_cases same : self = other
      · right
        rw [begun, same, Function.update_self]
        refine ⟨?_, holds, harmless⟩
        cases kind with
        | inl new => rw [unborn other (Nat.le_of_eq new.1.symm)]; rfl
        | inr old => rw [old.1]; rfl
      · exact .inl (Function.update_of_ne same _ _)

theorem begun_unborn (s after : Shared) (pcs : ThreadId → Pc) (starts : Option (ThreadId × Pc)) (begins : Begins s pcs after starts)
    (unborn : ∀ self, s.nextThread ≤ self → pcs self = .ended) (now : ThreadId → Pc)
    (kept : ∀ self, s.nextThread ≤ self → now self = .ended) (self : ThreadId) (later : after.nextThread ≤ self) :
    begun now starts self = .ended := by
  cases starts with
  | none => exact kept self (begins ▸ later)
  | some made =>
      obtain ⟨other, pc⟩ := made
      obtain ⟨_, _, kind⟩ := begins
      cases kind with
      | inl new =>
          rw [new.2] at later
          have different : self ≠ other := by rw [new.1]; exact Nat.ne_of_gt later
          exact (Function.update_of_ne different _ _).trans (kept self (Nat.le_of_succ_le later))
      | inr old =>
          rw [old.2] at later
          have different : self ≠ other := by
            intro same
            rw [← same, unborn self later] at old
            cases old.1
          exact (Function.update_of_ne different _ _).trans (kept self later)

theorem alive_holds (pc : Pc) (idle : pc.alive = false) : pc.holds = none := by
  cases pc <;> first | rfl | cases idle

theorem idle_steps (s : Shared) (pcs : ThreadId → Pc) (self : ThreadId) (answer : Answer) (pc : Pc) (idle : pc.alive = false) :
    threadStep s pcs self answer pc = s.goto pc := by
  cases pc <;> first | rfl | cases idle

theorem inv_thread (c : Client) (self : ThreadId) (answer : Answer) (inv : Inv c) (meets : clear c (.thread self answer) = true) :
    Inv (next c (.thread self answer)) := by
  obtain ⟨effect, begins⟩ := thread_sound c.shared c.pc self answer (c.pc self) (clear_spares c self answer meets)
  cases running : (c.pc self).alive with
  | false =>
      have same : next c (.thread self answer) = c := by
        simp only [next, idle_steps c.shared c.pc self answer _ running, Shared.goto, begun, Function.update_eq_self]
      rwa [same]
  | true =>
      have born : ¬ c.shared.nextThread ≤ self := by
        intro unborn
        rw [inv.unborn self unborn] at running
        cases running
      have table := begun_cases c.shared _ c.pc _ begins inv.unborn
        (Function.update c.pc self (threadStep c.shared c.pc self answer (c.pc self)).pc)
      have mine : (next c (.thread self answer)).pc self = (threadStep c.shared c.pc self answer (c.pc self)).pc := by
        cases table self with
        | inl same => exact same.trans (Function.update_self _ _ _)
        | inr idle => exact absurd (running.symm.trans idle.1) (by decide)
      constructor
      · apply begun_unborn c.shared _ c.pc _ begins inv.unborn
        intro other unborn
        have different : other ≠ self := fun same => born (same ▸ unborn)
        rw [Function.update_of_ne different]
        exact inv.unborn other unborn
      · apply owned_keeps c.shared _ c.pc _ _ _ inv.owned effect.keeps
        · exact fun sock kept => ⟨self, mine ▸ kept⟩
        · intro other sock holds
          by_cases same : other = self
          · exact .inr (same ▸ holds)
          · cases table other with
            | inl kept =>
                rw [Function.update_of_ne same] at kept
                exact .inl ((congrArg Pc.holds kept).trans holds)
            | inr idle => exact absurd (holds.symm.trans (alive_holds _ idle.1)) (fun impossible => by cases impossible)
      · exact fun stopping => effect.autoReconnect (inv.stopped stopping)
      · intro final
        obtain ⟨calling, still, harmless⟩ := inv.over_ final
        obtain ⟨later, deaf, safe⟩ := effect.calm still (harmless self)
        refine ⟨calling, later, fun other => ?_⟩
        by_cases same : other = self
        · rw [same, mine]
          exact safe
        · cases table other with
          | inl kept =>
              rw [Function.update_of_ne same] at kept
              have before := harmless_kept c.shared _ _ effect.keeps.closed deaf (harmless other)
              rw [← kept] at before
              exact before
          | inr idle => exact idle.2.2 _

theorem settled_over (c : Client) (inv : Inv c) (stopping : c.app = .disconnected) (quiet : settled c = true) :
    Still { c.shared with state := .disconnected } ∧ ∀ self, (c.pc self).harmless { c.shared with state := .disconnected } = true := by
  simp only [settled, Bool.and_eq_true, List.all_eq_true, List.mem_range, Bool.not_eq_true'] at quiet
  obtain ⟨⟨running, live⟩, harmless⟩ := quiet
  refine ⟨⟨rfl, inv.stopped (by rw [stopping]; rfl), running, live⟩, fun self => ?_⟩
  by_cases born : self < c.shared.nextThread
  · exact harmless_kept c.shared _ _ (fun _ closed => closed) (fun deaf => deaf) (harmless self born)
  · rw [inv.unborn self (Nat.le_of_not_lt born)]
    rfl

theorem inv_app (c : Client) (answer : Answer) (inv : Inv c) (meets : clear c (.app answer) = true) : Inv (next c (.app answer)) := by
  have sound := app_sound c.shared c.pc answer c.app fun here => by simpa [clear, here] using meets
  have table := begun_cases c.shared _ c.pc _ sound.begins inv.unborn c.pc
  constructor
  · exact begun_unborn c.shared _ c.pc _ sound.begins inv.unborn c.pc inv.unborn
  · apply owned_keeps c.shared _ c.pc _ _ _ inv.owned sound.keeps
    · exact fun _ impossible => by cases impossible
    · intro self sock holds
      cases table self with
      | inl kept => exact .inl ((congrArg Pc.holds kept).trans holds)
      | inr idle => exact absurd (holds.symm.trans (alive_holds _ idle.1)) (fun impossible => by cases impossible)
  · exact sound.stopped inv.stopped
  · intro final
    by_cases last : c.app = .disconnected
    · have quiet : settled c = true := by simpa [clear, last] using meets
      obtain ⟨still, harmless⟩ := settled_over c inv last quiet
      simp only [next, last, appStep]
      exact ⟨rfl, still, harmless⟩
    · have before : c.final = true := by simpa [next, last] using final
      obtain ⟨calling, still, harmless⟩ := inv.over_ before
      obtain ⟨going, later, deaf⟩ := sound.calm calling still
      refine ⟨going, later, fun self => ?_⟩
      cases table self with
      | inl kept =>
          have safe := harmless_kept c.shared _ _ sound.keeps.closed deaf (harmless self)
          rw [← kept] at safe
          exact safe
      | inr idle => exact idle.2.2 _

theorem inv_call (c : Client) (call : Call) (inv : Inv c) : Inv (next c (.call call)) := by
  simp only [next]
  split
  · cases call with
    | connect => exact ⟨inv.unborn, inv.owned, (fun impossible => by cases impossible), (fun impossible => by cases impossible)⟩
    | connectViaSocketFactory =>
        exact ⟨inv.unborn, inv.owned, (fun impossible => by cases impossible), (fun impossible => by cases impossible)⟩
    | disconnect => exact ⟨inv.unborn, inv.owned, (fun impossible => by cases impossible), fun final => ⟨rfl, (inv.over_ final).2⟩⟩
  · exact inv

theorem inv_next (c : Client) (label : Label) (inv : Inv c) (meets : clear c label = true) : Inv (next c label) := by
  cases label with
  | call call => exact inv_call c call inv
  | app answer => exact inv_app c answer inv meets
  | thread self answer => exact inv_thread c self answer inv meets

theorem inv_initial : Inv {} := by
  constructor
  · exact fun _ _ => rfl
  · exact fun sock born => absurd born (Nat.not_lt_zero sock)
  · exact fun impossible => by cases impossible
  · exact fun impossible => by cases impossible

theorem inv_final (c : Client) (inv : Inv c) : Final c := by
  constructor
  · exact fun final => (inv.over_ final).2.1.state
  · intro final ended sock born
    cases closed : c.shared.closed sock with
    | true => rfl
    | false =>
        cases inv.owned sock born closed with
        | inl field => exact absurd (closed.symm.trans (live_none c.shared (inv.over_ final).2.1.live sock field)) (by decide)
        | inr known =>
            obtain ⟨self, holds⟩ := known
            exact absurd (holds.symm.trans (alive_holds _ (ended self))) (fun impossible => by cases impossible)

theorem clear_runs_final (labels : List Label) (meets : Runs.EachStep next (fun c label => clear c label = true) {} labels) :
    Runs.EachState next Final {} labels := by
  have inv := Runs.each_state_of_steps next Inv _ {} labels inv_next inv_initial meets
  exact Runs.each_state_mono next Final Inv {} labels inv_final inv

-- A session through a relay is closed while its reader waits for the next frame.
def closedRun : List Label :=
  let ok : Answer := .gives (some (text "1")) true
  [Label.call .connectViaSocketFactory] ++ List.replicate 5 (Label.app ok) ++ List.replicate 31 (Label.thread 0 ok) ++
    List.replicate 5 (Label.thread 1 ok) ++ [Label.call .disconnect] ++ List.replicate 9 (Label.app ok) ++ List.replicate 3 (Label.thread 1 ok) ++
    List.replicate 6 (Label.app ok)

theorem closed_run_final :
    Runs.EachStep next (fun c label => clear c label = true) {} closedRun ∧ Runs.EachState next Final {} closedRun ∧
      (Runs.run next {} closedRun).final = true ∧ (Runs.run next {} closedRun).shared.closed 0 = true := by
  have meets : Runs.EachStep next (fun c label => clear c label = true) {} closedRun := by decide +kernel
  exact ⟨meets, clear_runs_final closedRun meets, by decide +kernel, by decide +kernel⟩

-- disconnect is called while the thread of a connect opens its socket.
def revivedRun : List Label :=
  let ok : Answer := .gives (some (text "1")) true
  [Label.call .connect] ++ List.replicate 6 (Label.app ok) ++ List.replicate 2 (Label.thread 0 ok) ++ [Label.call .disconnect] ++
    List.replicate 11 (Label.app ok) ++ List.replicate 20 (Label.thread 0 ok)

theorem late_connect_revives :
    (Runs.run next {} revivedRun).final = true ∧ (Runs.run next {} revivedRun).shared.state = .connected ∧
      ¬ Runs.EachState next Final {} revivedRun := by
  have final : (Runs.run next {} revivedRun).final = true := by decide +kernel
  have state : (Runs.run next {} revivedRun).shared.state = .connected := by decide +kernel
  refine ⟨final, state, fun every => ?_⟩
  have last := Runs.each_state_last next Final {} revivedRun every
  exact absurd (state.symm.trans (last.state final)) (by decide)

end Intercom.Android.Threads
