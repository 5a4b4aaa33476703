import Intercom.Android.MainActivity

set_option autoImplicit false

/- Whole runs of MainActivity.kt: its resources, and the microphone behind the talk button. -/
namespace Intercom.Android.Main

open Doorbell (hostAllowed)

theorem deferred_orderly (act : Activity) (services : Bool) (form : Form) (tidy : Tidy act) (alive : act.destroyed = false) :
    Orderly act (deferredConnect act services form) := by
  unfold deferredConnect
  split
  next => exact orderly_same act act tidy rfl rfl rfl
  next host _ =>
    have taken : Tidy { act with pendingAutoConnect := none } :=
      ⟨tidy.local_mode, tidy.cloud_mode, tidy.bare, tidy.idle, tidy.apart, tidy.quiet, tidy.muted, tidy.gone⟩
    obtain ⟨after, balanced⟩ :=
      click_orderly { act with pendingAutoConnect := none } services { form with addressInput := host } taken alive
    exact ⟨after, balanced.count, balanced.fresh, balanced.distinct, balanced.grows, balanced.allowed⟩

theorem resume_alive (act : Activity) (playing valid : Bool) :
    (resumeVideo act playing valid).1.destroyed = act.destroyed := by
  unfold resumeVideo restartVideoDecoder
  split
  case isTrue => split <;> rfl
  case isFalse => rfl

theorem surface_created_orderly (act : Activity) (playing valid services : Bool) (form : Form) (tidy : Tidy act)
    (alive : act.destroyed = false) : Orderly act (surfaceCreated act playing valid services form) := by
  have shown : Tidy { act with surfaceReady := true } :=
    ⟨tidy.local_mode, tidy.cloud_mode, tidy.bare, tidy.idle, tidy.apart, tidy.quiet, tidy.muted, tidy.gone⟩
  obtain ⟨resumed, first⟩ := resume_orderly { act with surfaceReady := true } playing valid shown
  have living := (resume_alive { act with surfaceReady := true } playing valid).trans alive
  obtain ⟨connected, second⟩ := deferred_orderly _ services form resumed living
  have whole := balanced_trans _ _ _ _ _ first second
  exact ⟨connected, whole.count, whole.fresh, whole.distinct, whole.grows, whole.allowed⟩

theorem surface_destroyed_orderly (act : Activity) (tidy : Tidy act) : Orderly act (surfaceDestroyed act) := by
  refine ⟨?_, ?_, ?_, ?_, Nat.le_refl _, ends_allowed _⟩
  · refine ⟨tidy.local_mode, tidy.cloud_mode, ?_, tidy.idle, tidy.apart, tidy.quiet, tidy.muted, tidy.gone⟩
    intro free
    obtain ⟨_, player, capture, callback⟩ := tidy.bare free
    exact ⟨rfl, player, capture, callback⟩
  · intro resource
    simp [surfaceDestroyed, Activity.fields, List.count_append]
    omega
  · intro resource member
    simp [surfaceDestroyed] at member
  · simp [surfaceDestroyed]

theorem destroy_orderly (act : Activity) (tidy : Tidy act) : Orderly act (onDestroy act) := by
  refine ⟨?_, ?_, ?_, ?_, Nat.le_refl _, ends_allowed _⟩
  · refine ⟨?_, ?_, fun _ => ⟨rfl, rfl, rfl, rfl⟩, tidy.idle, fun _ => ⟨rfl, rfl⟩, ?_, ?_, fun _ => ⟨rfl, rfl⟩⟩
    · intro still
      exact absurd rfl still
    · intro still
      exact absurd rfl still
    · exact off_quiet act.capturing act.audioCapture tidy.quiet
    · exact off_quiet act.micEnabled act.webRtcClient tidy.muted
  · intro resource
    simp [onDestroy, Activity.fields, List.count_append]
    omega
  · intro resource member
    simp [onDestroy] at member
  · simp [onDestroy]

theorem disconnect_thread_orderly (act : Activity) (tidy : Tidy act) : Orderly act (disconnectThread act) := by
  unfold disconnectThread
  split
  next done =>
    have free : Tidy { act with disconnecting := false } :=
      ⟨tidy.local_mode, tidy.cloud_mode, tidy.bare, fun _ => done, fun busy => (by cases busy), tidy.quiet, tidy.muted, tidy.gone⟩
    exact orderly_same act _ free rfl rfl rfl
  next resource rest todo =>
    have made : creations [.ended resource] = [] := rfl
    have ended : endings [.ended resource] = [resource] := rfl
    refine ⟨?_, ?_, ?_, List.nodup_nil, Nat.le_refl _, rfl⟩
    · refine ⟨tidy.local_mode, tidy.cloud_mode, tidy.bare, ?_, tidy.apart, tidy.quiet, tidy.muted, tidy.gone⟩
      intro free
      rw [tidy.idle free] at todo
      cases todo
    · intro other
      rw [todo, made, ended, List.count_append, List.count_append, List.count_cons, List.count_singleton, List.count_nil]
      simp only [Activity.fields]
      omega
    · intro other member
      cases member

theorem off_names (flags : Nat → Bool) (field other : Option Nat) (named : ∀ id, flags id = true → field = some id) :
    ∀ id, off flags other id = true → field = some id := by
  intro id lit
  exact named id (off_self flags other id lit).1

theorem stop_talk_tidy (act : Activity) (tidy : Tidy act) : Tidy (stopTalk act) :=
  ⟨tidy.local_mode, tidy.cloud_mode, tidy.bare, tidy.idle, tidy.apart, off_names _ _ _ tidy.quiet, off_names _ _ _ tidy.muted,
    tidy.gone⟩

theorem start_talk_tidy (act : Activity) (granted starts : Bool) (tidy : Tidy act) : Tidy (startTalk act granted starts) := by
  unfold startTalk
  split
  case isTrue => exact tidy
  case isFalse =>
    split
    next client _ named =>
      refine ⟨tidy.local_mode, tidy.cloud_mode, tidy.bare, tidy.idle, tidy.apart, tidy.quiet, ?_, tidy.gone⟩
      intro id lit
      simp only at lit
      split at lit
      case isTrue here => rw [here.1, named]
      case isFalse => exact tidy.muted id lit
    next capture _ named =>
      refine ⟨tidy.local_mode, tidy.cloud_mode, tidy.bare, tidy.idle, tidy.apart, ?_, tidy.muted, tidy.gone⟩
      intro id lit
      simp only at lit
      split at lit
      case isTrue here => rw [here.1, named]
      case isFalse => exact tidy.quiet id lit
    next => exact tidy

theorem start_talk_same (act : Activity) (granted starts : Bool) :
    (startTalk act granted starts).fields = act.fields ∧ (startTalk act granted starts).teardown = act.teardown ∧
      (startTalk act granted starts).created = act.created := by
  unfold startTalk
  split
  case isTrue => exact ⟨rfl, rfl, rfl⟩
  case isFalse => split <;> exact ⟨rfl, rfl, rfl⟩

theorem talk_orderly (act : Activity) (touched : Bool) (heard : Activity → Activity) (tidy : Tidy act)
    (kept : ∀ act, Tidy act → Tidy (heard act) ∧ (heard act).fields = act.fields ∧ (heard act).teardown = act.teardown ∧
      (heard act).created = act.created) : Orderly act (talkTouch act touched heard, []) := by
  have moved : Tidy { act with touched } :=
    ⟨tidy.local_mode, tidy.cloud_mode, tidy.bare, tidy.idle, tidy.apart, tidy.quiet, tidy.muted, tidy.gone⟩
  unfold talkTouch
  simp only
  split
  case isTrue =>
    obtain ⟨after, fields, teardown, created⟩ := kept _ moved
    exact orderly_same act _ after fields teardown created
  case isFalse => exact orderly_same act _ moved rfl rfl rfl

-- Runnables only change what the doorbell service and the button look at.
theorem shown_tidy (act : Activity) (talkEnabled isStreaming : Bool) (tidy : Tidy act) :
    Tidy { act with talkEnabled, isStreaming } :=
  ⟨tidy.local_mode, tidy.cloud_mode, tidy.bare, tidy.idle, tidy.apart, tidy.quiet, tidy.muted, tidy.gone⟩

theorem state_orderly (act : Activity) (state : ClientState) (tidy : Tidy act) : Orderly act (onStateChanged act state) := by
  cases state with
  | connecting => exact orderly_same act act tidy rfl rfl rfl
  | connected => exact orderly_same act act tidy rfl rfl rfl
  | playing => exact orderly_same act _ (shown_tidy act true true tidy) rfl rfl rfl
  | disconnected => exact orderly_same act _ (shown_tidy act false false tidy) rfl rfl rfl
  | reconnecting => exact orderly_same act _ (shown_tidy act false false tidy) rfl rfl rfl
  | error =>
      have balanced := unregister_balanced { act with talkEnabled := false, isStreaming := false }
      exact ⟨unregister_tidy _ (shown_tidy act false false tidy), balanced.count, balanced.fresh, balanced.distinct,
        balanced.grows, balanced.allowed⟩

theorem web_rtc_state_orderly (act : Activity) (state : WebRtcState) (tidy : Tidy act) :
    Orderly act (onWebRtcStateChanged act state, []) := by
  cases state with
  | connecting => exact orderly_same act act tidy rfl rfl rfl
  | connected => exact orderly_same act act tidy rfl rfl rfl
  | playing => exact orderly_same act _ (shown_tidy act true true tidy) rfl rfl rfl
  | disconnected => exact orderly_same act _ (shown_tidy act false false tidy) rfl rfl rfl
  | error => exact orderly_same act _ (shown_tidy act false false tidy) rfl rfl rfl

theorem step_orderly (act : Activity) (action : Act) (tidy : Tidy act) : Orderly act (mainStep act action) := by
  have still : Orderly act (act, []) := orderly_same act act tidy rfl rfl rfl
  cases action with
  | surfaceCreated playing valid services form =>
      simp only [mainStep]
      split
      case isTrue => exact still
      case isFalse alive => exact surface_created_orderly act playing valid services form tidy (Bool.eq_false_iff.mpr alive)
  | surfaceDestroyed => exact surface_destroyed_orderly act tidy
  | connectBtn services form =>
      simp only [mainStep]
      split
      case isTrue => exact still
      case isFalse alive => exact click_orderly act services form tidy (Bool.eq_false_iff.mpr alive)
  | newIntent host services form =>
      simp only [mainStep]
      split
      case isTrue => exact still
      case isFalse alive => exact auto_connect_orderly act host services form tidy (Bool.eq_false_iff.mpr alive)
  | modeGroup webRtc =>
      simp only [mainStep]
      split
      case isTrue => exact still
      case isFalse free =>
        simp only [Bool.or_eq_true, not_or, Bool.not_eq_true] at free
        obtain ⟨direct, cloud⟩ := unconnected_fields act free.2
        have switched : Tidy { act with isWebRtcMode := webRtc } :=
          ⟨fun some => absurd direct some, fun some => absurd cloud some, tidy.bare, tidy.idle, tidy.apart, tidy.quiet, tidy.muted,
            tidy.gone⟩
        exact orderly_same act _ switched rfl rfl rfl
  | talkDown granted starts =>
      simp only [mainStep]
      split
      case isTrue => exact still
      case isFalse =>
        apply talk_orderly act true _ tidy
        intro act tidy
        exact ⟨start_talk_tidy act granted starts tidy, start_talk_same act granted starts⟩
  | talkUp => exact talk_orderly act false stopTalk tidy fun act tidy => ⟨stop_talk_tidy act tidy, rfl, rfl, rfl⟩
  | captureFailed id =>
      have dead : Tidy { act with capturing := off act.capturing (some id) } :=
        ⟨tidy.local_mode, tidy.cloud_mode, tidy.bare, tidy.idle, tidy.apart, off_names _ _ _ tidy.quiet, tidy.muted, tidy.gone⟩
      exact orderly_same act _ dead rfl rfl rfl
  | rtspState state => exact state_orderly act state tidy
  | rtspError reconnecting =>
      simp only [mainStep, onError]
      split
      case isTrue => exact still
      case isFalse => exact disconnect_all_orderly act tidy
  | webRtcState state => exact web_rtc_state_orderly act state tidy
  | webRtcError => exact disconnect_all_orderly act tidy
  | disconnectThread => exact disconnect_thread_orderly act tidy
  | destroy => exact destroy_orderly act tidy

theorem initial_tidy : Tidy {} := by
  refine ⟨?_, ?_, fun _ => ⟨rfl, rfl, rfl, rfl⟩, fun _ => rfl, fun _ => ⟨rfl, rfl⟩, ?_, ?_, fun _ => ⟨rfl, rfl⟩⟩
  · intro still
    exact absurd rfl still
  · intro still
    exact absurd rfl still
  · intro id lit
    cases lit
  · intro id lit
    cases lit

theorem run_orderly (acts : List Act) :
    Tidy (mainRun {} acts).1 ∧ Balanced {} (mainRun {} acts).1 (mainRun {} acts).2 := by
  refine Runs.run_invariant (Runs.record mainStep) (fun reached => Tidy reached.1 ∧ Balanced {} reached.1 reached.2)
    ({}, []) acts ?_ ⟨initial_tidy, balanced_same {} {} rfl rfl rfl⟩
  rintro ⟨act, log⟩ action ⟨tidy, balanced⟩
  obtain ⟨after, more⟩ := step_orderly act action tidy
  exact ⟨after, balanced_trans _ _ _ _ _ balanced more⟩

-- What was made is in a field, with the Disconnect thread or ended once; a destroyed activity holds nothing, and two
-- clients never run side by side.
theorem activity_resources (acts : List Act) :
    let act := (mainRun {} acts).1
    let log := (mainRun {} acts).2
    (creations log).Nodup ∧ (creations log).Perm (endings log ++ (act.fields ++ act.teardown)) ∧
      (act.rtspClient = none ∨ act.webRtcClient = none) ∧
      (act.rtspClient = none → act.fields = opt .webRtcClient act.webRtcClient) ∧
      (act.disconnecting = false → act.teardown = []) ∧ (act.disconnecting = true → act.fields = []) ∧
      (act.destroyed = true → act.fields = []) ∧
      (∀ device username password, Note.connect device username password ∈ log → hostAllowed device.host = true) := by
  intro act log
  have kept : Tidy act ∧ Balanced {} act log := run_orderly acts
  obtain ⟨tidy, balanced⟩ := kept
  have direct : act.rtspClient = none → act.fields = opt .webRtcClient act.webRtcClient := by
    intro free
    obtain ⟨decoder, player, capture, callback⟩ := tidy.bare free
    simp [Activity.fields, free, decoder, player, capture, callback]
  have emptied : act.rtspClient = none ∧ act.webRtcClient = none → act.fields = [] := by
    intro free
    rw [direct free.1, free.2]
    rfl
  refine ⟨balanced.distinct, ?_, ?_, direct, tidy.idle, ?_, ?_, ?_⟩
  · rw [List.perm_iff_count]
    intro resource
    have count := balanced.count resource
    rw [List.count_append]
    simpa [Activity.fields] using count
  · by_cases free : act.rtspClient = none
    · exact .inl free
    · refine .inr ?_
      by_contra cloud
      have mode := tidy.local_mode free
      rw [tidy.cloud_mode cloud] at mode
      cases mode
  · intro busy
    exact emptied (tidy.apart busy)
  · intro ended
    exact emptied (tidy.gone ended)
  · intro device username password member
    exact List.all_eq_true.mp balanced.allowed _ member

def Activity.talking (act : Activity) : Bool := act.audioCapture.any act.capturing || act.webRtcClient.any act.micEnabled

-- The finger is lifted while the button listens, or while nothing is recorded.
def Heard (act : Activity) (action : Act) : Prop := action = .talkUp → act.talkEnabled = true ∨ act.talking = false

def PressedToTalk (act : Activity) : Prop := act.talking = true → act.touched = true

def mainNext (act : Activity) (action : Act) : Activity := (mainStep act action).1

-- A step without the button starts no recording.
structure Softer (before after : Activity) : Prop where
  touched : after.touched = before.touched
  talking : after.talking = true → before.talking = true

theorem softer_same (before after : Activity) (touched : after.touched = before.touched)
    (talking : after.talking = before.talking) : Softer before after :=
  ⟨touched, fun lit => talking ▸ lit⟩

theorem softer_silent (before after : Activity) (touched : after.touched = before.touched) (silent : after.talking = false) :
    Softer before after := by
  refine ⟨touched, ?_⟩
  intro lit
  rw [silent] at lit
  cases lit

theorem disconnect_all_softer (act : Activity) : Softer act (disconnectAll act).1 := by
  unfold disconnectAll
  split
  case isTrue => exact softer_same act act rfl rfl
  case isFalse => exact softer_silent act _ rfl rfl

theorem off_here (flags : Nat → Bool) (field : Option Nat) : field.any (off flags field) = false := by
  cases field with
  | none => rfl
  | some id => simp [off]

theorem click_softer (act : Activity) (services : Bool) (form : Form) (tidy : Tidy act) :
    Softer act (onConnectClick act services form).1 := by
  unfold onConnectClick
  split
  case isTrue => exact softer_same act act rfl rfl
  case isFalse =>
    split
    case isTrue => exact disconnect_all_softer act
    case isFalse connected =>
      obtain ⟨direct, cloud⟩ := unconnected_fields act (Bool.eq_false_iff.mpr connected)
      split
      case isTrue =>
        rcases connect_web_rtc_cases act form with same | ⟨url, opened⟩
        · rw [same]
          exact softer_same act act rfl rfl
        · rw [opened]
          refine softer_silent act _ rfl ?_
          have recorder := (tidy.bare direct).2.2.1
          simp [Activity.talking, recorder, off]
      case isFalse =>
        rcases connect_rtsp_cases act services form with same | ⟨device, _, opened⟩
        · rw [same]
          exact softer_same act act rfl rfl
        · rw [opened]
          refine softer_silent act _ rfl ?_
          simp [Activity.talking, openRtsp, registerNetworkCallback, cloud, off]

theorem resume_softer (act : Activity) (playing valid : Bool) : Softer act (resumeVideo act playing valid).1 := by
  unfold resumeVideo restartVideoDecoder
  split
  case isTrue => split <;> exact softer_same act _ rfl rfl
  case isFalse => exact softer_same act act rfl rfl

theorem deferred_softer (act : Activity) (services : Bool) (form : Form) (tidy : Tidy act) :
    Softer act (deferredConnect act services form).1 := by
  unfold deferredConnect
  split
  next => exact softer_same act act rfl rfl
  next host _ =>
    have taken : Tidy { act with pendingAutoConnect := none } :=
      ⟨tidy.local_mode, tidy.cloud_mode, tidy.bare, tidy.idle, tidy.apart, tidy.quiet, tidy.muted, tidy.gone⟩
    obtain ⟨touched, talking⟩ := click_softer _ services { form with addressInput := host } taken
    exact ⟨touched, talking⟩

theorem surface_created_softer (act : Activity) (playing valid services : Bool) (form : Form) (tidy : Tidy act) :
    Softer act (surfaceCreated act playing valid services form).1 := by
  have shown : Tidy { act with surfaceReady := true } :=
    ⟨tidy.local_mode, tidy.cloud_mode, tidy.bare, tidy.idle, tidy.apart, tidy.quiet, tidy.muted, tidy.gone⟩
  have resumed := (resume_orderly { act with surfaceReady := true } playing valid shown).tidy
  have first := resume_softer { act with surfaceReady := true } playing valid
  have second := deferred_softer _ services form resumed
  exact ⟨second.touched.trans first.touched, fun lit => first.talking (second.talking lit)⟩

theorem state_softer (act : Activity) (state : ClientState) : Softer act (onStateChanged act state).1 := by
  cases state <;> exact softer_same act _ rfl rfl

theorem web_rtc_state_softer (act : Activity) (state : WebRtcState) : Softer act (onWebRtcStateChanged act state) := by
  cases state <;> exact softer_same act _ rfl rfl

theorem fewer_captures (act : Activity) (id : Nat) : Softer act { act with capturing := off act.capturing (some id) } := by
  refine ⟨rfl, ?_⟩
  intro lit
  simp only [Activity.talking, Bool.or_eq_true, Option.any_eq_true] at lit ⊢
  rcases lit with ⟨capture, held, on⟩ | cloud
  · exact .inl ⟨capture, held, (off_self _ _ capture on).1⟩
  · exact .inr cloud

theorem untouched_softer (act : Activity) (action : Act) (tidy : Tidy act)
    (elsewhere : action ≠ .talkUp ∧ ∀ granted starts, action ≠ .talkDown granted starts) : Softer act (mainNext act action) := by
  have still : Softer act act := softer_same act act rfl rfl
  cases action with
  | surfaceCreated playing valid services form =>
      simp only [mainNext, mainStep]
      split
      case isTrue => exact still
      case isFalse => exact surface_created_softer act playing valid services form tidy
  | surfaceDestroyed => exact softer_same act _ rfl rfl
  | connectBtn services form =>
      simp only [mainNext, mainStep]
      split
      case isTrue => exact still
      case isFalse => exact click_softer act services form tidy
  | newIntent host services form =>
      simp only [mainNext, mainStep]
      split
      case isTrue => exact still
      case isFalse =>
        unfold handleAutoConnect
        split
        next => exact still
        next host =>
          split
          case isTrue => exact still
          case isFalse =>
            split
            case isTrue => exact click_softer act services _ tidy
            case isFalse => exact softer_same act _ rfl rfl
  | modeGroup webRtc =>
      simp only [mainNext, mainStep]
      split
      case isTrue => exact still
      case isFalse => exact softer_same act _ rfl rfl
  | talkDown granted starts => exact absurd rfl (elsewhere.2 granted starts)
  | talkUp => exact absurd rfl elsewhere.1
  | captureFailed id => exact fewer_captures act id
  | rtspState state => exact state_softer act state
  | rtspError reconnecting =>
      simp only [mainNext, mainStep, onError]
      split
      case isTrue => exact still
      case isFalse => exact disconnect_all_softer act
  | webRtcState state => exact web_rtc_state_softer act state
  | webRtcError => exact disconnect_all_softer act
  | disconnectThread =>
      simp only [mainNext, mainStep]
      unfold disconnectThread
      split <;> exact softer_same act _ rfl rfl
  | destroy => exact softer_silent act _ rfl rfl

theorem start_talk_touched (act : Activity) (granted starts : Bool) :
    (startTalk act granted starts).touched = act.touched := by
  unfold startTalk
  split
  case isTrue => rfl
  case isFalse => split <;> rfl

theorem talk_down_touches (act : Activity) (granted starts : Bool) (alive : act.destroyed = false) :
    (mainNext act (.talkDown granted starts)).touched = true := by
  simp only [mainNext, mainStep, alive, Bool.false_eq_true, if_false, talkTouch]
  split
  case isTrue => exact start_talk_touched _ granted starts
  case isFalse => rfl

theorem heard_up_silent (act : Activity) (heard : act.talkEnabled = true ∨ act.talking = false) :
    (mainNext act .talkUp).talking = false := by
  by_cases listens : act.talkEnabled = true
  · have captures := off_here act.capturing act.audioCapture
    have clouds := off_here act.micEnabled act.webRtcClient
    simp [mainNext, mainStep, talkTouch, listens, stopTalk, Activity.talking, captures, clouds]
  · have silent := heard.resolve_left listens
    simpa [mainNext, mainStep, talkTouch, listens, Activity.talking] using silent

theorem pressed_step (act : Activity) (action : Act) (tidy : Tidy act) (pressed : PressedToTalk act)
    (heard : Heard act action) : PressedToTalk (mainNext act action) := by
  by_cases up : action = .talkUp
  · subst up
    intro lit
    rw [heard_up_silent act (heard rfl)] at lit
    cases lit
  · by_cases down : ∃ granted starts, action = .talkDown granted starts
    · obtain ⟨granted, starts, rfl⟩ := down
      cases alive : act.destroyed with
      | false => exact fun _ => talk_down_touches act granted starts alive
      | true => simpa [mainNext, mainStep, alive] using pressed
    · have elsewhere : ∀ granted starts, action ≠ .talkDown granted starts :=
        fun granted starts same => down ⟨granted, starts, same⟩
      obtain ⟨touched, talking⟩ := untouched_softer act action tidy ⟨up, elsewhere⟩
      intro lit
      rw [touched]
      exact pressed (talking lit)

theorem unheard_step (act : Activity) (action : Act) (unheard : ¬ Heard act action) :
    ¬ PressedToTalk (mainNext act action) := by
  simp only [Heard, Classical.not_imp, not_or, Bool.not_eq_true, Bool.not_eq_false] at unheard
  obtain ⟨rfl, deaf, lit⟩ := unheard
  have after : mainNext act .talkUp = { act with touched := false } := by simp [mainNext, mainStep, talkTouch, deaf]
  intro pressed
  rw [after] at pressed
  cases pressed lit

-- The microphone is on only under a finger exactly when every lifting of it is heard: a button that was disabled in
-- between, as while reconnecting, leaves the recording on.
theorem talk_button_held (acts : List Act) :
    Runs.EachState mainNext PressedToTalk {} acts ↔ Runs.EachStep mainNext Heard {} acts := by
  apply Runs.each_state_iff_steps mainNext PressedToTalk Tidy Heard {} acts ?_ ?_ initial_tidy
  · intro lit
    cases lit
  · intro act action tidy
    exact (step_orderly act action tidy).tidy
  · intro act action tidy pressed
    refine ⟨?_, pressed_step act action tidy pressed⟩
    intro after
    by_contra unheard
    exact unheard_step act action unheard after

def doorForm : Form := ⟨[49, 48, 46, 48, 46, 48, 46, 50], [], [], [], [], []⟩

example : (Runs.run mainNext {} [.connectBtn true doorForm, .rtspState .playing, .talkDown true true, .rtspState .reconnecting,
    .talkUp, .rtspState .playing]).talking = true := by
  decide +kernel

end Intercom.Android.Main
