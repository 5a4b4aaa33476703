import Intercom.Android.Connect
import Intercom.Android.DoorbellService

set_option autoImplicit false

/- MainActivity.kt: what the screen holds while it is used, reconnects and goes away. Every method here runs on the main
   thread; the one other thread is the Disconnect thread. A runnable that a client posted may run at any later time. -/
namespace Intercom.Android.Main

open Doorbell (hostAllowed)

inductive Resource where
  | rtspClient (id : Nat)
  | webRtcClient (id : Nat)
  | videoDecoder (id : Nat)
  | audioPlayer (id : Nat)
  | audioCapture (id : Nat)
  | networkCallback (id : Nat)
deriving DecidableEq, Repr

-- What one connection attempt makes has one number.
def Resource.id : Resource → Nat
  | .rtspClient id | .webRtcClient id | .videoDecoder id | .audioPlayer id | .audioCapture id | .networkCallback id => id

-- touched is whether a finger is on the talk button, and teardown what the Disconnect thread has still to end.
structure Activity where
  rtspClient : Option Nat := none
  webRtcClient : Option Nat := none
  videoDecoder : Option Nat := none
  audioPlayer : Option Nat := none
  audioCapture : Option Nat := none
  networkCallback : Option Nat := none
  surfaceReady : Bool := false
  pendingAutoConnect : Option Text := none
  disconnecting : Bool := false
  isWebRtcMode : Bool := false
  isStreaming : Bool := false
  talkEnabled : Bool := false
  touched : Bool := false
  capturing : Nat → Bool := fun _ => false
  micEnabled : Nat → Bool := fun _ => false
  teardown : List Resource := []
  created : Nat := 0
  destroyed : Bool := false

structure Form where
  addressInput : Text
  usernameInput : Text
  passwordInput : Text
  relayInput : Text
  deviceIdInput : Text
  go2rtcInput : Text
deriving DecidableEq, Repr

structure Endpoint where
  host : Text
  port : Int
deriving DecidableEq, Repr

-- A WebRtcClient is ended by disconnect() in the Disconnect thread and by release() in onDestroy; every other resource has one
-- call that ends it.
inductive Note where
  | created (resource : Resource)
  | ended (resource : Resource)
  | connect (device : Endpoint) (username password : Option Text)
  | relay (server : Endpoint) (deviceId : Text)
  | signal (url stream : Text)
deriving DecidableEq, Repr

inductive WebRtcState where
  | disconnected
  | connecting
  | connected
  | playing
  | error
deriving DecidableEq, Repr

-- Where a method asks a client, the system or a view something, the label has the answer.
inductive Act where
  | surfaceCreated (playing valid services : Bool) (form : Form)
  | surfaceDestroyed
  | connectBtn (services : Bool) (form : Form)
  | newIntent (host : Option Text) (services : Bool) (form : Form)
  | modeGroup (webRtc : Bool)
  | talkDown (granted starts : Bool)
  | talkUp
  | captureFailed (id : Nat)
  | rtspState (state : ClientState)
  | rtspError (reconnecting : Bool)
  | webRtcState (state : WebRtcState)
  | webRtcError
  | disconnectThread
  | destroy
deriving DecidableEq, Repr

def opt (resource : Nat → Resource) (field : Option Nat) : List Resource := (field.map resource).toList

def off (flags : Nat → Bool) (field : Option Nat) : Nat → Bool := fun id => if field = some id then false else flags id

def ends (resources : List Resource) : List Note := resources.map .ended

def Activity.connected (act : Activity) : Bool := act.rtspClient.isSome || act.webRtcClient.isSome

def unregisterNetworkCallback (act : Activity) : Activity × List Note :=
  ({ act with networkCallback := none }, ends (opt .networkCallback act.networkCallback))

-- getSystemService may have no ConnectivityManager.
def registerNetworkCallback (act : Activity) (services : Bool) (id : Nat) : Activity × List Note :=
  ({ act with networkCallback := if services then some id else none },
    ends (opt .networkCallback act.networkCallback) ++ if services then [.created (.networkCallback id)] else [])

def disconnectAll (act : Activity) : Activity × List Note :=
  if act.disconnecting then (act, [])
  else
    ({ (unregisterNetworkCallback act).1 with
      disconnecting := true, isStreaming := false, talkEnabled := false
      micEnabled := off act.micEnabled act.webRtcClient, capturing := off act.capturing act.audioCapture
      rtspClient := none, webRtcClient := none, audioCapture := none, videoDecoder := none, audioPlayer := none
      teardown := opt .rtspClient act.rtspClient ++ opt .webRtcClient act.webRtcClient ++
        opt .videoDecoder act.videoDecoder ++ opt .audioPlayer act.audioPlayer },
      (unregisterNetworkCallback act).2 ++ ends (opt .audioCapture act.audioCapture))

def splitColon (chars : Text) : List Text := chars.splitOn 58

def ifEmptyNull (chars : Text) : Option Text := if (trim chars).isEmpty then none else some (trim chars)

def endpoint (parts : List Text) (default : Int) : Endpoint :=
  { host := parts.headD [], port := (parts[1]?.bind toIntOrNull).getD default }

def onConnectWebRtc (act : Activity) (form : Form) : Activity × List Note :=
  let go2rtcAddr := trim form.go2rtcInput
  let go2rtcUrl := if startsWith go2rtcAddr (text "http") then go2rtcAddr else text "http://" ++ go2rtcAddr
  if go2rtcAddr.isEmpty then (act, [])
  else if !hostAllowed ((splitColon go2rtcAddr).headD []) then (act, [])
  else
    ({ act with
      webRtcClient := some act.created, micEnabled := off act.micEnabled (some act.created), created := act.created + 1 },
      [.created (.webRtcClient act.created), .signal go2rtcUrl (text "smartlock")])

-- The relay settings are looked at last: with a bad one the client stays, and nothing connects it.
def connectNotes (device : Endpoint) (form : Form) : List Note :=
  let username := ifEmptyNull form.usernameInput
  let password := ifEmptyNull form.passwordInput
  match ifEmptyNull form.relayInput, ifEmptyNull form.deviceIdInput with
  | some relayAddr, some deviceId =>
      let server := endpoint (splitColon relayAddr) 443
      if hostAllowed server.host then [.connect device username password, .relay server deviceId] else []
  | _, _ => [.connect device username password]

def openRtsp (act : Activity) (services : Bool) : Activity × List Note :=
  let id := act.created
  let opened := { act with
    videoDecoder := some id, audioPlayer := some id, rtspClient := some id, audioCapture := some id
    capturing := off act.capturing (some id), created := id + 1 }
  ((registerNetworkCallback opened services id).1,
    [.created (.videoDecoder id), .created (.audioPlayer id), .created (.rtspClient id), .created (.audioCapture id)] ++
      (registerNetworkCallback opened services id).2)

def onConnectRtsp (act : Activity) (services : Bool) (form : Form) : Activity × List Note :=
  let address := trim form.addressInput
  let device := endpoint (splitColon address) 8555
  if address.isEmpty then (act, [])
  else if !hostAllowed device.host then (act, [])
  else ((openRtsp act services).1, (openRtsp act services).2 ++ connectNotes device form)

def onConnectClick (act : Activity) (services : Bool) (form : Form) : Activity × List Note :=
  if act.disconnecting then (act, [])
  else if act.connected then disconnectAll act
  else if act.isWebRtcMode then onConnectWebRtc act form
  else onConnectRtsp act services form

def handleAutoConnect (act : Activity) (host : Option Text) (services : Bool) (form : Form) : Activity × List Note :=
  match host with
  | none => (act, [])
  | some host =>
      if act.connected then (act, [])
      else if act.surfaceReady then onConnectClick act services { form with addressInput := host }
      else ({ act with pendingAutoConnect := some host }, [])

def restartVideoDecoder (act : Activity) (valid : Bool) : Activity × List Note :=
  if !valid then (act, [])
  else
    ({ act with videoDecoder := some act.created, created := act.created + 1 },
      ends (opt .videoDecoder act.videoDecoder) ++ [.created (.videoDecoder act.created)])

-- The picture comes back when RTSP is still playing.
def resumeVideo (act : Activity) (playing valid : Bool) : Activity × List Note :=
  if act.rtspClient.isSome && playing then restartVideoDecoder act valid else (act, [])

def deferredConnect (act : Activity) (services : Bool) (form : Form) : Activity × List Note :=
  match act.pendingAutoConnect with
  | none => (act, [])
  | some host => onConnectClick { act with pendingAutoConnect := none } services { form with addressInput := host }

def surfaceCreated (act : Activity) (playing valid services : Bool) (form : Form) : Activity × List Note :=
  let resumed := resumeVideo { act with surfaceReady := true } playing valid
  ((deferredConnect resumed.1 services form).1, resumed.2 ++ (deferredConnect resumed.1 services form).2)

def surfaceDestroyed (act : Activity) : Activity × List Note :=
  ({ act with surfaceReady := false, videoDecoder := none }, ends (opt .videoDecoder act.videoDecoder))

def startTalk (act : Activity) (granted starts : Bool) : Activity :=
  if !granted then act
  else
    match act.webRtcClient, act.audioCapture with
    | some client, _ => { act with micEnabled := fun id => if id = client ∧ starts = true then true else act.micEnabled id }
    | none, some capture =>
        { act with capturing := fun id => if id = capture ∧ starts = true then true else act.capturing id }
    | none, none => act

def stopTalk (act : Activity) : Activity :=
  { act with micEnabled := off act.micEnabled act.webRtcClient, capturing := off act.capturing act.audioCapture }

-- A view that is not enabled does not call its touch listener.
def talkTouch (act : Activity) (touched : Bool) (heard : Activity → Activity) : Activity :=
  let act := { act with touched }
  if act.talkEnabled then heard act else act

def onStateChanged (act : Activity) (state : ClientState) : Activity × List Note :=
  match state with
  | .connecting | .connected => (act, [])
  | .playing => ({ act with talkEnabled := true, isStreaming := true }, [])
  | .disconnected | .reconnecting => ({ act with talkEnabled := false, isStreaming := false }, [])
  | .error => unregisterNetworkCallback { act with talkEnabled := false, isStreaming := false }

def onWebRtcStateChanged (act : Activity) (state : WebRtcState) : Activity :=
  match state with
  | .connecting | .connected => act
  | .playing => { act with talkEnabled := true, isStreaming := true }
  | .disconnected | .error => { act with talkEnabled := false, isStreaming := false }

def onError (act : Activity) (reconnecting : Bool) : Activity × List Note :=
  if act.rtspClient.isSome && reconnecting then (act, []) else disconnectAll act

def disconnectThread (act : Activity) : Activity × List Note :=
  match act.teardown with
  | [] => ({ act with disconnecting := false }, [])
  | resource :: rest => ({ act with teardown := rest }, [.ended resource])

def Activity.fields (act : Activity) : List Resource :=
  opt .rtspClient act.rtspClient ++ opt .webRtcClient act.webRtcClient ++ opt .videoDecoder act.videoDecoder ++
    opt .audioPlayer act.audioPlayer ++ opt .audioCapture act.audioCapture ++ opt .networkCallback act.networkCallback

def onDestroy (act : Activity) : Activity × List Note :=
  ({ act with
    isStreaming := false, talkEnabled := false, destroyed := true
    micEnabled := off act.micEnabled act.webRtcClient, capturing := off act.capturing act.audioCapture
    rtspClient := none, webRtcClient := none, audioCapture := none, videoDecoder := none, audioPlayer := none
    networkCallback := none }, ends act.fields)

-- The user no longer reaches an activity that is destroyed; the runnables still do.
def mainStep (act : Activity) : Act → Activity × List Note
  | .surfaceCreated playing valid services form =>
      if act.destroyed then (act, []) else surfaceCreated act playing valid services form
  | .surfaceDestroyed => surfaceDestroyed act
  | .connectBtn services form => if act.destroyed then (act, []) else onConnectClick act services form
  | .newIntent host services form => if act.destroyed then (act, []) else handleAutoConnect act host services form
  | .modeGroup webRtc => if act.destroyed || act.connected then (act, []) else ({ act with isWebRtcMode := webRtc }, [])
  | .talkDown granted starts =>
      if act.destroyed then (act, []) else (talkTouch act true fun act => startTalk act granted starts, [])
  | .talkUp => (talkTouch act false stopTalk, [])
  | .captureFailed id => ({ act with capturing := off act.capturing (some id) }, [])
  | .rtspState state => onStateChanged act state
  | .rtspError reconnecting => onError act reconnecting
  | .webRtcState state => (onWebRtcStateChanged act state, [])
  | .webRtcError => disconnectAll act
  | .disconnectThread => disconnectThread act
  | .destroy => onDestroy act

def mainRun (act : Activity) (acts : List Act) : Activity × List Note := Runs.run (Runs.record mainStep) (act, []) acts

def Note.creates : Note → List Resource
  | .created resource => [resource]
  | _ => []

def Note.closes : Note → List Resource
  | .ended resource => [resource]
  | _ => []

def Note.allowed : Note → Bool
  | .connect device _ _ => hostAllowed device.host
  | .relay server _ => hostAllowed server.host
  | _ => true

def creations (log : List Note) : List Resource := log.flatMap Note.creates

def endings (log : List Note) : List Resource := log.flatMap Note.closes

@[simp] theorem creations_append (log more : List Note) : creations (log ++ more) = creations log ++ creations more := by
  simp [creations]

@[simp] theorem endings_append (log more : List Note) : endings (log ++ more) = endings log ++ endings more := by
  simp [endings]

@[simp] theorem creations_ends (resources : List Resource) : creations (ends resources) = [] := by
  simp [creations, ends, Note.creates]

@[simp] theorem endings_ends (resources : List Resource) : endings (ends resources) = resources := by
  induction resources with
  | nil => rfl
  | cons resource rest ih => exact congrArg (List.cons resource) ih

@[simp] theorem ends_allowed (resources : List Resource) : (ends resources).all Note.allowed = true := by
  simp [ends, Note.allowed]

@[simp] theorem opt_none (resource : Nat → Resource) : opt resource none = [] := rfl

@[simp] theorem opt_some (resource : Nat → Resource) (id : Nat) : opt resource (some id) = [resource id] := rfl

structure Tidy (act : Activity) : Prop where
  local_mode : act.rtspClient ≠ none → act.isWebRtcMode = false
  cloud_mode : act.webRtcClient ≠ none → act.isWebRtcMode = true
  bare : act.rtspClient = none →
    act.videoDecoder = none ∧ act.audioPlayer = none ∧ act.audioCapture = none ∧ act.networkCallback = none
  idle : act.disconnecting = false → act.teardown = []
  apart : act.disconnecting = true → act.rtspClient = none ∧ act.webRtcClient = none
  quiet : ∀ id, act.capturing id = true → act.audioCapture = some id
  muted : ∀ id, act.micEnabled id = true → act.webRtcClient = some id
  gone : act.destroyed = true → act.rtspClient = none ∧ act.webRtcClient = none

-- No resource is lost or ended twice by a step, and what it makes is new.
structure Balanced (before after : Activity) (notes : List Note) : Prop where
  count : ∀ resource, (before.fields ++ before.teardown).count resource + (creations notes).count resource =
    (endings notes).count resource + (after.fields ++ after.teardown).count resource
  fresh : ∀ resource ∈ creations notes, before.created ≤ resource.id ∧ resource.id < after.created
  distinct : (creations notes).Nodup
  grows : before.created ≤ after.created
  allowed : notes.all Note.allowed = true

theorem balanced_same (before after : Activity) (fields : after.fields = before.fields)
    (teardown : after.teardown = before.teardown) (created : after.created = before.created) : Balanced before after [] := by
  refine ⟨?_, ?_, List.nodup_nil, Nat.le_of_eq created.symm, rfl⟩
  · intro resource
    simp [fields, teardown, creations, endings]
  · intro resource member
    cases member

theorem balanced_trans (first second third : Activity) (early late : List Note) (one : Balanced first second early)
    (two : Balanced second third late) : Balanced first third (early ++ late) := by
  refine ⟨?_, ?_, ?_, Nat.le_trans one.grows two.grows, ?_⟩
  · intro resource
    have left := one.count resource
    have right := two.count resource
    have made : (creations (early ++ late)).count resource =
        (creations early).count resource + (creations late).count resource := by
      rw [creations_append, List.count_append]
    have ended : (endings (early ++ late)).count resource = (endings early).count resource + (endings late).count resource := by
      rw [endings_append, List.count_append]
    rw [made, ended]
    omega
  · intro resource member
    rw [creations_append, List.mem_append] at member
    have grown := one.grows
    have more := two.grows
    rcases member with old | new
    · have range := one.fresh resource old
      omega
    · have range := two.fresh resource new
      omega
  · rw [creations_append, List.nodup_append]
    refine ⟨one.distinct, two.distinct, ?_⟩
    intro old early new late same
    have before := (one.fresh old early).2
    have after := (two.fresh new late).1
    rw [same] at before
    omega
  · rw [List.all_append, one.allowed, two.allowed]
    rfl

theorem off_self (flags : Nat → Bool) (field : Option Nat) (id : Nat) (lit : off flags field id = true) :
    flags id = true ∧ field ≠ some id := by
  unfold off at lit
  split at lit
  case isTrue => cases lit
  case isFalse away => exact ⟨lit, away⟩

theorem unregister_balanced (act : Activity) :
    Balanced act (unregisterNetworkCallback act).1 (unregisterNetworkCallback act).2 := by
  refine ⟨?_, ?_, ?_, Nat.le_refl _, ends_allowed _⟩
  · intro resource
    simp [unregisterNetworkCallback, Activity.fields, List.count_append]
    omega
  · intro resource member
    simp [unregisterNetworkCallback] at member
  · simp [unregisterNetworkCallback]

theorem disconnect_all_balanced (act : Activity) (tidy : Tidy act) :
    Balanced act (disconnectAll act).1 (disconnectAll act).2 := by
  unfold disconnectAll
  split
  case isTrue => exact balanced_same act act rfl rfl rfl
  case isFalse free =>
    have empty := tidy.idle (Bool.eq_false_iff.mpr free)
    refine ⟨?_, ?_, ?_, Nat.le_refl _, ?_⟩
    · intro resource
      simp [unregisterNetworkCallback, Activity.fields, List.count_append, empty]
      omega
    · intro resource member
      simp [unregisterNetworkCallback] at member
    · simp [unregisterNetworkCallback]
    · simp [unregisterNetworkCallback]

theorem connect_web_rtc_cases (act : Activity) (form : Form) :
    onConnectWebRtc act form = (act, []) ∨ ∃ url, onConnectWebRtc act form =
      ({ act with
        webRtcClient := some act.created, micEnabled := off act.micEnabled (some act.created), created := act.created + 1 },
        [.created (.webRtcClient act.created), .signal url (text "smartlock")]) := by
  simp only [onConnectWebRtc]
  split
  case isTrue => exact .inl rfl
  case isFalse =>
    split
    case isTrue => exact .inl rfl
    case isFalse => exact .inr ⟨_, rfl⟩

theorem connect_web_rtc_balanced (act : Activity) (form : Form) (free : act.webRtcClient = none) :
    Balanced act (onConnectWebRtc act form).1 (onConnectWebRtc act form).2 := by
  rcases connect_web_rtc_cases act form with same | ⟨url, opened⟩
  · rw [same]
    exact balanced_same act act rfl rfl rfl
  · rw [opened]
    refine ⟨?_, ?_, ?_, Nat.le_succ _, rfl⟩
    · intro resource
      simp [Activity.fields, free, creations, endings, Note.creates, Note.closes, List.count_append, List.count_cons]
      omega
    · intro resource member
      have here : resource = .webRtcClient act.created := by simpa [creations, Note.creates] using member
      rw [here]
      exact ⟨Nat.le_refl _, Nat.lt_succ_self _⟩
    · simp [creations, Note.creates]

theorem connect_notes_quiet (device : Endpoint) (form : Form) :
    creations (connectNotes device form) = [] ∧ endings (connectNotes device form) = [] := by
  unfold connectNotes
  split
  next =>
    simp only
    split
    case isTrue => exact ⟨rfl, rfl⟩
    case isFalse => exact ⟨rfl, rfl⟩
  next => exact ⟨rfl, rfl⟩

theorem connect_notes_allowed (device : Endpoint) (form : Form) (host : hostAllowed device.host = true) :
    (connectNotes device form).all Note.allowed = true := by
  unfold connectNotes
  split
  next =>
    simp only
    split
    case isTrue server => simp [Note.allowed, host, server]
    case isFalse => rfl
  next => simp [Note.allowed, host]

theorem connect_rtsp_cases (act : Activity) (services : Bool) (form : Form) :
    onConnectRtsp act services form = (act, []) ∨ ∃ device, hostAllowed device.host = true ∧
      onConnectRtsp act services form = ((openRtsp act services).1, (openRtsp act services).2 ++ connectNotes device form) := by
  simp only [onConnectRtsp]
  split
  case isTrue => exact .inl rfl
  case isFalse =>
    split
    case isTrue => exact .inl rfl
    case isFalse host => exact .inr ⟨_, by simpa using host, rfl⟩

def pipeline (services : Bool) (id : Nat) : List Resource :=
  [.videoDecoder id, .audioPlayer id, .rtspClient id, .audioCapture id] ++ if services then [.networkCallback id] else []

theorem open_rtsp_creations (act : Activity) (services : Bool) :
    creations (openRtsp act services).2 = pipeline services act.created := by
  cases services <;> simp [openRtsp, registerNetworkCallback, creations, Note.creates, pipeline, ends]

theorem open_rtsp_balanced (act : Activity) (services : Bool) (tidy : Tidy act) (free : act.rtspClient = none) :
    Balanced act (openRtsp act services).1 (openRtsp act services).2 := by
  obtain ⟨decoder, player, capture, callback⟩ := tidy.bare free
  refine ⟨?_, ?_, ?_, Nat.le_succ _, ?_⟩
  · intro resource
    rw [open_rtsp_creations]
    have unended : endings (openRtsp act services).2 = [] := by
      cases services <;> simp [openRtsp, registerNetworkCallback, callback, endings, Note.closes, ends]
    rw [unended]
    cases services
    · simp [openRtsp, registerNetworkCallback, pipeline, Activity.fields, free, decoder, player, capture, callback,
        List.count_append, List.count_cons]
      omega
    · simp [openRtsp, registerNetworkCallback, pipeline, Activity.fields, free, decoder, player, capture, callback,
        List.count_append, List.count_cons]
      omega
  · intro resource member
    rw [open_rtsp_creations] at member
    have number : resource.id = act.created := by
      cases services <;> simp [pipeline] at member <;> rcases member with rfl | rfl | rfl | rfl | rfl <;> rfl
    rw [number]
    exact ⟨Nat.le_refl _, Nat.lt_succ_self _⟩
  · rw [open_rtsp_creations]
    cases services <;> simp [pipeline]
  · cases services <;> simp [openRtsp, registerNetworkCallback, Note.allowed]

theorem connect_rtsp_balanced (act : Activity) (services : Bool) (form : Form) (tidy : Tidy act)
    (free : act.rtspClient = none) : Balanced act (onConnectRtsp act services form).1 (onConnectRtsp act services form).2 := by
  rcases connect_rtsp_cases act services form with same | ⟨device, host, opened⟩
  · rw [same]
    exact balanced_same act act rfl rfl rfl
  · rw [opened]
    obtain ⟨unmade, unended⟩ := connect_notes_quiet device form
    have balanced := open_rtsp_balanced act services tidy free
    refine ⟨?_, ?_, ?_, balanced.grows, ?_⟩
    · simpa [unmade, unended] using balanced.count
    · simpa [unmade] using balanced.fresh
    · simpa [unmade] using balanced.distinct
    · rw [List.all_append, balanced.allowed, connect_notes_allowed device form host]
      rfl

theorem unregister_tidy (act : Activity) (tidy : Tidy act) : Tidy (unregisterNetworkCallback act).1 := by
  refine ⟨tidy.local_mode, tidy.cloud_mode, ?_, tidy.idle, tidy.apart, tidy.quiet, tidy.muted, tidy.gone⟩
  intro free
  obtain ⟨decoder, player, capture, _⟩ := tidy.bare free
  exact ⟨decoder, player, capture, rfl⟩

theorem off_quiet (flags : Nat → Bool) (field : Option Nat) (named : ∀ id, flags id = true → field = some id) :
    ∀ id, off flags field id = true → (none : Option Nat) = some id := by
  intro id lit
  obtain ⟨was, away⟩ := off_self flags field id lit
  exact absurd (named id was) away

theorem disconnect_all_tidy (act : Activity) (tidy : Tidy act) : Tidy (disconnectAll act).1 := by
  unfold disconnectAll
  split
  case isTrue => exact tidy
  case isFalse =>
    refine ⟨?_, ?_, ?_, ?_, ?_, ?_, ?_, ?_⟩
    · intro still
      exact absurd rfl still
    · intro still
      exact absurd rfl still
    · intro _
      exact ⟨rfl, rfl, rfl, rfl⟩
    · intro busy
      cases busy
    · intro _
      exact ⟨rfl, rfl⟩
    · exact off_quiet act.capturing act.audioCapture tidy.quiet
    · exact off_quiet act.micEnabled act.webRtcClient tidy.muted
    · intro _
      exact ⟨rfl, rfl⟩

section Connect

variable (act : Activity) (services : Bool) (form : Form) (tidy : Tidy act) (alive : act.destroyed = false)
  (free : act.disconnecting = false) (unconnected : act.rtspClient = none ∧ act.webRtcClient = none)

include tidy alive free unconnected

theorem connect_web_rtc_tidy (cloud : act.isWebRtcMode = true) : Tidy (onConnectWebRtc act form).1 := by
  rcases connect_web_rtc_cases act form with same | ⟨url, opened⟩
  · rw [same]
    exact tidy
  · rw [opened]
    refine ⟨?_, ?_, tidy.bare, tidy.idle, ?_, tidy.quiet, ?_, ?_⟩
    · intro still
      exact absurd unconnected.1 still
    · intro _
      exact cloud
    · intro busy
      rw [show act.disconnecting = true from busy] at free
      cases free
    · intro id lit
      obtain ⟨was, _⟩ := off_self _ _ id lit
      have named := tidy.muted id was
      rw [unconnected.2] at named
      cases named
    · intro ended
      rw [show act.destroyed = true from ended] at alive
      cases alive

theorem connect_rtsp_tidy (direct : act.isWebRtcMode = false) : Tidy (onConnectRtsp act services form).1 := by
  rcases connect_rtsp_cases act services form with same | ⟨device, _, opened⟩
  · rw [same]
    exact tidy
  · rw [opened]
    refine ⟨?_, ?_, ?_, tidy.idle, ?_, ?_, tidy.muted, ?_⟩
    · intro _
      exact direct
    · intro still
      exact absurd unconnected.2 still
    · intro none
      cases none
    · intro busy
      rw [show act.disconnecting = true from busy] at free
      cases free
    · intro id lit
      obtain ⟨was, _⟩ := off_self _ _ id lit
      have named := tidy.quiet id was
      rw [(tidy.bare unconnected.1).2.2.1] at named
      cases named
    · intro ended
      rw [show act.destroyed = true from ended] at alive
      cases alive

end Connect

-- One step of the activity: it leaves the fields in order and the resources accounted for.
structure Orderly (before : Activity) (result : Activity × List Note) : Prop where
  tidy : Tidy result.1
  balanced : Balanced before result.1 result.2

theorem orderly_same (act after : Activity) (tidy : Tidy after) (fields : after.fields = act.fields)
    (teardown : after.teardown = act.teardown) (created : after.created = act.created) : Orderly act (after, []) :=
  ⟨tidy, balanced_same act after fields teardown created⟩

theorem disconnect_all_orderly (act : Activity) (tidy : Tidy act) : Orderly act (disconnectAll act) :=
  ⟨disconnect_all_tidy act tidy, disconnect_all_balanced act tidy⟩

theorem unconnected_fields (act : Activity) (free : act.connected = false) :
    act.rtspClient = none ∧ act.webRtcClient = none := by
  simpa [Activity.connected] using free

theorem click_orderly (act : Activity) (services : Bool) (form : Form) (tidy : Tidy act) (alive : act.destroyed = false) :
    Orderly act (onConnectClick act services form) := by
  unfold onConnectClick
  split
  case isTrue => exact orderly_same act act tidy rfl rfl rfl
  case isFalse busy =>
    have free := Bool.eq_false_iff.mpr busy
    split
    case isTrue => exact disconnect_all_orderly act tidy
    case isFalse connected =>
      have empty := unconnected_fields act (Bool.eq_false_iff.mpr connected)
      split
      case isTrue cloud =>
        exact ⟨connect_web_rtc_tidy act form tidy alive free empty cloud, connect_web_rtc_balanced act form empty.2⟩
      case isFalse direct =>
        exact ⟨connect_rtsp_tidy act services form tidy alive free empty (Bool.eq_false_iff.mpr direct),
          connect_rtsp_balanced act services form tidy empty.1⟩

theorem auto_connect_orderly (act : Activity) (host : Option Text) (services : Bool) (form : Form) (tidy : Tidy act)
    (alive : act.destroyed = false) : Orderly act (handleAutoConnect act host services form) := by
  unfold handleAutoConnect
  split
  next => exact orderly_same act act tidy rfl rfl rfl
  next host =>
    split
    case isTrue => exact orderly_same act act tidy rfl rfl rfl
    case isFalse =>
      split
      case isTrue => exact click_orderly act services _ tidy alive
      case isFalse =>
        have waiting : Tidy { act with pendingAutoConnect := some host } :=
          ⟨tidy.local_mode, tidy.cloud_mode, tidy.bare, tidy.idle, tidy.apart, tidy.quiet, tidy.muted, tidy.gone⟩
        exact orderly_same act _ waiting rfl rfl rfl

theorem restart_orderly (act : Activity) (valid : Bool) (tidy : Tidy act) (client : act.rtspClient ≠ none) :
    Orderly act (restartVideoDecoder act valid) := by
  unfold restartVideoDecoder
  split
  case isTrue => exact orderly_same act act tidy rfl rfl rfl
  case isFalse =>
    have made : creations [.created (.videoDecoder act.created)] = [.videoDecoder act.created] := rfl
    have unended : endings [.created (.videoDecoder act.created)] = [] := rfl
    refine ⟨?_, ?_, ?_, ?_, Nat.le_succ _, ?_⟩
    · refine ⟨tidy.local_mode, tidy.cloud_mode, ?_, tidy.idle, tidy.apart, tidy.quiet, tidy.muted, tidy.gone⟩
      intro empty
      exact absurd empty client
    · intro resource
      simp [Activity.fields, made, unended, List.count_append, List.count_cons]
      omega
    · intro resource member
      have here : resource = .videoDecoder act.created := by simpa [made] using member
      rw [here]
      exact ⟨Nat.le_refl _, Nat.lt_succ_self _⟩
    · simp [made]
    · simp [Note.allowed]

theorem resume_orderly (act : Activity) (playing valid : Bool) (tidy : Tidy act) :
    Orderly act (resumeVideo act playing valid) := by
  unfold resumeVideo
  split
  case isTrue plays =>
    apply restart_orderly act valid tidy
    simp only [Bool.and_eq_true, Option.isSome_iff_ne_none] at plays
    exact plays.1
  case isFalse => exact orderly_same act act tidy rfl rfl rfl

end Intercom.Android.Main
