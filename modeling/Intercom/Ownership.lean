import Intercom.Steps

set_option autoImplicit false

/- The 'opened' flags against the devices. RTSP clients, the server and the call session each keep a flag of
   their own for the one camera, microphone and speaker. -/
namespace Intercom

open ByteText

structure DevicesOwned (d : Device) : Prop where
  camera : d.cameraOpened = true → d.cam.opened = true
  mic : d.micOpened = true → d.ain.opened = true
  speaker : ∀ cli ∈ d.clients, cli.audioOutOpened = true → d.aout.opened = true

-- Two devices that agree on everything ownership looks at.
structure SameDevices (before after : Device) : Prop where
  cameraOpened : after.cameraOpened = before.cameraOpened
  cam : after.cam.opened = before.cam.opened
  micOpened : after.micOpened = before.micOpened
  ain : after.ain.opened = before.ain.opened
  aout : after.aout.opened = before.aout.opened
  clients : ∀ cli ∈ after.clients, ∃ old ∈ before.clients, cli.audioOutOpened = old.audioOutOpened

theorem owned_same (before after : Device) (same : SameDevices before after) (owned : DevicesOwned before) :
    DevicesOwned after where
  camera := by
    rw [same.cameraOpened, same.cam]
    exact owned.camera
  mic := by
    rw [same.micOpened, same.ain]
    exact owned.mic
  speaker := by
    intro cli member opened
    obtain ⟨old, present, flag⟩ := same.clients cli member
    rw [same.aout]
    exact owned.speaker old present (flag ▸ opened)

theorem kept_speakers (before after : Device) (kept : after.clients = before.clients) :
    ∀ cli ∈ after.clients, ∃ old ∈ before.clients, cli.audioOutOpened = old.audioOutOpened :=
  fun cli member => ⟨cli, kept ▸ member, rfl⟩

theorem get_frame_same (w : World) (d : Device) : SameDevices d (getFrame w d).1 :=
  ⟨rfl, camera_get_frame_opened _ _, rfl, rfl, rfl, kept_speakers d _ rfl⟩

theorem read_mic_same (w : World) (d : Device) (count : Nat) : SameDevices d (readMic w d count).1 :=
  ⟨rfl, rfl, rfl, by simp [readMic], rfl, kept_speakers d _ rfl⟩

theorem same_devices_refl (d : Device) : SameDevices d d := ⟨rfl, rfl, rfl, rfl, rfl, kept_speakers d d rfl⟩

theorem same_devices_trans (a b c : Device) (first : SameDevices a b) (second : SameDevices b c) : SameDevices a c where
  cameraOpened := second.cameraOpened.trans first.cameraOpened
  cam := second.cam.trans first.cam
  micOpened := second.micOpened.trans first.micOpened
  ain := second.ain.trans first.ain
  aout := second.aout.trans first.aout
  clients := by
    intro cli member
    obtain ⟨middle, present, flag⟩ := second.clients cli member
    obtain ⟨old, earlier, again⟩ := first.clients middle present
    exact ⟨old, earlier, flag.trans again⟩

theorem next_block_same (w : World) (d : Device) : SameDevices d (nextBlock w d).1 := by
  cases live : d.micOpened with
  | true => simpa [nextBlock, live] using read_mic_same w d audioSamples
  | false => simpa [nextBlock, live] using same_devices_refl d

theorem discard_loop_same (w : World) (fuel : Nat) (d : Device) (skip : Nat) : SameDevices d (discardLoop w fuel d skip) := by
  induction fuel generalizing d skip with
  | zero => exact same_devices_refl d
  | succ fuel ih =>
      have first := read_mic_same w d (min skip audioSamples)
      rw [discardLoop]
      split
      · exact same_devices_refl d
      · dsimp only
        split
        · exact first
        · exact same_devices_trans _ _ _ first (ih _ _)

theorem drain_excess_same (w : World) (d : Device) : SameDevices d (drainExcess w d) := by
  have counted : SameDevices d (micAvailable w d).1 := ⟨rfl, rfl, rfl, by simp [micAvailable], rfl, kept_speakers d _ rfl⟩
  rw [drainExcess]
  split
  · dsimp only
    split
    · exact same_devices_trans _ _ _ counted (discard_loop_same w _ _ _)
    · exact counted
  · exact same_devices_refl d

theorem force_keyframe_same (d : Device) : SameDevices d (forceKeyframe d) := by
  rw [forceKeyframe]
  split
  · exact ⟨rfl, rfl, rfl, rfl, rfl, kept_speakers d _ rfl⟩
  · exact same_devices_refl d

theorem set_rbuf_same (d : Device) (conn : ConnId) (rest : Bytes) : SameDevices d (d.setRbuf conn rest) := by
  refine ⟨rfl, rfl, rfl, rfl, rfl, ?_⟩
  intro cli member
  obtain ⟨old, present, same⟩ := List.mem_map.mp member
  refine ⟨old, present, ?_⟩
  rw [← same]
  split <;> rfl

theorem set_rbuf_back (d : Device) (conn : ConnId) (rest : Bytes) : SameDevices (d.setRbuf conn rest) d := by
  refine ⟨rfl, rfl, rfl, rfl, rfl, ?_⟩
  intro cli member
  refine ⟨_, List.mem_map.mpr ⟨cli, member, rfl⟩, ?_⟩
  split <;> rfl

theorem send_to_all_same (send : RtspClient → RtspClient × List Out) (d : Device)
    (kept : ∀ cli, (send cli).1.identity = cli.identity) : SameDevices d (sendToAll send d).1 := by
  refine ⟨rfl, rfl, rfl, rfl, rfl, ?_⟩
  intro cli member
  obtain ⟨old, present, same⟩ := List.mem_map.mp member
  have fields := identity_fields _ _ (kept old)
  rw [same] at fields
  exact ⟨old, present, fields.2.2.2.2.2.2.2.2⟩

theorem audio_timer_same (w : World) (d : Device) : SameDevices d (audioSendTimer w d).1 := by
  have armed : SameDevices d { d with tmrAudio := true } := ⟨rfl, rfl, rfl, rfl, rfl, kept_speakers d _ rfl⟩
  rw [audioSendTimer]
  split
  · exact same_devices_trans _ _ _ armed (same_devices_trans _ _ _ (drain_excess_same w _) (same_devices_trans _ _ _ (next_block_same w _)
      (send_to_all_same _ _ (send_audio_to_identity _))))
  · exact armed

theorem video_timer_same (w : World) (d : Device) : SameDevices d (videoSendTimer w d).1 := by
  have armed : SameDevices d { d with tmrVideo := true } := ⟨rfl, rfl, rfl, rfl, rfl, kept_speakers d _ rfl⟩
  have pulled := same_devices_trans _ _ _ armed (same_devices_trans _ _ _ (force_keyframe_same _) (get_frame_same w _))
  rw [videoSendTimer]
  dsimp only
  split
  · split
    · exact pulled
    · rename_i nalus _
      have sent := same_devices_trans _ _ _ pulled (send_to_all_same _ _ (send_frame_to_identity nalus))
      exact ⟨sent.cameraOpened, sent.cam, sent.micOpened, sent.ain, sent.aout, sent.clients⟩
  · exact armed

theorem session_timer_same (w : World) (d : Device) : SameDevices d (sessionVideoTimer w d).1 := by
  have pulled := get_frame_same w d
  rw [sessionVideoTimer]
  split
  · exact same_devices_refl d
  · split
    · dsimp only
      split
      · exact pulled
      · exact ⟨pulled.cameraOpened, pulled.cam, pulled.micOpened, pulled.ain, pulled.aout, pulled.clients⟩
    · exact same_devices_refl d

theorem open_mic_owned (w : World) (d : Device) (owned : DevicesOwned d) : DevicesOwned (openMic w d) := by
  have result := audio_in_open_opened (w.micReady d.calls) d.ain
  rw [openMic]
  split
  · exact owned
  · refine ⟨owned.camera, ?_, owned.speaker⟩
    dsimp only
    rw [result.1, result.2]
    exact id

theorem camera_opened_or_failed (ready : Bool) (cam : Camera) :
    (cameraOpen ready cam).2 = .failed ∧ cam.opened = false ∧ (cameraOpen ready cam).1.opened = false ∨
      (cameraOpen ready cam).2 ≠ .failed ∧ (cameraOpen ready cam).1.opened = true := by
  cases live : cam.opened with
  | true => simp [cameraOpen, live]
  | false => cases ready <;> simp [cameraOpen, live]

theorem ensure_media_started_owned (w : World) (d : Device) (owned : DevicesOwned d) : DevicesOwned (ensureMediaStarted w d) := by
  have started : ∀ d, DevicesOwned d → DevicesOwned (startTimers (openMic w d)) := by
    intro d owned
    have after := open_mic_owned w d owned
    exact ⟨after.camera, after.mic, after.speaker⟩
  rw [ensureMediaStarted]
  by_cases flagged : d.cameraOpened = true
  · rw [if_pos flagged]
    exact started d owned
  · rw [if_neg flagged]
    rcases camera_opened_or_failed (w.encoderReady d.calls) d.cam with ⟨failed, _⟩ | ⟨works, opened⟩
    · rw [if_pos (show (openCamera w d).2 = .failed from failed)]
      exact ⟨fun flag => absurd flag flagged, owned.mic, owned.speaker⟩
    · rw [if_neg (show (openCamera w d).2 ≠ .failed from works)]
      exact started _ ⟨fun _ => opened, owned.mic, owned.speaker⟩

theorem fetch_params_owned (w : World) (d : Device) (owned : DevicesOwned d) : DevicesOwned (fetchParams w d).1 := by
  rw [fetchParams]
  split
  · exact owned
  · dsimp only
    rcases camera_opened_or_failed (w.encoderReady d.calls) d.cam with ⟨failed, closed, _⟩ | ⟨works, opened⟩
    · have result : (openCamera w d).2 = .failed := failed
      have unflagged : d.cameraOpened = false := by
        cases flag : d.cameraOpened with
        | false => rfl
        | true => rw [owned.camera flag] at closed; exact closed
      rw [if_pos result, result]
      refine ⟨fun flag => ?_, owned.mic, owned.speaker⟩
      simp [openCamera, unflagged] at flag
    · rw [if_neg (show (openCamera w d).2 ≠ .failed from works)]
      refine ⟨fun _ => ?_, owned.mic, owned.speaker⟩
      exact (camera_get_frame_opened _ _).trans opened

theorem ensure_media_started_aout (w : World) (d : Device) : (ensureMediaStarted w d).aout = d.aout := by
  have mic : ∀ d, (openMic w d).aout = d.aout := by
    intro d
    rw [openMic]
    split <;> rfl
  rw [ensureMediaStarted]
  split
  · exact mic d
  · dsimp only
    split
    · rfl
    · exact mic _

theorem put_owned (d : Device) (cli : RtspClient) (owned : DevicesOwned d)
    (speaker : cli.audioOutOpened = true → d.aout.opened = true) : DevicesOwned (d.put cli) := by
  refine ⟨owned.camera, owned.mic, ?_⟩
  intro other member opened
  rcases mem_put d cli other member with rfl | ⟨old, _⟩
  · exact speaker opened
  · exact owned.speaker other old opened

theorem open_backchannel_owned (w : World) (d : Device) (cli : RtspClient) (owned : DevicesOwned d)
    (speaker : cli.audioOutOpened = true → d.aout.opened = true) :
    DevicesOwned (openBackchannel w d cli).1 ∧
      ((openBackchannel w d cli).2.audioOutOpened = true → (openBackchannel w d cli).1.aout.opened = true) := by
  have result := audio_out_open_opened (w.speakerReady d.calls) d.aout
  rw [openBackchannel]
  split
  · constructor
    · refine ⟨owned.camera, owned.mic, ?_⟩
      intro other member opened
      change (audioOutOpen (w.speakerReady d.calls) d.aout).1.opened = true
      rw [result.1, owned.speaker other member opened, Bool.true_or]
    · change (audioOutOpen (w.speakerReady d.calls) d.aout).2 = true → (audioOutOpen (w.speakerReady d.calls) d.aout).1.opened = true
      rw [result.1, result.2]
      exact id
  · exact ⟨owned, speaker⟩

theorem immediate_video_same (w : World) (d : Device) (cli : RtspClient) : SameDevices d (immediateVideo w d cli).1 := by
  have pulled := get_frame_same w d
  rw [immediateVideo]
  split
  · exact pulled
  · exact ⟨pulled.cameraOpened, pulled.cam, pulled.micOpened, pulled.ain, pulled.aout, pulled.clients⟩

theorem immediate_audio_same (w : World) (d : Device) (cli : RtspClient) : SameDevices d (immediateAudio w d cli).1 := by
  rw [immediateAudio]
  split
  · exact next_block_same w d
  · exact same_devices_refl d

theorem play_owned (w : World) (d : Device) (cli : RtspClient) (req : RtspReq) (owned : DevicesOwned d)
    (member : cli.audioOutOpened = true → d.aout.opened = true) :
    DevicesOwned ((handlePlay w d cli req).1.put (handlePlay w d cli req).2.1) := by
  by_cases idle : cli.state = .idle
  · simpa [handlePlay, idle] using put_owned d cli owned member
  · have started := ensure_media_started_owned w d owned
    have keyed : DevicesOwned { ensureMediaStarted w d with cam := cameraRequestKeyframe (ensureMediaStarted w d).cam } :=
      ⟨started.camera, started.mic, started.speaker⟩
    have unopened : (ensureMediaStarted w d).aout = d.aout := ensure_media_started_aout w d
    rw [handlePlay, if_neg idle]
    dsimp only
    generalize hdev : ({ ensureMediaStarted w d with cam := cameraRequestKeyframe (ensureMediaStarted w d).cam } : Device) = base at keyed
    have speaker : ({ cli with state := .playing } : RtspClient).audioOutOpened = true → base.aout.opened = true := by
      rw [← hdev]
      exact fun opened => unopened ▸ member opened
    obtain ⟨talking, open_⟩ := open_backchannel_owned w base { cli with state := .playing } keyed speaker
    generalize openBackchannel w base { cli with state := .playing } = talk at talking open_
    have video := immediate_video_same w talk.1 talk.2
    have audio := immediate_audio_same w (immediateVideo w talk.1 talk.2).1 (immediateVideo w talk.1 talk.2).2.1
    have both := same_devices_trans _ _ _ video audio
    refine put_owned _ _ (owned_same _ _ both talking) ?_
    have record : (immediateAudio w (immediateVideo w talk.1 talk.2).1 (immediateVideo w talk.1 talk.2).2.1).2.1.audioOutOpened =
        talk.2.audioOutOpened :=
      (identity_fields _ _ ((immediate_audio_identity w _ _).trans (immediate_video_identity w _ _))).2.2.2.2.2.2.2.2
    rw [record, both.aout]
    exact open_

-- Somebody else still talks through the speaker that goes down with this record.
def speakerShared (d : Device) (cli : RtspClient) : Bool :=
  cli.audioOutOpened && d.clients.any fun other => other.tc != cli.tc && other.audioOutOpened

def speakerUsed (d : Device) : Bool := d.clients.any RtspClient.audioOutOpened

def devicesIdle (d : Device) : Bool := !d.cameraOpened && !speakerUsed d

-- session_alloc gets through: the camera is free once the old session is gone, the encoder starts, a port is found.
def sessionStarts (w : World) (d : Device) : Bool :=
  (d.sess.isSome || !d.cam.opened) && w.encoderReady (d.calls + 2) && (w.udpListen (d.calls + 4)).isSome

def callSafe (w : World) (d : Device) (body behind : Bytes) : Bool :=
  if (w.saDecode (peerText body behind)).isNone then d.sess.isNone || devicesIdle d
  else if sessionStarts w d then d.sess.isNone || w.speakerReady (d.calls + 3) || !speakerUsed d
  else devicesIdle d

def Unshared (w : World) (d : Device) : Action → Prop
  | .receive conn chunk => ∀ cli, d.client? conn = some cli → rbufLimit < (cli.rbuf ++ chunk).length → speakerShared d cli = false
  | .process conn => ∀ cli req, d.client? conn = some cli → asked w d conn = some req → req.method = ascii "TEARDOWN" →
      speakerShared d cli = false
  | .close conn => ∀ cli, d.client? conn = some cli → speakerShared d cli = false
  | .timeout conn => ∀ cli, d.client? conn = some cli → speakerShared d cli = false
  | .callCreate body behind => callSafe w d body behind = true
  | .callDelete => d.sess = none ∨ devicesIdle d = true
  | _ => True

theorem speaker_shared_iff (d : Device) (cli : RtspClient) :
    speakerShared d cli = true ↔
      cli.audioOutOpened = true ∧ ∃ other ∈ d.clients, other.tc ≠ cli.tc ∧ other.audioOutOpened = true := by
  simp [speakerShared]

theorem free_owned_iff (d : Device) (cli : RtspClient) (owned : DevicesOwned d) :
    DevicesOwned (d.free cli) ↔ speakerShared d cli = false := by
  constructor
  · intro after
    rw [Bool.eq_false_iff, ne_eq, speaker_shared_iff]
    rintro ⟨opened, other, member, different, uses⟩
    have still := after.speaker other (by simp [Device.free, member, different]) uses
    simp [Device.free, opened] at still
  · intro alone
    refine ⟨owned.camera, owned.mic, ?_⟩
    intro other member uses
    obtain ⟨present, different⟩ := mem_free d cli other member
    cases opened : cli.audioOutOpened with
    | false => simpa [Device.free, opened] using owned.speaker other present uses
    | true =>
        have shared := (speaker_shared_iff d cli).mpr ⟨opened, other, present, different, uses⟩
        rw [alone] at shared
        exact absurd shared Bool.false_ne_true

theorem free_put_clients (d : Device) (idle cli : RtspClient) (named : idle.tc = cli.tc) :
    ((d.put idle).free cli).clients = (d.free cli).clients := by
  simp only [Device.free, Device.put]
  induction d.clients with
  | nil => rfl
  | cons record rest ih =>
      by_cases hit : record.tc = idle.tc
      · simpa [hit, named] using ih
      · have other : record.tc ≠ cli.tc := named ▸ hit
        simpa [hit, other] using ih

theorem free_idle_devices (d : Device) (idle cli : RtspClient) (named : idle.tc = cli.tc) :
    SameDevices (d.free cli) ((maybeStopMedia (d.put idle)).free cli) ∧
      SameDevices ((maybeStopMedia (d.put idle)).free cli) (d.free cli) := by
  have clients : ((maybeStopMedia (d.put idle)).free cli).clients = (d.free cli).clients := by
    rw [← free_put_clients d idle cli named]
    simp only [Device.free, maybe_stop_media_clients]
  have fields : (maybeStopMedia (d.put idle)).cameraOpened = d.cameraOpened ∧ (maybeStopMedia (d.put idle)).cam = d.cam ∧
      (maybeStopMedia (d.put idle)).micOpened = d.micOpened ∧ (maybeStopMedia (d.put idle)).ain = d.ain ∧
      (maybeStopMedia (d.put idle)).aout = d.aout := by
    rw [maybeStopMedia]
    split <;> exact ⟨rfl, rfl, rfl, rfl, rfl⟩
  obtain ⟨cameraOpened, cam, micOpened, ain, aout⟩ := fields
  constructor
  · refine ⟨cameraOpened, congrArg Camera.opened cam, micOpened, congrArg AudioIn.opened ain, ?_, kept_speakers _ _ clients⟩
    simp only [Device.free, aout]
  · refine ⟨cameraOpened.symm, congrArg Camera.opened cam.symm, micOpened.symm, congrArg AudioIn.opened ain.symm, ?_,
      kept_speakers _ _ clients.symm⟩
    simp only [Device.free, aout]

theorem free_idle_owned_iff (d : Device) (idle cli : RtspClient) (named : idle.tc = cli.tc) (owned : DevicesOwned d) :
    DevicesOwned ((maybeStopMedia (d.put idle)).free cli) ↔ speakerShared d cli = false := by
  obtain ⟨there, back⟩ := free_idle_devices d idle cli named
  rw [← free_owned_iff d cli owned]
  exact ⟨owned_same _ _ back, owned_same _ _ there⟩

theorem drop_owned_iff (d : Device) (conn : ConnId) (owned : DevicesOwned d) :
    DevicesOwned (dropClient d conn) ↔ ∀ cli, d.client? conn = some cli → speakerShared d cli = false := by
  cases live : d.client? conn with
  | none => simpa [dropClient, live] using owned
  | some cli =>
      by_cases playing : cli.state = .playing
      · simpa [dropClient, live, playing] using free_idle_owned_iff d { cli with state := .idle } cli rfl owned
      · simpa [dropClient, live, playing] using free_owned_iff d cli owned

theorem append_chunk_owned_iff (d : Device) (conn : ConnId) (chunk : Bytes) (owned : DevicesOwned d) :
    DevicesOwned (appendChunk d conn chunk) ↔
      ∀ cli, d.client? conn = some cli → rbufLimit < (cli.rbuf ++ chunk).length → speakerShared d cli = false := by
  cases live : d.client? conn with
  | none => simpa [appendChunk, live] using owned
  | some cli =>
      by_cases overflows : rbufLimit < (cli.rbuf ++ chunk).length
      · simpa [appendChunk, live, overflows, -List.length_append] using free_owned_iff d cli owned
      · have fits := owned_same d _ (set_rbuf_same d conn (cli.rbuf ++ chunk)) owned
        simpa [appendChunk, live, overflows, -List.length_append] using fits

theorem admitted_same (w : World) (d : Device) (req : RtspReq) :
    SameDevices d (admittedDevice w d req) ∧ (admittedDevice w d req).clients = d.clients := by
  obtain ⟨auth, calls, _, device⟩ := admitted_device w d req
  rw [device]
  exact ⟨⟨rfl, rfl, rfl, rfl, rfl, kept_speakers d _ rfl⟩, rfl⟩

-- Of everything a message can ask for, only a TEARDOWN gives a device up.
theorem served_owned_iff (w : World) (d : Device) (cli : RtspClient) (request : Option RtspReq) (result : Device × List Out)
    (served : Served w d cli request result) (member : cli ∈ d.clients) (owned : DevicesOwned d) :
    DevicesOwned result.1 ↔ ∀ req, request = some req → req.method = ascii "TEARDOWN" → speakerShared d cli = false := by
  have always : ∀ after : Device, DevicesOwned after → (request = none ∨ ∃ req, request = some req ∧ req.method ≠ ascii "TEARDOWN") →
      (DevicesOwned after ↔ ∀ req, request = some req → req.method = ascii "TEARDOWN" → speakerShared d cli = false) := by
    intro after fine kind
    refine ⟨fun _ req same teardown => ?_, fun _ => fine⟩
    rcases kind with missing | ⟨other, known, different⟩
    · rw [missing] at same
      cases same
    · rw [known] at same
      cases same
      exact absurd teardown different
  cases served with
  | frame _ _ => exact always d owned (Or.inl rfl)
  | denied _ _ => exact always d owned (Or.inl rfl)
  | answered _ req _ _ _ _ _ _ _ _ _ other =>
      refine always _ ⟨owned.camera, owned.mic, owned.speaker⟩ (Or.inr ⟨req, rfl, ?_⟩)
      intro teardown
      exact other (by rw [teardown]; decide)
  | described _ req method =>
      have start := owned_same d _ (admitted_same w d req).1 owned
      refine always _ (fetch_params_owned w _ start) (Or.inr ⟨req, rfl, ?_⟩)
      rw [method]
      decide
  | setUp _ req method =>
      have same := (admitted_same w d req).1
      have start := owned_same d _ same owned
      obtain ⟨calls, device⟩ := handle_setup_calls w (admittedDevice w d req) cli req
      have fields := setup_outcome_fields cli _ req _ (handle_setup_outcome w (admittedDevice w d req) cli req)
      refine always _ ?_ (Or.inr ⟨req, rfl, by rw [method]; decide⟩)
      rw [device]
      refine put_owned _ _ ⟨start.camera, start.mic, start.speaker⟩ ?_
      rw [fields.2.2.2]
      exact fun opened => same.aout.trans (owned.speaker cli member opened)
  | played _ req method =>
      have same := (admitted_same w d req).1
      have start := owned_same d _ same owned
      have speaker : cli.audioOutOpened = true → (admittedDevice w d req).aout.opened = true :=
        fun opened => same.aout.trans (owned.speaker cli member opened)
      exact always _ (play_owned w (admittedDevice w d req) cli req start speaker) (Or.inr ⟨req, rfl, by rw [method]; decide⟩)
  | tornDown _ req method =>
      obtain ⟨same, clients⟩ := admitted_same w d req
      have start := owned_same d _ same owned
      have shared : speakerShared (admittedDevice w d req) { cli with state := .idle } = speakerShared d cli := by
        simp only [speakerShared, clients]
      have torn := free_idle_owned_iff (admittedDevice w d req) { cli with state := .idle } { cli with state := .idle } rfl start
      rw [shared] at torn
      refine torn.trans ⟨fun alone other known _ => alone, fun alone => alone req rfl method⟩

theorem process_owned_iff (w : World) (d : Device) (conn : ConnId) (owned : DevicesOwned d) :
    DevicesOwned (processMessage w d conn).1 ↔ ∀ cli req, d.client? conn = some cli → asked w d conn = some req →
      req.method = ascii "TEARDOWN" → speakerShared d cli = false := by
  rcases process_cases w d conn with ⟨idle, nothing⟩ | ⟨cli, result, rest, found, named, served, same⟩
  · rw [idle, nothing]
    exact ⟨fun _ _ _ _ none => absurd none (by simp), fun _ => owned⟩
  · have held := owned_same d _ (set_rbuf_same d conn []) owned
    have present : { cli with rbuf := [] } ∈ (d.setRbuf conn []).clients := by
      refine List.mem_map.mpr ⟨cli, (find_client d conn cli found).1, ?_⟩
      rw [if_pos named]
    have decided := served_owned_iff w _ _ _ result served present held
    have shared : speakerShared (d.setRbuf conn []) { cli with rbuf := [] } = speakerShared d cli := by
      rw [Bool.eq_iff_iff, speaker_shared_iff, speaker_shared_iff]
      refine and_congr_right fun _ => ⟨?_, ?_⟩
      · rintro ⟨other, member, different, uses⟩
        obtain ⟨old, earlier, record⟩ := List.mem_map.mp member
        refine ⟨old, earlier, ?_, ?_⟩
        · rw [← record] at different
          split at different <;> exact different
        · rw [← record] at uses
          split at uses <;> exact uses
      · rintro ⟨other, member, different, uses⟩
        refine ⟨_, List.mem_map.mpr ⟨other, member, rfl⟩, ?_, ?_⟩
        · split <;> exact different
        · split <;> exact uses
    rw [shared] at decided
    rw [same]
    constructor
    · intro after other req known request teardown
      rw [found] at known
      cases known
      have before := owned_same _ _ (set_rbuf_back result.1 conn rest) after
      exact decided.mp before req request teardown
    · intro alone
      exact owned_same _ _ (set_rbuf_same _ conn rest) (decided.mpr fun req request teardown => alone cli req found request teardown)

theorem speaker_used_iff (d : Device) : speakerUsed d = true ↔ ∃ cli ∈ d.clients, cli.audioOutOpened = true := by
  simp [speakerUsed]

theorem closed_owned_iff (d : Device) (mic : d.micOpened = true → d.ain.opened = true) (camera : d.cam.opened = false)
    (speaker : d.aout.opened = false) : DevicesOwned d ↔ devicesIdle d = true := by
  constructor
  · intro owned
    have unflagged : d.cameraOpened = false := by
      rw [Bool.eq_false_iff]
      intro flag
      rw [owned.camera flag] at camera
      cases camera
    have unused : speakerUsed d = false := by
      rw [Bool.eq_false_iff, ne_eq, speaker_used_iff]
      rintro ⟨cli, member, uses⟩
      rw [owned.speaker cli member uses] at speaker
      cases speaker
    simp [devicesIdle, unflagged, unused]
  · intro idle
    obtain ⟨unflagged, unused⟩ : d.cameraOpened = false ∧ speakerUsed d = false := by simpa [devicesIdle] using idle
    refine ⟨fun flag => absurd flag (by simp [unflagged]), mic, ?_⟩
    intro cli member uses
    have used := (speaker_used_iff d).mpr ⟨cli, member, uses⟩
    rw [unused] at used
    cases used

theorem destructor_owned_iff (d : Device) (mic : d.micOpened = true → d.ain.opened = true) :
    DevicesOwned (sessionDestructor d) ↔ devicesIdle d = true :=
  closed_owned_iff (sessionDestructor d) mic (camera_close_opened d.cam) rfl

theorem end_session_owned_iff (d : Device) (owned : DevicesOwned d) :
    DevicesOwned (endSession d) ↔ d.sess = none ∨ devicesIdle d = true := by
  cases live : d.sess with
  | none => simpa [endSession, live] using owned
  | some sess =>
      have closed : DevicesOwned (sessionDestructor { d with sess := none }) ↔ devicesIdle d = true :=
        destructor_owned_iff { d with sess := none } owned.mic
      simpa [endSession, live] using closed

theorem session_alloc_owned_iff (w : World) (d : Device) (peer : Sa) (mic : d.micOpened = true → d.ain.opened = true) :
    DevicesOwned (sessionAlloc w d peer).1 ↔
      if !d.cam.opened && w.encoderReady (d.calls + 2) && (w.udpListen (d.calls + 4)).isSome then
        d.aout.opened = true ∨ w.speakerReady (d.calls + 3) = true ∨ speakerUsed d = false
      else devicesIdle d = true := by
  have result := camera_open_result (w.encoderReady (d.calls + 2)) d.cam
  have speaker := (audio_out_open_opened (w.speakerReady (d.calls + 3)) d.aout).1
  by_cases starts : d.cam.opened = false ∧ w.encoderReady (d.calls + 2) = true
  · obtain ⟨closed, ready⟩ := starts
    have opened : (openCamera w { d with calls := d.calls + 2 }).2 = .opened := by
      simpa [openCamera, closed, ready] using result
    have working : (cameraOpen (w.encoderReady (d.calls + 2)) d.cam).1.opened = true := by
      rw [camera_open_opened, ready, Bool.or_true]
    rw [sessionAlloc]
    dsimp only
    rw [if_pos opened]
    cases port : w.udpListen (d.calls + 4) with
    | none =>
        simp only [openSpeaker, openCamera, port, closed, ready, Option.isSome_none, Bool.and_false, Bool.false_eq_true, if_false]
        exact destructor_owned_iff _ mic
    | some port' =>
        simp only [openSpeaker, openCamera, port, closed, ready, Option.isSome_some, Bool.not_false, Bool.and_true, if_true]
        constructor
        · intro after
          by_cases used : speakerUsed d = true
          · obtain ⟨cli, member, uses⟩ := (speaker_used_iff d).mp used
            have still : (audioOutOpen (w.speakerReady (d.calls + 3)) d.aout).1.opened = true := after.speaker cli member uses
            rw [speaker, Bool.or_eq_true] at still
            rcases still with old | fresh
            · exact Or.inl old
            · exact Or.inr (Or.inl fresh)
          · exact Or.inr (Or.inr (by simpa using used))
        · intro fine
          refine ⟨fun _ => ready ▸ working, mic, ?_⟩
          intro cli member uses
          change (audioOutOpen (w.speakerReady (d.calls + 3)) d.aout).1.opened = true
          rw [speaker, Bool.or_eq_true]
          rcases fine with old | fresh | unused
          · exact Or.inl old
          · exact Or.inr fresh
          · have used := (speaker_used_iff d).mpr ⟨cli, member, uses⟩
            rw [unused] at used
            cases used
  · have failed : (openCamera w { d with calls := d.calls + 2 }).2 ≠ .opened := by
      change (cameraOpen (w.encoderReady (d.calls + 2)) d.cam).2 ≠ .opened
      rw [result]
      cases live : d.cam.opened with
      | true => simp
      | false =>
          have broken : w.encoderReady (d.calls + 2) = false := by simpa [live] using starts
          simp [broken]
    have refused : (!d.cam.opened && w.encoderReady (d.calls + 2) && (w.udpListen (d.calls + 4)).isSome) = false := by
      rw [Bool.eq_false_iff]
      intro all
      simp only [Bool.and_eq_true, Bool.not_eq_true'] at all
      exact starts all.1
    rw [sessionAlloc]
    dsimp only
    rw [if_neg failed, refused]
    exact destructor_owned_iff (openCamera w { d with calls := d.calls + 2 }).1 mic

theorem call_create_owned_iff (w : World) (d : Device) (body behind : Bytes) (owned : DevicesOwned d) :
    DevicesOwned (handleCallCreate w d body behind).1 ↔ callSafe w d body behind = true := by
  cases decoded : w.saDecode (peerText body behind) with
  | none => simpa [handleCallCreate, callSafe, decoded] using end_session_owned_iff d owned
  | some peer =>
      have gone : DevicesOwned (handleCallCreate w d body behind).1 ↔ DevicesOwned (sessionAlloc w (endSession d) peer).1 := by
        simp [handleCallCreate, decoded]
      rw [gone]
      cases live : d.sess with
      | none =>
          have unused : d.aout.opened = true ∨ speakerUsed d = false := by
            by_cases used : speakerUsed d = true
            · obtain ⟨cli, member, uses⟩ := (speaker_used_iff d).mp used
              exact Or.inl (owned.speaker cli member uses)
            · exact Or.inr (by simpa using used)
          have same : endSession d = d := by simp [endSession, live]
          rw [same, session_alloc_owned_iff w d peer owned.mic]
          simp only [callSafe, decoded, sessionStarts, live, Option.isNone_some, Option.isSome_none, Option.isNone_none,
            Bool.false_or, Bool.true_or, Bool.false_eq_true, if_false]
          split
          · rcases unused with old | unused
            · simp [old]
            · simp [unused]
          · rfl
      | some sess =>
          have closed : (endSession d).cam.opened = false ∧ (endSession d).aout.opened = false := by
            simp [endSession, live, sessionDestructor]
          have rest : (endSession d).calls = d.calls ∧ speakerUsed (endSession d) = speakerUsed d ∧
              devicesIdle (endSession d) = devicesIdle d := by
            simp [endSession, live, sessionDestructor, speakerUsed, devicesIdle]
          have mic : (endSession d).micOpened = true → (endSession d).ain.opened = true := by
            simpa [endSession, live, sessionDestructor] using owned.mic
          rw [session_alloc_owned_iff w (endSession d) peer mic, closed.1, closed.2, rest.1, rest.2.1, rest.2.2]
          simp only [callSafe, decoded, sessionStarts, live, Option.isNone_some, Option.isSome_some, Bool.not_false,
            Bool.true_and, Bool.true_or, Bool.false_eq_true, if_false, false_or, Bool.false_or]
          split
          · simp
          · rfl

theorem step_owned_iff (w : World) (d : Device) (action : Action) (owned : DevicesOwned d) :
    DevicesOwned (step w d action).1 ↔ Unshared w d action := by
  have accepted : ∀ peer, DevicesOwned (accept d peer) := by
    intro peer
    refine ⟨owned.camera, owned.mic, ?_⟩
    intro cli member uses
    rcases List.mem_append.mp member with old | fresh
    · exact owned.speaker cli old uses
    · rw [List.mem_singleton.mp fresh] at uses
      cases uses
  cases action with
  | connect peer => exact iff_of_true (accepted peer) trivial
  | relayConnect peer => exact iff_of_true (accepted peer) trivial
  | receive conn chunk => exact append_chunk_owned_iff d conn chunk owned
  | process conn => exact process_owned_iff w d conn owned
  | close conn => exact drop_owned_iff d conn owned
  | timeout conn => exact drop_owned_iff d conn owned
  | audioTimer =>
      refine iff_of_true ?_ trivial
      cases armed : d.tmrAudio with
      | true => simpa [step, armed] using owned_same d _ (audio_timer_same w d) owned
      | false => simpa [step, armed] using owned
  | videoTimer =>
      refine iff_of_true ?_ trivial
      cases armed : d.tmrVideo with
      | true => simpa [step, armed] using owned_same d _ (video_timer_same w d) owned
      | false => simpa [step, armed] using owned
  | callCreate body behind => exact call_create_owned_iff w d body behind owned
  | callDelete => exact end_session_owned_iff d owned
  | sessionVideoTimer => exact iff_of_true (owned_same d _ (session_timer_same w d) owned) trivial

theorem devices_owned_iff_unshared (w : World) (localIp username password : Bytes) (actions : List Action) :
    Runs.EachState (deviceStep w) DevicesOwned (initial w localIp username password) actions ↔
      Runs.EachStep (deviceStep w) (Unshared w) (initial w localIp username password) actions := by
  have start : DevicesOwned (initial w localIp username password) :=
    ⟨fun flag => absurd flag Bool.false_ne_true, fun flag => absurd flag Bool.false_ne_true,
      fun _ member => absurd member List.not_mem_nil⟩
  exact Runs.each_state_iff_steps (deviceStep w) DevicesOwned (fun _ => True) (Unshared w) _ actions (fun _ _ _ => trivial)
    (fun d action _ owned => step_owned_iff w d action owned) trivial start

def describeText : Bytes := ascii "DESCRIBE rtsp://h/live RTSP/1.0\r\nCSeq: 1\r\n\r\n"

-- DESCRIBE opens the camera for the server; the call that finds it open fails and closes it all the same.
theorem failed_call_closes_camera :
    ¬ Runs.EachState (deviceStep sampleWorld) DevicesOwned (initial sampleWorld [] [] [])
      [.connect ⟨1, 1⟩, .receive 0 describeText, .process 0, .callCreate [] []] := by
  intro every
  have last := Runs.each_state_last (deviceStep sampleWorld) DevicesOwned _ _ every
  exact absurd (last.camera (by decide)) (by decide)

-- What a request to /api/call can change: the call, and whether the camera and the speaker are open.
structure CallAsBefore (before after : Device) : Prop where
  session : after.sess = before.sess
  camera : after.cam.opened = before.cam.opened
  speaker : after.aout.opened = before.aout.opened

theorem destructor_closes (d : Device) :
    (sessionDestructor d).sess = d.sess ∧ (sessionDestructor d).cam.opened = false ∧ (sessionDestructor d).aout.opened = false := by
  refine ⟨rfl, ?_, rfl⟩
  simp only [sessionDestructor, cameraClose]
  cases live : d.cam.opened with
  | true => rfl
  | false => exact live

theorem session_alloc_failed (w : World) (d : Device) (peer : Sa) (failed : (sessionAlloc w d peer).2 = false) :
    (sessionAlloc w d peer).1.sess = d.sess ∧ (sessionAlloc w d peer).1.cam.opened = false ∧
      (sessionAlloc w d peer).1.aout.opened = false := by
  rw [sessionAlloc] at failed ⊢
  dsimp only at failed ⊢
  split
  · rename_i opened
    rw [if_pos opened] at failed
    split
    · exact destructor_closes _
    · rename_i port bound
      rw [bound] at failed
      cases failed
  · exact destructor_closes _

theorem end_session_result (d : Device) :
    (endSession d).sess = none ∧ (d.sess = none → endSession d = d) ∧
      (d.sess.isSome = true → (endSession d).cam.opened = false ∧ (endSession d).aout.opened = false) := by
  cases live : d.sess with
  | none => simp [endSession, live]
  | some sess =>
      have closed := destructor_closes { d with sess := none }
      simp only [endSession, live]
      exact ⟨closed.1, fun none => (by cases none), fun _ => closed.2⟩

theorem call_create_refused (w : World) (d : Device) (body behind : Bytes) (answer : (handleCallCreate w d body behind).2 = [.http 400]) :
    (handleCallCreate w d body behind).1 = endSession d := by
  rw [handleCallCreate] at answer ⊢
  dsimp only at answer ⊢
  cases peer : w.saDecode (peerText body behind) with
  | none => rfl
  | some address =>
      rw [peer] at answer
      dsimp only at answer
      split at answer <;> simp at answer

theorem call_create_failed (w : World) (d : Device) (body behind : Bytes) (answer : (handleCallCreate w d body behind).2 = [.http 500]) :
    (handleCallCreate w d body behind).1.sess = none ∧ (handleCallCreate w d body behind).1.cam.opened = false ∧
      (handleCallCreate w d body behind).1.aout.opened = false := by
  rw [handleCallCreate] at answer ⊢
  dsimp only at answer ⊢
  cases peer : w.saDecode (peerText body behind) with
  | none =>
      rw [peer] at answer
      simp at answer
  | some address =>
      rw [peer] at answer
      dsimp only at answer ⊢
      have failed : (sessionAlloc w (endSession d) address).2 = false := by
        by_contra started
        rw [Bool.not_eq_false] at started
        rw [if_pos started] at answer
        simp at answer
      have closed := session_alloc_failed w (endSession d) address failed
      exact ⟨closed.1.trans (end_session_result d).1, closed.2⟩

-- A request that fails has torn down the call that was there, as every POST does, and apart from that a refused peer
-- changes nothing. What a failed start does to devices that the RTSP side holds open is not said here.
theorem failed_call_only_ends_session (w : World) (d : Device) (body behind : Bytes) :
    ((handleCallCreate w d body behind).2 = [.http 400] →
      (handleCallCreate w d body behind).1 = endSession d ∧ (d.sess = none → (handleCallCreate w d body behind).1 = d)) ∧
    ((handleCallCreate w d body behind).2 = [.http 500] →
      (handleCallCreate w d body behind).1.sess = none ∧
      (d.sess.isSome = true → CallAsBefore (endSession d) (handleCallCreate w d body behind).1) ∧
      (d.sess = none → d.cam.opened = false → d.aout.opened = false → CallAsBefore d (handleCallCreate w d body behind).1)) := by
  obtain ⟨ended, idle, busy⟩ := end_session_result d
  refine ⟨?_, ?_⟩
  · intro answer
    have same := call_create_refused w d body behind answer
    exact ⟨same, fun none => same.trans (idle none)⟩
  · intro answer
    obtain ⟨session, camera, speaker⟩ := call_create_failed w d body behind answer
    refine ⟨session, ?_, ?_⟩
    · intro live
      exact ⟨session.trans ended.symm, camera.trans (busy live).1.symm, speaker.trans (busy live).2.symm⟩
    · intro none cameraOff speakerOff
      exact ⟨session.trans none.symm, camera.trans cameraOff.symm, speaker.trans speakerOff.symm⟩

-- sa_decode refuses the text of the second request, but the call of the first one is gone.
def strictWorld : World := { sampleWorld with saDecode := fun text => if text = ascii "127.0.0.1:5006" then some ⟨0x7F000001, 5006⟩ else none }

theorem refused_peer_ends_call :
    (step strictWorld (reached strictWorld (initial strictWorld [] [] []) [.callCreate [] []]).1
      (.callCreate (ascii "\x7b\"peer\":\"x\"\x7d") [])).2 = [.http 400] ∧
    ¬ CallAsBefore (reached strictWorld (initial strictWorld [] [] []) [.callCreate [] []]).1
      (step strictWorld (reached strictWorld (initial strictWorld [] [] []) [.callCreate [] []]).1
        (.callCreate (ascii "\x7b\"peer\":\"x\"\x7d") [])).1 := by
  refine ⟨by decide +kernel, ?_⟩
  intro same
  exact absurd same.session (by decide +kernel)

end Intercom
