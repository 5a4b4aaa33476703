import Intercom.System
import Intercom.Rtsp.Chunking

set_option autoImplicit false

/- What one step of the process can do, said once. A request is served on the record of the connection that
   sent it; everything else a step does is a timer, a close or a call. -/
namespace Intercom

open ByteText

-- The device and the mark with which dispatch_rtsp hands a request that it checks to its handler.
def admittedDevice (w : World) (d : Device) (req : RtspReq) : Device := if d.auth.enabled then (authCheck w d req).1 else d

def acceptMarks (d : Device) (cli : RtspClient) : List Out := if d.auth.enabled then [.accepted cli.tc] else []

theorem admitted_device (w : World) (d : Device) (req : RtspReq) :
    ∃ auth calls, auth.enabled = d.auth.enabled ∧ admittedDevice w d req = { d with auth := auth, calls := calls } := by
  cases enabled : d.auth.enabled with
  | true =>
      obtain ⟨auth, calls, same, device⟩ := auth_check_device w d req
      exact ⟨auth, calls, same.trans enabled, by simpa [admittedDevice, enabled] using device⟩
  | false => exact ⟨d.auth, d.calls, enabled, by simp [admittedDevice, enabled]⟩

theorem admitted_clients (w : World) (d : Device) (req : RtspReq) : (admittedDevice w d req).clients = d.clients := by
  obtain ⟨auth, calls, _, device⟩ := admitted_device w d req
  rw [device]

def Extra.isSetup : Extra → Bool
  | .setup _ _ => true
  | _ => false

def Extra.isFixed : Extra → Bool
  | .none => true
  | .methods => true
  | _ => false

theorem fixed_no_setup (extra : Extra) (fixed : extra.isFixed = true) : extra.isSetup = false := by
  cases extra with
  | setup _ _ => cases fixed
  | _ => rfl

def handledMethods : List Bytes := [ascii "DESCRIBE", ascii "SETUP", ascii "PLAY", ascii "TEARDOWN"]

-- What one message does; the index is the request, if it was one that dispatch_rtsp let through.
inductive Served (w : World) (d : Device) (cli : RtspClient) : Option RtspReq → Device × List Out → Prop where
  | frame (channel : UInt8) (data : Bytes) :
      Served w d cli none (d, .frame cli.tc channel data :: playBackchannel cli channel data)
  | denied (text : Bytes) (cseq : Int) :
      Served w d cli none (d, [.request cli.tc text, rtspReply cli cseq 401 "Unauthorized" (.challenge d.auth.nonce) []])
  | answered (text : Bytes) (req : RtspReq) (code : Nat) (reason : String) (extra : Extra) (marks : List Out)
      (auth : Auth) (calls : Nat) (same : auth.enabled = d.auth.enabled) (fixed : extra.isFixed = true)
      (marked : ∀ out ∈ marks, out = .accepted cli.tc) (other : req.method ∉ handledMethods) :
      Served w d cli (some req) ({ d with auth := auth, calls := calls },
        .request cli.tc text :: (marks ++ [rtspReply cli req.cseq code reason extra []]))
  | described (text : Bytes) (req : RtspReq) (method : req.method = ascii "DESCRIBE") :
      Served w d cli (some req) ((handleDescribe w (admittedDevice w d req) cli req).1,
        .request cli.tc text :: (acceptMarks d cli ++ (handleDescribe w (admittedDevice w d req) cli req).2))
  | setUp (text : Bytes) (req : RtspReq) (method : req.method = ascii "SETUP") :
      Served w d cli (some req)
        ((handleSetup w (admittedDevice w d req) cli req).1.put (handleSetup w (admittedDevice w d req) cli req).2.1,
        .request cli.tc text :: (acceptMarks d cli ++ (handleSetup w (admittedDevice w d req) cli req).2.2))
  | played (text : Bytes) (req : RtspReq) (method : req.method = ascii "PLAY") :
      Served w d cli (some req)
        ((handlePlay w (admittedDevice w d req) cli req).1.put (handlePlay w (admittedDevice w d req) cli req).2.1,
        .request cli.tc text :: (acceptMarks d cli ++ (handlePlay w (admittedDevice w d req) cli req).2.2))
  | tornDown (text : Bytes) (req : RtspReq) (method : req.method = ascii "TEARDOWN") :
      Served w d cli (some req) ((handleTeardown (admittedDevice w d req) cli req).1,
        .request cli.tc text :: (acceptMarks d cli ++ (handleTeardown (admittedDevice w d req) cli req).2))

def admits (w : World) (d : Device) (req : RtspReq) : Bool :=
  !(d.auth.enabled && needsAuth req.method) || (authCheck w d req).2

theorem admits_set_rbuf (w : World) (d : Device) (conn : ConnId) (rest : Bytes) : admits w (d.setRbuf conn rest) = admits w d := by
  funext req
  simp only [admits, authCheck, Device.setRbuf]
  by_cases passes : rtspAuthCheck w.md5 d.auth req.method req.uri (if req.authorization = [] then none else some req.authorization)
  · simp [passes]
  · simp [passes]

theorem mem_accept_marks (d : Device) (cli : RtspClient) (out : Out) (member : out ∈ acceptMarks d cli) : out = .accepted cli.tc := by
  rw [acceptMarks] at member
  split at member
  · exact List.mem_singleton.mp member
  · exact absurd member List.not_mem_nil

theorem method_unchecked (w : World) (d : Device) (cli : RtspClient) (req : RtspReq) (free : needsAuth req.method = false) :
    req.method ∉ handledMethods ∧
      ∃ extra, extra.isFixed = true ∧ handleMethod w d cli req = (d, [rtspReply cli req.cseq 200 "OK" extra []]) := by
  by_cases options : req.method = ascii "OPTIONS"
  · refine ⟨by rw [options]; decide, .methods, rfl, ?_⟩
    simp [handleMethod, options, handleOptions]
  · have keepalive : req.method = ascii "GET_PARAMETER" := by
      simpa [needsAuth, options] using free
    refine ⟨by rw [keepalive]; decide, .none, rfl, ?_⟩
    rw [handleMethod, keepalive]
    rfl

theorem method_served (w : World) (d : Device) (cli : RtspClient) (req : RtspReq) (text : Bytes) :
    Served w d cli (some req) ((handleMethod w (admittedDevice w d req) cli req).1,
      .request cli.tc text :: (acceptMarks d cli ++ (handleMethod w (admittedDevice w d req) cli req).2)) := by
  obtain ⟨auth, calls, same, shape⟩ := admitted_device w d req
  have marked := mem_accept_marks d cli
  rw [handleMethod]
  by_cases options : req.method = ascii "OPTIONS"
  · rw [if_pos options, shape]
    exact .answered text req 200 "OK" .methods _ auth calls same rfl marked (by rw [options]; decide)
  rw [if_neg options]
  by_cases describe : req.method = ascii "DESCRIBE"
  · rw [if_pos describe]
    exact .described text req describe
  rw [if_neg describe]
  by_cases setup : req.method = ascii "SETUP"
  · rw [if_pos setup]
    exact .setUp text req setup
  rw [if_neg setup]
  by_cases play : req.method = ascii "PLAY"
  · rw [if_pos play]
    exact .played text req play
  rw [if_neg play]
  by_cases teardown : req.method = ascii "TEARDOWN"
  · rw [if_pos teardown]
    exact .tornDown text req teardown
  rw [if_neg teardown]
  have other : req.method ∉ handledMethods := by simp [handledMethods, describe, setup, play, teardown]
  split
  · rw [shape]
    exact .answered text req 200 "OK" .none _ auth calls same rfl marked other
  · rw [shape]
    exact .answered text req 405 "Method Not Allowed" .none _ auth calls same rfl marked other

theorem dispatch_served (w : World) (d : Device) (cli : RtspClient) (buf : Bytes) (len : Nat) :
    Served w d cli ((some (parseRtspRequest buf len)).filter (admits w d)) (dispatchRtsp w d cli buf len) := by
  rw [dispatchRtsp]
  dsimp only
  generalize parseRtspRequest buf len = req
  by_cases enabled : d.auth.enabled
  · by_cases free : needsAuth req.method = false
    · obtain ⟨other, extra, fixed, handled⟩ := method_unchecked w d cli req free
      rw [if_neg (by simp [free]), handled, Option.filter_some, if_pos (by simp [admits, free])]
      exact .answered (buf.take len) req 200 "OK" extra [] d.auth d.calls rfl fixed (by simp) other
    · have needs : needsAuth req.method = true := by simpa using free
      rw [if_pos (by simp [enabled, needs]), Option.filter_some]
      by_cases passes : (authCheck w d req).2 = true
      · rw [if_pos passes, if_pos (by simp [admits, passes])]
        simpa [admittedDevice, acceptMarks, enabled] using method_served w d cli req (buf.take len)
      · rw [if_neg passes, if_neg (by simp [admits, passes, enabled, needs])]
        exact .denied (buf.take len) req.cseq
  · rw [if_neg (by simp [enabled]), Option.filter_some, if_pos (by simp [admits, enabled])]
    simpa [admittedDevice, acceptMarks, enabled] using method_served w d cli req (buf.take len)

-- The request at the front of the receive buffer, if a whole one is there.
def nextRequest (buf : Bytes) : Option RtspReq :=
  if buf.head? = some 36 then none
  else (strstr buf (crlf ++ crlf)).map fun eor => parseRtspRequest (cstr buf) (eor + 4)

-- The request that the next message of the connection asks for and is let through with.
def asked (w : World) (d : Device) (conn : ConnId) : Option RtspReq :=
  (d.client? conn).bind fun cli => (nextRequest cli.rbuf).filter (admits w d)

-- The three things the next message of a connection can be: none yet, a '$' frame, a request.
inductive Taken (w : World) (d : Device) (conn : ConnId) : Prop where
  | nothing (idle : processMessage w d conn = (d, [])) (none : ∀ cli, d.client? conn = some cli → nextRequest cli.rbuf = none)
  | frame (cli : RtspClient) (channel : UInt8) (data rest : Bytes) (live : d.client? conn = some cli)
      (none : nextRequest cli.rbuf = none)
      (result : processMessage w d conn = ((d.setRbuf conn []).setRbuf conn rest,
        .frame cli.tc channel data :: playBackchannel { cli with rbuf := [] } channel data))
  | request (cli : RtspClient) (eor : Nat) (live : d.client? conn = some cli)
      (parsed : nextRequest cli.rbuf = some (parseRtspRequest (cstr cli.rbuf) (eor + 4)))
      (result : processMessage w d conn =
        ((dispatchRtsp w (d.setRbuf conn []) { cli with rbuf := [] } (cstr cli.rbuf) (eor + 4)).1.setRbuf conn (cli.rbuf.drop (eor + 4)),
          (dispatchRtsp w (d.setRbuf conn []) { cli with rbuf := [] } (cstr cli.rbuf) (eor + 4)).2))

theorem process_taken (w : World) (d : Device) (conn : ConnId) : Taken w d conn := by
  cases live : d.client? conn with
  | none => exact .nothing (by simp [processMessage, live]) (fun cli found => by rw [live] at found; cases found)
  | some cli =>
      have held : (d.setRbuf conn []).client? conn = some { cli with rbuf := [] } := by rw [client_set_rbuf, live]; rfl
      have only : ∀ other, d.client? conn = some other → other = cli := by
        intro other found
        exact Option.some.inj (found.symm.trans live)
      by_cases empty : cli.rbuf = []
      · apply Taken.nothing
        · simp [processMessage, live, recvStep, held, empty]
        · intro other found
          rw [only other found]
          simp [empty, nextRequest, strstr, cstr, findSub, crlf]
      by_cases dollar : cli.rbuf.head? = some 36
      · have none : nextRequest cli.rbuf = none := by rw [nextRequest, if_pos dollar]
        cases frame : takeFrame cli.rbuf with
        | none =>
            apply Taken.nothing
            · simp [processMessage, live, recvStep, held, empty, dollar, frame]
            · intro other found
              rw [only other found]
              exact none
        | some taken =>
            obtain ⟨channel, data, rest⟩ := taken
            apply Taken.frame cli channel data rest live none
            simp [processMessage, live, recvStep, held, empty, dollar, frame, (find_client d conn cli live).2]
      · cases found : strstr cli.rbuf (crlf ++ crlf) with
        | none =>
            apply Taken.nothing
            · simp [processMessage, live, recvStep, held, empty, dollar, found]
            · intro other hit
              rw [only other hit, nextRequest, if_neg dollar, found]
              rfl
        | some eor =>
            apply Taken.request cli eor live
            · rw [nextRequest, if_neg dollar, found]
              rfl
            · simp [processMessage, live, recvStep, held, empty, dollar, found]

theorem process_cases (w : World) (d : Device) (conn : ConnId) :
    processMessage w d conn = (d, []) ∧ asked w d conn = none ∨
      ∃ cli result rest, d.client? conn = some cli ∧ cli.tc = conn ∧
        Served w (d.setRbuf conn []) { cli with rbuf := [] } (asked w d conn) result ∧
        processMessage w d conn = (result.1.setRbuf conn rest, result.2) := by
  cases process_taken w d conn with
  | nothing idle none =>
      refine Or.inl ⟨idle, ?_⟩
      cases live : d.client? conn with
      | none => simp [asked, live]
      | some cli => simp [asked, live, none cli live]
  | frame cli channel data rest live none result =>
      have unasked : asked w d conn = Option.none := by simp [asked, live, none]
      rw [unasked]
      exact Or.inr ⟨cli, (_, _), rest, live, (find_client d conn cli live).2, .frame channel data, result⟩
  | request cli eor live parsed result =>
      refine Or.inr ⟨cli, _, _, live, (find_client d conn cli live).2, ?_, result⟩
      have admitted : asked w d conn = (some (parseRtspRequest (cstr cli.rbuf) (eor + 4))).filter (admits w (d.setRbuf conn [])) := by
        rw [asked, live, Option.bind_some, parsed, admits_set_rbuf]
      rw [admitted]
      exact dispatch_served w (d.setRbuf conn []) { cli with rbuf := [] } (cstr cli.rbuf) (eor + 4)

theorem end_session_kept (d : Device) : Kept d (endSession d) := by
  unfold endSession
  cases d.sess with
  | none => exact kept_refl d
  | some _ => exact ⟨rfl, rfl, rfl, rfl⟩

theorem session_alloc_kept (w : World) (d : Device) (peer : Sa) : Kept d (sessionAlloc w d peer).1 := by
  unfold sessionAlloc
  dsimp only
  split
  · split
    · exact ⟨rfl, rfl, rfl, rfl⟩
    · exact ⟨rfl, rfl, rfl, rfl⟩
  · exact ⟨rfl, rfl, rfl, rfl⟩

theorem call_create_kept (w : World) (d : Device) (body behind : Bytes) : Kept d (handleCallCreate w d body behind).1 := by
  unfold handleCallCreate
  dsimp only
  split
  · exact end_session_kept d
  · exact kept_trans _ _ _ (end_session_kept d) (session_alloc_kept w _ _)

theorem session_timer_kept (w : World) (d : Device) : Kept d (sessionVideoTimer w d).1 := by
  unfold sessionVideoTimer
  split
  · exact kept_refl d
  · split
    · dsimp only
      split
      · exact ⟨rfl, rfl, rfl, rfl⟩
      · exact ⟨rfl, rfl, rfl, rfl⟩
    · exact kept_refl d

theorem mem_session_parts (sess : Session) (parts : List (Bool × Bytes)) (out : Out)
    (member : out ∈ (sendSessionParts sess parts).2) : ∃ dest packet, out = .callPacket dest packet := by
  induction parts generalizing sess with
  | nil => exact absurd member List.not_mem_nil
  | cons part rest ih =>
      rcases List.mem_cons.mp member with same | later
      · exact ⟨_, _, same⟩
      · exact ih _ later

theorem mem_session_nalus (sess : Session) (nalus : List Bytes) (out : Out) (member : out ∈ (sendSessionNalus sess nalus).2) :
    ∃ dest packet, out = .callPacket dest packet := by
  induction nalus generalizing sess with
  | nil => exact absurd member List.not_mem_nil
  | cons nalu rest ih =>
      rcases List.mem_append.mp member with first | later
      · exact mem_session_parts sess _ out first
      · exact ih _ later

theorem mem_session_timer (w : World) (d : Device) (out : Out) (member : out ∈ (sessionVideoTimer w d).2) :
    (∃ nalus, out = .pulled nalus) ∨ ∃ dest packet, out = .callPacket dest packet := by
  rw [sessionVideoTimer] at member
  split at member
  · exact absurd member List.not_mem_nil
  · split at member
    · dsimp only at member
      split at member
      · exact Or.inl (mem_get_frame w d out member)
      · rcases List.mem_append.mp member with pulled | sent
        · exact Or.inl (mem_get_frame w d out pulled)
        · exact Or.inr (mem_session_nalus _ _ out sent)
    · exact absurd member List.not_mem_nil

theorem mem_call_create (w : World) (d : Device) (body behind : Bytes) (out : Out) (member : out ∈ (handleCallCreate w d body behind).2) :
    ∃ code, out = .http code := by
  rw [handleCallCreate] at member
  split at member
  · exact ⟨_, List.mem_singleton.mp member⟩
  · exact ⟨_, List.mem_singleton.mp member⟩

theorem discard_loop_kept (w : World) (fuel : Nat) (d : Device) (skip : Nat) : Kept d (discardLoop w fuel d skip) := by
  induction fuel generalizing d skip with
  | zero => exact kept_refl d
  | succ fuel ih =>
      rw [discardLoop]
      split
      · exact kept_refl d
      · dsimp only
        split
        · exact read_mic_kept w d _
        · exact kept_trans _ _ _ (read_mic_kept w d _) (ih _ _)

theorem drain_excess_kept (w : World) (d : Device) : Kept d (drainExcess w d) := by
  have counted : Kept d (micAvailable w d).1 := ⟨rfl, rfl, rfl, rfl⟩
  unfold drainExcess
  split
  · dsimp only
    split
    · exact kept_trans _ _ _ counted (discard_loop_kept w _ _ _)
    · exact counted
  · exact kept_refl d

theorem force_keyframe_kept (d : Device) : Kept d (forceKeyframe d) := by
  unfold forceKeyframe
  split
  · exact ⟨rfl, rfl, rfl, rfl⟩
  · exact kept_refl d

theorem send_audio_to_identity (pcmu : Bytes) (cli : RtspClient) : (sendAudioTo pcmu cli).1.identity = cli.identity := by
  rw [sendAudioTo]
  split
  · exact send_audio_identity cli pcmu
  · rfl

theorem send_frame_to_identity (nalus : List Bytes) (cli : RtspClient) : (sendFrameTo nalus cli).1.identity = cli.identity := by
  rw [sendFrameTo]
  split
  · exact send_frame_identity cli nalus
  · rfl

theorem free_idle_auth (d : Device) (idle cli : RtspClient) : ((maybeStopMedia (d.put idle)).free cli).auth = d.auth := by
  unfold maybeStopMedia
  split <;> rfl

theorem method_auth (w : World) (d : Device) (cli : RtspClient) (req : RtspReq) : (handleMethod w d cli req).1.auth = d.auth := by
  rw [handleMethod]
  by_cases options : req.method = ascii "OPTIONS"
  · rw [if_pos options]
  rw [if_neg options]
  by_cases describe : req.method = ascii "DESCRIBE"
  · rw [if_pos describe]
    exact (handle_describe_kept w d cli req).auth
  rw [if_neg describe]
  by_cases setup : req.method = ascii "SETUP"
  · rw [if_pos setup]
    exact (handle_setup_kept w d cli req).auth
  rw [if_neg setup]
  by_cases play : req.method = ascii "PLAY"
  · rw [if_pos play]
    exact (handle_play_kept w d cli req).auth
  rw [if_neg play]
  by_cases teardown : req.method = ascii "TEARDOWN"
  · rw [if_pos teardown]
    exact free_idle_auth d _ _
  rw [if_neg teardown]
  split
  · rfl
  · rfl

-- Credentials are never touched; a nonce is replaced by a freshly generated one.
def AuthMoves (w : World) (before after : Auth) : Prop := after = before ∨ ∃ call, after = rotateNonce w.rand call before

theorem dispatch_auth (w : World) (d : Device) (cli : RtspClient) (buf : Bytes) (len : Nat) :
    AuthMoves w d.auth (dispatchRtsp w d cli buf len).1.auth := by
  rw [dispatchRtsp]
  dsimp only
  generalize parseRtspRequest buf len = req
  have checked : AuthMoves w d.auth (authCheck w d req).1.auth := by
    rw [authCheck]
    generalize (if req.authorization = [] then none else some req.authorization) = header
    split
    · exact Or.inr ⟨d.calls, rfl⟩
    · exact Or.inl rfl
  split
  · split
    · dsimp only
      rw [method_auth]
      exact checked
    · exact Or.inl rfl
  · exact Or.inl (method_auth w d cli req)

theorem audio_timer_auth (w : World) (d : Device) : (audioSendTimer w d).1.auth = d.auth := by
  unfold audioSendTimer
  dsimp only
  split
  · exact (kept_trans _ _ _ (drain_excess_kept w { d with tmrAudio := true }) (next_block_kept w _)).auth
  · rfl

theorem video_timer_auth (w : World) (d : Device) : (videoSendTimer w d).1.auth = d.auth := by
  have kept := kept_trans _ _ _ (force_keyframe_kept { d with tmrVideo := true }) (get_frame_kept w _)
  unfold videoSendTimer
  dsimp only
  split
  · split <;> exact kept.auth
  · rfl

theorem drop_client_auth (d : Device) (target : ConnId) : (dropClient d target).auth = d.auth := by
  unfold dropClient
  split
  · rfl
  · split
    · exact free_idle_auth d _ _
    · rfl

theorem unprocessed_auth (w : World) (d : Device) (action : Action) (other : ∀ target, action ≠ .process target) :
    (step w d action).1.auth = d.auth := by
  cases action with
  | connect _ => rfl
  | relayConnect _ => rfl
  | receive target chunk =>
      change (appendChunk d target chunk).auth = d.auth
      unfold appendChunk
      split
      · rfl
      · split <;> rfl
  | process target => exact absurd rfl (other target)
  | close target => exact drop_client_auth d target
  | timeout target => exact drop_client_auth d target
  | audioTimer =>
      cases armed : d.tmrAudio with
      | true => simp [step, armed, audio_timer_auth w d]
      | false => simp [step, armed]
  | videoTimer =>
      cases armed : d.tmrVideo with
      | true => simp [step, armed, video_timer_auth w d]
      | false => simp [step, armed]
  | callCreate body behind => exact (call_create_kept w d body behind).auth
  | callDelete => exact (end_session_kept d).auth
  | sessionVideoTimer => exact (session_timer_kept w d).auth

theorem step_auth_moves (w : World) (d : Device) (action : Action) : AuthMoves w d.auth (step w d action).1.auth := by
  cases action with
  | process target =>
      change AuthMoves w d.auth (processMessage w d target).1.auth
      cases process_taken w d target with
      | nothing idle _ =>
          rw [idle]
          exact Or.inl rfl
      | frame cli channel data rest _ _ result =>
          rw [result]
          exact Or.inl rfl
      | request cli eor _ _ result =>
          rw [result]
          exact dispatch_auth w (d.setRbuf target []) _ _ _
  | _ => exact Or.inl (unprocessed_auth w d _ fun _ same => by cases same)

theorem step_unaccepted (w : World) (d : Device) (action : Action) (quiet : ∀ conn, .accepted conn ∉ (step w d action).2) :
    (step w d action).1.auth = d.auth := by
  cases action with
  | process target =>
      change (processMessage w d target).1.auth = d.auth
      change ∀ conn, .accepted conn ∉ (processMessage w d target).2 at quiet
      cases process_taken w d target with
      | nothing idle _ => rw [idle]
      | frame cli channel data rest _ _ result =>
          rw [result]
          rfl
      | request cli eor _ _ result =>
          rw [result] at quiet ⊢
          change (dispatchRtsp w (d.setRbuf target []) { cli with rbuf := [] } (cstr cli.rbuf) (eor + 4)).1.auth = d.auth
          rw [dispatchRtsp] at quiet ⊢
          dsimp only at quiet ⊢
          split
          · split
            · rename_i guarded passes
              rw [if_pos guarded, if_pos passes] at quiet
              exact absurd (List.mem_cons_of_mem _ List.mem_cons_self) (quiet cli.tc)
            · rfl
          · exact method_auth w _ _ _
  | _ => exact unprocessed_auth w d _ fun _ same => by cases same

theorem run_unaccepted (w : World) (d : Device) (sent : List Out) (actions : List Action)
    (quiet : ∀ conn, .accepted conn ∉ (Runs.run (next w) (d, sent) actions).2) :
    (Runs.run (next w) (d, sent) actions).1.auth = d.auth := by
  induction actions generalizing d sent with
  | nil => rfl
  | cons action tail ih =>
      have history := Runs.record_outputs (step w) (step w d action).1 (sent ++ (step w d action).2) tail
      have first : ∀ conn, .accepted conn ∉ (step w d action).2 := by
        intro conn member
        apply quiet conn
        change .accepted conn ∈ (Runs.run (Runs.record (step w)) ((step w d action).1, sent ++ (step w d action).2) tail).2
        rw [history]
        exact List.mem_append_left _ (List.mem_append_right sent member)
      exact (ih (step w d action).1 (sent ++ (step w d action).2) quiet).trans (step_unaccepted w d action first)

-- Nothing a peer sends switches authentication off.
theorem step_auth (w : World) (d : Device) (action : Action) : (step w d action).1.auth.enabled = d.auth.enabled := by
  rcases step_auth_moves w d action with same | ⟨call, fresh⟩
  · rw [same]
  · rw [fresh]
    rfl

-- A receive callback is the append of its chunk followed by its messages, one action each.
theorem drain_is_steps (w : World) (conn : ConnId) (d : Device) (before : List Out) (buf : Bytes) (held : Held conn d) :
    ∃ count, Runs.run (next w) (d.setRbuf conn buf, before) (List.replicate count (.process conn)) =
      ((Chunked.drain (recvStep w conn) d buf).1.setRbuf conn (Chunked.drain (recvStep w conn) d buf).2.2,
        before ++ (Chunked.drain (recvStep w conn) d buf).2.1) := by
  induction size : buf.length using Nat.strongRecOn generalizing d before buf with
  | ind length ih =>
      cases taken : recvStep w conn d buf with
      | none =>
          have stuck : Chunked.drain (recvStep w conn) d buf = (d, [], buf) :=
            Chunked.drain_stuck (rtspReader w conn) d buf taken
          exact ⟨0, by simp [stuck, Runs.run]⟩
      | some result =>
          obtain ⟨after, outs, rest⟩ := result
          have shorter := recv_step_shrinks w conn d after buf rest outs taken
          have heldAfter := recv_step_held w conn d after buf rest outs taken held
          obtain ⟨count, ran⟩ := ih rest.length (by omega) after (before ++ outs) rest heldAfter rfl
          have unfolded := Chunked.drain_message (rtspReader w conn) d after buf rest outs taken
          have live : ∃ cli, d.client? conn = some cli := by
            obtain ⟨cli, found, _⟩ := recv_step_cases w conn d after buf rest outs taken
            exact ⟨cli, found⟩
          obtain ⟨cli, found⟩ := live
          have one : processMessage w (d.setRbuf conn buf) conn = (after.setRbuf conn rest, outs) := by
            simp [processMessage, client_set_rbuf, found, set_rbuf_twice, set_rbuf_held d conn held, taken]
          refine ⟨count + 1, ?_⟩
          rw [List.replicate_succ, Runs.run, List.foldl_cons]
          have first : next w (d.setRbuf conn buf, before) (.process conn) = (after.setRbuf conn rest, before ++ outs) := by
            simp [next, Runs.record, step, one]
          rw [first, show Chunked.drain (recvStep w conn) d buf = _ from unfolded]
          rw [Runs.run] at ran
          rw [ran]
          simp [rtspReader]

theorem recv_handler_is_steps (w : World) (d : Device) (before : List Out) (conn : ConnId) (chunk : Bytes) :
    ∃ actions, Runs.run (next w) (d, before) actions =
      ((rtspRecvHandler w d conn chunk).1, before ++ (rtspRecvHandler w d conn chunk).2) := by
  cases live : d.client? conn with
  | none => exact ⟨[], by simp [Runs.run, rtspRecvHandler, live]⟩
  | some cli =>
      by_cases overflows : rbufLimit < (cli.rbuf ++ chunk).length
      · refine ⟨[.receive conn chunk], ?_⟩
        simp [Runs.run, next, Runs.record, step, appendChunk, rtspRecvHandler, live, overflows, -List.length_append]
      · obtain ⟨count, ran⟩ := drain_is_steps w conn (d.setRbuf conn []) before (cli.rbuf ++ chunk) (held_set_rbuf d conn)
        refine ⟨.receive conn chunk :: List.replicate count (.process conn), ?_⟩
        have first : next w (d, before) (.receive conn chunk) =
            ((d.setRbuf conn []).setRbuf conn (cli.rbuf ++ chunk), before) := by
          simp [next, Runs.record, step, appendChunk, live, overflows, set_rbuf_twice, -List.length_append]
        rw [Runs.run, List.foldl_cons, first]
        rw [Runs.run] at ran
        rw [ran]
        simp [rtspRecvHandler, live, overflows, -List.length_append]

end Intercom
