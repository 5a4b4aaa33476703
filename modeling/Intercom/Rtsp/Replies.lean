import Intercom.Steps

set_option autoImplicit false

/- The replies among the outputs of a handler. Every request is answered once, and the media that PLAY sends
   behind its reply are no replies. -/
namespace Intercom

open ByteText

def Out.answer? : Out → Option Reply
  | .reply _ answer => some answer
  | _ => none

def answersIn (outs : List Out) : List Reply := outs.filterMap Out.answer?

theorem answers_append (left right : List Out) : answersIn (left ++ right) = answersIn left ++ answersIn right := by
  rw [answersIn, List.filterMap_append]
  rfl

theorem answer_mem (conn : ConnId) (answer : Reply) (outs : List Out) (member : .reply conn answer ∈ outs) :
    answer ∈ answersIn outs :=
  List.mem_filterMap.mpr ⟨.reply conn answer, member, rfl⟩

theorem requests_append (left right : List Out) : requestTexts (left ++ right) = requestTexts left ++ requestTexts right := by
  rw [requestTexts, List.filterMap_append]
  rfl

def Out.isTalk : Out → Bool
  | .request _ _ => true
  | .reply _ _ => true
  | _ => false

def Wordless (outs : List Out) : Prop := ∀ out ∈ outs, out.isTalk = false

theorem wordless_nil : Wordless [] := fun _ member => absurd member List.not_mem_nil

theorem wordless_append (left right : List Out) (first : Wordless left) (second : Wordless right) : Wordless (left ++ right) := by
  intro out member
  cases List.mem_append.mp member with
  | inl early => exact first out early
  | inr late => exact second out late

theorem wordless_answers (outs : List Out) (wordless : Wordless outs) : answersIn outs = [] := by
  rw [answersIn, List.filterMap_eq_nil_iff]
  intro out member
  have quiet := wordless out member
  cases out with
  | reply conn answer => cases quiet
  | _ => rfl

theorem wordless_requests (outs : List Out) (wordless : Wordless outs) : requestTexts outs = [] := by
  rw [requestTexts, List.filterMap_eq_nil_iff]
  intro out member
  have quiet := wordless out member
  cases out with
  | request conn text => cases quiet
  | _ => rfl

theorem carried_wordless (cli : RtspClient) (track : RtpTrack) (pt : UInt8) (outs : List Out)
    (carried : Carried cli track pt outs) : Wordless outs := by
  intro out member
  obtain ⟨packet, _, sent⟩ := carried out member
  rcases mem_send_rtp cli track packet out sent with rfl | rfl | rfl <;> rfl

theorem get_frame_wordless (w : World) (d : Device) : Wordless (getFrame w d).2.2 := by
  intro out member
  obtain ⟨nalus, rfl⟩ := mem_get_frame w d out member
  rfl

theorem next_block_wordless (w : World) (d : Device) : Wordless (nextBlock w d).2.2 := by
  intro out member
  obtain ⟨samples, rfl⟩ := mem_next_block w d out member
  rfl

theorem fetch_params_wordless (w : World) (d : Device) : Wordless (fetchParams w d).2 := by
  intro out member
  obtain ⟨nalus, rfl⟩ := mem_fetch_params w d out member
  rfl

theorem immediate_video_wordless (w : World) (d : Device) (cli : RtspClient) : Wordless (immediateVideo w d cli).2.2 := by
  rw [immediateVideo]
  dsimp only
  split
  · exact get_frame_wordless w d
  · exact wordless_append _ _ (get_frame_wordless w d) (carried_wordless cli _ _ _ (send_frame_carried cli _))

theorem immediate_audio_wordless (w : World) (d : Device) (cli : RtspClient) : Wordless (immediateAudio w d cli).2.2 := by
  rw [immediateAudio]
  split
  · exact wordless_append _ _ (next_block_wordless w d) (carried_wordless cli _ _ _ (send_audio_carried cli _))
  · exact wordless_nil

def Answers (outs : List Out) (answer : Reply) : Prop := answersIn outs = [answer] ∧ requestTexts outs = []

theorem answers_around (before after : List Out) (conn : ConnId) (answer : Reply) (first : Wordless before) (second : Wordless after) :
    Answers (before ++ .reply conn answer :: after) answer := by
  constructor
  · rw [← List.singleton_append, answers_append, answers_append, wordless_answers before first, wordless_answers after second]
    rfl
  · rw [← List.singleton_append, requests_append, requests_append, wordless_requests before first, wordless_requests after second]
    rfl

theorem describe_written (w : World) (d : Device) (cli : RtspClient) (req : RtspReq) :
    ∃ before, Wordless before ∧ (handleDescribe w d cli req).2 = before ++ [rtspReply cli req.cseq 200 "OK" (.description req.uri)
      (sdpText (fetchParams w d).1.localIp (spropText (cameraGetSpsPps (fetchParams w d).1.cam)))] :=
  ⟨(fetchParams w d).2, fetch_params_wordless w d, rfl⟩

theorem describe_answers (w : World) (d : Device) (cli : RtspClient) (req : RtspReq) :
    answersIn (handleDescribe w d cli req).2 =
      answersIn [rtspReply cli req.cseq 200 "OK" (.description req.uri)
        (sdpText (fetchParams w d).1.localIp (spropText (cameraGetSpsPps (fetchParams w d).1.cam)))] := by
  obtain ⟨before, wordless, outs⟩ := describe_written w d cli req
  rw [outs, answers_append, wordless_answers before wordless, List.nil_append]

def playInfo (cli : RtspClient) (uri : Bytes) : Extra :=
  .rtpInfo uri cli.video.seq cli.video.ts cli.audio.seq cli.audio.ts cli.backchannelSetup

theorem play_written (w : World) (d : Device) (cli : RtspClient) (req : RtspReq) (ready : cli.state ≠ .idle) :
    ∃ after, Wordless after ∧ (handlePlay w d cli req).2.2 = rtspReply cli req.cseq 200 "OK" (playInfo cli req.uri) [] :: after := by
  have talking : ∀ started : Device, (openBackchannel w started { cli with state := .playing }).2.tc = cli.tc ∧
      (openBackchannel w started { cli with state := .playing }).2.sessionId = cli.sessionId := by
    intro started
    rw [openBackchannel]
    split
    · exact ⟨rfl, rfl⟩
    · exact ⟨rfl, rfl⟩
  rw [handlePlay, if_neg ready]
  dsimp only
  rw [rtspReply, rtspReply, (talking _).1, (talking _).2]
  refine ⟨_, ?_, rfl⟩
  exact wordless_append _ _ (immediate_video_wordless w _ _) (immediate_audio_wordless w _ _)

theorem play_answers (w : World) (d : Device) (cli : RtspClient) (req : RtspReq) (ready : cli.state ≠ .idle) :
    answersIn (handlePlay w d cli req).2.2 = answersIn [rtspReply cli req.cseq 200 "OK" (playInfo cli req.uri) []] := by
  obtain ⟨after, wordless, outs⟩ := play_written w d cli req ready
  rw [outs, ← List.singleton_append, answers_append, wordless_answers after wordless, List.append_nil]

theorem answer_single (conn : ConnId) (answer : Reply) (outs : List Out) (cli : RtspClient) (cseq : Int) (code : Nat)
    (reason : String) (extra : Extra) (body : Bytes) (member : .reply conn answer ∈ outs)
    (only : answersIn outs = answersIn [rtspReply cli cseq code reason extra body]) : answer.code = code := by
  have present := answer_mem conn answer outs member
  rw [only] at present
  rw [List.mem_singleton.mp present]

def handlerCodes : List (Nat × String) :=
  [(200, "OK"), (405, "Method Not Allowed"), (455, "Method Not Valid in This State")] ++ setupRefusals

def Reply.Handled (answer : Reply) : Prop := ∃ pair ∈ handlerCodes, answer.code = pair.1 ∧ answer.reason = ascii pair.2

-- One reply of a handler among the outputs, and nothing is written on the connection before it.
def Replied (conn : ConnId) (outs : List Out) : Prop :=
  ∃ (answer : Reply) (rest : Bytes), answer.Handled ∧ Answers outs answer ∧ written conn outs = answer.text ++ rest

theorem replied_around (before after : List Out) (cli : RtspClient) (cseq : Int) (code : Nat) (reason : String) (extra : Extra)
    (body : Bytes) (first : Wordless before) (silent : written cli.tc before = []) (second : Wordless after)
    (among : (code, reason) ∈ handlerCodes) : Replied cli.tc (before ++ rtspReply cli cseq code reason extra body :: after) := by
  refine ⟨{ cseq, code, reason := ascii reason, extra, body, session := if 200 ≤ code ∧ code < 300 then cli.sessionId else none },
    written cli.tc after, ⟨(code, reason), among, rfl, rfl⟩, answers_around before after cli.tc _ first second, ?_⟩
  rw [written_append, silent, List.nil_append, written, List.flatMap_cons, rtspReply, Out.written, if_pos rfl]
  rfl

theorem replied_once (cli : RtspClient) (cseq : Int) (code : Nat) (reason : String) (extra : Extra) (body : Bytes)
    (among : (code, reason) ∈ handlerCodes) : Replied cli.tc [rtspReply cli cseq code reason extra body] :=
  replied_around [] [] cli cseq code reason extra body wordless_nil rfl wordless_nil among

theorem method_replies (w : World) (d : Device) (cli : RtspClient) (req : RtspReq) : Replied cli.tc (handleMethod w d cli req).2 := by
  have fine : (200, "OK") ∈ handlerCodes := by decide
  rw [handleMethod]
  by_cases options : req.method = ascii "OPTIONS"
  · rw [if_pos options]
    exact replied_once cli req.cseq 200 "OK" _ _ fine
  rw [if_neg options]
  by_cases describe : req.method = ascii "DESCRIBE"
  · rw [if_pos describe]
    have silent : written cli.tc (fetchParams w d).2 = [] := by
      rw [written, List.flatMap_eq_nil_iff]
      intro out member
      obtain ⟨nalus, rfl⟩ := mem_fetch_params w d out member
      rfl
    exact replied_around _ [] cli req.cseq 200 "OK" _ _ (fetch_params_wordless w d) silent wordless_nil fine
  rw [if_neg describe]
  by_cases setup : req.method = ascii "SETUP"
  · rw [if_pos setup]
    dsimp only
    rcases handle_setup_outcome w d cli req with ⟨code, reason, refusal, result⟩ | ⟨track, transport, after, done, result⟩
    · rw [result]
      exact replied_once cli req.cseq code reason _ _ (List.mem_append_right _ refusal)
    · rw [result, ← setup_done_tc cli after track transport done]
      exact replied_once after req.cseq 200 "OK" _ _ fine
  rw [if_neg setup]
  by_cases play : req.method = ascii "PLAY"
  · rw [if_pos play]
    dsimp only
    by_cases idle : cli.state = .idle
    · rw [handlePlay, if_pos idle]
      exact replied_once cli req.cseq 455 "Method Not Valid in This State" _ _ (by decide)
    · obtain ⟨after, wordless, outs⟩ := play_written w d cli req idle
      rw [outs]
      exact replied_around [] after cli req.cseq 200 "OK" _ _ wordless_nil rfl wordless fine
  rw [if_neg play]
  by_cases teardown : req.method = ascii "TEARDOWN"
  · rw [if_pos teardown]
    exact replied_once cli req.cseq 200 "OK" _ _ fine
  rw [if_neg teardown]
  split
  · exact replied_once cli req.cseq 200 "OK" _ _ fine
  · exact replied_once cli req.cseq 405 "Method Not Allowed" _ _ (by decide)

def challengeReply (cseq : Int) (nonce : Bytes) : Reply :=
  { cseq := cseq, code := 401, reason := ascii "Unauthorized", extra := .challenge nonce }

-- A request is refused with a challenge, or what is written starts with the reply of a handler.
theorem dispatch_replies (w : World) (d : Device) (cli : RtspClient) (buf : Bytes) (len : Nat) :
    (admits w d (parseRtspRequest buf len) = false ∧
      ∃ cseq, dispatchRtsp w d cli buf len = (d, [.request cli.tc (buf.take len), .reply cli.tc (challengeReply cseq d.auth.nonce)])) ∨
    ∃ (answer : Reply) (rest : Bytes), answer.Handled ∧ answersIn (dispatchRtsp w d cli buf len).2 = [answer] ∧
      written cli.tc (dispatchRtsp w d cli buf len).2 = answer.text ++ rest := by
  rw [dispatchRtsp]
  dsimp only
  generalize parseRtspRequest buf len = req
  by_cases guarded : (d.auth.enabled && needsAuth req.method) = true
  · rw [if_pos guarded]
    by_cases passes : (authCheck w d req).2 = true
    · rw [if_pos passes]
      obtain ⟨answer, rest, handled, answers, text⟩ := method_replies w (authCheck w d req).1 cli req
      exact Or.inr ⟨answer, rest, handled, answers.1, text⟩
    · rw [if_neg passes]
      exact Or.inl ⟨by rw [admits, guarded, Bool.eq_false_iff.mpr passes]; rfl, req.cseq, rfl⟩
  · rw [if_neg guarded]
    obtain ⟨answer, rest, handled, answers, text⟩ := method_replies w d cli req
    exact Or.inr ⟨answer, rest, handled, answers.1, text⟩

theorem send_to_all_wordless (send : RtspClient → RtspClient × List Out) (d : Device) (each : ∀ cli, Wordless (send cli).2) :
    Wordless (sendToAll send d).2 := by
  intro out member
  obtain ⟨cli, _, sent⟩ := List.mem_flatMap.mp member
  exact each cli out sent

theorem audio_timer_wordless (w : World) (d : Device) : Wordless (audioSendTimer w d).2 := by
  rw [audioSendTimer]
  dsimp only
  split
  · apply wordless_append _ _ (next_block_wordless w _)
    apply send_to_all_wordless
    intro cli
    rw [sendAudioTo]
    split
    · exact carried_wordless cli _ _ _ (send_audio_carried cli _)
    · exact wordless_nil
  · exact wordless_nil

theorem video_timer_wordless (w : World) (d : Device) : Wordless (videoSendTimer w d).2 := by
  rw [videoSendTimer]
  dsimp only
  split
  · split
    · exact get_frame_wordless w _
    · apply wordless_append _ _ (get_frame_wordless w _)
      apply send_to_all_wordless
      intro cli
      rw [sendFrameTo]
      split
      · exact carried_wordless cli _ _ _ (send_frame_carried cli _)
      · exact wordless_nil
  · exact wordless_nil

theorem step_wordless (w : World) (d : Device) (action : Action) (other : ∀ conn, action ≠ .process conn) :
    Wordless (step w d action).2 := by
  cases action with
  | connect peer => exact wordless_nil
  | relayConnect peer => exact wordless_nil
  | receive conn chunk => exact wordless_nil
  | process conn => exact absurd rfl (other conn)
  | close conn => exact wordless_nil
  | timeout conn => exact wordless_nil
  | audioTimer =>
      cases armed : d.tmrAudio with
      | true => simpa [step, armed] using audio_timer_wordless w d
      | false => simpa [step, armed] using wordless_nil
  | videoTimer =>
      cases armed : d.tmrVideo with
      | true => simpa [step, armed] using video_timer_wordless w d
      | false => simpa [step, armed] using wordless_nil
  | callCreate body behind =>
      intro out member
      obtain ⟨code, rfl⟩ := mem_call_create w d body behind out member
      rfl
  | callDelete =>
      intro out member
      rw [List.mem_singleton.mp member]
      rfl
  | sessionVideoTimer =>
      intro out member
      rcases mem_session_timer w d out member with ⟨nalus, rfl⟩ | ⟨dest, packet, rfl⟩ <;> rfl

-- A 401 carries the nonce that stands, before and after it.
theorem step_challenges (w : World) (d : Device) (action : Action) (conn : ConnId) (answer : Reply)
    (member : .reply conn answer ∈ (step w d action).2) (code : answer.code = 401) :
    (step w d action).1.auth = d.auth ∧ ∃ cseq, answer = challengeReply cseq d.auth.nonce := by
  cases action with
  | process target =>
      change .reply conn answer ∈ (processMessage w d target).2 at member
      change (processMessage w d target).1.auth = d.auth ∧ _
      cases process_taken w d target with
      | nothing idle _ =>
          rw [idle] at member
          cases member
      | frame cli channel data rest _ _ result =>
          rw [result] at member
          cases List.mem_cons.mp member with
          | inl first => cases first
          | inr played =>
              obtain ⟨pcmu, same⟩ := mem_play_backchannel _ channel data _ played
              cases same
      | request cli eor _ _ result =>
          rw [result] at member ⊢
          cases dispatch_replies w (d.setRbuf target []) { cli with rbuf := [] } (cstr cli.rbuf) (eor + 4) with
          | inl refused =>
              obtain ⟨_, cseq, outcome⟩ := refused
              rw [outcome] at member ⊢
              have same : conn = cli.tc ∧ answer = challengeReply cseq d.auth.nonce := by
                simpa [challengeReply, Device.setRbuf] using member
              exact ⟨rfl, cseq, same.2⟩
          | inr handled =>
              obtain ⟨given, rest, ⟨pair, among, number, _⟩, answers, _⟩ := handled
              have other : ∀ pair ∈ handlerCodes, pair.1 ≠ 401 := by decide
              have only := answer_mem conn answer _ member
              rw [answers, List.mem_singleton] at only
              rw [only, number] at code
              exact absurd code (other pair among)
  | _ =>
      have quiet : (Out.reply conn answer).isTalk = false := by
        apply step_wordless w d _ _ _ member
        intro target same
        cases same
      cases quiet

theorem method_refused (w : World) (d : Device) (cli : RtspClient) (req : RtspReq) (same : d.put cli = d) (conn : ConnId)
    (answer : Reply) (member : .reply conn answer ∈ (handleMethod w d cli req).2) (refused : 400 ≤ answer.code) :
    OnlyCalls d (handleMethod w d cli req).1 := by
  have fine : ∀ outs extra body, (∃ asker : RtspClient, answersIn outs = answersIn [rtspReply asker req.cseq 200 "OK" extra body]) →
      .reply conn answer ∈ outs → False := by
    rintro outs extra body ⟨asker, only⟩ present
    rw [answer_single conn answer outs asker req.cseq 200 "OK" extra body present only] at refused
    exact absurd refused (by decide)
  rw [handleMethod] at member ⊢
  by_cases options : req.method = ascii "OPTIONS"
  · rw [if_pos options] at member
    exact (fine _ .methods [] ⟨cli, rfl⟩ member).elim
  rw [if_neg options] at member ⊢
  by_cases describe : req.method = ascii "DESCRIBE"
  · rw [if_pos describe] at member
    exact (fine _ _ _ ⟨cli, describe_answers w d cli req⟩ member).elim
  rw [if_neg describe] at member ⊢
  by_cases setup : req.method = ascii "SETUP"
  · rw [if_pos setup] at member ⊢
    have calls := handle_setup_calls w d cli req
    rcases handle_setup_outcome w d cli req with ⟨code, reason, _, result⟩ | ⟨track, transport, after, _, result⟩
    · dsimp only
      rw [result]
      obtain ⟨count, drawn⟩ := calls
      refine ⟨count, ?_⟩
      rw [drawn]
      exact congrArg (fun device : Device => { device with calls := count }) same
    · dsimp only at member
      rw [result] at member
      exact (fine _ (.setup track transport) [] ⟨after, rfl⟩ member).elim
  rw [if_neg setup] at member ⊢
  by_cases play : req.method = ascii "PLAY"
  · rw [if_pos play] at member ⊢
    by_cases idle : cli.state = .idle
    · rw [handlePlay, if_pos idle]
      exact ⟨d.calls, same⟩
    · exact (fine _ _ [] ⟨cli, play_answers w d cli req idle⟩ member).elim
  rw [if_neg play] at member ⊢
  by_cases teardown : req.method = ascii "TEARDOWN"
  · rw [if_pos teardown] at member
    exact (fine _ .none [] ⟨cli, rfl⟩ member).elim
  rw [if_neg teardown] at member ⊢
  split
  · exact only_calls_refl d
  · exact only_calls_refl d

end Intercom
