import Intercom.Steps
import Intercom.Rtsp.Framing
import Intercom.Rtsp.Digest

set_option autoImplicit false

/- Whether every reply on the wire is one response. The nonce and everything the server makes up itself is safe to
   print; the URI of an admitted DESCRIBE or PLAY is printed as it was received. -/
namespace Intercom

open ByteText

structure NonceKept (d : Device) : Prop where
  unbroken : Unbroken d.auth.nonce
  short : d.auth.nonce.length ≤ nonceLen

theorem initial_nonce (w : World) (localIp username password : Bytes) : NonceKept (initial w localIp username password) := by
  by_cases missing : username = [] ∨ password = []
  · have none : (initial w localIp username password).auth.nonce = [] := by
      rw [initial, rtspAuthInit, if_pos missing]
    exact ⟨by rw [none]; exact unbroken_nil, by rw [none]; exact Nat.zero_le _⟩
  · have fresh : (initial w localIp username password).auth.nonce = generateNonce w.rand 0 := by
      rw [initial, rtspAuthInit, if_neg missing]
    exact ⟨by rw [fresh]; exact nonce_unbroken w.rand 0, by rw [fresh, nonce_length]⟩

theorem step_nonce (w : World) (d : Device) (action : Action) (inv : NonceKept d) : NonceKept (deviceStep w d action) := by
  rcases step_auth_moves w d action with same | ⟨call, fresh⟩
  · exact ⟨by rw [deviceStep, same]; exact inv.unbroken, by rw [deviceStep, same]; exact inv.short⟩
  · refine ⟨?_, ?_⟩
    · rw [deviceStep, fresh]
      exact nonce_unbroken w.rand call
    · rw [deviceStep, fresh]
      exact Nat.le_of_eq (nonce_length w.rand call)

-- Every request is answered by one reply, and the reply is one response.
structure WellFramed (outs : List Out) : Prop where
  answered : (answersIn outs).length = (requestTexts outs).length
  framed : ∀ answer ∈ answersIn outs, answer.Framed

def playSize (cli : RtspClient) (uri : Bytes) : Nat :=
  infoSize uri cli.video.seq cli.video.ts cli.audio.seq cli.audio.ts cli.backchannelSetup

-- What has to be asked of an admitted request: DESCRIBE and PLAY print its URI, PLAY up to three times into 512 bytes.
structure Careful (cli : RtspClient) (req : RtspReq) : Prop where
  described : req.method = ascii "DESCRIBE" → Unbroken req.uri
  played : req.method = ascii "PLAY" → cli.state ≠ .idle → Unbroken req.uri ∧ playSize cli req.uri < 512

def Harmless (w : World) (d : Device) : Action → Prop
  | .process conn => ∀ cli req, d.client? conn = some cli → asked w d conn = some req → Careful cli req
  | _ => True

theorem careful_other (cli : RtspClient) (req : RtspReq) (describe : req.method ≠ ascii "DESCRIBE")
    (play : req.method = ascii "PLAY" → cli.state = .idle) : Careful cli req :=
  ⟨fun same => absurd same describe, fun same ready => absurd (play same) ready⟩

theorem sdp_filled (localIp sprop : Bytes) : sdpText localIp sprop ≠ [] := by
  have fits : (ascii "v=0\r\no=- 0 0 IN IP4 ").length ≤ 2047 := by decide
  rw [sdpText, snprintf, snprintfLoop, if_pos fits]
  exact List.append_ne_nil_of_left_ne_nil (by decide) _

theorem single_answers (conn : ConnId) (answer : Reply) : Answers [.reply conn answer] answer :=
  answers_around [] [] conn answer wordless_nil wordless_nil

theorem method_answers (w : World) (d : Device) (cli : RtspClient) (req : RtspReq) (short : req.uri.length ≤ 255)
    (spaceless : 32 ∉ req.uri) :
    ∃ answer, Answers (handleMethod w d cli req).2 answer ∧ (answer.Framed ↔ Careful cli req) := by
  have fine : Unbroken (ascii "OK") := by decide
  rw [handleMethod]
  by_cases options : req.method = ascii "OPTIONS"
  · rw [if_pos options]
    refine ⟨_, single_answers _ _, iff_of_true (methods_framed _ fine rfl) ?_⟩
    apply careful_other
    · rw [options]
      decide
    · rw [options]
      exact fun same => absurd same (by decide)
  rw [if_neg options]
  by_cases describe : req.method = ascii "DESCRIBE"
  · rw [if_pos describe]
    obtain ⟨before, wordless, outs⟩ := describe_written w d cli req
    rw [outs]
    refine ⟨_, answers_around before [] _ _ wordless wordless_nil, ?_⟩
    rw [description_framed_iff _ fine req.uri rfl short spaceless (sdp_filled _ _)]
    constructor
    · intro clean
      refine ⟨fun _ => clean, fun play => absurd (describe.symm.trans play) (by decide)⟩
    · exact fun careful => careful.described describe
  rw [if_neg describe]
  by_cases setup : req.method = ascii "SETUP"
  · rw [if_pos setup]
    dsimp only
    have careful : Careful cli req := by
      apply careful_other cli req describe
      rw [setup]
      exact fun same => absurd same (by decide)
    rcases handle_setup_outcome w d cli req with ⟨code, reason, refusal, result⟩ | ⟨track, transport, after, _, result⟩
    · have clean : ∀ pair ∈ setupRefusals, Unbroken (ascii pair.2) := by decide
      rw [result]
      exact ⟨_, single_answers _ _, iff_of_true (plain_framed _ (clean _ refusal) rfl) careful⟩
    · rw [result]
      exact ⟨_, single_answers _ _, iff_of_true (setup_framed _ fine track transport rfl) careful⟩
  rw [if_neg setup]
  by_cases play : req.method = ascii "PLAY"
  · rw [if_pos play]
    dsimp only
    by_cases idle : cli.state = .idle
    · rw [handlePlay, if_pos idle]
      have invalid : Unbroken (ascii "Method Not Valid in This State") := by decide
      exact ⟨_, single_answers _ _, iff_of_true (plain_framed _ invalid rfl) (careful_other cli req describe fun _ => idle)⟩
    · obtain ⟨after, wordless, outs⟩ := play_written w d cli req idle
      rw [outs]
      refine ⟨_, answers_around [] after _ _ wordless_nil wordless, ?_⟩
      rw [play_framed_iff _ fine req.uri _ _ _ _ _ rfl short rfl]
      constructor
      · exact fun holds => ⟨fun same => absurd same describe, fun _ _ => holds⟩
      · exact fun careful => careful.played play idle
  rw [if_neg play]
  have careful : Careful cli req := careful_other cli req describe fun same => absurd same play
  by_cases teardown : req.method = ascii "TEARDOWN"
  · rw [if_pos teardown]
    exact ⟨_, single_answers _ _, iff_of_true (plain_framed _ fine rfl) careful⟩
  rw [if_neg teardown]
  split
  · exact ⟨_, single_answers _ _, iff_of_true (plain_framed _ fine rfl) careful⟩
  · have refused : Unbroken (ascii "Method Not Allowed") := by decide
    exact ⟨_, single_answers _ _, iff_of_true (plain_framed _ refused rfl) careful⟩

theorem dispatch_answers (w : World) (d : Device) (inv : NonceKept d) (cli : RtspClient) (buf : Bytes) (len : Nat) :
    ∃ text answer, requestTexts (dispatchRtsp w d cli buf len).2 = [text] ∧ answersIn (dispatchRtsp w d cli buf len).2 = [answer] ∧
      (answer.Framed ↔ (admits w d (parseRtspRequest buf len) = true → Careful cli (parseRtspRequest buf len))) := by
  obtain ⟨short, spaceless⟩ := parsed_uri buf len
  rw [dispatchRtsp]
  dsimp only
  generalize parseRtspRequest buf len = req at short spaceless ⊢
  refine ⟨buf.take len, ?_⟩
  have handled : ∀ device : Device, admits w d req = true → ∃ answer, Answers (handleMethod w device cli req).2 answer ∧
      (answer.Framed ↔ (admits w d req = true → Careful cli req)) := by
    intro device admitted
    obtain ⟨answer, answers, framed⟩ := method_answers w device cli req short spaceless
    exact ⟨answer, answers, framed.trans ⟨fun careful _ => careful, fun careful => careful admitted⟩⟩
  by_cases guarded : (d.auth.enabled && needsAuth req.method) = true
  · rw [if_pos guarded]
    by_cases passes : (authCheck w d req).2 = true
    · rw [if_pos passes]
      obtain ⟨answer, answers, framed⟩ := handled (authCheck w d req).1 (by rw [admits, passes, Bool.or_true])
      refine ⟨answer, ?_, ?_, framed⟩
      · change buf.take len :: requestTexts (handleMethod w (authCheck w d req).1 cli req).2 = [buf.take len]
        rw [answers.2]
      · change answersIn (handleMethod w (authCheck w d req).1 cli req).2 = [answer]
        exact answers.1
    · rw [if_neg passes]
      have refused : Unbroken (ascii "Unauthorized") := by decide
      have denied : admits w d req ≠ true := by
        rw [admits, guarded, Bool.eq_false_iff.mpr passes]
        decide
      exact ⟨_, rfl, rfl, iff_of_true (challenge_framed _ refused d.auth.nonce rfl inv.unbroken inv.short)
        fun admitted => absurd admitted denied⟩
  · rw [if_neg guarded]
    obtain ⟨answer, answers, framed⟩ := handled d (by rw [admits, Bool.eq_false_iff.mpr guarded]; rfl)
    refine ⟨answer, ?_, ?_, framed⟩
    · change buf.take len :: requestTexts (handleMethod w d cli req).2 = [buf.take len]
      rw [answers.2]
    · exact answers.1

theorem wordless_framed (outs : List Out) (wordless : Wordless outs) : WellFramed outs := by
  have none := wordless_answers outs wordless
  constructor
  · rw [none, wordless_requests outs wordless]
    rfl
  · rw [none]
    exact fun _ member => absurd member List.not_mem_nil

theorem single_framed_iff (outs : List Out) (text : Bytes) (answer : Reply) (request : requestTexts outs = [text])
    (reply : answersIn outs = [answer]) : WellFramed outs ↔ answer.Framed := by
  constructor
  · intro framed
    apply framed.framed
    rw [reply]
    exact List.mem_singleton_self answer
  · intro framed
    constructor
    · rw [request, reply]
      rfl
    · intro other member
      rw [reply] at member
      rw [List.mem_singleton.mp member]
      exact framed

theorem process_framed_iff (w : World) (d : Device) (inv : NonceKept d) (conn : ConnId) :
    WellFramed (processMessage w d conn).2 ↔ Harmless w d (.process conn) := by
  cases process_taken w d conn with
  | nothing idle none =>
      rw [idle]
      apply iff_of_true (wordless_framed [] wordless_nil)
      intro cli req live request
      rw [asked, live, Option.bind_some, none cli live] at request
      cases request
  | frame cli channel data rest live none result =>
      rw [result]
      apply iff_of_true
      · apply wordless_framed
        intro out member
        rcases List.mem_cons.mp member with rfl | played
        · rfl
        · obtain ⟨pcmu, rfl⟩ := mem_play_backchannel _ channel data out played
          rfl
      · intro other req found request
        rw [Option.some.inj (found.symm.trans live)] at found
        rw [asked, found, Option.bind_some, none] at request
        cases request
  | request cli eor live parsed result =>
      have kept : NonceKept (d.setRbuf conn []) := ⟨inv.unbroken, inv.short⟩
      obtain ⟨text, answer, request, reply, framed⟩ := dispatch_answers w (d.setRbuf conn []) kept { cli with rbuf := [] }
        (cstr cli.rbuf) (eor + 4)
      rw [result, single_framed_iff _ text answer request reply, framed, admits_set_rbuf]
      have sameRecord : ∀ req, Careful { cli with rbuf := [] } req ↔ Careful cli req :=
        fun req => ⟨fun careful => ⟨careful.described, careful.played⟩, fun careful => ⟨careful.described, careful.played⟩⟩
      rw [sameRecord]
      constructor
      · intro careful other req found request
        rw [Option.some.inj (found.symm.trans live)]
        rw [asked, live, Option.bind_some, parsed] at request
        obtain ⟨same, admitted⟩ := Option.filter_eq_some_iff.mp request
        rw [← Option.some.inj same] at admitted ⊢
        exact careful admitted
      · intro harmless admitted
        apply harmless cli _ live
        rw [asked, live, Option.bind_some, parsed]
        exact Option.filter_eq_some_iff.mpr ⟨rfl, admitted⟩

theorem step_framed_iff (w : World) (d : Device) (action : Action) (inv : NonceKept d) :
    WellFramed (step w d action).2 ↔ Harmless w d action := by
  cases action with
  | process conn => exact process_framed_iff w d inv conn
  | _ => exact iff_of_true (wordless_framed _ (step_wordless w d _ fun _ same => by cases same)) trivial

theorem replies_framed_iff_harmless (w : World) (localIp username password : Bytes) (actions : List Action) :
    Runs.EachStep (deviceStep w) (fun d action => WellFramed (step w d action).2) (initial w localIp username password) actions ↔
      Runs.EachStep (deviceStep w) (Harmless w) (initial w localIp username password) actions :=
  Runs.each_step_congr (deviceStep w) NonceKept _ _ _ actions (fun d action inv => step_nonce w d action inv)
    (fun d action inv => step_framed_iff w d action inv) (initial_nonce w localIp username password)

def brokenDescribeText : Bytes := ascii "DESCRIBE rtsp://h/\r\nX:y RTSP/1.0\r\nCSeq: 1\r\n\r\n"

-- The URI reaches to the second space, so it holds a whole line, and Content-Base is printed with it.
theorem describe_injects_line :
    ¬ Runs.EachStep (deviceStep sampleWorld) (fun d action => WellFramed (step sampleWorld d action).2)
      (initial sampleWorld [] [] []) [.connect ⟨1, 1⟩, .receive 0 brokenDescribeText, .process 0] := by
  intro every
  have framed := Runs.each_step_at (deviceStep sampleWorld) _ (initial sampleWorld [] [] [])
    [.connect ⟨1, 1⟩, .receive 0 brokenDescribeText] [] (.process 0) every
  have inv : NonceKept (Runs.run (deviceStep sampleWorld) (initial sampleWorld [] [] [])
      [.connect ⟨1, 1⟩, .receive 0 brokenDescribeText]) :=
    Runs.run_invariant (deviceStep sampleWorld) NonceKept _ _ (fun d action inv => step_nonce sampleWorld d action inv)
      (initial_nonce sampleWorld [] [] [])
  generalize reachedBefore : Runs.run (deviceStep sampleWorld) (initial sampleWorld [] [] [])
    [.connect ⟨1, 1⟩, .receive 0 brokenDescribeText] = d at framed inv
  have harmless := (step_framed_iff sampleWorld d (.process 0) inv).mp framed
  have live : d.client? 0 = some { tc := 0, peer := ⟨1, 1⟩, rbuf := brokenDescribeText } := by
    rw [← reachedBefore]
    decide +kernel
  have request : asked sampleWorld d 0 = some { method := ascii "DESCRIBE", uri := ascii "rtsp://h/\r\nX:y", cseq := 1 } := by
    rw [← reachedBefore]
    decide +kernel
  have clean := (harmless _ _ live request).described rfl
  exact absurd clean (by decide)

end Intercom
