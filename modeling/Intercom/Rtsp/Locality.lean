import Intercom.Rtsp.Receive

set_option autoImplicit false

/- What parse_rtsp_request reads behind the request it was given: nothing but the digits atoi runs into after
   an empty CSeq header. -/
namespace Intercom

open ByteText

def RtspReq.forget (req : RtspReq) : RtspReq := { req with cseq := 0 }

theorem forget_fields (left right : RtspReq) (same : left.forget = right.forget) :
    left.method = right.method ∧ left.uri = right.uri ∧ left.transport = right.transport ∧
      left.session = right.session ∧ left.authorization = right.authorization := by
  simpa [RtspReq.forget] using same

theorem header_line_local (line other : Bytes) (eol : Nat) (req req' : RtspReq)
    (found : findSub crlf line = some eol) (foundOther : findSub crlf other = some eol)
    (sameLine : line.take eol = other.take eol) (same : req.forget = req'.forget) :
    (parseHeaderLine line eol req).forget = (parseHeaderLine other eol req').forget := by
  obtain ⟨method, uri, transport, session, authorization⟩ := forget_fields req req' same
  have named : ∀ pattern : Bytes, 13 ∉ pattern.map lower → casePrefix pattern line = casePrefix pattern other := by
    intro pattern clean
    rw [case_prefix_line pattern line eol found clean, case_prefix_line pattern other eol foundOther clean, sameLine]
  unfold parseHeaderLine
  rw [named (ascii "CSeq:") (by decide), named (ascii "Transport:") (by decide), named (ascii "Session:") (by decide),
    named (ascii "Authorization:") (by decide)]
  split
  · simpa [RtspReq.forget] using same
  · split
    · simp [RtspReq.forget, copyValue, sameLine, method, uri, transport, session, authorization]
    · split
      · simp [RtspReq.forget, copyValue, sameLine, method, uri, transport, session, authorization]
      · split
        · simp [RtspReq.forget, copyValue, sameLine, method, uri, transport, session, authorization]
        · exact same

-- body is the rest of the request after the CRLF the loop stands at: nothing, or lines up to the blank one.
def Lines (body : Bytes) : Prop := body = [] ∨ ∃ front, body = front ++ crlf

theorem lines_step (body : Bytes) (lines : Lines body) (nonempty : body ≠ []) :
    ∃ eol after, findSub crlf body = some eol ∧ body = body.take eol ++ crlf ++ after ∧ Lines after := by
  obtain empty | ⟨front, split⟩ := lines
  · exact absurd empty nonempty
  · obtain ⟨eol, _, found⟩ := find_sub_infix crlf front []
    rw [List.append_nil, ← split] at found
    obtain ⟨after, whole, _⟩ := find_sub_split crlf body eol found
    refine ⟨eol, after, found, whole, ?_⟩
    have ends : front ++ crlf = (body.take eol ++ crlf) ++ after := by rw [← split]; exact whole
    -- The first CRLF cannot overlap the last one by a single byte.
    rcases List.append_eq_append_iff.mp ends with ⟨part, early, late⟩ | ⟨part, _, late⟩
    · match part, early, late with
      | [], _, late => exact Or.inr ⟨[], by simpa using late.symm⟩
      | [byte], early, late =>
          have isCr : byte = 13 := (List.cons.inj late).1.symm
          have last := congrArg List.getLast? early
          simp [crlf, isCr] at last
      | [_, _], _, late => exact Or.inl (List.cons.inj (List.cons.inj late).2).2.symm
      | _ :: _ :: _ :: _, _, late => simp [crlf] at late
    · exact Or.inr ⟨part, late⟩

theorem parse_headers_local (fuel : Nat) (body behind other : Bytes) (req req' : RtspReq)
    (lines : Lines body) (same : req.forget = req'.forget) :
    (parseHeaders fuel (crlf ++ body ++ behind) (2 + body.length) req).forget =
      (parseHeaders fuel (crlf ++ body ++ other) (2 + body.length) req').forget := by
  induction fuel generalizing body req req' with
  | zero => exact same
  | succ fuel ih =>
      by_cases nonempty : body = []
      · subst nonempty
        simpa [parseHeaders] using same
      · obtain ⟨eol, after, found, split, rest⟩ := lines_step body lines nonempty
        have positive : 0 < body.length := List.length_pos_iff.mpr nonempty
        have more : 2 < 2 + body.length := by omega
        have bound := (find_sub_split crlf body eol found).choose_spec.2
        have here := find_sub_append crlf body behind eol found
        have there := find_sub_append crlf body other eol found
        have size : (body.take eol).length = eol := by simp [crlf] at bound ⊢; omega
        have left : 2 + body.length - 2 - eol = 2 + after.length := by
          have lengths := congrArg List.length split
          simp only [List.length_append, size, crlf, List.length_cons, List.length_nil] at lengths
          omega
        have dropped : ∀ tail, (body ++ tail).drop eol = crlf ++ after ++ tail := by
          intro tail
          conv => lhs; rw [split]
          rw [List.append_assoc, List.append_assoc, List.drop_append, size]
          simp [crlf]
        have sameLine : (body ++ behind).take eol = (body ++ other).take eol := by
          rw [List.take_append_of_le_length (by omega), List.take_append_of_le_length (by omega)]
        have skip : ∀ tail, (crlf ++ body ++ tail).drop 2 = body ++ tail := by intro tail; simp [crlf]
        simp only [parseHeaders, if_pos more, skip, here, there, dropped, left]
        exact ih after _ _ rest (header_line_local _ _ eol req req' here there sameLine same)

-- The text up to and including the first blank line.
def IsRequest (text : Bytes) : Prop := 0 ∉ text ∧ ∃ front, text = front ++ crlf ++ crlf ∧ findSub (crlf ++ crlf) text = some front.length

theorem parse_request_local (text behind other : Bytes) (request : IsRequest text) :
    (parseRtspRequest (text ++ behind) text.length).forget = (parseRtspRequest (text ++ other) text.length).forget := by
  obtain ⟨_, front, split, _⟩ := request
  obtain ⟨line, bound, found⟩ := find_sub_infix crlf front crlf
  rw [← split] at found
  obtain ⟨body, whole, _⟩ := find_sub_split crlf text line found
  have total : text.length = front.length + 4 := by simp [split, crlf]
  have size : (text.take line).length = line := by
    rw [List.length_take]
    omega
  have rest : body = (front ++ crlf).drop (line + 2) ++ crlf := by
    have fromWhole : text.drop (line + 2) = body := by
      conv => lhs; rw [whole]
      rw [List.drop_append_of_le_length (by simp [size, crlf]), List.drop_of_length_le (by simp [size, crlf])]
      rfl
    have fromSplit : text.drop (line + 2) = (front ++ crlf).drop (line + 2) ++ crlf := by
      conv => lhs; rw [split]
      rw [List.drop_append_of_le_length (by simp [crlf]; omega)]
    exact fromWhole.symm.trans fromSplit
  have lines : Lines body := Or.inr ⟨_, rest⟩
  have dropped : ∀ tail, (text ++ tail).drop line = crlf ++ body ++ tail := by
    intro tail
    conv => lhs; rw [whole]
    rw [List.append_assoc, List.append_assoc, List.drop_append, size]
    simp [crlf]
  have left : text.length - line = 2 + body.length := by
    have lengths := congrArg List.length whole
    simp only [List.length_append, size, crlf, List.length_cons, List.length_nil] at lengths
    omega
  simp only [parseRtspRequest, List.take_left, find_sub_append crlf text _ line found, dropped, left]
  split
  · rfl
  · split
    · rfl
    · exact parse_headers_local text.length body behind other _ _ lines rfl

def forgetCseq : Out → Out
  | .reply conn reply => .reply conn { reply with cseq := 0 }
  | other => other

-- Two handler results that differ at most in the CSeq they echo.
def Alike (left right : Device × RtspClient × List Out) : Prop :=
  left.1 = right.1 ∧ left.2.1 = right.2.1 ∧ left.2.2.map forgetCseq = right.2.2.map forgetCseq

theorem finish_setup_alike (w : World) (d : Device) (cli : RtspClient) (req : RtspReq) (cseq : Int) (track : Track)
    (transport : Transport) :
    Alike (finishSetup w d cli { req with cseq } track transport) (finishSetup w d cli req track transport) := by
  unfold finishSetup
  cases cli.sessionId with
  | none => exact ⟨rfl, rfl, rfl⟩
  | some _ => exact ⟨rfl, rfl, rfl⟩

theorem setup_tcp_alike (w : World) (d : Device) (cli : RtspClient) (req : RtspReq) (cseq : Int) (flags : TrackFlags) :
    Alike (setupTcp w d cli { req with cseq } flags) (setupTcp w d cli req flags) := by
  unfold setupTcp
  dsimp only
  split
  · exact finish_setup_alike ..
  · split
    · exact finish_setup_alike ..
    · exact finish_setup_alike ..

theorem setup_udp_track_alike (w : World) (d : Device) (cli : RtspClient) (req : RtspReq) (cseq : Int) (track : Track)
    (old : RtpTrack) (write : RtpTrack → RtspClient) (ports : UInt16 × UInt16) :
    Alike (setupUdpTrack w d cli { req with cseq } track old write ports) (setupUdpTrack w d cli req track old write ports) := by
  unfold setupUdpTrack
  split
  · exact ⟨rfl, rfl, rfl⟩
  · exact finish_setup_alike ..

theorem handle_setup_alike (w : World) (d : Device) (cli : RtspClient) (req : RtspReq) (cseq : Int) :
    Alike (handleSetup w d cli { req with cseq }) (handleSetup w d cli req) := by
  unfold handleSetup setupUdp
  dsimp only
  split
  · exact setup_tcp_alike ..
  · split
    · exact ⟨rfl, rfl, rfl⟩
    · split
      · exact ⟨rfl, rfl, rfl⟩
      · split
        · exact ⟨rfl, rfl, rfl⟩
        · split
          · exact setup_udp_track_alike ..
          · exact setup_udp_track_alike ..

theorem handle_play_alike (w : World) (d : Device) (cli : RtspClient) (req : RtspReq) (cseq : Int) :
    Alike (handlePlay w d cli { req with cseq }) (handlePlay w d cli req) := by
  unfold handlePlay
  split
  · exact ⟨rfl, rfl, rfl⟩
  · exact ⟨rfl, rfl, rfl⟩

theorem handle_method_alike (w : World) (d : Device) (cli : RtspClient) (req : RtspReq) (cseq : Int) :
    (handleMethod w d cli { req with cseq }).1 = (handleMethod w d cli req).1 ∧
      (handleMethod w d cli { req with cseq }).2.map forgetCseq = (handleMethod w d cli req).2.map forgetCseq := by
  obtain ⟨setupDevice, setupClient, setupOuts⟩ := handle_setup_alike w d cli req cseq
  obtain ⟨playDevice, playClient, playOuts⟩ := handle_play_alike w d cli req cseq
  unfold handleMethod
  split
  · exact ⟨rfl, rfl⟩
  split
  · simp [handleDescribe, forgetCseq, rtspReply]
  split
  · exact ⟨congrArg₂ Device.put setupDevice setupClient, setupOuts⟩
  split
  · exact ⟨congrArg₂ Device.put playDevice playClient, playOuts⟩
  split
  · exact ⟨rfl, rfl⟩
  split
  · exact ⟨rfl, rfl⟩
  · exact ⟨rfl, rfl⟩

theorem dispatch_local (w : World) (d : Device) (cli : RtspClient) (text behind other : Bytes) (request : IsRequest text) :
    (dispatchRtsp w d cli (text ++ behind) text.length).1 = (dispatchRtsp w d cli (text ++ other) text.length).1 ∧
      (dispatchRtsp w d cli (text ++ behind) text.length).2.map forgetCseq =
        (dispatchRtsp w d cli (text ++ other) text.length).2.map forgetCseq := by
  have same := parse_request_local text behind other request
  generalize hreq : parseRtspRequest (text ++ other) text.length = req at same
  have shape : parseRtspRequest (text ++ behind) text.length =
      { req with cseq := (parseRtspRequest (text ++ behind) text.length).cseq } := by
    obtain ⟨method, uri, transport, session, authorization⟩ := forget_fields _ _ same
    generalize parseRtspRequest (text ++ behind) text.length = parsed at *
    cases parsed
    simp_all
  generalize (parseRtspRequest (text ++ behind) text.length).cseq = cseq at shape
  unfold dispatchRtsp
  rw [shape, hreq]
  dsimp only
  have checked : authCheck w d { req with cseq } = authCheck w d req := rfl
  rw [checked, List.take_left, List.take_left]
  split
  · split
    · obtain ⟨device, outs⟩ := handle_method_alike w (authCheck w d req).1 cli req cseq
      exact ⟨device, by simp only [List.map_cons, outs]⟩
    · exact ⟨rfl, rfl⟩
  · obtain ⟨device, outs⟩ := handle_method_alike w d cli req cseq
    exact ⟨device, by simp only [List.map_cons, outs]⟩

end Intercom
