import Intercom.Lib.Headers
import Intercom.Rtsp.Wire

set_option autoImplicit false

/- What parse_rtsp_request makes of a request line and its headers. -/
namespace Intercom

open ByteText

theorem header_line_keeps (line : Bytes) (eol : Nat) (req : RtspReq) :
    (parseHeaderLine line eol req).method = req.method ∧ (parseHeaderLine line eol req).uri = req.uri := by
  rw [parseHeaderLine]
  split
  · exact ⟨rfl, rfl⟩
  · split
    · exact ⟨rfl, rfl⟩
    · split
      · exact ⟨rfl, rfl⟩
      · split <;> exact ⟨rfl, rfl⟩

-- The request line is read before the headers, and no header changes it.
theorem parse_headers_keeps (fuel : Nat) (text : Bytes) (left : Nat) (req : RtspReq) :
    (parseHeaders fuel text left req).method = req.method ∧ (parseHeaders fuel text left req).uri = req.uri := by
  induction fuel generalizing text left req with
  | zero => exact ⟨rfl, rfl⟩
  | succ fuel ih =>
      rw [parseHeaders]
      split
      · dsimp only
        split
        · exact ⟨rfl, rfl⟩
        · rename_i eol _
          have line := header_line_keeps (text.drop 2) eol req
          have rest := ih ((text.drop 2).drop eol) (left - 2 - eol) (parseHeaderLine (text.drop 2) eol req)
          exact ⟨rest.1.trans line.1, rest.2.trans line.2⟩
      · exact ⟨rfl, rfl⟩

-- The URI ends at the second space of the request and at 255 bytes.
theorem parsed_uri (buf : Bytes) (len : Nat) : (parseRtspRequest buf len).uri.length ≤ 255 ∧ 32 ∉ (parseRtspRequest buf len).uri := by
  have empty : ∀ req : RtspReq, req.uri = [] → req.uri.length ≤ 255 ∧ 32 ∉ req.uri := by
    intro req none
    rw [none]
    exact ⟨Nat.zero_le _, List.not_mem_nil⟩
  rw [parseRtspRequest]
  dsimp only
  cases first : memchr 32 (buf.take len) with
  | none => exact empty _ rfl
  | some sp1 =>
      dsimp only
      cases second : memchr 32 ((buf.take len).drop (sp1 + 1)) with
      | none => exact empty _ rfl
      | some sp2 =>
          have cut : ∀ req : RtspReq, req.uri = (((buf.take len).drop (sp1 + 1)).take sp2).take 255 →
              req.uri.length ≤ 255 ∧ 32 ∉ req.uri := by
            intro req same
            rw [same]
            refine ⟨?_, fun member => memchr_absent 32 _ sp2 second (List.mem_of_mem_take member)⟩
            rw [List.length_take]
            exact Nat.min_le_left _ _
          dsimp only
          split
          · exact cut _ rfl
          · exact cut _ (parse_headers_keeps _ _ _ _).2

theorem parsed_method (buf method rest : Bytes) (len : Nat) (split : buf.take len = method ++ 32 :: rest) (spaceless : 32 ∉ method)
    (short : method.length ≤ 15) : (parseRtspRequest buf len).method = method := by
  have taken : ((method ++ 32 :: rest).take method.length).take 15 = method := by
    rw [List.take_left, List.take_of_length_le short]
  rw [parseRtspRequest]
  dsimp only
  rw [split, memchr_first 32 method rest spaceless]
  dsimp only
  rw [taken]
  split
  · rfl
  · split
    · rfl
    · exact (parse_headers_keeps _ _ _ _).1

theorem parse_headers_line (fuel : Nat) (line rest : Bytes) (req : RtspReq) (clean : Unbroken line) :
    parseHeaders (fuel + 1) (crlf ++ (line ++ crlf ++ rest)) (2 + (line ++ crlf ++ rest).length) req =
      parseHeaders fuel (crlf ++ rest) (2 + rest.length) (parseHeaderLine (line ++ crlf ++ rest) line.length req) := by
  have width : crlf.length = 2 := rfl
  have size : (line ++ crlf ++ rest).length = line.length + 2 + rest.length := by
    rw [List.length_append, List.length_append, width]
  have skip : (crlf ++ (line ++ crlf ++ rest)).drop 2 = line ++ crlf ++ rest := rfl
  have behind : (line ++ crlf ++ rest).drop line.length = crlf ++ rest := by rw [List.append_assoc, List.drop_left]
  have left : 2 + (line.length + 2 + rest.length) - 2 - line.length = 2 + rest.length := by omega
  rw [parseHeaders, if_pos (by omega), skip]
  dsimp only
  rw [find_line_end line rest clean]
  dsimp only
  rw [behind, size, left]

theorem header_line_other (line rest : Bytes) (req : RtspReq) (clean : Unbroken line)
    (other : casePrefix (ascii "Authorization:") line = false) :
    (parseHeaderLine (line ++ crlf ++ rest) line.length req).authorization = req.authorization := by
  have same := case_prefix_line (ascii "Authorization:") _ line.length (find_line_end line rest clean) (by decide)
  have front : (line ++ crlf ++ rest).take line.length = line := by rw [List.append_assoc, List.take_left]
  rw [front, other] at same
  rw [parseHeaderLine, same]
  split
  · rfl
  · split
    · rfl
    · split <;> rfl

theorem header_line_authorization (value rest : Bytes) (req : RtspReq) (none : req.authorization = []) (spaceless : value.head? ≠ some 32)
    (short : value.length ≤ 511) :
    (parseHeaderLine ((ascii "Authorization: " ++ value) ++ crlf ++ rest) (ascii "Authorization: " ++ value).length req).authorization =
      value := by
  have front : ((ascii "Authorization: " ++ value) ++ crlf ++ rest).take (ascii "Authorization: " ++ value).length =
      ascii "Authorization: " ++ value := by rw [List.append_assoc, List.take_left]
  have dropped : (ascii "Authorization: " ++ value).drop 14 = 32 :: value := rfl
  have trimmed : (32 :: value).dropWhile (· == 32) = value := by
    cases value with
    | nil => rfl
    | cons head tail =>
        have other : head ≠ 32 := fun same => spaceless (by rw [same]; rfl)
        simp [other]
  have cseq : casePrefix (ascii "CSeq:") ((ascii "Authorization: " ++ value) ++ crlf ++ rest) = false := rfl
  have transport : casePrefix (ascii "Transport:") ((ascii "Authorization: " ++ value) ++ crlf ++ rest) = false := rfl
  have session : casePrefix (ascii "Session:") ((ascii "Authorization: " ++ value) ++ crlf ++ rest) = false := rfl
  have authorization : casePrefix (ascii "Authorization:") ((ascii "Authorization: " ++ value) ++ crlf ++ rest) = true := rfl
  have kept : value.take (512 - 1) = value := List.take_of_length_le short
  rw [parseHeaderLine, cseq, transport, session, authorization]
  simp only [Bool.false_eq_true, if_false, if_true]
  rw [copyValue, front, dropped, trimmed, kept, none, overlay, List.drop_nil, List.append_nil]

-- Lines without an Authorization header leave the field alone, the blank line too.
theorem parse_headers_others (fuel : Nat) (lines : List Bytes) (req : RtspReq)
    (each : ∀ line ∈ lines, Unbroken line ∧ casePrefix (ascii "Authorization:") line = false) :
    (parseHeaders fuel (crlf ++ (linesText lines ++ crlf)) (2 + (linesText lines ++ crlf).length) req).authorization =
      req.authorization := by
  induction lines generalizing fuel req with
  | nil =>
      cases fuel with
      | zero => rfl
      | succ fuel =>
          have blank := parse_headers_line fuel [] [] req unbroken_nil
          change (parseHeaders (fuel + 1) (crlf ++ ([] ++ crlf ++ [])) (2 + ([] ++ crlf ++ [] : Bytes).length) req).authorization = _
          rw [blank]
          cases fuel with
          | zero => rfl
          | succ fuel => rfl
  | cons line rest ih =>
      obtain ⟨clean, other⟩ := each line List.mem_cons_self
      cases fuel with
      | zero => rfl
      | succ fuel =>
          rw [lines_text_cons, parse_headers_line fuel line _ req clean]
          rw [ih fuel _ fun later member => each later (List.mem_cons_of_mem line member)]
          exact header_line_other line _ req clean other

theorem parse_headers_authorization (fuel : Nat) (before after : List Bytes) (value : Bytes) (req : RtspReq)
    (enough : before.length < fuel) (none : req.authorization = []) (clean : Unbroken value) (spaceless : value.head? ≠ some 32)
    (short : value.length ≤ 511) (each : ∀ line ∈ before ++ after, Unbroken line ∧ casePrefix (ascii "Authorization:") line = false) :
    (parseHeaders fuel (crlf ++ (linesText (before ++ (ascii "Authorization: " ++ value) :: after) ++ crlf))
      (2 + (linesText (before ++ (ascii "Authorization: " ++ value) :: after) ++ crlf).length) req).authorization = value := by
  induction before generalizing fuel req with
  | nil =>
      cases fuel with
      | zero => cases enough
      | succ fuel =>
          have line : Unbroken (ascii "Authorization: " ++ value) := unbroken_append _ _ (by decide) clean
          rw [List.nil_append, lines_text_cons, parse_headers_line fuel _ _ req line]
          rw [parse_headers_others fuel after _ each]
          exact header_line_authorization value _ req none spaceless short
  | cons line rest ih =>
      obtain ⟨plain, other⟩ := each line List.mem_cons_self
      cases fuel with
      | zero => cases enough
      | succ fuel =>
          rw [List.cons_append, lines_text_cons, parse_headers_line fuel line _ req plain]
          apply ih fuel _ (Nat.lt_of_succ_lt_succ enough)
          · rw [header_line_other line _ req plain other]
            exact none
          · exact fun later member => each later (List.mem_cons_of_mem line member)

def requestLine (method uri : Bytes) : Bytes := method ++ 32 :: (uri ++ ascii " RTSP/1.0")

theorem lines_text_count (lines : List Bytes) : lines.length ≤ (linesText lines).length := by
  induction lines with
  | nil => exact Nat.zero_le _
  | cons line others ih =>
      have whole := congrArg List.length (lines_text_cons line others [])
      have width : crlf.length = 2 := rfl
      simp only [List.length_append, List.length_nil, width] at whole
      rw [List.length_cons]
      omega

theorem parsed_request_line (method uri rest request : Bytes) (methodPlain : 32 ∉ method) (methodShort : method.length ≤ 15)
    (uriPlain : 32 ∉ uri) (uriShort : uri.length ≤ 255) (clean : Unbroken (requestLine method uri))
    (shape : request = requestLine method uri ++ crlf ++ rest) :
    parseRtspRequest request request.length =
      parseHeaders request.length (crlf ++ rest) (2 + rest.length) { method := method, uri := uri } := by
  have width : crlf.length = 2 := rfl
  have space : ascii " RTSP/1.0" = 32 :: ascii "RTSP/1.0" := rfl
  have size : request.length = (requestLine method uri).length + (2 + rest.length) := by
    rw [shape, List.length_append, List.length_append, width, Nat.add_assoc]
  have split : request = method ++ 32 :: (uri ++ 32 :: (ascii "RTSP/1.0" ++ crlf ++ rest)) := by
    rw [shape, requestLine, space]
    simp
  have behind : request.drop (method.length + 1) = uri ++ 32 :: (ascii "RTSP/1.0" ++ crlf ++ rest) := by
    rw [split, List.drop_append, List.drop_of_length_le (Nat.le_succ _), Nat.add_sub_cancel_left, List.nil_append, List.drop_succ_cons,
      List.drop_zero]
  have methodTaken : (request.take method.length).take 15 = method := by
    rw [split, List.take_left, List.take_of_length_le methodShort]
  have uriTaken : ((uri ++ 32 :: (ascii "RTSP/1.0" ++ crlf ++ rest)).take uri.length).take 255 = uri := by
    rw [List.take_left, List.take_of_length_le uriShort]
  have first : memchr 32 request = some method.length := by
    rw [split]
    exact memchr_first 32 method _ methodPlain
  have lineEnd : findSub crlf request = some (requestLine method uri).length := by
    rw [shape]
    exact find_line_end _ rest clean
  have headers : request.drop (requestLine method uri).length = crlf ++ rest := by
    rw [shape, List.append_assoc, List.drop_left]
  rw [parseRtspRequest, List.take_length]
  dsimp only
  rw [first]
  dsimp only
  rw [behind, memchr_first 32 uri _ uriPlain]
  dsimp only
  rw [methodTaken, uriTaken, lineEnd]
  dsimp only
  rw [headers, size, Nat.add_sub_cancel_left]

theorem request_line_unbroken (method uri : Bytes) (methodClean : Unbroken method) (uriClean : Unbroken uri) :
    Unbroken (requestLine method uri) := by
  apply unbroken_append _ _ methodClean
  rw [unbroken_cons]
  exact ⟨by decide, unbroken_append _ _ uriClean (by decide)⟩

theorem parsed_request (method uri value : Bytes) (before after : List Bytes) (methodPlain : 32 ∉ method) (methodShort : method.length ≤ 15)
    (methodClean : Unbroken method) (uriPlain : 32 ∉ uri) (uriShort : uri.length ≤ 255) (uriClean : Unbroken uri) (clean : Unbroken value)
    (spaceless : value.head? ≠ some 32) (short : value.length ≤ 511)
    (each : ∀ line ∈ before ++ after, Unbroken line ∧ casePrefix (ascii "Authorization:") line = false)
    (request : Bytes) (shape : request = linesText (requestLine method uri :: (before ++ (ascii "Authorization: " ++ value) :: after)) ++ crlf) :
    (parseRtspRequest request request.length).method = method ∧ (parseRtspRequest request request.length).uri = uri ∧
      (parseRtspRequest request request.length).authorization = value := by
  rw [lines_text_cons] at shape
  have enough : before.length < request.length := by
    have count := lines_text_count before
    have part : (linesText before).length ≤ (linesText (before ++ (ascii "Authorization: " ++ value) :: after) ++ crlf).length := by
      rw [lines_text_append, List.length_append, List.length_append]
      omega
    rw [shape, List.length_append, List.length_append, show crlf.length = 2 from rfl]
    omega
  rw [parsed_request_line method uri _ request methodPlain methodShort uriPlain uriShort
    (request_line_unbroken method uri methodClean uriClean) shape]
  generalize request.length = fuel at enough
  obtain ⟨methodKept, uriKept⟩ := parse_headers_keeps fuel
    (crlf ++ (linesText (before ++ (ascii "Authorization: " ++ value) :: after) ++ crlf))
    (2 + (linesText (before ++ (ascii "Authorization: " ++ value) :: after) ++ crlf).length) { method := method, uri := uri }
  exact ⟨methodKept, uriKept, parse_headers_authorization fuel before after value _ enough rfl clean spaceless short each⟩

end Intercom
