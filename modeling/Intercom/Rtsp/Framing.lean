import Intercom.Lib.Headers
import Intercom.Rtsp.Replies

set_option autoImplicit false

/- The text of a reply as a message of CRLF lines. The URI of the request is the only foreign text in it, and
   only DESCRIBE and PLAY print it. -/
namespace Intercom

open ByteText

def replyHeaders : List Bytes :=
  [ascii "CSeq", ascii "Session", ascii "Public", ascii "Content-Type", ascii "Content-Base", ascii "Transport",
    ascii "Range", ascii "RTP-Info", ascii "WWW-Authenticate", ascii "Content-Length"]

-- The lines that rtsp_reply prints around extra_hdrs.
def Reply.status (reply : Reply) : Bytes := ascii "RTSP/1.0 " ++ decimal reply.code ++ ascii " " ++ reply.reason

def Reply.leading (reply : Reply) : List Header :=
  ⟨ascii "CSeq", signed reply.cseq⟩ ::
    (reply.session.map fun id => Header.mk (ascii "Session") (hex8 false id ++ ascii ";timeout=60")).toList

def Reply.closing (reply : Reply) : List Header :=
  if reply.body = [] then [] else [⟨contentLength, decimal reply.body.length⟩]

-- The names of the lines that each handler means to add.
def Extra.names : Extra → List Bytes
  | .none => []
  | .methods => [ascii "Public"]
  | .description _ => [ascii "Content-Type", ascii "Content-Base"]
  | .setup _ _ => [ascii "Transport"]
  | .rtpInfo _ _ _ _ _ _ => [ascii "Range", ascii "RTP-Info"]
  | .challenge _ => [ascii "WWW-Authenticate"]

def Reply.headerNames (reply : Reply) : List Bytes :=
  reply.leading.map Header.name ++ reply.extra.names ++ reply.closing.map Header.name

-- One response, with the header lines the server means to send and no others.
def Reply.Framed (reply : Reply) : Prop :=
  ∃ message : Message, message.Sound replyHeaders ∧ message.start = reply.status ∧
    message.headers.map Header.name = reply.headerNames ∧ reply.text = message.bytes

theorem reply_text_lines (reply : Reply) :
    reply.text = linesText (reply.status :: reply.leading.map Header.line) ++
      (reply.extra.text ++ (linesText (reply.closing.map Header.line) ++ crlf ++ reply.body)) := by
  have cseq : ascii "CSeq: " = ascii "CSeq" ++ ascii ": " := rfl
  have session : ascii "Session: " = ascii "Session" ++ ascii ": " := rfl
  have timeout : ascii ";timeout=60\r\n" = ascii ";timeout=60" ++ crlf := rfl
  have length : ascii "Content-Length: " = contentLength ++ ascii ": " := rfl
  rw [Reply.text, Reply.status, Reply.leading, Reply.closing, cseq, session, timeout, length]
  cases reply.session with
  | none =>
      by_cases empty : reply.body = []
      · simp [linesText, Header.line, empty]
      · simp [linesText, Header.line, empty]
  | some id =>
      by_cases empty : reply.body = []
      · simp [linesText, Header.line, empty]
      · simp [linesText, Header.line, empty]

theorem header_unbroken (name value : Bytes) (clean : Unbroken name) (plain : Unbroken value) : Unbroken (Header.mk name value).line :=
  unbroken_append _ _ (unbroken_append _ _ clean (by decide)) plain

theorem leading_lines (reply : Reply) : ∀ header ∈ reply.leading,
    header.name ∈ [ascii "CSeq", ascii "Session"] ∧ Unbroken header.line := by
  intro header member
  rw [Reply.leading] at member
  rcases List.mem_cons.mp member with rfl | later
  · exact ⟨List.mem_cons_self, header_unbroken (ascii "CSeq") _ (by decide) (signed_unbroken _)⟩
  · obtain ⟨id, _, rfl⟩ := Option.map_eq_some_iff.mp (Option.mem_toList.mp later)
    exact ⟨by simp, header_unbroken (ascii "Session") _ (by decide) (unbroken_append _ _ (hex8_unbroken false id) (by decide))⟩

theorem closing_lines (reply : Reply) : ∀ header ∈ reply.closing,
    header = ⟨contentLength, decimal reply.body.length⟩ ∧ reply.body ≠ [] := by
  intro header member
  rw [Reply.closing] at member
  split at member
  · exact absurd member List.not_mem_nil
  · rename_i filled
    exact ⟨List.mem_singleton.mp member, filled⟩

theorem status_unbroken (reply : Reply) (reason : Unbroken reply.reason) : Unbroken reply.status :=
  unbroken_append _ _ (unbroken_append _ _ (unbroken_append _ _ (by decide) (decimal_unbroken _)) (by decide)) reason

theorem extra_names (extra : Extra) : ∀ name ∈ extra.names, name ∈ replyHeaders ∧ name ≠ contentLength ∧ Unbroken name := by
  cases extra with
  | none => decide
  | methods => simp only [Extra.names]; decide
  | description uri => simp only [Extra.names]; decide
  | setup track transport => simp only [Extra.names]; decide
  | rtpInfo => simp only [Extra.names]; decide
  | challenge nonce => simp only [Extra.names]; decide

-- A reply is framed as soon as its extra_hdrs are the lines they are meant to be.
theorem framed_of_lines (reply : Reply) (reason : Unbroken reply.reason) (lines : List Header)
    (names : lines.map Header.name = reply.extra.names) (values : ∀ header ∈ lines, Unbroken header.value)
    (text : reply.extra.text = linesText (lines.map Header.line)) : reply.Framed := by
  have named : ∀ header ∈ lines, header.name ∈ replyHeaders ∧ header.name ≠ contentLength ∧ Unbroken header.name := by
    intro header member
    apply extra_names reply.extra
    rw [← names]
    exact List.mem_map_of_mem member
  have ahead : ∀ header ∈ reply.leading ++ lines, header.name ≠ contentLength := by
    intro header member
    rcases List.mem_append.mp member with first | later
    · intro same
      have among := (leading_lines reply header first).1
      rw [same] at among
      exact absurd among (by decide)
    · exact (named header later).2.1
  refine ⟨⟨reply.status, reply.leading ++ lines ++ reply.closing, reply.body⟩,
    ⟨status_unbroken reply reason, ?_, ?_, ?_⟩, rfl, ?_, ?_⟩
  · intro header member
    rcases List.mem_append.mp member with before | last
    · rcases List.mem_append.mp before with first | later
      · have among := (leading_lines reply header first).1
        exact List.mem_of_mem_take (i := 2) among
      · exact (named header later).1
    · rw [(closing_lines reply header last).1]
      have listed : contentLength ∈ replyHeaders := by decide
      exact listed
  · intro header member
    rcases List.mem_append.mp member with before | last
    · rcases List.mem_append.mp before with first | later
      · exact (leading_lines reply header first).2
      · exact header_unbroken header.name header.value (named header later).2.2 (values header later)
    · rw [(closing_lines reply header last).1]
      exact header_unbroken contentLength _ (by decide) (decimal_unbroken _)
  · have none : (reply.leading ++ lines).find? (fun header => header.name == contentLength) = none := by
      rw [List.find?_eq_none]
      intro header member
      simpa using ahead header member
    rw [Delimits, List.find?_append, none, Option.none_or, Reply.closing]
    by_cases empty : reply.body = []
    · rw [if_pos empty]
      exact empty
    · rw [if_neg empty]
      rfl
  · rw [Reply.headerNames, List.map_append, List.map_append, names]
  · rw [reply_text_lines, text, Message.bytes]
    simp only [List.map_append, ← List.cons_append, lines_text_append, List.append_assoc]

-- What is left of a framed reply behind the lines that rtsp_reply prints first.
theorem framed_rest (reply : Reply) (reason : Unbroken reply.reason) (framed : reply.Framed) :
    ∃ (lines : List Header) (body : Bytes), lines.map Header.name = reply.extra.names ++ reply.closing.map Header.name ∧
      (∀ header ∈ lines, Unbroken header.line) ∧ Delimits lines body ∧
      reply.extra.text ++ (linesText (reply.closing.map Header.line) ++ crlf ++ reply.body) =
        linesText (lines.map Header.line) ++ (crlf ++ body) := by
  obtain ⟨message, sound, start, names, text⟩ := framed
  rw [Reply.headerNames, List.append_assoc] at names
  obtain ⟨first, lines, split, firstNames, linesNames⟩ := List.map_eq_append_iff.mp names
  have unbroken := sound.unbroken
  rw [split] at unbroken
  have same : linesText (reply.status :: reply.leading.map Header.line) ++
      (reply.extra.text ++ (linesText (reply.closing.map Header.line) ++ crlf ++ reply.body)) =
        linesText (message.start :: first.map Header.line) ++ (linesText (lines.map Header.line) ++ (crlf ++ message.body)) := by
    rw [← reply_text_lines, text, Message.bytes, split]
    simp only [List.map_append, ← List.cons_append, lines_text_append, List.append_assoc]
  have count : (reply.status :: reply.leading.map Header.line).length = (message.start :: first.map Header.line).length := by
    have lengths := congrArg List.length firstNames
    simpa using lengths.symm
  have ours := start_and_headers reply.status reply.leading (status_unbroken reply reason)
    fun header member => (leading_lines reply header member).2
  have theirs := start_and_headers message.start first sound.start
    fun header member => unbroken header (List.mem_append_left lines member)
  have rest := (lines_cancel _ _ _ _ count ours theirs same).2
  refine ⟨lines, message.body, linesNames, fun header member => unbroken header (List.mem_append_right first member), ?_, rest⟩
  have none : first.find? (fun header => header.name == contentLength) = none := by
    rw [List.find?_eq_none]
    intro header member
    have among : header.name ∈ reply.leading.map Header.name := by
      rw [← firstNames]
      exact List.mem_map_of_mem member
    obtain ⟨own, present, sameName⟩ := List.mem_map.mp among
    have other := (leading_lines reply own present).1
    rw [sameName] at other
    intro hit
    rw [eq_of_beq hit] at other
    exact absurd other (by decide)
  have delimited := sound.delimited
  rw [split, Delimits, List.find?_append, none, Option.none_or] at delimited
  exact delimited

theorem hex8_length (upper : Bool) (value : UInt32) : (hex8 upper value).length = 8 := by
  rw [hex8, List.length_map, List.length_range]

theorem byte_digits (value : UInt8) : (decimal value.toNat).length ≤ 3 :=
  decimal_length value.toNat 2 (Nat.lt_of_lt_of_le value.toNat_lt (by decide))

theorem port_digits (value : UInt16) : (decimal value.toNat).length ≤ 5 ∧ (decimal (value.toNat + 1)).length ≤ 5 := by
  have below : value.toNat < 65536 := value.toNat_lt
  exact ⟨decimal_length value.toNat 4 (by omega), decimal_length (value.toNat + 1) 4 (by omega)⟩

def Transport.value : Transport → Bytes
  | .tcp rtp rtcp (some ssrc) => ascii "RTP/AVP/TCP;unicast;interleaved=" ++ decimal rtp.toNat ++ ascii "-" ++
      decimal rtcp.toNat ++ ascii ";ssrc=" ++ hex8 true ssrc
  | .tcp rtp rtcp none => ascii "RTP/AVP/TCP;unicast;interleaved=" ++ decimal rtp.toNat ++ ascii "-" ++ decimal rtcp.toNat
  | .udp clientRtp clientRtcp serverPort ssrc => ascii "RTP/AVP;unicast;client_port=" ++ decimal clientRtp.toNat ++ ascii "-" ++
      decimal clientRtcp.toNat ++ ascii ";server_port=" ++ decimal serverPort.toNat ++ ascii "-" ++
      decimal (serverPort.toNat + 1) ++ ascii ";ssrc=" ++ hex8 true ssrc

theorem transport_text (transport : Transport) :
    transport.text = linesText [(Header.mk (ascii "Transport") transport.value).line] := by
  have tcp : ascii "Transport: RTP/AVP/TCP;unicast;interleaved=" =
      ascii "Transport" ++ (ascii ": " ++ ascii "RTP/AVP/TCP;unicast;interleaved=") := rfl
  have udp : ascii "Transport: RTP/AVP;unicast;client_port=" =
      ascii "Transport" ++ (ascii ": " ++ ascii "RTP/AVP;unicast;client_port=") := rfl
  have widths : (ascii "Transport: RTP/AVP/TCP;unicast;interleaved=").length = 43 ∧
      (ascii "Transport: RTP/AVP;unicast;client_port=").length = 39 ∧ (ascii "-").length = 1 ∧
      (ascii ";ssrc=").length = 6 ∧ (ascii ";server_port=").length = 13 ∧ crlf.length = 2 := by decide
  cases transport with
  | tcp rtp rtcp ssrc =>
      have first := byte_digits rtp
      have second := byte_digits rtcp
      cases ssrc with
      | none =>
          rw [Transport.text, snprintf_whole]
          · simp [linesText, Header.line, Transport.value, tcp]
          · simp only [List.flatten_cons, List.flatten_nil, List.length_append, List.length_nil]
            omega
      | some ssrc =>
          have id := hex8_length true ssrc
          rw [Transport.text, snprintf_whole]
          · simp [linesText, Header.line, Transport.value, tcp]
          · simp only [List.flatten_cons, List.flatten_nil, List.length_append, List.length_nil]
            omega
  | udp clientRtp clientRtcp serverPort ssrc =>
      have first := port_digits clientRtp
      have second := port_digits clientRtcp
      have third := port_digits serverPort
      have id := hex8_length true ssrc
      rw [Transport.text, snprintf_whole]
      · simp [linesText, Header.line, Transport.value, udp]
      · simp only [List.flatten_cons, List.flatten_nil, List.length_append, List.length_nil]
        omega

theorem transport_unbroken (transport : Transport) : Unbroken transport.value := by
  have hyphen : Unbroken (ascii "-") := by decide
  have ssrcName : Unbroken (ascii ";ssrc=") := by decide
  cases transport with
  | tcp rtp rtcp ssrc =>
      have channels : Unbroken (Transport.tcp rtp rtcp none).value := by
        apply unbroken_append _ _ _ (decimal_unbroken _)
        apply unbroken_append _ _ _ hyphen
        exact unbroken_append _ _ (by decide) (decimal_unbroken _)
      cases ssrc with
      | none => exact channels
      | some ssrc =>
          apply unbroken_append _ _ _ (hex8_unbroken true ssrc)
          exact unbroken_append _ _ channels ssrcName
  | udp clientRtp clientRtcp serverPort ssrc =>
      apply unbroken_append _ _ _ (hex8_unbroken true ssrc)
      apply unbroken_append _ _ _ ssrcName
      apply unbroken_append _ _ _ (decimal_unbroken _)
      apply unbroken_append _ _ _ hyphen
      apply unbroken_append _ _ _ (decimal_unbroken _)
      apply unbroken_append _ _ _ (by decide)
      apply unbroken_append _ _ _ (decimal_unbroken _)
      apply unbroken_append _ _ _ hyphen
      exact unbroken_append _ _ (by decide) (decimal_unbroken _)

theorem setup_framed (reply : Reply) (reason : Unbroken reply.reason) (track : Track) (transport : Transport)
    (extra : reply.extra = .setup track transport) : reply.Framed := by
  apply framed_of_lines reply reason [⟨ascii "Transport", transport.value⟩]
  · rw [extra]
    rfl
  · intro header member
    rw [List.mem_singleton.mp member]
    exact transport_unbroken transport
  · rw [extra]
    exact transport_text transport

theorem plain_framed (reply : Reply) (reason : Unbroken reply.reason) (extra : reply.extra = .none) : reply.Framed := by
  apply framed_of_lines reply reason []
  · rw [extra]
    rfl
  · exact fun _ member => absurd member List.not_mem_nil
  · rw [extra]
    rfl

theorem methods_framed (reply : Reply) (reason : Unbroken reply.reason) (extra : reply.extra = .methods) : reply.Framed := by
  apply framed_of_lines reply reason [⟨ascii "Public", ascii "OPTIONS, DESCRIBE, SETUP, PLAY, TEARDOWN, GET_PARAMETER"⟩]
  · rw [extra]
    rfl
  · decide
  · rw [extra]
    rfl

theorem challenge_framed (reply : Reply) (reason : Unbroken reply.reason) (nonce : Bytes) (extra : reply.extra = .challenge nonce)
    (clean : Unbroken nonce) (short : nonce.length ≤ nonceLen) : reply.Framed := by
  have opening : ascii "WWW-Authenticate: Digest realm=\"" = ascii "WWW-Authenticate" ++ (ascii ": " ++ ascii "Digest realm=\"") := rfl
  have ending : ascii "\"\r\n" = ascii "\"" ++ crlf := rfl
  have widths : (ascii "WWW-Authenticate: Digest realm=\"").length = 32 ∧ realm.length = 17 ∧
      (ascii "\", nonce=\"").length = 10 ∧ (ascii "\"\r\n").length = 3 ∧ nonceLen = 32 := by decide
  apply framed_of_lines reply reason [⟨ascii "WWW-Authenticate",
    ascii "Digest realm=\"" ++ realm ++ ascii "\", nonce=\"" ++ nonce ++ ascii "\""⟩]
  · rw [extra]
    rfl
  · intro header member
    rw [List.mem_singleton.mp member]
    apply unbroken_append _ _ _ (by decide)
    exact unbroken_append _ _ (by decide) clean
  · rw [extra, Extra.text, snprintf_whole]
    · simp [linesText, Header.line, opening, ending]
    · simp only [List.flatten_cons, List.flatten_nil, List.length_append, List.length_nil]
      omega

def typeLine : Header := ⟨ascii "Content-Type", ascii "application/sdp"⟩

theorem description_text (uri : Bytes) (short : uri.length ≤ 255) :
    (Extra.description uri).text = linesText [typeLine.line] ++ (ascii "Content-Base: " ++ uri ++ 47 :: crlf) := by
  have widths : (ascii "Content-Type: application/sdp\r\nContent-Base: ").length = 45 ∧ (ascii "/\r\n").length = 3 := by decide
  have opening : ascii "Content-Type: application/sdp\r\nContent-Base: " = linesText [typeLine.line] ++ ascii "Content-Base: " := rfl
  have ending : ascii "/\r\n" = 47 :: crlf := rfl
  rw [Extra.text, snprintf_whole]
  · simp [opening, ending]
  · simp only [List.flatten_cons, List.flatten_nil, List.length_append, List.length_nil]
    omega

theorem prefix_of_absent (byte : UInt8) (pattern front after behind : Bytes) (absent : byte ∉ pattern)
    (same : front ++ byte :: after = pattern ++ behind) : ∃ rest, front = pattern ++ rest := by
  rcases List.append_eq_append_iff.mp same with ⟨middle, whole, split⟩ | ⟨middle, whole, _⟩
  · cases middle with
    | nil => exact ⟨[], by simpa using whole.symm⟩
    | cons head rest =>
        have hit : byte = head := (List.cons.inj split).1
        exact absurd (by rw [whole, hit]; simp) absent
  · exact ⟨middle, whole⟩

-- A line break in the URI would begin the next line, which then could hold nothing that a URI cannot.
theorem no_line_inside (opening uri after line pattern behind : Bytes) (start : Unbroken opening) (clean : Unbroken line)
    (slashless : 47 ∉ pattern) (foreign : UInt8) (present : foreign ∈ pattern) (absent : foreign ∉ uri)
    (same : opening ++ uri ++ 47 :: after = line ++ crlf ++ (pattern ++ behind)) : Unbroken uri := by
  by_contra broken
  obtain ⟨front, byte, back, plain, breaks, split⟩ := broken_split uri broken
  have aligned : (opening ++ front) ++ byte :: (back ++ 47 :: after) = line ++ 13 :: (10 :: (pattern ++ behind)) := by
    rw [split] at same
    simpa [crlf] using same
  obtain ⟨_, _, rest⟩ := first_break _ _ _ _ _ _ (unbroken_append _ _ start plain) clean breaks (Or.inl rfl) aligned
  have slashless : 47 ∉ 10 :: pattern := by
    intro member
    cases List.mem_cons.mp member with
    | inl same => exact absurd same (by decide)
    | inr later => exact slashless later
  obtain ⟨tail, whole⟩ := prefix_of_absent 47 (10 :: pattern) back after behind slashless rest
  apply absent
  rw [split, whole]
  simp [present]

theorem description_framed_iff (reply : Reply) (reason : Unbroken reply.reason) (uri : Bytes) (extra : reply.extra = .description uri)
    (short : uri.length ≤ 255) (spaceless : 32 ∉ uri) (filled : reply.body ≠ []) : reply.Framed ↔ Unbroken uri := by
  have text := description_text uri short
  constructor
  · intro framed
    obtain ⟨lines, body, names, unbroken, _, same⟩ := framed_rest reply reason framed
    rw [extra, Reply.closing, if_neg filled] at names
    obtain ⟨first, more, rfl, _, moreNames⟩ := List.map_eq_cons_iff.mp names
    obtain ⟨second, last, rfl, _, lastNames⟩ := List.map_eq_cons_iff.mp moreNames
    obtain ⟨third, _, rfl, thirdName, _⟩ := List.map_eq_cons_iff.mp lastNames
    rw [extra, text, List.append_assoc, List.map_cons, lines_text_cons, lines_text_cons] at same
    have base := (line_cancel _ _ _ _ (by decide) (unbroken first List.mem_cons_self) same).2
    have thirdLine : third.line = contentLength ++ ascii ": " ++ third.value := by rw [Header.line, thirdName]
    rw [List.map_cons, lines_text_cons, List.map_cons, lines_text_cons, thirdLine] at base
    simp only [List.append_assoc, List.cons_append] at base
    apply no_line_inside (ascii "Content-Base: ") uri _ second.line (contentLength ++ ascii ": ") _ (by decide)
      (unbroken second (List.mem_cons_of_mem _ List.mem_cons_self)) (by decide) 32 (by decide) spaceless
    simp only [List.append_assoc]
    exact base
  · intro clean
    apply framed_of_lines reply reason [typeLine, ⟨ascii "Content-Base", uri ++ [47]⟩]
    · rw [extra]
      rfl
    · intro header member
      rcases List.mem_cons.mp member with rfl | later
      · decide
      · rw [List.mem_singleton.mp later]
        exact unbroken_append _ _ clean (by decide)
    · rw [extra, text]
      have opening : ascii "Content-Base: " = ascii "Content-Base" ++ ascii ": " := rfl
      simp [linesText, Header.line, opening]

-- Bytes of the Range and RTP-Info lines that PLAY means to send.
def infoSize (uri : Bytes) (videoSeq : UInt16) (videoTs : UInt32) (audioSeq : UInt16) (audioTs : UInt32) (backchannel : Bool) : Nat :=
  let base := (stripSlashes uri).length
  let numbers := (decimal videoSeq.toNat).length + (decimal videoTs.toNat).length + (decimal audioSeq.toNat).length +
    (decimal audioTs.toNat).length
  if backchannel then 3 * base + numbers + 119 else 2 * base + numbers + 88

def rangeLine : Header := ⟨ascii "Range", ascii "npt=0.000-"⟩

def infoMiddle (base : Bytes) (videoSeq : UInt16) (videoTs : UInt32) (audioSeq : UInt16) (audioTs : UInt32) (backchannel : Bool) :
    List Bytes :=
  [decimal videoSeq.toNat, ascii ";rtptime=", decimal videoTs.toNat, ascii ",url=", base, ascii "/trackID=1;seq=",
    decimal audioSeq.toNat, ascii ";rtptime=", decimal audioTs.toNat] ++ if backchannel then [ascii ",url=", base] else []

def infoEnd (backchannel : Bool) : Bytes := if backchannel then ascii "/trackID=2;seq=0;rtptime=0" else []

def infoPieces (base : Bytes) (videoSeq : UInt16) (videoTs : UInt32) (audioSeq : UInt16) (audioTs : UInt32) (backchannel : Bool) :
    List Bytes :=
  (linesText [rangeLine.line] ++ ascii "RTP-Info: url=") :: base :: ascii "/trackID=0;seq=" ::
    (infoMiddle base videoSeq videoTs audioSeq audioTs backchannel ++ [infoEnd backchannel ++ crlf])

theorem strip_slashes_split (uri : Bytes) : ∃ slashes, uri = stripSlashes uri ++ slashes ∧ ∀ byte ∈ slashes, byte = 47 := by
  refine ⟨(uri.reverse.takeWhile (· == 47)).reverse, ?_, ?_⟩
  · rw [stripSlashes, ← List.reverse_append, List.takeWhile_append_dropWhile, List.reverse_reverse]
  · intro byte member
    have slash := List.mem_takeWhile_imp (List.mem_reverse.mp member)
    exact eq_of_beq slash

theorem strip_slashes_unbroken (uri : Bytes) : Unbroken (stripSlashes uri) ↔ Unbroken uri := by
  obtain ⟨slashes, split, each⟩ := strip_slashes_split uri
  have plain : Unbroken slashes := by
    intro byte member
    rw [each byte member]
    decide
  constructor
  · intro clean
    rw [split]
    exact unbroken_append _ _ clean plain
  · intro clean
    rw [split] at clean
    exact unbroken_left _ _ clean

section PlayReply

variable (reply : Reply) (reason : Unbroken reply.reason) (uri : Bytes) (videoSeq : UInt16) (videoTs : UInt32) (audioSeq : UInt16)
  (audioTs : UInt32) (backchannel : Bool) (extra : reply.extra = .rtpInfo uri videoSeq videoTs audioSeq audioTs backchannel)

theorem info_text : (Extra.rtpInfo uri videoSeq videoTs audioSeq audioTs backchannel).text =
    snprintf 512 (infoPieces (stripSlashes uri) videoSeq videoTs audioSeq audioTs backchannel) := by
  cases backchannel with
  | true => rfl
  | false => rfl

theorem info_pieces_size : (infoPieces (stripSlashes uri) videoSeq videoTs audioSeq audioTs backchannel).flatten.length =
    infoSize uri videoSeq videoTs audioSeq audioTs backchannel := by
  have widths : (linesText [rangeLine.line]).length = 19 ∧ (ascii "RTP-Info: url=").length = 14 ∧
      (ascii "/trackID=0;seq=").length = 15 ∧ (ascii ";rtptime=").length = 9 ∧ (ascii ",url=").length = 5 ∧
      (ascii "/trackID=1;seq=").length = 15 ∧ (ascii "/trackID=2;seq=0;rtptime=0").length = 26 ∧ crlf.length = 2 := by decide
  cases backchannel with
  | true =>
      simp only [infoPieces, infoMiddle, infoEnd, infoSize, if_true, List.cons_append, List.nil_append, List.flatten_cons,
        List.flatten_nil, List.length_append, List.length_nil]
      omega
  | false =>
      simp only [infoPieces, infoMiddle, infoEnd, infoSize, Bool.false_eq_true, if_false, List.cons_append, List.nil_append,
        List.append_nil, List.flatten_cons, List.flatten_nil, List.length_append]
      omega

theorem info_middle_unbroken (base : Bytes) (clean : Unbroken base) :
    ∀ piece ∈ infoMiddle base videoSeq videoTs audioSeq audioTs backchannel, Unbroken piece := by
  have literals : Unbroken (ascii ";rtptime=") ∧ Unbroken (ascii ",url=") ∧ Unbroken (ascii "/trackID=1;seq=") := by decide
  cases backchannel with
  | true => simp [infoMiddle, decimal_unbroken, literals, clean]
  | false => simp [infoMiddle, decimal_unbroken, literals, clean]

-- The pieces that are printed: always the first URL as far as its sequence number, and the line's end only if all fit.
theorem info_printed (short : uri.length ≤ 255) :
    ∃ middle, (Extra.rtpInfo uri videoSeq videoTs audioSeq audioTs backchannel).text =
        linesText [rangeLine.line] ++ (ascii "RTP-Info: url=" ++ stripSlashes uri ++ (ascii "/trackID=0;seq=" ++ middle)) ∧
      (infoSize uri videoSeq videoTs audioSeq audioTs backchannel < 512 →
        middle = (infoMiddle (stripSlashes uri) videoSeq videoTs audioSeq audioTs backchannel).flatten ++ infoEnd backchannel ++ crlf) ∧
      (512 ≤ infoSize uri videoSeq videoTs audioSeq audioTs backchannel → Unbroken (stripSlashes uri) → Unbroken middle) := by
  have size := info_pieces_size uri videoSeq videoTs audioSeq audioTs backchannel
  have length : (stripSlashes uri).length ≤ 255 := by
    obtain ⟨slashes, split, _⟩ := strip_slashes_split uri
    have total := congrArg List.length split
    rw [List.length_append] at total
    omega
  rw [info_text]
  by_cases fits : infoSize uri videoSeq videoTs audioSeq audioTs backchannel < 512
  · refine ⟨_, ?_, fun _ => rfl, fun long => absurd fits (Nat.not_lt_of_le long)⟩
    rw [snprintf_whole 512 _ (by rw [size]; exact fits)]
    simp [infoPieces]
  · obtain ⟨count, bound, printed, most⟩ := snprintf_loop_take 511 (infoPieces (stripSlashes uri) videoSeq videoTs audioSeq audioTs
      backchannel)
    have three : 3 ≤ count := by
      have widths : (linesText [rangeLine.line]).length = 19 ∧ (ascii "RTP-Info: url=").length = 14 ∧
          (ascii "/trackID=0;seq=").length = 15 := by decide
      apply most 3
      · simp [infoPieces]
      · simp only [infoPieces, List.take_succ_cons, List.take_zero, List.flatten_cons, List.flatten_nil, List.append_nil,
          List.length_append]
        omega
    obtain ⟨more, rfl⟩ := Nat.exists_eq_add_of_le' three
    have cut : more ≤ (infoMiddle (stripSlashes uri) videoSeq videoTs audioSeq audioTs backchannel).length := by
      have output := snprintf_loop_length 511 (infoPieces (stripSlashes uri) videoSeq videoTs audioSeq audioTs backchannel)
      by_contra beyond
      have whole : (infoPieces (stripSlashes uri) videoSeq videoTs audioSeq audioTs backchannel).take (more + 3) =
          infoPieces (stripSlashes uri) videoSeq videoTs audioSeq audioTs backchannel := by
        apply List.take_of_length_le
        simp [infoPieces]
        omega
      rw [printed, whole, size] at output
      omega
    refine ⟨((infoMiddle (stripSlashes uri) videoSeq videoTs audioSeq audioTs backchannel).take more).flatten, ?_,
      fun small => absurd small fits, ?_⟩
    · rw [snprintf, printed, infoPieces, List.take_succ_cons, List.take_succ_cons, List.take_succ_cons,
        List.take_append_of_le_length cut]
      simp
    · intro _ clean byte member
      obtain ⟨piece, present, inside⟩ := List.mem_flatten.mp member
      exact info_middle_unbroken videoSeq videoTs audioSeq audioTs backchannel _ clean piece (List.mem_of_mem_take present) byte inside

include reason extra

-- A framed reply to PLAY ends with its RTP-Info line and the blank one.
theorem play_framed_line (empty : reply.body = []) (framed : reply.Framed) (printed : Bytes)
    (text : reply.extra.text = linesText [rangeLine.line] ++ printed) :
    ∃ line, Unbroken line ∧ printed ++ crlf = line ++ crlf ++ crlf := by
  obtain ⟨lines, body, names, unbroken, delimited, same⟩ := framed_rest reply reason framed
  rw [extra, Reply.closing, if_pos empty] at names
  obtain ⟨first, more, rfl, firstName, moreNames⟩ := List.map_eq_cons_iff.mp names
  obtain ⟨second, last, rfl, secondName, lastNames⟩ := List.map_eq_cons_iff.mp moreNames
  have last : last = [] := List.map_eq_nil_iff.mp lastNames
  subst last
  have none : body = [] := by
    have firstOther : (first.name == contentLength) = false := by rw [firstName]; decide
    have secondOther : (second.name == contentLength) = false := by rw [secondName]; decide
    rw [Delimits, List.find?_cons_of_neg (by rw [firstOther]; decide), List.find?_cons_of_neg (by rw [secondOther]; decide)] at delimited
    exact delimited
  rw [text, Reply.closing, if_pos empty, empty, none, List.append_nil, List.append_nil, List.append_assoc, List.map_cons,
    lines_text_cons, lines_text_cons] at same
  have rest := (line_cancel _ _ _ _ (by decide) (unbroken first List.mem_cons_self) same).2
  refine ⟨second.line, unbroken second (List.mem_cons_of_mem _ List.mem_cons_self), ?_⟩
  simpa [linesText] using rest

theorem play_framed_iff (short : uri.length ≤ 255) (empty : reply.body = []) :
    reply.Framed ↔ Unbroken uri ∧ infoSize uri videoSeq videoTs audioSeq audioTs backchannel < 512 := by
  obtain ⟨middle, text, whole, cut⟩ := info_printed uri videoSeq videoTs audioSeq audioTs backchannel short
  rw [← strip_slashes_unbroken uri]
  rw [← extra] at text
  generalize stripSlashes uri = base at *
  constructor
  · intro framed
    obtain ⟨line, clean, same⟩ := play_framed_line reply reason uri videoSeq videoTs audioSeq audioTs backchannel extra empty framed _ text
    have plain : Unbroken base := by
      by_contra broken
      obtain ⟨front, byte, back, plain, breaks, rfl⟩ := broken_split base broken
      have aligned : (ascii "RTP-Info: url=" ++ front) ++ byte :: (back ++ (ascii "/trackID=0;seq=" ++ (middle ++ crlf))) =
          line ++ 13 :: (10 :: crlf) := by
        simpa [crlf] using same
      have start : Unbroken (ascii "RTP-Info: url=" ++ front) := unbroken_append _ _ (by decide) plain
      obtain ⟨_, _, rest⟩ := first_break _ _ _ _ _ _ start clean breaks (Or.inl rfl) aligned
      have lengths := congrArg List.length rest
      have slash : (ascii "/trackID=0;seq=").length = 15 := by decide
      rw [List.length_append, List.length_append, slash] at lengths
      simp only [crlf, List.length_cons, List.length_nil] at lengths
      omega
    refine ⟨plain, ?_⟩
    by_contra long
    have unended : Unbroken (ascii "RTP-Info: url=" ++ base ++ (ascii "/trackID=0;seq=" ++ middle)) := by
      apply unbroken_append _ _ (unbroken_append _ _ (by decide) plain)
      exact unbroken_append _ _ (by decide) (cut (Nat.le_of_not_lt long) plain)
    have aligned : ascii "RTP-Info: url=" ++ base ++ (ascii "/trackID=0;seq=" ++ middle) ++ crlf ++ [] = line ++ crlf ++ crlf := by
      rw [List.append_nil]
      exact same
    have ended := (line_cancel _ _ _ _ unended clean aligned).2
    cases ended
  · intro holds
    obtain ⟨plain, fits⟩ := holds
    have ends : Unbroken (infoEnd backchannel) := by cases backchannel <;> decide
    apply framed_of_lines reply reason [rangeLine, ⟨ascii "RTP-Info", ascii "url=" ++ base ++ ascii "/trackID=0;seq=" ++
      (infoMiddle base videoSeq videoTs audioSeq audioTs backchannel).flatten ++ infoEnd backchannel⟩]
    · rw [extra]
      rfl
    · intro header member
      rcases List.mem_cons.mp member with rfl | later
      · decide
      · rw [List.mem_singleton.mp later]
        apply unbroken_append _ _ _ ends
        apply unbroken_append
        · exact unbroken_append _ _ (unbroken_append _ _ (by decide) plain) (by decide)
        · intro byte member
          obtain ⟨piece, present, inside⟩ := List.mem_flatten.mp member
          exact info_middle_unbroken videoSeq videoTs audioSeq audioTs backchannel base plain piece present byte inside
    · have opening : ascii "RTP-Info: url=" = ascii "RTP-Info" ++ (ascii ": " ++ ascii "url=") := rfl
      rw [text, whole fits, opening]
      simp [linesText, Header.line]

end PlayReply

end Intercom
