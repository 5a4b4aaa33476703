import Intercom.Lib.Decimal
import Intercom.Lib.Headers
import Intercom.Lib.Search
import Intercom.Android.Connect
import Intercom.Android.ReadLoop

set_option autoImplicit false

/- rtsp_reply at one end of a stream, readResponse and the read loop at the other. -/
namespace Intercom

open ByteText

-- An empty session text is that of a client without a session, an empty body that of a reply without one.
def rtspReplyText (sessionId : Bytes) (cseq : Int) (code : Nat) (reason extraHdrs body : Bytes) : Bytes :=
  ascii "RTSP/1.0 " ++ decimal code ++ ascii " " ++ reason ++ crlf ++
  ascii "CSeq: " ++ signed cseq ++ crlf ++
  (if sessionId ≠ [] ∧ 200 ≤ code ∧ code < 300 then ascii "Session: " ++ sessionId ++ ascii ";timeout=60\r\n" else []) ++
  extraHdrs ++
  (if body = [] then crlf else ascii "Content-Length: " ++ decimal body.length ++ crlf ++ crlf ++ body)

theorem rtsp_reply_text (cli : RtspClient) (cseq : Int) (code : Nat) (reason : String) (extra : Extra) (body : Bytes) :
    ∃ answer, rtspReply cli cseq code reason extra body = .reply cli.tc answer ∧
      answer.text = rtspReplyText ((cli.sessionId.map (hex8 false)).getD []) cseq code (ascii reason) extra.text body := by
  have filled (id : UInt32) : hex8 false id ≠ [] := by simp [hex8]
  refine ⟨_, rfl, ?_⟩
  rw [Reply.text, rtspReplyText]
  by_cases success : 200 ≤ code ∧ code < 300
  · cases cli.sessionId with
    | none => simp [success]
    | some id => simp [success, filled id]
  · have silent (sessionId : Bytes) : ¬(sessionId ≠ [] ∧ 200 ≤ code ∧ code < 300) := fun both => success both.2
    simp only [if_neg success, if_neg (silent _)]

end Intercom

namespace Intercom.Android

open ByteText

def lengthName : Bytes := ascii "content-length:"

def NamesLength (text : Bytes) : Prop := lengthName <:+: text.map lower

structure ReplyParts where
  code : Nat
  cseq : Int
  session : Bytes
  reason : Bytes
  extra : List Bytes
  body : Bytes
  range : 100 ≤ code ∧ code ≤ 999
  unbroken : ∀ text ∈ session :: reason :: extra, Unbroken text
  unnamed : ∀ text ∈ session :: reason :: extra, ¬NamesLength text
  filled : ∀ line ∈ extra, line ≠ []
  plain : ∀ byte ∈ body, byte < 128

def ReplyParts.text (parts : ReplyParts) : Bytes :=
  rtspReplyText parts.session parts.cseq parts.code parts.reason (linesText parts.extra) parts.body

-- readBody with what is left of the stream when it throws. A stream that ends too early has been read to its end.
def readBodyRun (pick : Nat → Nat) (header : Text) (input : Input) : Except Failure Text × Input :=
  match contentLengthRe header with
  | none => (.ok [], input)
  | some digits =>
      match toIntOrNull digits with
      | none => (.error .numberFormat, input)
      | some contentLen =>
          if contentLen ≤ 0 then (.ok [], input)
          else
            match readFully pick input contentLen.toNat with
            | none => (.error .closed, { input with bytes := [] })
            | some (body, rest) => (.ok (ofAscii body), rest)

def readResponseRun (pick : Nat → Nat) (link : Link) : Except Failure Response × Link :=
  match headerLoop 0 0 link.input.bytes with
  | none => (.error .closed, { link with input.bytes := [] })
  | some read =>
      let header := ofChars read.1
      let statusLine := (lines header).headD []
      let code := statusCode statusLine
      match readBodyRun pick header { link.input with bytes := read.2 } with
      | (.error failure, rest) => (.error failure, { link with input := rest })
      | (.ok body, rest) =>
          let client := adoptBase header link.client
          let client := if code = 401 then adoptChallenge header client else client
          let link := { link with client := client, input := rest }
          if code ≠ 200 ∧ code ≠ 401 then (.error (.rtspError code statusLine), link) else (.ok ⟨code, header, body⟩, link)

theorem read_body_run (pick : Nat → Nat) (header : Text) (input : Input) :
    readBody pick header input =
      match readBodyRun pick header input with
      | (.ok body, rest) => .ok (body, rest)
      | (.error failure, _) => .error failure := by
  rw [readBody, readBodyRun]
  cases contentLengthRe header with
  | none => rfl
  | some digits =>
      dsimp only
      cases toIntOrNull digits with
      | none => rfl
      | some contentLen =>
          dsimp only
          split
          · rfl
          · cases readFully pick input contentLen.toNat with
            | none => rfl
            | some result => rfl

theorem read_response_run (pick : Nat → Nat) (link : Link) :
    readResponse pick link =
      match readResponseRun pick link with
      | (.ok response, later) => .ok (response, later)
      | (.error failure, _) => .error failure := by
  rw [readResponse, readResponseRun]
  cases headerLoop 0 0 link.input.bytes with
  | none => rfl
  | some read =>
      dsimp only
      rw [read_body_run]
      obtain ⟨outcome, rest⟩ := readBodyRun pick (ofChars read.1) { link.input with bytes := read.2 }
      cases outcome with
      | error failure => rfl
      | ok body =>
          dsimp only
          split
          · rfl
          · rfl

-- The reply is taken off the stream and nothing else: by readResponse, which hands out what was put in, and without a
-- body by one turn of the read loop.
def RoundTrips (pick : Nat → Nat) (parts : ReplyParts) (rest : Bytes) : Prop :=
  (∀ link : Link, ∃ outcome later, readResponseRun pick { link with input.bytes := parts.text ++ rest } = (outcome, later) ∧
    later.input.bytes = rest ∧
    ((parts.code = 200 ∨ parts.code = 401) → ∃ headers, outcome = .ok ⟨parts.code, headers, ofChars parts.body⟩) ∧
    (¬(parts.code = 200 ∨ parts.code = 401) → ∃ statusLine, outcome = .error (.rtspError parts.code statusLine))) ∧
  (parts.body = [] → ∀ state : ReadState,
    readTurn pick { state with input.bytes := parts.text ++ rest } = ({ state with input.bytes := rest }, none))

namespace ReplyParts

variable (parts : ReplyParts)

def status : Bytes := ascii "RTSP/1.0 " ++ decimal parts.code ++ ascii " " ++ parts.reason

def sessionLines : List Bytes :=
  if parts.session ≠ [] ∧ 200 ≤ parts.code ∧ parts.code < 300 then [ascii "Session: " ++ parts.session ++ ascii ";timeout=60"] else []

def front : List Bytes := (ascii "CSeq: " ++ signed parts.cseq) :: (parts.sessionLines ++ parts.extra)

def lengthLines : List Bytes := if parts.body = [] then [] else [ascii "Content-Length: " ++ decimal parts.body.length]

theorem text_lines : parts.text = linesText (parts.status :: parts.front ++ parts.lengthLines) ++ crlf ++ parts.body := by
  have timeout : ascii ";timeout=60\r\n" = ascii ";timeout=60" ++ crlf := by decide
  have session : linesText parts.sessionLines = if parts.session ≠ [] ∧ 200 ≤ parts.code ∧ parts.code < 300
      then ascii "Session: " ++ parts.session ++ ascii ";timeout=60\r\n" else [] := by
    rw [sessionLines]
    split
    · simp [linesText, timeout]
    · rfl
  have length : linesText parts.lengthLines ++ crlf ++ parts.body =
      if parts.body = [] then crlf else ascii "Content-Length: " ++ decimal parts.body.length ++ crlf ++ crlf ++ parts.body := by
    rw [lengthLines]
    split
    · rename_i empty
      rw [empty]
      rfl
    · simp [linesText]
  rw [text, rtspReplyText, ← session, ← length, front, status, lines_text_append]
  simp [linesText]

theorem mem_session (line : Bytes) (member : line ∈ parts.sessionLines) :
    line = ascii "Session: " ++ parts.session ++ ascii ";timeout=60" := by
  rw [sessionLines] at member
  split at member
  · exact List.mem_singleton.mp member
  · exact absurd member List.not_mem_nil

theorem mem_length (line : Bytes) (member : line ∈ parts.lengthLines) :
    line = ascii "Content-Length: " ++ decimal parts.body.length := by
  rw [lengthLines] at member
  split at member
  · exact absurd member List.not_mem_nil
  · exact List.mem_singleton.mp member

theorem session_clean : Unbroken parts.session ∧ ¬NamesLength parts.session :=
  ⟨parts.unbroken _ List.mem_cons_self, parts.unnamed _ List.mem_cons_self⟩

theorem reason_clean : Unbroken parts.reason ∧ ¬NamesLength parts.reason := by
  have member : parts.reason ∈ parts.session :: parts.reason :: parts.extra := List.mem_cons_of_mem _ List.mem_cons_self
  exact ⟨parts.unbroken _ member, parts.unnamed _ member⟩

theorem extra_clean (line : Bytes) (member : line ∈ parts.extra) : Unbroken line ∧ ¬NamesLength line := by
  have inside : line ∈ parts.session :: parts.reason :: parts.extra := List.mem_cons_of_mem _ (List.mem_cons_of_mem _ member)
  exact ⟨parts.unbroken _ inside, parts.unnamed _ inside⟩

theorem status_clean : Unbroken parts.status ∧ parts.status ≠ [] := by
  have start : Unbroken (ascii "RTSP/1.0 ") := by decide
  have blank : Unbroken (ascii " ") := by decide
  have numbered := unbroken_append _ _ (unbroken_append _ _ start (decimal_unbroken parts.code)) blank
  refine ⟨unbroken_append _ _ numbered parts.reason_clean.1, ?_⟩
  exact List.cons_ne_nil _ _

theorem front_clean (line : Bytes) (member : line ∈ parts.front) : Unbroken line ∧ line ≠ [] := by
  rcases List.mem_cons.mp member with rfl | later
  · exact ⟨unbroken_append _ _ (by decide) (signed_unbroken parts.cseq), List.cons_ne_nil _ _⟩
  · rcases List.mem_append.mp later with session | extra
    · rw [parts.mem_session line session]
      have opening := unbroken_append (ascii "Session: ") _ (by decide) parts.session_clean.1
      exact ⟨unbroken_append _ _ opening (by decide), List.cons_ne_nil _ _⟩
    · exact ⟨(parts.extra_clean line extra).1, parts.filled line extra⟩

theorem lines_clean (line : Bytes) (member : line ∈ parts.status :: (parts.front ++ parts.lengthLines)) : Unbroken line ∧ line ≠ [] := by
  rcases List.mem_cons.mp member with rfl | later
  · exact parts.status_clean
  · rcases List.mem_append.mp later with front | length
    · exact parts.front_clean line front
    · rw [parts.mem_length line length]
      exact ⟨unbroken_append _ _ (by decide) (decimal_unbroken _), List.cons_ne_nil _ _⟩

theorem header_read (prev : UInt8) (crlfCount : Nat) (first : Bytes) (rest : Bytes)
    (clean : Unbroken first ∧ first ≠ []) :
    headerLoop prev crlfCount (linesText (first :: (parts.front ++ parts.lengthLines)) ++ crlf ++ rest) =
      some (linesText (first :: (parts.front ++ parts.lengthLines)) ++ crlf, rest) := by
  apply header_loop_lines
  intro line member
  rcases List.mem_cons.mp member with rfl | later
  · exact clean
  · exact parts.lines_clean line (List.mem_cons_of_mem _ later)

end ReplyParts

-- Bytes as characters: the case, the class and the order of appearance are those of the bytes.
theorem lowercase_byte (byte : UInt8) : lowercase byte.toUInt16 = (lower byte).toUInt16 := by
  revert byte
  decide +kernel

theorem digit_byte (byte : UInt8) : isDigit byte.toUInt16 = ByteText.isDigit byte := by
  revert byte
  decide +kernel

theorem lowercase_chars (bytes : Bytes) : (ofChars bytes).map lowercase = ofChars (bytes.map lower) := by
  rw [ofChars, ofChars, List.map_map, List.map_map]
  exact List.map_congr_left fun byte _ => lowercase_byte byte

theorem of_chars_injective (left right : Bytes) (same : ofChars left = ofChars right) : left = right := by
  have inject : Function.Injective UInt8.toUInt16 := by
    intro one other equal
    have back := congrArg UInt16.toUInt8 equal
    rwa [UInt8.toUInt8_toUInt16, UInt8.toUInt8_toUInt16] at back
  exact List.map_injective_iff.mpr inject same

theorem length_pattern : (text "Content-Length:").map lowercase = ofChars lengthName := by decide

theorem names_here (bytes : Bytes) :
    ((text "Content-Length:").map lowercase).isPrefixOf ((ofChars bytes).map lowercase) = true ↔ lengthName <+: bytes.map lower := by
  rw [List.isPrefixOf_iff_prefix, length_pattern, lowercase_chars, ofChars, ofChars, List.prefix_map_iff]
  refine ⟨?_, fun hit => ⟨lengthName, hit, rfl⟩⟩
  rintro ⟨found, hit, same⟩
  rw [of_chars_injective _ _ same]
  exact hit

-- The lines before Content-Length are passed over: no match ends beyond a line break.
theorem find_past_lines {Result : Type} (next : Text → Option Result) (lines : Bytes) (rest : Bytes) (unnamed : ¬NamesLength (lines ++ [10])) :
    find (literalIgnoreCase (text "Content-Length:") next) (ofChars (lines ++ 10 :: rest)) =
      find (literalIgnoreCase (text "Content-Length:") next) (ofChars rest) := by
  have lineless : (10 : UInt8) ∉ lengthName := by decide
  have miss (front : Bytes) (apart : ¬lengthName <:+: front.map lower) :
      literalIgnoreCase (text "Content-Length:") next (ofChars (front ++ 10 :: rest)) = none := by
    rw [literalIgnoreCase, if_neg]
    rw [names_here, List.map_append, List.map_cons]
    exact fun hit => apart ((prefix_before 10 lengthName (front.map lower) (rest.map lower) lineless).mp hit).isInfix
  induction lines with
  | nil =>
      have here := miss [] fun inside => absurd (List.infix_nil.mp inside) (by decide)
      change (literalIgnoreCase (text "Content-Length:") next (ofChars ([] ++ 10 :: rest))).or _ = _
      rw [here, Option.none_or]
      rfl
  | cons byte more ih =>
      have apart : ¬lengthName <:+: (byte :: more).map lower := fun inside =>
        unnamed (inside.trans ((List.prefix_append (byte :: more) [10]).map lower).isInfix)
      have later : ¬NamesLength (more ++ [10]) := fun inside => unnamed (inside.trans ((List.suffix_cons byte _).map lower).isInfix)
      change (literalIgnoreCase (text "Content-Length:") next (ofChars (byte :: more ++ 10 :: rest))).or _ = _
      rw [miss (byte :: more) apart, Option.none_or]
      exact ih later

theorem names_length_lines (lines : List Bytes) (rest : Bytes) :
    NamesLength (linesText lines ++ rest) ↔ (∃ line ∈ lines, NamesLength line) ∨ NamesLength rest := by
  have noReturn : (13 : UInt8) ∉ lengthName := by decide
  have noFeed : (10 : UInt8) ∉ lengthName := by decide
  induction lines with
  | nil => simp [linesText]
  | cons line more ih =>
      have shape : (linesText (line :: more) ++ rest).map lower =
          line.map lower ++ 13 :: ([] ++ 10 :: (linesText more ++ rest).map lower) := by
        rw [lines_text_cons, List.map_append, List.map_append, List.append_assoc]
        rfl
      have nothing : ¬lengthName <:+: [] := fun inside => absurd (List.infix_nil.mp inside) (by decide)
      rw [NamesLength, shape, infix_delimited 13 _ _ _ noReturn, infix_delimited 10 _ _ _ noFeed, or_iff_right nothing,
        List.exists_mem_cons_iff, or_assoc]
      exact or_congr_right ih

-- A text that is put before or behind another cannot lend it the name.
theorem names_length_ahead (front rest : Bytes) (absent : (99 : UInt8) ∉ front.map lower) :
    NamesLength (front ++ rest) ↔ NamesLength rest := by
  rw [NamesLength, List.map_append]
  exact infix_ahead 99 (ascii "ontent-length:") (front.map lower) (rest.map lower) absent

theorem names_length_behind (front rest : Bytes) (absent : (58 : UInt8) ∉ rest.map lower) :
    NamesLength (front ++ rest) ↔ NamesLength front := by
  rw [NamesLength, List.map_append]
  exact infix_before_last 58 (ascii "content-length") (front.map lower) (rest.map lower) absent

theorem digit_lower (byte : UInt8) (number : ByteText.isDigit byte = true) : lower byte ≠ 99 ∧ lower byte ≠ 108 := by
  revert byte
  decide +kernel

theorem decimal_lower (value : Nat) : (99 : UInt8) ∉ (decimal value).map lower ∧ (108 : UInt8) ∉ (decimal value).map lower := by
  refine ⟨fun member => ?_, fun member => ?_⟩
  · obtain ⟨byte, inside, same⟩ := List.mem_map.mp member
    exact (digit_lower byte ((decimal_read value).1 byte inside)).1 same
  · obtain ⟨byte, inside, same⟩ := List.mem_map.mp member
    exact (digit_lower byte ((decimal_read value).1 byte inside)).2 same

namespace ReplyParts

variable (parts : ReplyParts)

theorem status_unnamed : ¬NamesLength parts.status := by
  have start : (99 : UInt8) ∉ (ascii "RTSP/1.0 ").map lower := by decide
  have blank : (99 : UInt8) ∉ (ascii " ").map lower := by decide
  rw [status, List.append_assoc, List.append_assoc, names_length_ahead _ _ start,
    names_length_ahead _ _ (decimal_lower parts.code).1, names_length_ahead _ _ blank]
  exact parts.reason_clean.2

-- The name holds an l, the line of the sequence number does not.
theorem cseq_unnamed : ¬NamesLength (ascii "CSeq: " ++ signed parts.cseq) := by
  intro inside
  have member : (108 : UInt8) ∈ (ascii "CSeq: " ++ signed parts.cseq).map lower := inside.subset (by decide)
  rw [List.map_append] at member
  rcases List.mem_append.mp member with early | late
  · exact absurd early (by decide)
  · rw [signed] at late
    split at late
    · rcases List.mem_cons.mp late with sign | digits
      · exact absurd sign (by decide)
      · exact (decimal_lower _).2 digits
    · exact (decimal_lower _).2 late

theorem session_unnamed : ¬NamesLength (ascii "Session: " ++ parts.session ++ ascii ";timeout=60") := by
  have opening : (99 : UInt8) ∉ (ascii "Session: ").map lower := by decide
  have ending : (58 : UInt8) ∉ (ascii ";timeout=60").map lower := by decide
  rw [names_length_behind _ _ ending, names_length_ahead _ _ opening]
  exact parts.session_clean.2

theorem front_unnamed : ¬NamesLength (linesText (parts.status :: parts.front)) := by
  have whole := names_length_lines (parts.status :: parts.front) []
  have nothing : ¬NamesLength [] := fun inside => absurd (List.infix_nil.mp inside) (by decide)
  rw [List.append_nil] at whole
  rw [whole, or_iff_left nothing]
  rintro ⟨line, member, named⟩
  rcases List.mem_cons.mp member with rfl | front
  · exact parts.status_unnamed named
  · rcases List.mem_cons.mp front with rfl | later
    · exact parts.cseq_unnamed named
    · rcases List.mem_append.mp later with session | extra
      · rw [parts.mem_session line session] at named
        exact parts.session_unnamed named
      · exact (parts.extra_clean line extra).2 named

end ReplyParts

theorem digits_number (digits : Bytes) : digitsNumber (ofChars digits) = digitsValue digits := by
  rw [digitsNumber, ofChars, List.foldl_map, digitsValue]
  simp only [UInt8.toNat_toUInt16]

theorem decimal_chars (value : Nat) : (∀ char ∈ ofChars (decimal value), isDigit char = true) ∧ ofChars (decimal value) ≠ [] := by
  obtain ⟨all, filled, _⟩ := decimal_read value
  refine ⟨fun char member => ?_, fun none => filled (List.map_eq_nil_iff.mp none)⟩
  obtain ⟨byte, inside, rfl⟩ := List.mem_map.mp member
  rw [digit_byte]
  exact all byte inside

theorem to_int_decimal (value : Nat) :
    toIntOrNull (ofChars (decimal value)) = if value ≤ 2147483647 then some (value : Int) else none := by
  obtain ⟨all, filled⟩ := decimal_chars value
  have number : digitsNumber (ofChars (decimal value)) = value := by rw [digits_number, (decimal_read value).2.2]
  have whole : (ofChars (decimal value)).all isDigit = true := List.all_eq_true.mpr all
  cases shape : ofChars (decimal value) with
  | nil => exact absurd shape filled
  | cons head rest =>
      have first : isDigit head = true := all head (by rw [shape]; exact List.mem_cons_self)
      have minus (others : Text) : ¬head :: rest = 45 :: others := fun same => absurd first (by rw [(List.cons.inj same).1]; decide)
      have plus (others : Text) : ¬head :: rest = 43 :: others := fun same => absurd first (by rw [(List.cons.inj same).1]; decide)
      rw [toIntOrNull]
      dsimp only
      rw [shape] at whole number
      rw [if_neg (by simp [whole]), number]
      by_cases small : value ≤ 2147483647
      · rw [if_pos small, if_pos (by simp; omega)]
        rfl
      · rw [if_neg small, if_neg (by simp; omega)]
      · exact minus
      · exact plus

theorem length_line_found (value : Nat) (rest : Bytes) :
    contentLengthRe (ofChars (ascii "Content-Length: " ++ decimal value ++ crlf ++ rest)) = some (ofChars (decimal value)) := by
  obtain ⟨all, filled⟩ := decimal_chars value
  have digits : (ofChars (decimal value) ++ ofChars (crlf ++ rest)).takeWhile isDigit = ofChars (decimal value) := by
    rw [List.takeWhile_append_of_pos all]
    exact List.append_nil _
  have taken : group isDigit (ofChars (decimal value) ++ ofChars (crlf ++ rest)) = some (ofChars (decimal value)) := by
    rw [group, digits, if_neg filled]
  have blanks : ((32 : UInt16) :: (ofChars (decimal value) ++ ofChars (crlf ++ rest))).takeWhile isSpace = [32] := by
    cases shape : ofChars (decimal value) with
    | nil => exact absurd shape filled
    | cons head more =>
        have first : isDigit head = true := all head (by rw [shape]; exact List.mem_cons_self)
        have dark : isSpace head = false := by
          simp only [isDigit, Bool.and_eq_true, decide_eq_true_eq, UInt16.le_iff_toNat_le] at first
          have low : (48 : UInt16).toNat = 48 := rfl
          simp only [isSpace, Bool.or_eq_false_iff, Bool.and_eq_false_iff, beq_eq_false_iff_ne, decide_eq_false_iff_not,
            UInt16.le_iff_toNat_le]
          have high : (13 : UInt16).toNat = 13 := rfl
          refine ⟨fun same => ?_, Or.inr (by omega)⟩
          rw [same] at first
          exact absurd first.1 (by decide)
        have blank : isSpace 32 = true := by decide
        simp [blank, dark]
  have read : star isSpace (group isDigit) (32 :: (ofChars (decimal value) ++ ofChars (crlf ++ rest))) = some (ofChars (decimal value)) := by
    rw [star, blanks]
    change (group isDigit (ofChars (decimal _) ++ ofChars (crlf ++ rest))).or _ = _
    rw [taken]
    rfl
  have here : ((text "Content-Length:").map lowercase).isPrefixOf
      ((ofChars (ascii "Content-Length: " ++ (decimal value ++ (crlf ++ rest)))).map lowercase) = true := by
    rw [names_here, List.map_append]
    exact ⟨32 :: (decimal value ++ (crlf ++ rest)).map lower, rfl⟩
  have behind : (ofChars (ascii "Content-Length: " ++ (decimal value ++ (crlf ++ rest)))).drop (text "Content-Length:").length =
      32 :: (ofChars (decimal value) ++ ofChars (crlf ++ rest)) := by
    rw [of_chars_append, of_chars_append]
    rfl
  have hit : literalIgnoreCase (text "Content-Length:") (star isSpace (group isDigit))
      (ofChars (ascii "Content-Length: " ++ (decimal value ++ (crlf ++ rest)))) = some (ofChars (decimal value)) := by
    rw [literalIgnoreCase, if_pos here, behind, read]
  rw [List.append_assoc, List.append_assoc, contentLengthRe]
  change (literalIgnoreCase (text "Content-Length:") (star isSpace (group isDigit))
    (ofChars (ascii "Content-Length: " ++ (decimal value ++ (crlf ++ rest))))).or _ = _
  rw [hit]
  rfl

namespace ReplyParts

variable (parts : ReplyParts)

theorem length_found :
    contentLengthRe (ofChars (linesText (parts.status :: (parts.front ++ parts.lengthLines)) ++ crlf)) =
      if parts.body = [] then none else some (ofChars (decimal parts.body.length)) := by
  obtain ⟨texts, whole⟩ := lines_text_ends parts.status parts.front
  obtain ⟨before, ends⟩ : ∃ before, linesText (parts.status :: parts.front) = before ++ [10] := ⟨texts ++ [13], by simp [whole, crlf]⟩
  have unnamed := parts.front_unnamed
  have shape : linesText (parts.status :: (parts.front ++ parts.lengthLines)) ++ crlf =
      before ++ 10 :: (linesText parts.lengthLines ++ crlf) := by
    have split := lines_text_append (parts.status :: parts.front) parts.lengthLines
    rw [List.cons_append, ends] at split
    rw [split]
    simp
  rw [ends] at unnamed
  rw [shape, contentLengthRe, find_past_lines _ before _ unnamed, lengthLines]
  split
  · rfl
  · have found := length_line_found parts.body.length crlf
    rw [contentLengthRe] at found
    simpa [linesText] using found

end ReplyParts

theorem lines_unbroken (line : Bytes) (clean : Unbroken line) : lines (ofChars line) = [ofChars line] := by
  rw [lines]
  induction line with
  | nil => rfl
  | cons byte rest ih =>
      obtain ⟨⟨noReturn, noFeed⟩, later⟩ := (unbroken_cons byte rest).mp clean
      have wide (stop : UInt8) (apart : byte ≠ stop) : byte.toUInt16 ≠ stop.toUInt16 := by
        intro same
        have back := congrArg UInt16.toUInt8 same
        rw [UInt8.toUInt8_toUInt16, UInt8.toUInt8_toUInt16] at back
        exact apart back
      have feed : byte.toUInt16 ≠ 10 := wide 10 noFeed
      have ret : byte.toUInt16 ≠ 13 := wide 13 noReturn
      change linesLoop false (byte.toUInt16 :: ofChars rest) = _
      rw [linesLoop, if_neg feed, if_neg ret, ih later]
      rfl

namespace ReplyParts

variable (parts : ReplyParts)

theorem status_first (rest : Bytes) : (lines (ofChars (parts.status ++ crlf ++ rest))).headD [] = ofChars parts.status := by
  have split : ofChars (parts.status ++ crlf ++ rest) = ofChars parts.status ++ 13 :: 10 :: ofChars rest := by
    rw [List.append_assoc, of_chars_append]
    rfl
  rw [split, lines_crlf, lines_unbroken parts.status parts.status_clean.1]
  rfl

theorem status_code_read : statusCode (ofChars parts.status) = parts.code := by
  have apart : ∀ char ∈ ofChars (decimal parts.code), (char == 32) = false := by
    intro char member
    have number := (decimal_chars parts.code).1 char member
    rw [beq_eq_false_iff_ne]
    rintro rfl
    exact absurd number (by decide)
  have start : ∀ char ∈ ofChars (ascii "RTSP/1.0"), (char == 32) = false := each_char _ _ (by decide)
  have shape : ofChars parts.status =
      ofChars (ascii "RTSP/1.0") ++ 32 :: (ofChars (decimal parts.code) ++ 32 :: ofChars parts.reason) := by
    rw [status, of_chars_append, of_chars_append, of_chars_append, List.append_assoc, List.append_assoc]
    rfl
  have range : parts.code ≤ 2147483647 := Nat.le_trans parts.range.2 (by decide)
  rw [statusCode, shape, List.splitOn_eq_splitOnP, List.splitOnP_append_cons_of_forall_mem start 32 rfl,
    List.splitOnP_append_cons_of_forall_mem apart 32 rfl]
  change ((toIntOrNull (ofChars (decimal parts.code))).getD 0) = _
  rw [to_int_decimal, if_pos range]
  rfl

theorem header_split (rest : Bytes) : headerLoop 0 0 (parts.text ++ rest) =
    some (linesText (parts.status :: (parts.front ++ parts.lengthLines)) ++ crlf, parts.body ++ rest) := by
  have loop := parts.header_read 0 0 parts.status (parts.body ++ rest) parts.status_clean
  rw [text_lines, List.append_assoc _ parts.body rest]
  exact loop

-- The body is taken off the stream whole when its length is an Int, and not touched otherwise.
theorem body_read (pick : Nat → Nat) (rest : Bytes) (calls : Nat) :
    ∃ later, readBodyRun pick (ofChars (linesText (parts.status :: (parts.front ++ parts.lengthLines)) ++ crlf)) ⟨parts.body ++ rest, calls⟩ =
      if parts.body.length ≤ 2147483647 then (.ok (ofChars parts.body), ⟨rest, later⟩)
      else (.error .numberFormat, ⟨parts.body ++ rest, calls⟩) := by
  rw [readBodyRun, parts.length_found]
  by_cases empty : parts.body = []
  · refine ⟨calls, ?_⟩
    rw [if_pos empty, empty]
    rfl
  · rw [if_neg empty]
    dsimp only
    rw [to_int_decimal]
    by_cases small : parts.body.length ≤ 2147483647
    · have positive : 0 < parts.body.length := List.length_pos_iff.mpr empty
      obtain ⟨later, read⟩ := read_fully_spec pick parts.body rest calls
      have chars : ofAscii parts.body = ofChars parts.body :=
        List.map_congr_left fun byte member => if_pos (parts.plain byte member)
      refine ⟨later, ?_⟩
      rw [if_pos small, if_pos small]
      dsimp only
      rw [if_neg (by omega), Int.toNat_natCast, read, ← chars]
    · refine ⟨calls, ?_⟩
      rw [if_neg small, if_neg small]

theorem run_long (pick : Nat → Nat) (rest : Bytes) (link : Link) (long : 2147483647 < parts.body.length) :
    (readResponseRun pick { link with input.bytes := parts.text ++ rest }).1 = .error .numberFormat := by
  obtain ⟨later, body⟩ := parts.body_read pick rest link.input.calls
  rw [if_neg (by omega)] at body
  rw [readResponseRun, parts.header_split rest]
  dsimp only
  rw [body]

theorem run_short (pick : Nat → Nat) (rest : Bytes) (link : Link) (short : parts.body.length ≤ 2147483647) :
    ∃ outcome later, readResponseRun pick { link with input.bytes := parts.text ++ rest } = (outcome, later) ∧
      later.input.bytes = rest ∧
      ((parts.code = 200 ∨ parts.code = 401) → ∃ headers, outcome = .ok ⟨parts.code, headers, ofChars parts.body⟩) ∧
      (¬(parts.code = 200 ∨ parts.code = 401) → ∃ statusLine, outcome = .error (.rtspError parts.code statusLine)) := by
  obtain ⟨later, body⟩ := parts.body_read pick rest link.input.calls
  have code := parts.status_code_read
  have first : (lines (ofChars (linesText (parts.status :: (parts.front ++ parts.lengthLines)) ++ crlf))).headD [] = ofChars parts.status := by
    rw [lines_text_cons]
    exact parts.status_first _
  rw [if_pos short] at body
  rw [readResponseRun, parts.header_split rest]
  dsimp only
  rw [body, first, code]
  dsimp only
  by_cases known : parts.code = 200 ∨ parts.code = 401
  · rw [if_neg (by omega)]
    exact ⟨_, _, rfl, rfl, fun _ => ⟨_, rfl⟩, fun other => absurd known other⟩
  · rw [if_pos (by omega)]
    exact ⟨_, _, rfl, rfl, fun other => absurd other known, fun _ => ⟨_, rfl⟩⟩

theorem turn_skips (pick : Nat → Nat) (rest : Bytes) (state : ReadState) (bodiless : parts.body = []) :
    readTurn pick { state with input.bytes := parts.text ++ rest } = ({ state with input.bytes := rest }, none) := by
  obtain ⟨tail, shape⟩ : ∃ tail, parts.status = 0x52 :: tail ∧ tail ≠ [] :=
    ⟨ascii "TSP/1.0 " ++ decimal parts.code ++ ascii " " ++ parts.reason, rfl, List.cons_ne_nil _ _⟩
  have clean : Unbroken tail ∧ tail ≠ [] := by
    have whole := parts.status_clean.1
    rw [shape.1] at whole
    exact ⟨((unbroken_cons _ _).mp whole).2, shape.2⟩
  have skipped := parts.header_read 0x52 0 tail rest clean
  have bytes : parts.text ++ rest = 0x52 :: (linesText (tail :: (parts.front ++ parts.lengthLines)) ++ crlf ++ rest) := by
    rw [text_lines, bodiless, List.append_nil, shape.1]
    rfl
  rw [readTurn, bytes]
  dsimp only
  rw [if_neg (by decide), if_pos rfl, skipRtspMessage]
  dsimp only
  rw [skipped]

end ReplyParts

theorem response_round_trip (pick : Nat → Nat) (parts : ReplyParts) (short : parts.body.length ≤ 2147483647) (rest : Bytes) :
    RoundTrips pick parts rest :=
  ⟨fun link => parts.run_short pick rest link short, fun bodiless state => parts.turn_skips pick rest state bodiless⟩

def sdpReply : ReplyParts where
  code := 200
  cseq := 2
  session := ascii "0a0b0c0d"
  reason := ascii "OK"
  extra := [ascii "Content-Type: application/sdp"]
  body := ascii "v=0\r\n"
  range := by decide
  unbroken := by decide
  unnamed := by unfold NamesLength; decide
  filled := by decide
  plain := by
    have all : (ascii "v=0\r\n").all (fun byte => decide (byte < 128)) = true := by decide
    simpa using all

theorem sdp_reply_round_trip : sdpReply.body.length ≤ 2147483647 ∧ RoundTrips (fun call => call) sdpReply [0x24, 0, 0, 0] :=
  ⟨by decide, response_round_trip (fun call => call) sdpReply (by decide) [0x24, 0, 0, 0]⟩

def longReply (size : Nat) : ReplyParts where
  code := 200
  cseq := 2
  session := []
  reason := ascii "OK"
  extra := []
  body := List.replicate size 97
  range := by decide
  unbroken := by decide
  unnamed := by unfold NamesLength; decide
  filled := by decide
  plain := by
    intro byte member
    rw [List.eq_of_mem_replicate member]
    decide

-- A length beyond Int: toInt throws before the body is read.
theorem longest_body_not_read : ¬RoundTrips (fun call => call) (longReply 2147483648) [] := by
  rintro ⟨reads, _⟩
  have long : 2147483647 < (longReply 2147483648).body.length := by
    rw [longReply, List.length_replicate]
    decide
  obtain ⟨outcome, later, run, _, answered, _⟩ := reads ⟨{}, {}, ⟨[], 0⟩⟩
  have thrown := (longReply 2147483648).run_long (fun call => call) [] ⟨{}, {}, ⟨[], 0⟩⟩ long
  obtain ⟨headers, same⟩ := answered (Or.inl rfl)
  rw [run, same] at thrown
  cases thrown

end Intercom.Android
