import Intercom.Lib.Lines
import Intercom.Rtsp.Locality
import Mathlib.Data.FinEnum

set_option autoImplicit false

/- The header loop of parse_rtsp_request as one pass over the lines of the request: which bytes end up in transport,
   session and authorization when a header is repeated, and which bytes behind the request atoi can reach. -/
namespace Intercom

open ByteText

inductive Field where
  | transport
  | session
  | authorization
deriving DecidableEq, Repr

instance (holds : Field → Prop) [DecidablePred holds] : Decidable (∀ field, holds field) :=
  decidable_of_iff (holds .transport ∧ holds .session ∧ holds .authorization)
    ⟨fun each field => match field with
      | .transport => each.1
      | .session => each.2.1
      | .authorization => each.2.2, fun every => ⟨every _, every _, every _⟩⟩

def Field.name : Field → Bytes
  | .transport => ascii "Transport:"
  | .session => ascii "Session:"
  | .authorization => ascii "Authorization:"

def Field.size : Field → Nat
  | .transport => 256
  | .session => 32
  | .authorization => 512

def Field.get (req : RtspReq) : Field → Bytes
  | .transport => req.transport
  | .session => req.session
  | .authorization => req.authorization

-- The value of a header line: leading spaces removed, cut to the buffer.
def Field.value (field : Field) (line : Bytes) : Bytes :=
  ((line.drop field.name.length).dropWhile (· == 32)).take (field.size - 1)

-- The request line is the first; the blank line at the end has no name.
def headerLinesOf (text : Bytes) : List Bytes := (crlfLines text).drop 1

def valuesOf (field : Field) (lines : List Bytes) : List Bytes := (lines.filter (casePrefix field.name)).map field.value

def lastValue (field : Field) (text : Bytes) : Bytes := (valuesOf field (headerLinesOf text)).getLast?.getD []

def parseLines (behind : Bytes) : List Bytes → RtspReq → RtspReq
  | [], req => req
  | line :: rest, req => parseLines behind rest (parseHeaderLine (line ++ crlf ++ (linesText rest ++ behind)) line.length req)

theorem lines_text_long (lines : List Bytes) : 2 * lines.length ≤ (linesText lines).length := by
  induction lines with
  | nil => exact Nat.le_refl 0
  | cons line rest ih =>
      have step := congrArg List.length (lines_text_cons line rest [])
      simp only [List.append_nil, List.length_append, crlf, List.length_cons, List.length_nil] at step
      rw [List.length_cons]
      omega

theorem parse_headers_lines (fuel : Nat) (lines : List Bytes) (behind : Bytes) (req : RtspReq) (enough : lines.length < fuel)
    (uncut : ∀ line ∈ lines, Uncut line) :
    parseHeaders fuel (crlf ++ (linesText lines ++ behind)) (2 + (linesText lines).length) req = parseLines behind lines req := by
  induction lines generalizing fuel req with
  | nil =>
      cases fuel with
      | zero => omega
      | succ fuel => rw [parseHeaders, if_neg (by simp [linesText])]; rfl
  | cons line rest ih =>
      cases fuel with
      | zero => omega
      | succ fuel =>
          obtain ⟨here, later⟩ := List.forall_mem_cons.mp uncut
          have step := congrArg List.length (lines_text_cons line rest [])
          simp only [List.append_nil, List.length_append, crlf, List.length_cons, List.length_nil] at step
          have skip : (crlf ++ (linesText (line :: rest) ++ behind)).drop 2 = line ++ crlf ++ (linesText rest ++ behind) := by
            rw [lines_text_cons]
            rfl
          have next : (line ++ crlf ++ (linesText rest ++ behind)).drop line.length = crlf ++ (linesText rest ++ behind) := by
            rw [List.append_assoc, List.drop_left]
          have left : 2 + (linesText (line :: rest)).length - 2 - line.length = 2 + (linesText rest).length := by omega
          rw [parseHeaders, if_pos (by omega), skip]
          dsimp only
          rw [find_uncut line _ here]
          dsimp only
          rw [next, left]
          exact ih fuel _ (by rw [List.length_cons] at enough; omega) later

theorem first_letter (pattern line : Bytes) (some : pattern ≠ []) (named : casePrefix pattern line = true) :
    line.head?.map lower = pattern.head?.map lower := by
  have same := congrArg List.head? (beq_iff_eq.mp named)
  obtain ⟨letter, more, rfl⟩ := List.exists_cons_of_ne_nil some
  cases line with
  | nil => simp at same
  | cons byte rest => simpa using same

-- The four names begin with different letters, so the order of the tests does not matter.
theorem names_apart (one other line : Bytes) (someOne : one ≠ []) (someOther : other ≠ [])
    (letters : one.head?.map lower ≠ other.head?.map lower) (named : casePrefix one line = true) : casePrefix other line = false := by
  cases also : casePrefix other line with
  | false => rfl
  | true => exact absurd ((first_letter one line someOne named).symm.trans (first_letter other line someOther also)) letters

theorem case_prefix_uncut (pattern line rest : Bytes) (uncut : Uncut line) (clean : 13 ∉ pattern.map lower) :
    casePrefix pattern (line ++ crlf ++ rest) = casePrefix pattern line := by
  have cut := case_prefix_line pattern (line ++ crlf ++ rest) line.length (find_uncut line rest uncut) clean
  rw [List.append_assoc, List.take_left] at cut
  rw [List.append_assoc]
  exact cut

theorem copy_value_field (field : Field) (old line rest : Bytes) :
    copyValue field.size old (line ++ crlf ++ rest) field.name.length line.length = overlay old (field.value line) := by
  rw [copyValue, List.append_assoc, List.take_left]
  rfl

theorem header_line_field (field : Field) (line rest : Bytes) (uncut : Uncut line) (req : RtspReq) :
    field.get (parseHeaderLine (line ++ crlf ++ rest) line.length req) =
      if casePrefix field.name line then overlay (field.get req) (field.value line) else field.get req := by
  have apart (other : Bytes) (someOther : other ≠ []) (letters : other.head?.map lower ≠ field.name.head?.map lower)
      (named : casePrefix other line = true) : casePrefix field.name line = false :=
    names_apart other field.name line someOther (by cases field <;> decide) letters named
  rw [parseHeaderLine, case_prefix_uncut _ _ _ uncut (by decide), case_prefix_uncut _ _ _ uncut (by decide),
    case_prefix_uncut _ _ _ uncut (by decide), case_prefix_uncut _ _ _ uncut (by decide)]
  split
  · rename_i cseq
    rw [apart _ (by decide) (by cases field <;> decide) cseq]
    cases field <;> rfl
  · split
    · rename_i transport
      cases field with
      | transport => exact (copy_value_field .transport _ line rest).trans (if_pos transport).symm
      | session => rw [apart _ (by decide) (by decide) transport]; rfl
      | authorization => rw [apart _ (by decide) (by decide) transport]; rfl
    · rename_i noTransport
      split
      · rename_i session
        cases field with
        | transport => rw [apart _ (by decide) (by decide) session]; rfl
        | session => exact (copy_value_field .session _ line rest).trans (if_pos session).symm
        | authorization => rw [apart _ (by decide) (by decide) session]; rfl
      · rename_i noSession
        split
        · rename_i authorization
          cases field with
          | transport => rw [apart _ (by decide) (by decide) authorization]; rfl
          | session => rw [apart _ (by decide) (by decide) authorization]; rfl
          | authorization => exact (copy_value_field .authorization _ line rest).trans (if_pos authorization).symm
        · rename_i noAuthorization
          cases field with
          | transport => exact (if_neg noTransport).symm
          | session => exact (if_neg noSession).symm
          | authorization => exact (if_neg noAuthorization).symm

theorem parse_lines_field (field : Field) (lines : List Bytes) (behind : Bytes) (req : RtspReq)
    (uncut : ∀ line ∈ lines, Uncut line) :
    field.get (parseLines behind lines req) = (valuesOf field lines).foldl overlay (field.get req) := by
  induction lines generalizing req with
  | nil => rfl
  | cons line rest ih =>
      obtain ⟨here, later⟩ := List.forall_mem_cons.mp uncut
      rw [parseLines, ih _ later, header_line_field field line _ here req, valuesOf, valuesOf, List.filter_cons]
      split
      · rfl
      · rfl

structure Cut (text start : Bytes) (lines : List Bytes) : Prop where
  found : crlfLines text = start :: lines
  whole : linesText (start :: lines) = text
  first : Uncut start
  uncut : ∀ line ∈ lines, Uncut line

theorem request_cut (text : Bytes) (ends : ∃ front, text = front ++ crlf) : ∃ start lines, Cut text start lines := by
  obtain ⟨whole, uncut⟩ := crlf_lines_whole text (Or.inr ends)
  cases found : crlfLines text with
  | nil =>
      obtain ⟨front, split⟩ := ends
      rw [found, split] at whole
      simp [linesText, crlf] at whole
  | cons start lines =>
      rw [found] at whole uncut
      obtain ⟨first, others⟩ := List.forall_mem_cons.mp uncut
      exact ⟨start, lines, found, whole, first, others⟩

-- The header loop is reached only past the two spaces that the request line should hold.
theorem parse_request_lines (text start behind : Bytes) (lines : List Bytes) (cut : Cut text start lines) :
    (2 ≤ text.count 32 → ∃ method uri, parseRtspRequest (text ++ behind) text.length =
      parseLines behind lines { method := method, uri := uri }) ∧
    (¬2 ≤ text.count 32 → ∃ method, parseRtspRequest (text ++ behind) text.length = { method := method }) := by
  have shape : text = start ++ crlf ++ linesText lines := by
    have joined := lines_text_cons start lines []
    rw [List.append_nil, List.append_nil, cut.whole] at joined
    exact joined
  have line : findSub crlf (text ++ behind) = some start.length := by
    rw [shape, List.append_assoc]
    exact find_uncut start _ cut.first
  have rest : (text ++ behind).drop start.length = crlf ++ (linesText lines ++ behind) := by
    rw [shape, List.append_assoc, List.append_assoc, List.drop_left]
  have total : text.length = start.length + 2 + (linesText lines).length := by
    rw [shape, List.length_append, List.length_append]
    rfl
  have enough := lines_text_long lines
  have headers (req : RtspReq) : parseHeaders text.length ((text ++ behind).drop start.length) (text.length - start.length) req =
      parseLines behind lines req := by
    have left : text.length - start.length = 2 + (linesText lines).length := by omega
    rw [rest, left]
    exact parse_headers_lines text.length lines behind req (by omega) cut.uncut
  rw [parseRtspRequest, List.take_left]
  cases first : memchr 32 text with
  | none =>
      have count := memchr_none_count 32 text first
      exact ⟨fun spaces => absurd spaces (by omega), fun _ => ⟨[], rfl⟩⟩
  | some sp1 =>
      have count := memchr_some_count 32 text sp1 first
      dsimp only
      cases second : memchr 32 (text.drop (sp1 + 1)) with
      | none =>
          have few := memchr_none_count 32 _ second
          exact ⟨fun spaces => absurd spaces (by omega), fun _ => ⟨_, rfl⟩⟩
      | some sp2 =>
          have more := memchr_some_count 32 _ sp2 second
          dsimp only
          rw [line]
          exact ⟨fun _ => ⟨_, _, headers _⟩, fun few => absurd (by omega) few⟩

-- Every field is empty or the value of the last header of its name.
def HeadersFaithful (text : Bytes) (req : RtspReq) : Prop := ∀ field : Field, field.get req = lastValue field text

-- Past the request line no value is followed by a shorter last one; a request that is given up has nothing to keep.
def Covered (text : Bytes) : Prop :=
  if 2 ≤ text.count 32 then
    ∀ field : Field, ∀ value ∈ valuesOf field (headerLinesOf text), value.length ≤ (lastValue field text).length
  else ∀ field : Field, lastValue field text = []

instance (text : Bytes) : Decidable (Covered text) :=
  inferInstanceAs (Decidable (if 2 ≤ text.count 32 then
    ∀ field : Field, ∀ value ∈ valuesOf field (headerLinesOf text), value.length ≤ (lastValue field text).length
    else ∀ field : Field, lastValue field text = []))

theorem headers_faithful_iff (text behind : Bytes) (ends : ∃ front, text = front ++ crlf ++ crlf) :
    HeadersFaithful text (parseRtspRequest (text ++ behind) text.length) ↔ Covered text := by
  obtain ⟨start, lines, cut⟩ := request_cut text ⟨_, ends.choose_spec⟩
  obtain ⟨full, given⟩ := parse_request_lines text start behind lines cut
  have headers : headerLinesOf text = lines := by
    rw [headerLinesOf, cut.found]
    rfl
  rw [HeadersFaithful, Covered]
  by_cases spaces : 2 ≤ text.count 32
  · obtain ⟨method, uri, parsed⟩ := full spaces
    rw [if_pos spaces, parsed]
    refine forall_congr' fun field => ?_
    have blank : field.get { method := method, uri := uri } = [] := by cases field <;> rfl
    rw [parse_lines_field field lines behind _ cut.uncut, blank, lastValue, headers]
    exact overlays_last (valuesOf field lines)
  · obtain ⟨method, parsed⟩ := given spaces
    rw [if_neg spaces, parsed]
    refine forall_congr' fun field => ?_
    have blank : field.get { method := method } = [] := by cases field <;> rfl
    rw [blank]
    exact eq_comm

def growingSession : Bytes := ascii "SETUP / RTSP/1.0\r\nSession: 22\r\nSession: 11111111\r\n\r\n"

theorem growing_session_faithful :
    HeadersFaithful growingSession (parseRtspRequest (growingSession ++ []) growingSession.length) :=
  (headers_faithful_iff growingSession [] ⟨ascii "SETUP / RTSP/1.0\r\nSession: 22\r\nSession: 11111111", by decide +kernel⟩).mpr
    (by decide +kernel)

def shrinkingSession : Bytes := ascii "SETUP / RTSP/1.0\r\nSession: 11111111\r\nSession: 22\r\n\r\n"

theorem shrinking_session_mixes :
    (parseRtspRequest shrinkingSession shrinkingSession.length).session = ascii "22111111" ∧
      lastValue .session shrinkingSession = ascii "22" ∧
      ¬HeadersFaithful shrinkingSession (parseRtspRequest shrinkingSession shrinkingSession.length) := by
  have mixed : (parseRtspRequest shrinkingSession shrinkingSession.length).session = ascii "22111111" := by decide +kernel
  have last : lastValue .session shrinkingSession = ascii "22" := by decide +kernel
  refine ⟨mixed, last, fun faithful => ?_⟩
  have same := mixed.symm.trans ((faithful .session).trans last)
  exact absurd same (by decide)

theorem header_line_cseq (line rest : Bytes) (uncut : Uncut line) (req : RtspReq) :
    (parseHeaderLine (line ++ crlf ++ rest) line.length req).cseq =
      if casePrefix (ascii "CSeq:") line then atoi (line.drop 5 ++ crlf ++ rest) else req.cseq := by
  rw [parseHeaderLine, case_prefix_uncut (ascii "CSeq:") _ _ uncut (by decide)]
  split
  · rename_i named
    have long : 5 ≤ line.length := by
      have same := congrArg List.length (beq_iff_eq.mp named)
      simp only [List.length_map, List.length_take] at same
      have five : (ascii "CSeq:").length = 5 := rfl
      omega
    dsimp only
    rw [List.append_assoc, List.drop_append_of_le_length long, List.append_assoc]
  · split
    · rfl
    · split
      · rfl
      · split <;> rfl

theorem lines_text_blank (lines : List Bytes) : (linesText lines).all isSpace = lines.flatten.all isSpace := by
  induction lines with
  | nil => rfl
  | cons line rest ih =>
      have space : crlf.all isSpace = true := by decide
      rw [linesText, List.flatMap_cons, List.all_append, List.all_append, space, Bool.and_true, List.flatten_cons, List.all_append,
        ← ih]
      rfl

-- A CSeq header with nothing but white space from its colon to the end of the request.
def Unclosed (lines : List Bytes) : Prop :=
  ∃ early line later, lines = early ++ line :: later ∧ casePrefix (ascii "CSeq:") line = true ∧
    (line.drop 5 ++ later.flatten).all isSpace = true

theorem cseq_local (lines : List Bytes) (behind other : Bytes) (req req' : RtspReq) (uncut : ∀ line ∈ lines, Uncut line)
    (closed : ¬Unclosed lines) (same : req.cseq = req'.cseq) :
    (parseLines behind lines req).cseq = (parseLines other lines req').cseq := by
  induction lines generalizing req req' with
  | nil => exact same
  | cons line rest ih =>
      obtain ⟨here, later⟩ := List.forall_mem_cons.mp uncut
      have closedRest : ¬Unclosed rest := by
        rintro ⟨early, last, behind, split, found⟩
        exact closed ⟨line :: early, last, behind, by rw [split]; rfl, found⟩
      refine ih _ _ later closedRest ?_
      rw [header_line_cseq line _ here, header_line_cseq line _ here]
      split
      · rename_i named
        have filled : (line.drop 5 ++ crlf ++ linesText rest).all isSpace = false := by
          have space : crlf.all isSpace = true := by decide
          rw [List.all_append, List.all_append, space, Bool.and_true, lines_text_blank, ← List.all_append]
          exact Bool.eq_false_iff.mpr fun blank => closed ⟨[], line, rest, rfl, named, blank⟩
        have ends : ∃ before, line.drop 5 ++ crlf ++ linesText rest = before ++ crlf := lines_text_ends (line.drop 5) rest
        rw [← List.append_assoc, ← List.append_assoc, atoi_append _ behind ends filled, atoi_append _ other ends filled]
      · exact same

theorem parse_lines_append (early late : List Bytes) (behind : Bytes) (req : RtspReq) :
    parseLines behind (early ++ late) req = parseLines behind late (parseLines (linesText late ++ behind) early req) := by
  induction early generalizing req with
  | nil => rfl
  | cons line rest ih =>
      have joined : linesText (rest ++ late) ++ behind = linesText rest ++ (linesText late ++ behind) := by
        rw [lines_text_append, List.append_assoc]
      rw [List.cons_append, parseLines, ih, parseLines, joined]

theorem letter_dark : ∀ byte : UInt8, lower byte = 99 → isSpace byte = false := by decide +kernel

theorem blank_lines_cseq (lines : List Bytes) (behind : Bytes) (req : RtspReq) (uncut : ∀ line ∈ lines, Uncut line)
    (blank : lines.flatten.all isSpace = true) : (parseLines behind lines req).cseq = req.cseq := by
  induction lines generalizing req with
  | nil => rfl
  | cons line rest ih =>
      obtain ⟨here, later⟩ := List.forall_mem_cons.mp uncut
      rw [List.flatten_cons, List.all_append, Bool.and_eq_true] at blank
      have unnamed : casePrefix (ascii "CSeq:") line = false := by
        cases named : casePrefix (ascii "CSeq:") line with
        | false => rfl
        | true =>
            have letter := first_letter (ascii "CSeq:") line (by decide) named
            cases line with
            | nil => exact absurd letter (by decide)
            | cons byte tail =>
                have dark := letter_dark byte (Option.some.inj letter)
                rw [List.all_cons, dark] at blank
                exact absurd blank.1 Bool.false_ne_true
      rw [parseLines, ih _ later blank.2, header_line_cseq line _ here, unnamed]
      rfl

theorem unclosed_cseq (lines : List Bytes) (behind : Bytes) (req : RtspReq) (uncut : ∀ line ∈ lines, Uncut line)
    (unclosed : Unclosed lines) : (parseLines behind lines req).cseq = atoi behind := by
  obtain ⟨early, line, later, rfl, named, blank⟩ := unclosed
  obtain ⟨_, rest⟩ := List.forall_mem_append.mp uncut
  obtain ⟨here, others⟩ := List.forall_mem_cons.mp rest
  rw [List.all_append, Bool.and_eq_true] at blank
  have space : (line.drop 5 ++ crlf ++ linesText later).all isSpace = true := by
    have feed : crlf.all isSpace = true := by decide
    rw [List.all_append, List.all_append, blank.1, feed, lines_text_blank, blank.2]
    rfl
  rw [parse_lines_append, parseLines, blank_lines_cseq later behind _ others blank.2, header_line_cseq line _ here, if_pos named,
    ← List.append_assoc, atoi_blank _ _ space]

theorem parse_local_iff (text : Bytes) (request : IsRequest text) :
    (∀ behind other : Bytes,
      parseRtspRequest (cstr (text ++ behind)) text.length = parseRtspRequest (cstr (text ++ other)) text.length) ↔
      ¬(2 ≤ text.count 32 ∧ Unclosed (headerLinesOf text)) := by
  have whole := request
  obtain ⟨clean, front, split, _⟩ := whole
  obtain ⟨start, lines, cut⟩ := request_cut text ⟨_, split⟩
  have headers : headerLinesOf text = lines := by
    rw [headerLinesOf, cut.found]
    rfl
  rw [headers]
  refine ⟨fun same => ?_, fun closed behind other => ?_⟩
  · rintro ⟨spaces, unclosed⟩
    have read (byte : UInt8) (kept : cstr [byte] = [byte]) :
        (parseRtspRequest (cstr (text ++ [byte])) text.length).cseq = atoi [byte] := by
      obtain ⟨method, uri, parsed⟩ := (parse_request_lines text start [byte] lines cut).1 spaces
      rw [cstr_append_clean text _ clean, kept, parsed, unclosed_cseq lines _ _ cut.uncut unclosed]
    have one := read 49 rfl
    have two := read 50 rfl
    rw [same [49] [50], two] at one
    exact absurd one (by decide)
  · rw [cstr_append_clean text _ clean, cstr_append_clean text _ clean]
    have fields := forget_fields _ _ (parse_request_local text (cstr behind) (cstr other) request)
    have cseq : (parseRtspRequest (text ++ cstr behind) text.length).cseq = (parseRtspRequest (text ++ cstr other) text.length).cseq := by
      obtain ⟨full, given⟩ := parse_request_lines text start (cstr behind) lines cut
      obtain ⟨fullOther, givenOther⟩ := parse_request_lines text start (cstr other) lines cut
      by_cases spaces : 2 ≤ text.count 32
      · obtain ⟨method, uri, parsed⟩ := full spaces
        obtain ⟨method', uri', parsedOther⟩ := fullOther spaces
        rw [parsed, parsedOther]
        exact cseq_local lines _ _ _ _ cut.uncut (fun unclosed => closed ⟨spaces, unclosed⟩) rfl
      · obtain ⟨method, parsed⟩ := given spaces
        obtain ⟨method', parsedOther⟩ := givenOther spaces
        rw [parsed, parsedOther]
    obtain ⟨method, uri, transport, session, authorization⟩ := fields
    generalize parseRtspRequest (text ++ cstr behind) text.length = one at *
    generalize parseRtspRequest (text ++ cstr other) text.length = two at *
    cases one
    cases two
    simp_all

def optionsRequest (cseq : String) : Bytes := ascii "OPTIONS * RTSP/1.0\r\nCSeq:" ++ ascii cseq ++ crlf ++ crlf

theorem numbered_options_local : IsRequest (optionsRequest " 7") ∧ ∀ behind other : Bytes,
    parseRtspRequest (cstr (optionsRequest " 7" ++ behind)) (optionsRequest " 7").length =
      parseRtspRequest (cstr (optionsRequest " 7" ++ other)) (optionsRequest " 7").length := by
  have request : IsRequest (optionsRequest " 7") := ⟨by decide +kernel, _, rfl, by decide +kernel⟩
  refine ⟨request, (parse_local_iff (optionsRequest " 7") request).mpr ?_⟩
  rintro ⟨_, early, line, later, split, named, blank⟩
  have lines : headerLinesOf (optionsRequest " 7") = [ascii "CSeq: 7", []] := by decide +kernel
  rw [lines] at split
  match early, split with
  | [], split =>
      obtain ⟨rfl, rfl⟩ := List.cons.inj split
      exact absurd blank (by decide)
  | [_], split =>
      obtain ⟨rfl, _⟩ := List.cons.inj (List.cons.inj split).2
      exact absurd named (by decide)
  | _ :: _ :: more, split =>
      have none := (List.cons.inj (List.cons.inj split).2).2
      exact absurd none.symm (List.append_ne_nil_of_right_ne_nil more (List.cons_ne_nil _ _))

theorem empty_cseq_reads_on :
    (parseRtspRequest (cstr (optionsRequest "" ++ ascii "5")) (optionsRequest "").length).cseq = 5 ∧
      (parseRtspRequest (cstr (optionsRequest "" ++ [])) (optionsRequest "").length).cseq = 0 ∧
      ¬∀ behind other : Bytes,
        parseRtspRequest (cstr (optionsRequest "" ++ behind)) (optionsRequest "").length =
          parseRtspRequest (cstr (optionsRequest "" ++ other)) (optionsRequest "").length := by
  have five : (parseRtspRequest (cstr (optionsRequest "" ++ ascii "5")) (optionsRequest "").length).cseq = 5 := by decide +kernel
  have zero : (parseRtspRequest (cstr (optionsRequest "" ++ [])) (optionsRequest "").length).cseq = 0 := by decide +kernel
  refine ⟨five, zero, fun same => ?_⟩
  rw [same (ascii "5") [], zero] at five
  exact absurd five (by decide)

end Intercom
