import Intercom.Http.CallAddress
import Intercom.Http.Regex

set_option autoImplicit false

/- http_msg_decode of libre (http/msg.c) for requests: the start line by regular expressions, the headers byte by byte. What it
   makes of a text that it accepts or refuses for its content stays the same when more bytes follow. -/
namespace Intercom.Http

open ByteText

-- tolower of a char, which is signed.
def charInt (byte : UInt8) : UInt32 := if byte < 128 then (lower byte).toUInt32 else byte.toUInt32 + 0xFFFFFF00

def joaatLoop : UInt32 → Bytes → UInt32
  | hash, [] => hash
  | hash, byte :: rest =>
      let hash := hash + charInt byte
      let hash := hash + (hash <<< 10)
      joaatLoop (hash ^^^ (hash >>> 6)) rest

def hashJoaatCi (str : Bytes) : UInt32 :=
  let hash := joaatLoop 0 str
  let hash := hash + (hash <<< 3)
  let hash := hash ^^^ (hash >>> 11)
  hash + (hash <<< 15)

-- No number stands for HTTP_HDR_NONE.
def hdrHash (name : Bytes) : Option UInt32 :=
  match name with
  | [] => none
  | first :: rest => if lower first = 120 ∧ rest.head? = some 45 then none else some (hashJoaatCi name &&& 0xfff)

def hdrContentType : UInt32 := 809
def hdrContentLength : UInt32 := 3861

example : hdrHash (ascii "content-length") = some hdrContentLength ∧ hdrHash (ascii "Content-Type") = some hdrContentType := by decide

def commaSeparated : List UInt32 :=
  [3186, 24, 708, 2867, 3027, 2429, 2530, 865, 580, 3371, 1550, 2684, 4030, 1673, 2937, 2076, 3158, 2035, 2577, 2115, 717, 3076,
    3961, 2108]

def hdrCommaSeparated : Option UInt32 → Bool
  | none => false
  | some id => commaSeparated.contains id

structure HttpHdr where
  name : Bytes
  id : Option UInt32
  val : Bytes
deriving DecidableEq, Repr

structure MsgCtype where
  type : Bytes
  subtype : Bytes
  params : Bytes
deriving DecidableEq, Repr

-- ws.p has to be where the value begins.
def msgCtypeDecode (val : Bytes) : Option MsgCtype :=
  match reRegex val (ascii "[ \t\r\n]*[^ \t\r\n;/]+[ \t\r\n]*/[ \t\r\n]*[^ \t\r\n;]+[^]*") with
  | some ⟨0, [_, type, _, _, subtype, params], _⟩ => some ⟨type, subtype, params⟩
  | _ => none

structure MsgHead where
  met : Bytes
  path : Bytes
  prm : Bytes
  ver : Bytes
  hdrl : List HttpHdr := []
  ctyp : Option MsgCtype := none
  clen : UInt32 := 0
deriving DecidableEq, Repr

def hdrAdd (msg : MsgHead) (name : Bytes) (id : Option UInt32) (val : Bytes) : Option MsgHead :=
  let msg := { msg with hdrl := msg.hdrl ++ [⟨name, id, val⟩] }
  if id = some hdrContentType then (msgCtypeDecode val).map fun ctyp => { msg with ctyp := some ctyp }
  else if id = some hdrContentLength then some { msg with clen := plU32 val }
  else some msg

-- name.p is null in start, name.l is 0 in inName; the texts run from name.p and from cv to where p stands.
inductive HdrPos where
  | start
  | inName (text : Bytes)
  | inValue (name : Bytes) (id : Option UInt32) (cv : Option Bytes)
deriving DecidableEq, Repr

structure HdrScan where
  pos : HdrPos := .start
  ws : Nat := 0
  lf : Bool := false
  quote : Bool := false
deriving DecidableEq, Repr

def HdrPos.pass (byte : UInt8) : HdrPos → HdrPos
  | .start => .start
  | .inName text => .inName (text ++ [byte])
  | .inValue name id cv => .inValue name id (cv.map fun text => text ++ [byte])

def HdrPos.comsep : HdrPos → Bool
  | .inValue _ id _ => hdrCommaSeparated id
  | _ => false

-- What stands from cv on, without the white space that was counted last.
def valueText (cv : Option Bytes) (ws : Nat) : Bytes := (cv.getD []).take ((cv.getD []).length - ws)

def HdrScan.add (scan : HdrScan) (msg : MsgHead) : Option MsgHead :=
  match scan.pos with
  | .inValue name id cv => hdrAdd msg name id (valueText cv scan.ws)
  | _ => none

inductive HdrByte where
  | more (msg : MsgHead) (scan : HdrScan)
  | done (msg : MsgHead)
  | bad

def textByte (msg : MsgHead) (scan : HdrScan) (byte : UInt8) : HdrByte :=
  match scan.pos with
  | .start => if byte = 58 then .bad else .more msg { scan with pos := .inName [byte], ws := 0 }
  | .inName text =>
      if byte ≠ 58 then .more msg { scan with pos := .inName (text ++ [byte]), ws := 0 }
      else
        let name := text.take (text.length - scan.ws)
        if name = [] then .bad else .more msg { scan with pos := .inValue name (hdrHash name) none }
  | .inValue name id cv =>
      let quote := if cv.isNone then false else scan.quote
      .more msg { scan with pos := .inValue name id (some (cv.getD [] ++ [byte])), ws := 0, quote := if byte = 34 then !quote else quote }

-- A header ends at a comma, at the first byte of the next line or at the blank line.
def headerByte (msg : MsgHead) (scan : HdrScan) (byte : UInt8) : HdrByte :=
  let passed := { scan with pos := scan.pos.pass byte, ws := scan.ws + 1 }
  if byte = 32 ∨ byte = 9 then .more msg { passed with lf := false }
  else if byte = 13 then .more msg passed
  else if byte = 10 then
    if scan.pos = .start then .done msg
    else if !scan.lf then .more msg { passed with lf := true }
    else
      match passed.add msg with
      | none => .bad
      | some msg => .done msg
  else if scan.lf then
    match scan.add msg with
    | none => .bad
    | some msg => textByte msg { scan with pos := .start, lf := false } byte
  else if byte = 44 ∧ scan.pos.comsep ∧ !scan.quote then
    match scan.add msg with
    | none => .bad
    | some msg =>
        match scan.pos with
        | .inValue name id _ => .more msg { scan with pos := .inValue name id none }
        | _ => .bad
  else textByte msg scan byte

inductive Decoded where
  | message (msg : MsgHead) (rest : Bytes)
  | nodata
  | badmsg
deriving DecidableEq, Repr

def headerLoop : MsgHead → HdrScan → Bytes → Decoded
  | _, _, [] => .nodata
  | msg, scan, byte :: rest =>
      match headerByte msg scan byte with
      | .more msg scan => headerLoop msg scan rest
      | .done msg => .message msg rest
      | .bad => .badmsg

def startlineMax : Nat := 8192

def startLine (text : Bytes) : Option RegexMatch := reRegex text (ascii "[\r\n]*[^\r\n]+[\r]*[\n]1")

-- The method has to begin the line.
def requestHead (line : Bytes) : Option MsgHead :=
  match reRegex line (ascii "[a-z]+ [^? ]+[^ ]* HTTP/[0-9.]+") with
  | some ⟨0, [met, path, prm, ver], _⟩ => some { met, path, prm, ver }
  | _ => none

-- The line itself is the second of the four groups.
def httpMsgDecode (text : Bytes) : Decoded :=
  match startLine text with
  | none => if startlineMax < text.length then .badmsg else .nodata
  | some found =>
      match requestHead (found.groups.getD 1 []) with
      | none => .badmsg
      | some msg => headerLoop msg {} found.rest

def Decoded.followed (behind : Bytes) : Decoded → Decoded
  | .message msg rest => .message msg (rest ++ behind)
  | .nodata => .nodata
  | .badmsg => .badmsg

theorem header_loop_append (msg : MsgHead) (scan : HdrScan) (text behind : Bytes) (settled : headerLoop msg scan text ≠ .nodata) :
    headerLoop msg scan (text ++ behind) = (headerLoop msg scan text).followed behind := by
  induction text generalizing msg scan with
  | nil => exact absurd rfl settled
  | cons byte rest ih =>
      rw [List.cons_append, headerLoop, headerLoop]
      rw [headerLoop] at settled
      cases read : headerByte msg scan byte with
      | more msg scan =>
          rw [read] at settled
          exact ih msg scan settled
      | done msg => rfl
      | bad => rfl

def breaks : List (UInt8 × UInt8) := [(13, 13), (10, 10)]

theorem break_class (byte : UInt8) : exprMatch breaks (lower byte) false = true ↔ EndsLine byte := by
  simp [exprMatch, breaks, lower_single, EndsLine]

theorem plain_class (byte : UInt8) : exprMatch breaks (lower byte) true = true ↔ byte ≠ 13 ∧ byte ≠ 10 := by
  simp [exprMatch, breaks, lower_single]

theorem return_class (byte : UInt8) : exprMatch [(13, 13)] (lower byte) false = true ↔ byte = 13 := by
  simp [exprMatch, lower_single]

theorem feed_class (byte : UInt8) : exprMatch [(10, 10)] (lower byte) false = true ↔ byte = 10 := by
  simp [exprMatch, lower_single]

def feedPieces : List Piece := [.cls [(10, 10)] false 1 (some 1)]
def returnPieces : List Piece := .cls [(13, 13)] false 0 none :: feedPieces
def plainPieces : List Piece := .cls breaks true 1 none :: returnPieces
def startPieces : List Piece := .cls breaks false 0 none :: plainPieces

theorem start_line_pieces (text : Bytes) : startLine text = searchFrom startPieces text := by
  have read : readExpr .outside (ascii "[\r\n]*[^\r\n]+[\r]*[\n]1") = some startPieces := by decide +kernel
  rw [startLine, reRegex, read]
  rfl

theorem try_feed (rest : Bytes) : tryAt feedPieces (10 :: rest) = .found [[10]] rest := by
  have run : classRun [(10, 10)] false (some 1) (10 :: rest) = [10] := by
    rw [classRun, List.takeWhile_cons_of_pos (by decide)]
    rfl
  rw [feedPieces, tryAt, run]
  rfl

theorem try_no_feed (text : Bytes) (other : text.head? ≠ some 10) : tryAt feedPieces text = .again := by
  have run : classRun [(10, 10)] false (some 1) text = [] := by
    cases text with
    | nil => rfl
    | cons byte rest =>
        have miss : exprMatch [(10, 10)] (lower byte) false = false := by
          rw [← Bool.not_eq_true, feed_class]
          intro same
          exact other (congrArg some same)
        rw [classRun, List.takeWhile_cons_of_neg (by simp [miss])]
        rfl
  rw [feedPieces, tryAt, run]
  rfl

theorem try_line (front line returns rest : Bytes) (breaks : ∀ byte ∈ front, EndsLine byte) (plain : Unbroken line)
    (filled : line ≠ []) (only : ∀ byte ∈ returns, byte = 13) (turn : ∀ byte ∈ (returns ++ rest).head?, EndsLine byte)
    (stop : rest.head? ≠ some 13) :
    tryAt startPieces (front ++ (line ++ (returns ++ rest))) =
      (((tryAt feedPieces rest).after returns).after line).after front := by
  have outside : ∀ byte ∈ (line ++ (returns ++ rest)).head?, exprMatch Http.breaks (lower byte) false = false := by
    intro byte first
    cases line with
    | nil => exact absurd rfl filled
    | cons head tail =>
        obtain rfl : head = byte := Option.some.inj first
        have clean := plain head List.mem_cons_self
        rw [← Bool.not_eq_true, break_class]
        rintro (same | same)
        · exact clean.1 same
        · exact clean.2 same
  have ended : ∀ byte ∈ (returns ++ rest).head?, exprMatch Http.breaks (lower byte) true = false := by
    intro byte first
    rw [← Bool.not_eq_true, plain_class]
    rintro ⟨notReturn, notFeed⟩
    rcases turn byte first with same | same
    · exact notReturn same
    · exact notFeed same
  have past : ∀ byte ∈ rest.head?, exprMatch [(13, 13)] (lower byte) false = false := by
    intro byte first
    rw [← Bool.not_eq_true, return_class]
    rintro rfl
    exact stop first
  rw [startPieces, try_class _ _ _ _ front _ (fun byte member => (break_class byte).mpr (breaks byte member)) outside (Nat.zero_le _),
    plainPieces, try_class _ _ _ _ line _ (fun byte member => (plain_class byte).mpr (plain byte member)) ended
      (List.length_pos_iff.mpr filled),
    returnPieces, try_class _ _ _ _ returns _ (fun byte member => (return_class byte).mpr (only byte member)) past (Nat.zero_le _)]

theorem try_blank (front : Bytes) (breaks : ∀ byte ∈ front, EndsLine byte) : tryAt startPieces front = .again := by
  have first := try_class Http.breaks false 0 plainPieces front [] (fun byte member => (break_class byte).mpr (breaks byte member))
    (fun _ none => absurd none (by simp)) (Nat.zero_le _)
  have second := try_class_short Http.breaks true 1 returnPieces [] [] (fun _ member => absurd member List.not_mem_nil)
    (fun _ none => absurd none (by simp)) Nat.zero_lt_one
  rw [List.append_nil] at first
  rw [startPieces, first, plainPieces]
  simp only [List.append_nil] at second
  rw [second]
  rfl

def Unended (text : Bytes) : Prop :=
  ∃ front line returns, text = front ++ (line ++ returns) ∧ (∀ byte ∈ front, EndsLine byte) ∧ Unbroken line ∧
    ∀ byte ∈ returns, byte = (13 : UInt8)

theorem unended_tail (byte : UInt8) (rest : Bytes) (unended : Unended (byte :: rest)) : Unended rest := by
  obtain ⟨front, line, returns, text, breaks, plain, only⟩ := unended
  cases front with
  | cons head front =>
      exact ⟨front, line, returns, (List.cons.inj text).2, fun other member => breaks other (List.mem_cons_of_mem _ member), plain, only⟩
  | nil =>
      cases line with
      | cons head line =>
          exact ⟨[], line, returns, (List.cons.inj text).2, breaks, fun other member => plain other (List.mem_cons_of_mem _ member), only⟩
      | nil =>
          cases returns with
          | nil => cases text
          | cons head returns =>
              exact ⟨[], [], returns, (List.cons.inj text).2, breaks, plain, fun other member => only other (List.mem_cons_of_mem _ member)⟩

theorem try_unended (text : Bytes) (unended : Unended text) : tryAt startPieces text = .again := by
  obtain ⟨front, line, returns, rfl, breaks, plain, only⟩ := unended
  by_cases filled : line = []
  · subst filled
    rw [List.nil_append]
    apply try_blank
    intro byte member
    rcases List.mem_append.mp member with inside | inside
    · exact breaks byte inside
    · exact Or.inl (only byte inside)
  · have whole := try_line front line returns [] breaks plain filled only
      (fun byte first => Or.inl (only byte (by simpa using List.mem_of_head? (by simpa using first)))) (by simp)
    rw [List.append_nil] at whole
    rw [whole, try_no_feed [] (by simp)]
    rfl

theorem search_unended (text : Bytes) (unended : Unended text) : searchFrom startPieces text = none := by
  induction text with
  | nil => rfl
  | cons byte rest ih =>
      rw [searchFrom, try_unended _ unended]
      simp only [ih (unended_tail byte rest unended), Option.map_none]

theorem run_split (inside : UInt8 → Bool) (text : Bytes) :
    ∃ run rest, text = run ++ rest ∧ (∀ byte ∈ run, inside byte = true) ∧ ∀ byte ∈ rest.head?, inside byte = false := by
  induction text with
  | nil => exact ⟨[], [], rfl, by simp, by simp⟩
  | cons head tail ih =>
      cases kind : inside head with
      | false => exact ⟨[], head :: tail, rfl, by simp, by simpa using kind⟩
      | true =>
          obtain ⟨run, rest, split, all, stops⟩ := ih
          exact ⟨head :: run, rest, by rw [split, List.cons_append], by simpa [kind] using all, stops⟩

-- A text has no start line yet, or it begins with one, or a return stands inside its first line.
theorem start_cases (text : Bytes) :
    Unended text ∨
      ∃ front line returns byte rest, text = front ++ (line ++ (returns ++ byte :: rest)) ∧ (∀ byte ∈ front, EndsLine byte) ∧
        Unbroken line ∧ line ≠ [] ∧ (∀ byte ∈ returns, byte = 13) ∧ byte ≠ 13 ∧ (byte = 10 ∨ returns ≠ []) := by
  obtain ⟨front, behind, rfl, breaks, fresh⟩ := run_split (fun byte => byte == 13 || byte == 10) text
  obtain ⟨line, after, rfl, plain, ended⟩ := run_split (fun byte => byte != 13 && byte != 10) behind
  obtain ⟨returns, rest, rfl, only, past⟩ := run_split (fun byte => byte == 13) after
  simp only [Bool.or_eq_true, beq_iff_eq] at breaks
  simp only [Bool.and_eq_true, bne_iff_ne] at plain
  simp only [beq_iff_eq] at only
  cases rest with
  | nil => exact Or.inl ⟨front, line, returns, by rw [List.append_nil], breaks, plain, only⟩
  | cons byte rest =>
      have other : byte ≠ 13 := by simpa using past byte rfl
      have filled : line ≠ [] := by
        rintro rfl
        cases returns with
        | nil =>
            have notBreak : ¬byte = 10 := by
              have none := fresh byte rfl
              simp only [Bool.or_eq_false_iff, beq_eq_false_iff_ne] at none
              exact none.2
            have notPlain := ended byte rfl
            simp [other, notBreak] at notPlain
        | cons head tail =>
            obtain rfl : head = 13 := only head List.mem_cons_self
            have none := fresh 13 rfl
            simp at none
      refine Or.inr ⟨front, line, returns, byte, rest, rfl, breaks, plain, filled, only, other, ?_⟩
      by_cases feed : byte = 10
      · exact Or.inl feed
      · refine Or.inr ?_
        rintro rfl
        have notPlain := ended byte rfl
        simp [other, feed] at notPlain

-- By induction on the positions that are tried; one that is passed over is passed over with more text, too.
theorem search_append (text behind : Bytes) (found : (searchFrom startPieces text).isSome) :
    searchFrom startPieces (text ++ behind) =
      (searchFrom startPieces text).map fun line => { line with rest := line.rest ++ behind } := by
  induction text with
  | nil => cases found
  | cons head tail ih =>
      rcases start_cases (head :: tail) with unended | ⟨front, line, returns, byte, rest, split, breaks, plain, filled, only, other, turn⟩
      · rw [search_unended _ unended] at found
        cases found
      · have tried : ∀ more, tryAt startPieces (front ++ (line ++ (returns ++ byte :: more))) =
            (((tryAt feedPieces (byte :: more)).after returns).after line).after front := by
          intro more
          apply try_line front line returns _ breaks plain filled only
          · intro first isFirst
            cases returns with
            | nil =>
                obtain rfl : byte = first := by simpa using isFirst
                exact Or.inr (by simpa using turn)
            | cons one others =>
                obtain rfl : one = first := by simpa using isFirst
                exact Or.inl (only one List.mem_cons_self)
          · simpa using other
        have longer : head :: (tail ++ behind) = front ++ (line ++ (returns ++ byte :: (rest ++ behind))) := by
          rw [← List.cons_append, split]
          simp only [List.append_assoc, List.cons_append]
        have here := tried rest
        have there := tried (rest ++ behind)
        rw [← split] at here
        rw [← longer] at there
        rw [List.cons_append, searchFrom, searchFrom, here, there]
        by_cases feed : byte = 10
        · subst feed
          rw [try_feed, try_feed]
          rfl
        · rw [try_no_feed (byte :: rest) (by simpa using feed), try_no_feed (byte :: (rest ++ behind)) (by simpa using feed)]
          have later : (searchFrom startPieces tail).isSome := by
            rw [searchFrom, here, try_no_feed (byte :: rest) (by simpa using feed)] at found
            simpa [Tried.after] using found
          simp only [Tried.after, ih later, Option.map_map]
          rfl

theorem start_line_append (text behind : Bytes) (found : (startLine text).isSome) :
    startLine (text ++ behind) = (startLine text).map fun line => { line with rest := line.rest ++ behind } := by
  rw [start_line_pieces] at found
  rw [start_line_pieces, start_line_pieces]
  exact search_append text behind found

theorem message_start (text rest : Bytes) (msg : MsgHead) (read : httpMsgDecode text = .message msg rest) : (startLine text).isSome := by
  rw [httpMsgDecode] at read
  cases line : startLine text with
  | some found => rfl
  | none =>
      rw [line] at read
      by_cases long : startlineMax < text.length
      · simp only [if_pos long] at read
        cases read
      · simp only [if_neg long] at read
        cases read

theorem decode_append (text behind : Bytes) (started : (startLine text).isSome) (settled : httpMsgDecode text ≠ .nodata) :
    httpMsgDecode (text ++ behind) = (httpMsgDecode text).followed behind := by
  obtain ⟨found, read⟩ := Option.isSome_iff_exists.mp started
  have again := start_line_append text behind started
  rw [read, Option.map_some] at again
  rw [httpMsgDecode, again]
  rw [httpMsgDecode, read] at settled ⊢
  simp only [] at settled ⊢
  cases head : requestHead (found.groups.getD 1 []) with
  | none => rfl
  | some msg =>
      rw [head] at settled
      exact header_loop_append msg {} found.rest behind settled

theorem message_append (text rest behind : Bytes) (msg : MsgHead) (read : httpMsgDecode text = .message msg rest) :
    httpMsgDecode (text ++ behind) = .message msg (rest ++ behind) := by
  have settled : httpMsgDecode text ≠ .nodata := by
    rw [read]
    exact Decoded.noConfusion
  rw [decode_append text behind (message_start text rest msg read) settled, read]
  rfl

end Intercom.Http
