import Intercom.Http.Connections

set_option autoImplicit false

/- Requests as a client writes them: request line, any header fields, body. The server hears of each exactly what was written
   and hears it at the last byte. -/
namespace Intercom.Http

open ByteText

def Blankish (byte : UInt8) : Prop := byte = 32 ∨ byte = 9

instance (byte : UInt8) : Decidable (Blankish byte) := inferInstanceAs (Decidable (_ ∨ _))

def NameByte (byte : UInt8) : Prop := ¬Blankish byte ∧ byte ≠ 13 ∧ byte ≠ 10 ∧ byte ≠ 58

instance (byte : UInt8) : Decidable (NameByte byte) := inferInstanceAs (Decidable (_ ∧ _))

-- White space may stand around the value, which neither begins nor ends with it.
structure FieldText where
  name : Bytes
  lead : Bytes
  value : Bytes
  trail : Bytes
  named : name ≠ []
  clean : ∀ byte ∈ name, NameByte byte
  ahead : ∀ byte ∈ lead, Blankish byte
  behind : ∀ byte ∈ trail, Blankish byte
  unbroken : Unbroken value
  begins : ∀ byte ∈ value.head?, ¬Blankish byte
  ends : ∀ byte ∈ value.getLast?, ¬Blankish byte
  typed : hdrHash name = some hdrContentType → (msgCtypeDecode value).isSome

def FieldText.bytes (field : FieldText) : Bytes := field.name ++ [58] ++ field.lead ++ field.value ++ field.trail ++ crlf

-- The last Content-Length counts.
def declared (fields : List FieldText) (size : UInt32) : UInt32 :=
  fields.foldl (fun size field => if hdrHash field.name = some hdrContentLength then plU32 field.value else size) size

def Letter (byte : UInt8) : Prop := 97 ≤ lower byte ∧ lower byte ≤ 122

instance (byte : UInt8) : Decidable (Letter byte) := inferInstanceAs (Decidable (_ ∧ _))

structure RequestText where
  met : Bytes
  path : Bytes
  prm : Bytes
  ver : Bytes
  fields : List FieldText
  body : Bytes
  method : met ≠ [] ∧ ∀ byte ∈ met, Letter byte
  target : path ≠ [] ∧ Unbroken path ∧ ∀ byte ∈ path, byte ≠ 32 ∧ byte ≠ 63
  query : Unbroken prm ∧ (∀ byte ∈ prm, byte ≠ 32) ∧ ∀ byte ∈ prm.head?, byte = 63
  version : ver ≠ [] ∧ ∀ byte ∈ ver, isDigit byte = true ∨ byte = 46
  sized : (declared fields 0).toNat = body.length

def RequestText.line (request : RequestText) : Bytes :=
  request.met ++ ([32] ++ (request.path ++ (request.prm ++ (ascii " HTTP/" ++ request.ver))))

def RequestText.head (request : RequestText) : Bytes :=
  request.line ++ crlf ++ request.fields.flatMap FieldText.bytes ++ crlf

def RequestText.bytes (request : RequestText) : Bytes := request.head ++ request.body

def RequestText.msg (request : RequestText) : HttpMsg := ⟨request.met, request.path, request.body⟩

theorem letter_class (byte : UInt8) : exprMatch [(97, 122)] (lower byte) false = true ↔ Letter byte := by
  simp [exprMatch, Letter]

theorem target_class (byte : UInt8) : exprMatch [(63, 63), (32, 32)] (lower byte) true = true ↔ byte ≠ 32 ∧ byte ≠ 63 := by
  simp [exprMatch, lower_single, and_comm]

theorem query_class (byte : UInt8) : exprMatch [(32, 32)] (lower byte) true = true ↔ byte ≠ 32 := by
  simp [exprMatch, lower_single]

theorem version_class (byte : UInt8) :
    exprMatch [(48, 57), (46, 46)] (lower byte) false = true ↔ (isDigit byte = true ∨ byte = 46) := by
  simp [exprMatch, lower_within byte 48 57 (by decide), lower_single, isDigit]

def versionPieces : List Piece := [.cls [(48, 57), (46, 46)] false 1 none]
def queryPieces : List Piece := .cls [(32, 32)] true 0 none :: ((ascii " HTTP/").map Piece.chr ++ versionPieces)
def targetPieces : List Piece := .cls [(63, 63), (32, 32)] true 1 none :: queryPieces
def headPieces : List Piece := .cls [(97, 122)] false 1 none :: .chr 32 :: targetPieces

theorem request_head_pieces : readExpr .outside (ascii "[a-z]+ [^? ]+[^ ]* HTTP/[0-9.]+") = some headPieces := by decide +kernel

theorem try_head (request : RequestText) :
    tryAt headPieces request.line = .found [request.met, request.path, request.prm, request.ver] [] := by
  have space : ∀ byte ∈ ([32] ++ (request.path ++ (request.prm ++ (ascii " HTTP/" ++ request.ver)))).head?,
      exprMatch [(97, 122)] (lower byte) false = false := by
    intro byte first
    obtain rfl : 32 = byte := Option.some.inj first
    decide
  have mark : ∀ byte ∈ (request.prm ++ (ascii " HTTP/" ++ request.ver)).head?,
      exprMatch [(63, 63), (32, 32)] (lower byte) true = false := by
    intro byte first
    cases parameters : request.prm with
    | nil =>
        rw [parameters] at first
        obtain rfl : 32 = byte := Option.some.inj first
        decide
    | cons head rest =>
        rw [parameters] at first
        obtain rfl : head = byte := Option.some.inj first
        have question := request.query.2.2 head (by rw [parameters]; rfl)
        subst question
        decide
  have blank : ∀ byte ∈ (ascii " HTTP/" ++ request.ver).head?, exprMatch [(32, 32)] (lower byte) true = false := by
    intro byte first
    obtain rfl : 32 = byte := Option.some.inj first
    decide
  have method := try_class [(97, 122)] false 1 (.chr 32 :: targetPieces) request.met _
    (fun byte member => (letter_class byte).mpr (request.method.2 byte member)) space (List.length_pos_iff.mpr request.method.1)
  have target := try_class [(63, 63), (32, 32)] true 1 queryPieces request.path _
    (fun byte member => (target_class byte).mpr (request.target.2.2 byte member)) mark (List.length_pos_iff.mpr request.target.1)
  have query := try_class [(32, 32)] true 0 ((ascii " HTTP/").map Piece.chr ++ versionPieces) request.prm _
    (fun byte member => (query_class byte).mpr (request.query.2.1 byte member)) blank (Nat.zero_le _)
  have version := try_class [(48, 57), (46, 46)] false 1 [] request.ver []
    (fun byte member => (version_class byte).mpr (request.version.2 byte member)) (fun _ none => absurd none (by simp))
    (List.length_pos_iff.mpr request.version.1)
  rw [List.append_nil] at version
  have gap : ∀ rest, tryAt (.chr 32 :: targetPieces) ([32] ++ rest) = tryAt targetPieces rest := fun rest => rfl
  rw [RequestText.line, headPieces, method, gap, targetPieces, target, queryPieces, query, try_chars, versionPieces, version]
  rfl

theorem line_filled (request : RequestText) : ∃ byte rest, request.line = byte :: rest := by
  obtain ⟨byte, rest, split⟩ := List.exists_cons_of_ne_nil request.method.1
  exact ⟨byte, _, by rw [RequestText.line, split]; rfl⟩

theorem request_head_read (request : RequestText) :
    requestHead request.line = some { met := request.met, path := request.path, prm := request.prm, ver := request.ver } := by
  obtain ⟨byte, rest, split⟩ := line_filled request
  have tried := try_head request
  rw [split] at tried
  rw [requestHead, reRegex, request_head_pieces, Option.bind_some, split, searchFrom, tried]
  rfl

theorem letter_plain (byte : UInt8) (letter : Letter byte) : byte ≠ 13 ∧ byte ≠ 10 := by
  constructor
  · rintro rfl
    exact absurd letter (by decide)
  · rintro rfl
    exact absurd letter (by decide)

theorem blank_plain (byte : UInt8) (blank : Blankish byte) : byte ≠ 13 ∧ byte ≠ 10 := by
  constructor
  · rintro rfl
    exact absurd blank (by decide)
  · rintro rfl
    exact absurd blank (by decide)

theorem version_plain (byte : UInt8) (version : isDigit byte = true ∨ byte = 46) : byte ≠ 13 ∧ byte ≠ 10 := by
  constructor
  · rintro rfl
    exact absurd version (by decide)
  · rintro rfl
    exact absurd version (by decide)

theorem line_unbroken (request : RequestText) : Unbroken request.line := by
  have met : Unbroken request.met := fun byte member => letter_plain byte (request.method.2 byte member)
  have ver : Unbroken request.ver := fun byte member => version_plain byte (request.version.2 byte member)
  have text : Unbroken (ascii " HTTP/") := by decide
  have space : Unbroken [32] := by decide
  exact unbroken_append _ _ met (unbroken_append _ _ space (unbroken_append _ _ request.target.2.1
    (unbroken_append _ _ request.query.1 (unbroken_append _ _ text ver))))

theorem start_line_read (request : RequestText) (behind : Bytes) :
    startLine (request.line ++ crlf ++ behind) = some ⟨0, [[], request.line, [13], [10]], behind⟩ := by
  obtain ⟨byte, rest, split⟩ := line_filled request
  have filled : request.line ≠ [] := by
    rw [split]
    exact List.cons_ne_nil _ _
  have tried := try_line [] request.line [13] (10 :: behind) (fun _ member => absurd member List.not_mem_nil) (line_unbroken request) filled
    (fun _ member => List.mem_singleton.mp member) (fun _ first => Or.inl (Option.some.inj first).symm) (by simp)
  rw [try_feed] at tried
  have whole : request.line ++ crlf ++ behind = byte :: (rest ++ crlf ++ behind) := by rw [split]; rfl
  have same : [] ++ (request.line ++ ([13] ++ 10 :: behind)) = request.line ++ crlf ++ behind := by
    rw [List.nil_append, List.append_assoc]
    rfl
  rw [same, whole] at tried
  rw [start_line_pieces, whole, searchFrom, tried]
  rfl

def MsgHead.request (msg : MsgHead) : Bytes × Bytes × UInt32 := (msg.met, msg.path, msg.clen)

-- Between two lines: the header that has just ended is added with the next byte.
def Between (msg : MsgHead) (scan : HdrScan) (settled : MsgHead) : Prop :=
  (scan.pos = .start ∧ scan.lf = false ∧ settled = msg) ∨
    ∃ name id cv, scan.pos = .inValue name id cv ∧ scan.lf = true ∧ scan.add msg = some settled

theorem value_text_pass (cv : Option Bytes) (ws : Nat) (byte : UInt8) :
    valueText (cv.map fun text => text ++ [byte]) (ws + 1) = valueText cv ws := by
  cases cv with
  | none => simp [valueText]
  | some text =>
      simp only [valueText, Option.map_some, Option.getD_some, List.length_append, List.length_singleton]
      rw [Nat.add_sub_add_right, List.take_append_of_le_length (Nat.sub_le _ _)]

theorem add_pass (msg : MsgHead) (scan : HdrScan) (byte : UInt8) (lf quote : Bool) :
    HdrScan.add ⟨scan.pos.pass byte, scan.ws + 1, lf, quote⟩ msg = scan.add msg := by
  cases pos : scan.pos with
  | start => simp [HdrScan.add, HdrPos.pass, pos]
  | inName text => simp [HdrScan.add, HdrPos.pass, pos]
  | inValue name id cv => simp [HdrScan.add, HdrPos.pass, pos, value_text_pass]

theorem pass_start (pos : HdrPos) (byte : UInt8) : pos.pass byte = .start ↔ pos = .start := by
  cases pos <;> simp [HdrPos.pass]

theorem blank_line_read (msg settled : MsgHead) (scan : HdrScan) (behind : Bytes) (between : Between msg scan settled) :
    headerLoop msg scan (crlf ++ behind) = .message settled behind := by
  have shape : crlf ++ behind = 13 :: 10 :: behind := rfl
  have carriage : headerByte msg scan 13 = .more msg ⟨scan.pos.pass 13, scan.ws + 1, scan.lf, scan.quote⟩ := by
    simp [headerByte]
  have feed : headerByte msg ⟨scan.pos.pass 13, scan.ws + 1, scan.lf, scan.quote⟩ 10 = .done settled := by
    rcases between with ⟨start, lf, rfl⟩ | ⟨name, id, cv, value, lf, added⟩
    · simp [headerByte, start, HdrPos.pass]
    · have open_ : ¬scan.pos.pass 13 = .start := by
        rw [pass_start, value]
        exact HdrPos.noConfusion
      have twice := add_pass msg ⟨scan.pos.pass 13, scan.ws + 1, scan.lf, scan.quote⟩ 10 true scan.quote
      simp only [] at twice
      rw [add_pass, added] at twice
      simp [headerByte, open_, lf, twice]
  rw [shape, headerLoop, carriage]
  simp only [headerLoop, feed]

-- The first byte of a name settles the header before it.
theorem name_begins (msg settled : MsgHead) (scan : HdrScan) (byte : UInt8) (between : Between msg scan settled) (clean : NameByte byte) :
    headerByte msg scan byte = .more settled ⟨.inName [byte], 0, false, scan.quote⟩ := by
  obtain ⟨solid, notReturn, notFeed, notColon⟩ := clean
  have notBlank : ¬(byte = 32 ∨ byte = 9) := solid
  rcases between with ⟨start, lf, rfl⟩ | ⟨name, id, cv, value, lf, added⟩
  · simp [headerByte, notBlank, notReturn, notFeed, start, lf, HdrPos.comsep, textByte, notColon]
  · simp [headerByte, notBlank, notReturn, notFeed, lf, added, textByte, notColon]

theorem name_read (msg : MsgHead) (text more behind : Bytes) (quote : Bool) (clean : ∀ byte ∈ more, NameByte byte) :
    headerLoop msg ⟨.inName text, 0, false, quote⟩ (more ++ behind) = headerLoop msg ⟨.inName (text ++ more), 0, false, quote⟩ behind := by
  induction more generalizing text with
  | nil => rw [List.nil_append, List.append_nil]
  | cons byte more ih =>
      obtain ⟨solid, notReturn, notFeed, notColon⟩ := clean byte List.mem_cons_self
      have notBlank : ¬(byte = 32 ∨ byte = 9) := solid
      have taken : headerByte msg ⟨.inName text, 0, false, quote⟩ byte = .more msg ⟨.inName (text ++ [byte]), 0, false, quote⟩ := by
        simp [headerByte, notBlank, notReturn, notFeed, HdrPos.comsep, textByte, notColon]
      have rest := ih (text ++ [byte]) fun other member => clean other (List.mem_cons_of_mem byte member)
      rw [List.append_assoc, List.singleton_append] at rest
      rw [List.cons_append, headerLoop, taken]
      exact rest

theorem colon_read (msg : MsgHead) (text behind : Bytes) (quote : Bool) (named : text ≠ []) :
    headerLoop msg ⟨.inName text, 0, false, quote⟩ (58 :: behind) =
      headerLoop msg ⟨.inValue text (hdrHash text) none, 0, false, quote⟩ behind := by
  have taken : headerByte msg ⟨.inName text, 0, false, quote⟩ 58 = .more msg ⟨.inValue text (hdrHash text) none, 0, false, quote⟩ := by
    simp [headerByte, HdrPos.comsep, textByte, named]
  rw [headerLoop, taken]

theorem blanks_read (msg : MsgHead) (name blanks behind : Bytes) (id : Option UInt32) (cv : Option Bytes) (ws : Nat) (quote : Bool)
    (blank : ∀ byte ∈ blanks, Blankish byte) :
    headerLoop msg ⟨.inValue name id cv, ws, false, quote⟩ (blanks ++ behind) =
      headerLoop msg ⟨.inValue name id (cv.map fun text => text ++ blanks), ws + blanks.length, false, quote⟩ behind := by
  induction blanks generalizing cv ws with
  | nil => cases cv <;> simp
  | cons byte blanks ih =>
      have isBlank : byte = 32 ∨ byte = 9 := blank byte List.mem_cons_self
      have taken : headerByte msg ⟨.inValue name id cv, ws, false, quote⟩ byte =
          .more msg ⟨.inValue name id (cv.map fun text => text ++ [byte]), ws + 1, false, quote⟩ := by
        simp [headerByte, isBlank, HdrPos.pass]
      have rest := ih (cv.map fun text => text ++ [byte]) (ws + 1) fun other member => blank other (List.mem_cons_of_mem byte member)
      have joined : ((cv.map fun text => text ++ [byte]).map fun text => text ++ blanks) = cv.map fun text => text ++ (byte :: blanks) := by
        cases cv <;> simp
      rw [joined, Nat.add_assoc, Nat.add_comm 1] at rest
      rw [List.cons_append, headerLoop, taken]
      exact rest

-- Where no comma ends a value, it is taken byte for byte.
theorem value_read (msg : MsgHead) (name more : Bytes) (id : Option UInt32) (whole : hdrCommaSeparated id = false) (clean : Unbroken more)
    (text : Bytes) (ws : Nat) (quote : Bool) :
    ∃ after later, (more = [] → after = ws) ∧ (∀ byte ∈ more.getLast?, ¬Blankish byte → after = 0) ∧ ∀ behind,
      headerLoop msg ⟨.inValue name id (some text), ws, false, quote⟩ (more ++ behind) =
        headerLoop msg ⟨.inValue name id (some (text ++ more)), after, false, later⟩ behind := by
  induction more generalizing text ws quote with
  | nil => exact ⟨ws, quote, fun _ => rfl, fun _ none => absurd none (by simp), fun behind => by rw [List.nil_append, List.append_nil]⟩
  | cons byte more ih =>
      obtain ⟨⟨notReturn, notFeed⟩, tail⟩ := (unbroken_cons byte more).mp clean
      have taken : ∃ next later, (¬Blankish byte → next = 0) ∧ headerByte msg ⟨.inValue name id (some text), ws, false, quote⟩ byte =
          .more msg ⟨.inValue name id (some (text ++ [byte])), next, false, later⟩ := by
        by_cases blank : Blankish byte
        · have isBlank : byte = 32 ∨ byte = 9 := blank
          exact ⟨ws + 1, quote, fun solid => absurd blank solid, by simp [headerByte, isBlank, HdrPos.pass]⟩
        · have notBlank : ¬(byte = 32 ∨ byte = 9) := blank
          exact ⟨0, if byte = 34 then !quote else quote, fun _ => rfl,
            by simp [headerByte, notBlank, notReturn, notFeed, HdrPos.comsep, whole, textByte]⟩
      obtain ⟨next, mark, solid, step⟩ := taken
      obtain ⟨after, later, same, last, loop⟩ := ih tail (text ++ [byte]) next mark
      refine ⟨after, later, fun none => absurd none (List.cons_ne_nil _ _), fun final member notBlank => ?_, fun behind => ?_⟩
      · cases more with
        | nil =>
            obtain rfl : byte = final := Option.some.inj member
            rw [same rfl]
            exact solid notBlank
        | cons one others => exact last final (by rwa [List.getLast?_cons_cons] at member) notBlank
      · have rest := loop behind
        rw [List.append_assoc, List.singleton_append] at rest
        rw [List.cons_append, headerLoop, step]
        exact rest

theorem hdr_add_other (msg : MsgHead) (name val : Bytes) (id : Option UInt32) (notType : id ≠ some hdrContentType)
    (notLength : id ≠ some hdrContentLength) : ∃ added, hdrAdd msg name id val = some added ∧ added.request = msg.request :=
  ⟨{ msg with hdrl := msg.hdrl ++ [⟨name, id, val⟩] }, by rw [hdrAdd, if_neg notType, if_neg notLength], rfl⟩

-- Commas may end headers inside the value of a field that nobody looks at.
theorem other_value_read (msg : MsgHead) (name more : Bytes) (id : Option UInt32) (notType : id ≠ some hdrContentType)
    (notLength : id ≠ some hdrContentLength) (clean : Unbroken more) (cv : Option Bytes) (ws : Nat) (quote : Bool) :
    ∃ head text after later, head.request = msg.request ∧ ∀ behind,
      headerLoop msg ⟨.inValue name id cv, ws, false, quote⟩ (more ++ behind) =
        headerLoop head ⟨.inValue name id text, after, false, later⟩ behind := by
  induction more generalizing msg cv ws quote with
  | nil => exact ⟨msg, cv, ws, quote, rfl, fun _ => rfl⟩
  | cons byte more ih =>
      obtain ⟨⟨notReturn, notFeed⟩, tail⟩ := (unbroken_cons byte more).mp clean
      have taken : ∃ head text next mark, head.request = msg.request ∧
          headerByte msg ⟨.inValue name id cv, ws, false, quote⟩ byte = .more head ⟨.inValue name id text, next, false, mark⟩ := by
        by_cases blank : byte = 32 ∨ byte = 9
        · exact ⟨msg, _, ws + 1, quote, rfl, by simp [headerByte, blank, HdrPos.pass]; rfl⟩
        · by_cases ends : byte = 44 ∧ hdrCommaSeparated id = true ∧ quote = false
          · obtain ⟨added, add, same⟩ := hdr_add_other msg name (valueText cv ws) id notType notLength
            exact ⟨added, none, ws, quote, same,
              by simp [headerByte, ends.1, ends.2.1, ends.2.2, HdrPos.comsep, HdrScan.add, add]⟩
          · exact ⟨msg, some (cv.getD [] ++ [byte]), 0, _, rfl,
              by simp [headerByte, blank, notReturn, notFeed, HdrPos.comsep, ends, textByte]; rfl⟩
      obtain ⟨head, text, next, mark, same, step⟩ := taken
      obtain ⟨last, final, after, later, kept, loop⟩ := ih head tail text next mark
      refine ⟨last, final, after, later, kept.trans same, fun behind => ?_⟩
      rw [List.cons_append, headerLoop, step]
      exact loop behind

theorem line_end_read (msg : MsgHead) (name behind : Bytes) (id : Option UInt32) (cv : Option Bytes) (ws : Nat) (quote : Bool) :
    headerLoop msg ⟨.inValue name id cv, ws, false, quote⟩ (crlf ++ behind) =
      headerLoop msg ⟨((HdrPos.inValue name id cv).pass 13).pass 10, ws + 2, true, quote⟩ behind := by
  have shape : crlf ++ behind = 13 :: 10 :: behind := rfl
  rw [shape, headerLoop]
  simp [headerByte, headerLoop, HdrPos.pass]

theorem line_end_between (msg settled : MsgHead) (name : Bytes) (id : Option UInt32) (cv : Option Bytes) (ws : Nat) (quote : Bool)
    (added : hdrAdd msg name id (valueText cv ws) = some settled) :
    Between msg ⟨((HdrPos.inValue name id cv).pass 13).pass 10, ws + 2, true, quote⟩ settled := by
  refine Or.inr ⟨name, id, (cv.map fun text => text ++ [13]).map fun text => text ++ [10], rfl, rfl, ?_⟩
  have first := add_pass msg ⟨(HdrPos.inValue name id cv).pass 13, ws + 1, true, quote⟩ 10 true quote
  have second := add_pass msg ⟨.inValue name id cv, ws, true, quote⟩ 13 true quote
  simp only [] at first second
  rw [first, second]
  exact added

theorem hdr_add_known (msg : MsgHead) (field : FieldText)
    (known : hdrHash field.name = some hdrContentType ∨ hdrHash field.name = some hdrContentLength) :
    ∃ added, hdrAdd msg field.name (hdrHash field.name) field.value = some added ∧
      added.request = (msg.met, msg.path, if hdrHash field.name = some hdrContentLength then plU32 field.value else msg.clen) := by
  rcases known with kind | kind
  · obtain ⟨ctyp, decoded⟩ := Option.isSome_iff_exists.mp (field.typed kind)
    refine ⟨{ msg with hdrl := msg.hdrl ++ [⟨field.name, some hdrContentType, field.value⟩], ctyp := some ctyp }, ?_, ?_⟩
    · rw [hdrAdd, kind, if_pos rfl, decoded]
      rfl
    · rw [kind, if_neg (by decide)]
      rfl
  · refine ⟨{ msg with hdrl := msg.hdrl ++ [⟨field.name, some hdrContentLength, field.value⟩], clen := plU32 field.value }, ?_, ?_⟩
    · rw [hdrAdd, kind, if_neg (by decide), if_pos rfl]
    · rw [kind, if_pos rfl]
      rfl

theorem value_text_trail (value trail : Bytes) : valueText (some (value ++ trail)) trail.length = value := by
  simp [valueText]

-- A known field is not split at commas; its value is what stands between the white space.
theorem known_value_read (msg : MsgHead) (field : FieldText) (quote : Bool) (whole : hdrCommaSeparated (hdrHash field.name) = false) :
    ∃ cv ws later, valueText cv ws = field.value ∧ ∀ behind,
      headerLoop msg ⟨.inValue field.name (hdrHash field.name) none, 0, false, quote⟩
          (field.lead ++ (field.value ++ (field.trail ++ behind))) =
        headerLoop msg ⟨.inValue field.name (hdrHash field.name) cv, ws, false, later⟩ behind := by
  cases text : field.value with
  | nil =>
      refine ⟨none, field.lead.length + field.trail.length, quote, by simp [valueText], fun behind => ?_⟩
      rw [blanks_read _ _ _ _ _ _ _ _ field.ahead, List.nil_append, blanks_read _ _ _ _ _ _ _ _ field.behind]
      simp
  | cons byte rest =>
      have solid : ¬Blankish byte := field.begins byte (by rw [text]; rfl)
      have notBlank : ¬(byte = 32 ∨ byte = 9) := solid
      have clean := field.unbroken
      rw [text] at clean
      obtain ⟨⟨notReturn, notFeed⟩, tail⟩ := (unbroken_cons byte rest).mp clean
      have first : ∃ mark, headerByte msg ⟨.inValue field.name (hdrHash field.name) none, field.lead.length, false, quote⟩ byte =
          .more msg ⟨.inValue field.name (hdrHash field.name) (some [byte]), 0, false, mark⟩ :=
        ⟨_, by simp [headerByte, notBlank, notReturn, notFeed, HdrPos.comsep, whole, textByte]; rfl⟩
      obtain ⟨mark, step⟩ := first
      obtain ⟨after, later, same, last, loop⟩ := value_read msg field.name rest (hdrHash field.name) whole tail [byte] 0 mark
      have settled : after = 0 := by
        cases rest with
        | nil => exact same rfl
        | cons one others =>
            obtain ⟨final, ends⟩ : ∃ final, (one :: others).getLast? = some final := ⟨_, List.getLast?_eq_some_getLast (List.cons_ne_nil _ _)⟩
            refine last final ends (field.ends final ?_)
            rw [text, List.getLast?_cons_cons, ends]
            rfl
      subst settled
      refine ⟨some (byte :: rest ++ field.trail), field.trail.length, later, value_text_trail _ _, fun behind => ?_⟩
      have more := loop (field.trail ++ behind)
      rw [blanks_read _ _ _ _ _ _ _ _ field.behind] at more
      rw [blanks_read _ _ _ _ _ _ _ _ field.ahead, Option.map_none, Nat.zero_add, List.cons_append, headerLoop, step]
      simpa using more

theorem known_whole (id : Option UInt32) (known : id = some hdrContentType ∨ id = some hdrContentLength) :
    hdrCommaSeparated id = false := by
  rcases known with rfl | rfl <;> decide

theorem field_name_read (msg settled : MsgHead) (scan : HdrScan) (field : FieldText) (between : Between msg scan settled) (behind : Bytes) :
    headerLoop msg scan (field.name ++ (58 :: behind)) =
      headerLoop settled ⟨.inValue field.name (hdrHash field.name) none, 0, false, scan.quote⟩ behind := by
  obtain ⟨first, rest, split⟩ := List.exists_cons_of_ne_nil field.named
  have clean := field.clean
  rw [split] at clean
  have begins := name_begins msg settled scan first between (clean first List.mem_cons_self)
  have colon := colon_read settled field.name behind scan.quote field.named
  have letters := name_read settled [first] rest (58 :: behind) scan.quote fun byte member => clean byte (List.mem_cons_of_mem first member)
  rw [split] at colon ⊢
  rw [List.cons_append, headerLoop, begins]
  exact letters.trans colon

theorem field_read (msg settled : MsgHead) (scan : HdrScan) (field : FieldText) (between : Between msg scan settled) :
    ∃ next after fresh, (∀ behind, headerLoop msg scan (field.bytes ++ behind) = headerLoop next after behind) ∧
      Between next after fresh ∧
      fresh.request =
        (settled.met, settled.path, if hdrHash field.name = some hdrContentLength then plU32 field.value else settled.clen) := by
  have shape : ∀ behind, field.bytes ++ behind =
      field.name ++ (58 :: (field.lead ++ (field.value ++ (field.trail ++ (crlf ++ behind))))) := by
    intro behind
    simp [FieldText.bytes]
  by_cases known : hdrHash field.name = some hdrContentType ∨ hdrHash field.name = some hdrContentLength
  · obtain ⟨cv, ws, later, value, loop⟩ := known_value_read settled field scan.quote (known_whole _ known)
    obtain ⟨added, add, same⟩ := hdr_add_known settled field known
    rw [← value] at add
    refine ⟨settled, _, added, fun behind => ?_, line_end_between settled added field.name _ cv ws later add, same⟩
    rw [shape, field_name_read msg settled scan field between, loop, line_end_read]
  · obtain ⟨notType, notLength⟩ := not_or.mp known
    have text : Unbroken (field.lead ++ (field.value ++ field.trail)) :=
      unbroken_append _ _ (fun byte member => blank_plain byte (field.ahead byte member))
        (unbroken_append _ _ field.unbroken fun byte member => blank_plain byte (field.behind byte member))
    obtain ⟨head, cv, ws, later, same, loop⟩ :=
      other_value_read settled field.name _ (hdrHash field.name) notType notLength text none 0 scan.quote
    obtain ⟨added, add, kept⟩ := hdr_add_other head field.name (valueText cv ws) (hdrHash field.name) notType notLength
    refine ⟨head, _, added, fun behind => ?_, line_end_between head added field.name _ cv ws later add, ?_⟩
    · have whole := loop (crlf ++ behind)
      simp only [List.append_assoc] at whole
      rw [shape, field_name_read msg settled scan field between, whole, line_end_read]
    · rw [kept, same, if_neg notLength]
      rfl

-- By induction on the fields, with the one before still to be added.
theorem fields_read (fields : List FieldText) (msg settled : MsgHead) (scan : HdrScan) (between : Between msg scan settled) :
    ∃ last, (∀ behind, headerLoop msg scan (fields.flatMap FieldText.bytes ++ (crlf ++ behind)) = .message last behind) ∧
      last.request = (settled.met, settled.path, declared fields settled.clen) := by
  induction fields generalizing msg settled scan with
  | nil => exact ⟨settled, fun behind => blank_line_read msg settled scan behind between, rfl⟩
  | cons field rest ih =>
      obtain ⟨next, after, fresh, loop, kept, same⟩ := field_read msg settled scan field between
      obtain ⟨last, read, request⟩ := ih next fresh after kept
      refine ⟨last, fun behind => ?_, ?_⟩
      · rw [List.flatMap_cons, List.append_assoc, loop]
        exact read behind
      · have each : fresh.met = settled.met ∧ fresh.path = settled.path ∧
            fresh.clen = if hdrHash field.name = some hdrContentLength then plU32 field.value else settled.clen := by
          simpa [MsgHead.request] using same
        rw [request, each.1, each.2.1, each.2.2]
        rfl

theorem head_read (request : RequestText) (behind : Bytes) :
    ∃ msg, httpMsgDecode (request.head ++ behind) = .message msg behind ∧ msg.met = request.met ∧ msg.path = request.path ∧
      msg.clen.toNat = request.body.length := by
  obtain ⟨msg, read, same⟩ := fields_read request.fields _ _ {} (Or.inl ⟨rfl, rfl, rfl⟩ :
    Between { met := request.met, path := request.path, prm := request.prm, ver := request.ver } {} _)
  have start := start_line_read request (request.fields.flatMap FieldText.bytes ++ (crlf ++ behind))
  have parts : msg.met = request.met ∧ msg.path = request.path ∧ msg.clen = declared request.fields 0 := by
    simpa [MsgHead.request] using same
  refine ⟨msg, ?_, parts.1, parts.2.1, by rw [parts.2.2]; exact request.sized⟩
  have shape : request.head ++ behind = request.line ++ crlf ++ (request.fields.flatMap FieldText.bytes ++ (crlf ++ behind)) := by
    simp [RequestText.head]
  rw [shape, httpMsgDecode, start]
  simp only [List.getD_cons_succ, List.getD_cons_zero, request_head_read]
  exact read behind

theorem whole_request_heard (request : RequestText) (behind : Bytes) : reading (request.bytes ++ behind) = .hears request.msg := by
  obtain ⟨msg, read, met, path, size⟩ := head_read request (request.body ++ behind)
  rw [RequestText.bytes, List.append_assoc, reading, read]
  simp only []
  rw [if_neg (by rw [List.length_append]; omega), met, path, size, List.take_left]
  rfl

-- Were it heard earlier, the bytes behind would have to be part of the body.
theorem part_request_waits (request : RequestText) (part missing : Bytes) (split : part ++ missing = request.bytes) (some : missing ≠ []) :
    firstRequest part = none := by
  rw [firstRequest]
  cases read : reading part with
  | waits => rfl
  | refuses => rfl
  | hears msg =>
      exfalso
      obtain ⟨head, decoded, _, _, size⟩ := head_read request request.body
      rw [← RequestText.bytes, ← split] at decoded
      rw [reading] at read
      cases early : httpMsgDecode part with
      | nodata =>
          rw [early] at read
          cases read
      | badmsg =>
          rw [early] at read
          cases read
      | message msg rest =>
          rw [message_append part rest missing msg early] at decoded
          obtain ⟨rfl, body⟩ := Decoded.message.inj decoded
          rw [early] at read
          simp only [] at read
          have fewer : rest.length < msg.clen.toNat := by
            have total := congrArg List.length body
            have positive : 0 < missing.length := List.length_pos_iff.mpr some
            rw [List.length_append] at total
            omega
          rw [if_pos fewer] at read
          cases read

theorem request_tame (request : RequestText) (behind : Bytes) (short : request.line.length + 2 ≤ startlineMax)
    (fits : (request.bytes ++ behind).length ≤ bufsizeMax) : Tame (request.bytes ++ behind) := by
  refine ⟨fits, fun _ => ?_⟩
  have shape : request.bytes ++ behind =
      (request.line ++ crlf) ++ (request.fields.flatMap FieldText.bytes ++ (crlf ++ (request.body ++ behind))) := by
    simp [RequestText.bytes, RequestText.head]
  have size : (request.line ++ crlf).length ≤ startlineMax := by
    rw [List.length_append]
    exact short
  rw [shape, List.take_append, List.take_of_length_le size, start_line_read]
  rfl

-- Nothing is heard before the last byte; then the request is heard as it was written, and once.
theorem request_text_heard (w : World) (start : Process) (events : List WireEvent) (conn : Nat) (request : RequestText)
    (short : request.line.length + 2 ≤ startlineMax) (present : events.any (WireEvent.loses conn) = false)
    (fits : (sentBy conn events).length ≤ bufsizeMax) :
    (request.bytes <+: sentBy conn events → heardFrom conn (wireRun w start events).2 = [request.msg]) ∧
      (sentBy conn events <+: request.bytes → sentBy conn events ≠ request.bytes →
        heardFrom conn (wireRun w start events).2 = []) := by
  constructor
  · rintro ⟨behind, stream⟩
    have tame := request_tame request behind short
    rw [stream] at tame
    rw [heard_stream w start events conn present (tame fits), ← stream, firstRequest, whole_request_heard]
    rfl
  · rintro ⟨missing, stream⟩ unfinished
    have nothing : firstRequest (sentBy conn events) = none := by
      refine part_request_waits request _ missing stream ?_
      rintro rfl
      exact unfinished (by rw [← stream, List.append_nil])
    cases wire_run_kept w start events conn with
    | waiting alive kept waits none present => exact none
    | served closed msg first one =>
        rw [nothing] at first
        cases first
    | gone closed none silent => exact none

def callFields : List FieldText :=
  [{ name := ascii "Host"
     lead := [32]
     value := ascii "door"
     trail := []
     named := by decide +kernel
     clean := by decide +kernel
     ahead := by decide +kernel
     behind := by decide +kernel
     unbroken := by decide +kernel
     begins := by decide +kernel
     ends := by decide +kernel
     typed := by decide +kernel },
    { name := ascii "content-length"
      lead := []
      value := ascii "24"
      trail := [9]
      named := by decide +kernel
      clean := by decide +kernel
      ahead := by decide +kernel
      behind := by decide +kernel
      unbroken := by decide +kernel
      begins := by decide +kernel
      ends := by decide +kernel
      typed := by decide +kernel }]

def callRequest : RequestText where
  met := ascii "POST"
  path := ascii "/api/call"
  prm := ascii "?a=b"
  ver := ascii "1.1"
  fields := callFields
  body := ascii "\x7b\"peer\":\"10.0.0.7:5006\"\x7d"
  method := by decide +kernel
  target := by decide +kernel
  query := by decide +kernel
  version := by decide +kernel
  sized := by decide +kernel

def callVisit : List WireEvent :=
  [.segment 3 visitEnv (callRequest.bytes.take 30), .segment 4 visitEnv (ascii "GET / HTTP/1.1\r\n\r\n"),
    .segment 3 visitEnv (callRequest.bytes.drop 30)]

theorem call_heard : heardFrom 3 (wireRun sampleWorld ⟨httpSigInit [], {}⟩ callVisit).2 = [callRequest.msg] :=
  (request_text_heard sampleWorld ⟨httpSigInit [], {}⟩ callVisit 3 callRequest (by decide +kernel) rfl (by decide +kernel)).1
    (by decide +kernel)

end Intercom.Http
