import Intercom.Lib.Bytes

set_option autoImplicit false

/- Messages of CRLF lines: a start line, header lines, a blank line and a body whose length a Content-Length line
   announces. The bytes of a message determine its lines, because no line holds a CR or an LF. -/
namespace ByteText

structure Header where
  name : Bytes
  value : Bytes
deriving DecidableEq, Repr

def Header.line (header : Header) : Bytes := header.name ++ ascii ": " ++ header.value

def linesText (lines : List Bytes) : Bytes := lines.flatMap (· ++ crlf)

structure Message where
  start : Bytes
  headers : List Header
  body : Bytes

def Message.bytes (message : Message) : Bytes :=
  linesText (message.start :: message.headers.map Header.line) ++ crlf ++ message.body

def contentLength : Bytes := ascii "Content-Length"

-- A message without a Content-Length line has no body.
def Delimits (headers : List Header) (body : Bytes) : Prop :=
  match headers.find? (fun header => header.name == contentLength) with
  | some header => header.value = decimal body.length
  | none => body = []

structure Message.Sound (names : List Bytes) (message : Message) : Prop where
  start : Unbroken message.start
  named : ∀ header ∈ message.headers, header.name ∈ names
  unbroken : ∀ header ∈ message.headers, Unbroken header.line
  delimited : Delimits message.headers message.body

theorem unbroken_nil : Unbroken [] := fun _ member => absurd member List.not_mem_nil

theorem unbroken_cons (byte : UInt8) (text : Bytes) :
    Unbroken (byte :: text) ↔ (byte ≠ 13 ∧ byte ≠ 10) ∧ Unbroken text := List.forall_mem_cons

theorem unbroken_left (left right : Bytes) (whole : Unbroken (left ++ right)) : Unbroken left :=
  fun byte member => whole byte (List.mem_append_left right member)

def EndsLine (byte : UInt8) : Prop := byte = 13 ∨ byte = 10

-- The first line break of a text is determined by the text.
theorem first_break (left right : Bytes) (one other : UInt8) (after behind : Bytes) (cleanLeft : Unbroken left)
    (cleanRight : Unbroken right) (breakOne : EndsLine one) (breakOther : EndsLine other)
    (same : left ++ one :: after = right ++ other :: behind) : left = right ∧ one = other ∧ after = behind := by
  induction left generalizing right with
  | nil =>
      cases right with
      | nil => exact ⟨rfl, List.cons.inj same⟩
      | cons byte rest =>
          have head : one = byte := (List.cons.inj same).1
          have clean := ((unbroken_cons byte rest).mp cleanRight).1
          rcases breakOne with cr | lf
          · exact absurd (head.symm.trans cr) clean.1
          · exact absurd (head.symm.trans lf) clean.2
  | cons first rest ih =>
      obtain ⟨cleanFirst, cleanRest⟩ := (unbroken_cons first rest).mp cleanLeft
      cases right with
      | nil =>
          have head : first = other := (List.cons.inj same).1
          rcases breakOther with cr | lf
          · exact absurd (head.trans cr) cleanFirst.1
          · exact absurd (head.trans lf) cleanFirst.2
      | cons byte tail =>
          obtain ⟨head, later⟩ := List.cons.inj same
          obtain ⟨texts, breaks⟩ := ih tail cleanRest ((unbroken_cons byte tail).mp cleanRight).2 later
          exact ⟨by rw [head, texts], breaks⟩

theorem line_cancel (left right after behind : Bytes) (cleanLeft : Unbroken left) (cleanRight : Unbroken right)
    (same : left ++ crlf ++ after = right ++ crlf ++ behind) : left = right ∧ after = behind := by
  rw [List.append_assoc, List.append_assoc] at same
  obtain ⟨lines, _, rest⟩ := first_break left right 13 13 _ _ cleanLeft cleanRight (Or.inl rfl) (Or.inl rfl) same
  exact ⟨lines, (List.cons.inj rest).2⟩

theorem start_and_headers (start : Bytes) (headers : List Header) (clean : Unbroken start)
    (each : ∀ header ∈ headers, Unbroken header.line) : ∀ line ∈ start :: headers.map Header.line, Unbroken line := by
  intro line member
  cases List.mem_cons.mp member with
  | inl first =>
      rw [first]
      exact clean
  | inr later =>
      obtain ⟨header, present, rfl⟩ := List.mem_map.mp later
      exact each header present

theorem lines_text_cons (line : Bytes) (lines : List Bytes) (after : Bytes) :
    linesText (line :: lines) ++ after = line ++ crlf ++ (linesText lines ++ after) := by
  rw [linesText, List.flatMap_cons, List.append_assoc]
  rfl

theorem lines_text_append (early late : List Bytes) : linesText (early ++ late) = linesText early ++ linesText late := by
  rw [linesText, List.flatMap_append]
  rfl

theorem lines_text_ends (line : Bytes) (lines : List Bytes) : ∃ front, linesText (line :: lines) = front ++ crlf := by
  induction lines generalizing line with
  | nil => exact ⟨line, by simp [linesText]⟩
  | cons next rest ih =>
      obtain ⟨front, ends⟩ := ih next
      have first := lines_text_cons line (next :: rest) []
      rw [List.append_nil, List.append_nil, ends] at first
      exact ⟨line ++ crlf ++ front, by rw [first]; simp⟩

theorem lines_cancel (left right : List Bytes) (after behind : Bytes) (count : left.length = right.length)
    (cleanLeft : ∀ line ∈ left, Unbroken line) (cleanRight : ∀ line ∈ right, Unbroken line)
    (same : linesText left ++ after = linesText right ++ behind) : left = right ∧ after = behind := by
  induction left generalizing right with
  | nil =>
      cases right with
      | nil => exact ⟨rfl, same⟩
      | cons => cases count
  | cons line rest ih =>
      cases right with
      | nil => cases count
      | cons other more =>
          rw [lines_text_cons, lines_text_cons] at same
          obtain ⟨first, later⟩ := line_cancel line other _ _ (cleanLeft line List.mem_cons_self)
            (cleanRight other List.mem_cons_self) same
          obtain ⟨lines, texts⟩ := ih more (Nat.succ.inj count) (fun line member => cleanLeft line (List.mem_cons_of_mem _ member))
            (fun line member => cleanRight line (List.mem_cons_of_mem _ member)) later
          exact ⟨by rw [first, lines], texts⟩

-- A text that could end a line does so at a first place.
theorem broken_split (text : Bytes) (broken : ¬ Unbroken text) :
    ∃ front byte back, Unbroken front ∧ EndsLine byte ∧ text = front ++ byte :: back := by
  induction text with
  | nil => exact absurd unbroken_nil broken
  | cons first rest ih =>
      by_cases ends : EndsLine first
      · exact ⟨[], first, rest, unbroken_nil, ends, rfl⟩
      · have clean : first ≠ 13 ∧ first ≠ 10 := ⟨fun cr => ends (Or.inl cr), fun lf => ends (Or.inr lf)⟩
        have later : ¬ Unbroken rest := fun whole => broken ((unbroken_cons first rest).mpr ⟨clean, whole⟩)
        obtain ⟨front, byte, back, cleanFront, breaks, split⟩ := ih later
        exact ⟨first :: front, byte, back, (unbroken_cons first front).mpr ⟨clean, cleanFront⟩, breaks, by rw [split]; rfl⟩

theorem find_sub_skip (pattern : Bytes) (head : UInt8) (front rest : Bytes) (absent : head ∉ front) :
    findSub (head :: pattern) (front ++ rest) = (findSub (head :: pattern) rest).map (· + front.length) := by
  induction front with
  | nil =>
      rw [List.nil_append, List.length_nil]
      cases findSub (head :: pattern) rest <;> rfl
  | cons first tail ih =>
      have other : head ≠ first := fun same => absent (by rw [same]; exact List.mem_cons_self)
      have later := ih fun member => absent (List.mem_cons_of_mem first member)
      have here : ¬ (head :: pattern).isPrefixOf (first :: (tail ++ rest)) = true := by simp [other]
      rw [List.cons_append, findSub, if_neg here, later, Option.map_map]
      rfl

theorem find_line_end (line rest : Bytes) (clean : Unbroken line) : findSub crlf (line ++ crlf ++ rest) = some line.length := by
  have absent : 13 ∉ line := fun member => (clean 13 member).1 rfl
  have here : findSub crlf (crlf ++ rest) = some 0 := by
    have hit : crlf.isPrefixOf (13 :: 10 :: rest) = true := rfl
    change findSub crlf (13 :: 10 :: rest) = some 0
    rw [findSub, if_pos hit]
  have skipped := find_sub_skip [10] 13 line (crlf ++ rest) absent
  rw [List.append_assoc]
  change findSub crlf (line ++ (crlf ++ rest)) = (findSub crlf (crlf ++ rest)).map (· + line.length) at skipped
  rw [skipped, here, Option.map_some, Nat.zero_add]

-- Lines that are not empty are followed by the first blank line.
theorem find_blank_line (line : Bytes) (lines : List Bytes) (each : ∀ other ∈ line :: lines, Unbroken other ∧ other ≠ []) :
    findSub (crlf ++ crlf) (linesText (line :: lines) ++ crlf) = some ((linesText (line :: lines)).length - 2) := by
  induction lines generalizing line with
  | nil =>
      have clean := (each line List.mem_cons_self).1
      have absent : 13 ∉ line := fun member => (clean 13 member).1 rfl
      have skipped := find_sub_skip [10, 13, 10] 13 line (crlf ++ crlf) absent
      have here : findSub (crlf ++ crlf) (crlf ++ crlf) = some 0 := by decide
      have size : (linesText [line]).length - 2 = line.length := by simp [linesText, crlf]
      change findSub (crlf ++ crlf) (line ++ (crlf ++ crlf)) = (findSub (crlf ++ crlf) (crlf ++ crlf)).map (· + line.length) at skipped
      rw [lines_text_cons, List.append_assoc, size]
      change findSub (crlf ++ crlf) (line ++ (crlf ++ crlf)) = some line.length
      rw [skipped, here, Option.map_some, Nat.zero_add]
  | cons next lines ih =>
      have clean := (each line List.mem_cons_self).1
      have absent : 13 ∉ line := fun member => (clean 13 member).1 rfl
      obtain ⟨nextClean, filled⟩ := each next (List.mem_cons_of_mem line List.mem_cons_self)
      have later := ih next fun other member => each other (List.mem_cons_of_mem line member)
      obtain ⟨head, tail, rfl⟩ := List.exists_cons_of_ne_nil filled
      have starts : head ≠ 13 := (nextClean head List.mem_cons_self).1
      obtain ⟨rest, shape⟩ : ∃ rest, linesText ((head :: tail) :: lines) ++ crlf = head :: rest := ⟨_, rfl⟩
      have long : 2 ≤ (linesText ((head :: tail) :: lines)).length := by simp [linesText, crlf]; omega
      have size : (linesText (line :: (head :: tail) :: lines)).length - 2 =
          (linesText ((head :: tail) :: lines)).length - 2 + 2 + line.length := by
        have whole := congrArg List.length (lines_text_cons line ((head :: tail) :: lines) [])
        simp only [List.length_append, List.length_nil, crlf, List.length_cons] at whole
        omega
      have skipped := find_sub_skip [10, 13, 10] 13 line (crlf ++ head :: rest) absent
      have between : findSub (crlf ++ crlf) (crlf ++ head :: rest) = (findSub (crlf ++ crlf) (head :: rest)).map (· + 2) := by
        have first : ¬ (crlf ++ crlf).isPrefixOf (13 :: 10 :: head :: rest) = true := by simp [crlf, starts.symm]
        have second : ¬ (crlf ++ crlf).isPrefixOf (10 :: head :: rest) = true := by simp [crlf]
        change findSub (crlf ++ crlf) (13 :: 10 :: head :: rest) = _
        rw [findSub, if_neg first, findSub, if_neg second, Option.map_map]
        rfl
      change findSub (crlf ++ crlf) (line ++ (crlf ++ head :: rest)) = (findSub (crlf ++ crlf) (crlf ++ head :: rest)).map (· + line.length)
        at skipped
      rw [lines_text_cons, shape, List.append_assoc, skipped, between, ← shape, later, Option.map_some, Option.map_some, size]

end ByteText
