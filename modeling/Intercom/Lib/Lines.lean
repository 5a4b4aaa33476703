import Intercom.Lib.Headers

set_option autoImplicit false

/- Texts cut at every CRLF from the left, fields written over one another, and numbers read past the end of their line. -/
namespace ByteText

-- The complete lines of a text, each without its CRLF. A CR or an LF alone belongs to its line.
def crlfLines : Bytes → List Bytes
  | [] => []
  | [_] => []
  | byte :: next :: rest =>
      if byte = 13 ∧ next = 10 then [] :: crlfLines rest
      else
        match crlfLines (next :: rest) with
        | [] => []
        | line :: lines => (byte :: line) :: lines

def Uncut (line : Bytes) : Prop := findSub crlf line = none

def EndsInLine (text : Bytes) : Prop := text = [] ∨ ∃ front, text = front ++ crlf

theorem uncut_nil : Uncut [] := rfl

theorem uncut_cons (byte : UInt8) (line : Bytes) (rest : Uncut line) (apart : ¬(byte = 13 ∧ line.head? = some 10)) :
    Uncut (byte :: line) := by
  have here : ¬crlf.isPrefixOf (byte :: line) = true := by
    intro hit
    apply apart
    cases line with
    | nil => simp [crlf] at hit
    | cons next rest =>
        simp only [crlf, List.isPrefixOf_cons_cons, Bool.and_eq_true, beq_iff_eq] at hit
        exact ⟨hit.1.symm, congrArg some hit.2.1.symm⟩
  rw [Uncut, findSub, if_neg here, rest]
  rfl

theorem uncut_tail (byte : UInt8) (line : Bytes) (whole : Uncut (byte :: line)) : Uncut line := by
  rw [Uncut, findSub] at whole
  split at whole
  · cases whole
  · exact Option.map_eq_none_iff.mp whole

theorem find_uncut (line rest : Bytes) (uncut : Uncut line) : findSub crlf (line ++ crlf ++ rest) = some line.length := by
  induction line with
  | nil => rfl
  | cons byte tail ih =>
      have later := ih (uncut_tail byte tail uncut)
      have here : ¬crlf.isPrefixOf (byte :: (tail ++ crlf ++ rest)) = true := by
        intro hit
        cases tail with
        | nil => simp [crlf] at hit
        | cons next more =>
            simp only [crlf, List.cons_append, List.isPrefixOf_cons_cons, Bool.and_eq_true, beq_iff_eq] at hit
            obtain ⟨rfl, rfl, _⟩ := hit
            have hit : crlf.isPrefixOf (13 :: 10 :: more) = true := rfl
            rw [Uncut, findSub, if_pos hit] at uncut
            cases uncut
      rw [List.cons_append, List.cons_append, findSub, if_neg here, later]
      rfl

theorem ends_in_line_tail (byte next : UInt8) (rest : Bytes) (ends : EndsInLine (byte :: next :: rest)) :
    (byte = 13 ∧ next = 10 → EndsInLine rest) ∧ (¬(byte = 13 ∧ next = 10) → EndsInLine (next :: rest)) := by
  obtain empty | ⟨front, split⟩ := ends
  · cases empty
  · match front, split with
    | [], split =>
        obtain ⟨rfl, rfl, rfl⟩ : byte = 13 ∧ next = 10 ∧ rest = [] := by simpa [crlf] using split
        exact ⟨fun _ => Or.inl rfl, fun other => absurd ⟨rfl, rfl⟩ other⟩
    | [only], split =>
        obtain ⟨rfl, rfl, rfl⟩ : byte = only ∧ next = 13 ∧ rest = [10] := by simpa [crlf] using split
        exact ⟨fun both => absurd both.2 (by decide), fun _ => Or.inr ⟨[], rfl⟩⟩
    | _ :: second :: more, split =>
        obtain ⟨rfl, rfl, rfl⟩ : byte = _ ∧ next = second ∧ rest = more ++ crlf := by simpa using split
        exact ⟨fun _ => Or.inr ⟨more, rfl⟩, fun _ => Or.inr ⟨next :: more, rfl⟩⟩

theorem crlf_lines_whole (text : Bytes) (ends : EndsInLine text) :
    linesText (crlfLines text) = text ∧ ∀ line ∈ crlfLines text, Uncut line := by
  fun_induction crlfLines text with
  | case1 => exact ⟨rfl, fun _ member => absurd member List.not_mem_nil⟩
  | case2 only =>
      obtain empty | ⟨front, split⟩ := ends
      · cases empty
      · have length := congrArg List.length split
        simp [crlf] at length
  | case3 byte next rest cut ih =>
      obtain ⟨whole, uncut⟩ := ih ((ends_in_line_tail byte next rest ends).1 cut)
      refine ⟨?_, List.forall_mem_cons.mpr ⟨uncut_nil, uncut⟩⟩
      obtain ⟨rfl, rfl⟩ := cut
      rw [linesText, List.flatMap_cons]
      exact congrArg (crlf ++ ·) whole
  | case4 byte next rest joined none ih =>
      obtain ⟨whole, _⟩ := ih ((ends_in_line_tail byte next rest ends).2 joined)
      rw [none] at whole
      cases whole
  | case5 byte next rest joined line lines found ih =>
      obtain ⟨whole, uncut⟩ := ih ((ends_in_line_tail byte next rest ends).2 joined)
      rw [found] at whole uncut
      obtain ⟨first, others⟩ := List.forall_mem_cons.mp uncut
      rw [linesText, List.flatMap_cons] at whole ⊢
      refine ⟨congrArg (byte :: ·) whole, List.forall_mem_cons.mpr ⟨uncut_cons byte line first ?_, others⟩⟩
      rintro ⟨cr, lf⟩
      cases line with
      | nil => cases lf
      | cons head tail =>
          cases lf
          exact joined ⟨cr, ((List.cons.inj whole).1).symm⟩

-- A field that is written over and over.
theorem overlay_length (old fresh : Bytes) : (overlay old fresh).length = max old.length fresh.length := by
  rw [overlay, List.length_append, List.length_drop]
  omega

theorem overlay_fresh (old fresh : Bytes) : overlay old fresh = fresh ↔ old.length ≤ fresh.length := by
  refine ⟨fun same => ?_, fun short => by rw [overlay, List.drop_of_length_le short, List.append_nil]⟩
  have length := congrArg List.length same
  rw [overlay_length] at length
  omega

theorem overlays_bound (bound : Nat) (values : List Bytes) (old : Bytes) :
    (values.foldl overlay old).length ≤ bound ↔ old.length ≤ bound ∧ ∀ value ∈ values, value.length ≤ bound := by
  induction values generalizing old with
  | nil => simp
  | cons value rest ih =>
      rw [List.foldl_cons, ih, overlay_length, Nat.max_le, List.forall_mem_cons, and_assoc]

-- The last value stands alone exactly where none before it was longer.
theorem overlays_last (values : List Bytes) :
    values.foldl overlay [] = values.getLast?.getD [] ↔ ∀ value ∈ values, value.length ≤ (values.getLast?.getD []).length := by
  rcases List.eq_nil_or_concat values with rfl | ⟨early, last, rfl⟩
  · simp
  · rw [List.concat_eq_append, List.foldl_append, List.foldl_cons, List.foldl_nil, List.getLast?_append, List.getLast?_singleton,
      Option.some_or, Option.getD_some, overlay_fresh, overlays_bound, List.forall_mem_append, List.forall_mem_singleton]
    simp

theorem digits_stop (text behind : Bytes) (stop : UInt8) (inside : stop ∈ text) (other : isDigit stop = false) :
    (text ++ behind).takeWhile isDigit = text.takeWhile isDigit := by
  rw [List.takeWhile_append, if_neg]
  intro same
  have whole := List.takeWhile_eq_self_iff.mp ((List.takeWhile_prefix isDigit).eq_of_length same) stop inside
  rw [other] at whole
  cases whole

theorem dropped_space (text : Bytes) (stops : ∃ front, text = front ++ crlf) (filled : text.all isSpace = false) :
    ∃ head more, text.dropWhile isSpace = head :: more ∧ 10 ∈ more := by
  cases rest : text.dropWhile isSpace with
  | nil =>
      have blank := List.all_eq_true.mpr (List.dropWhile_eq_nil_iff.mp rest)
      rw [filled] at blank
      cases blank
  | cons head more =>
      refine ⟨head, more, rfl, ?_⟩
      have dark : isSpace head = false := by
        have first := List.head?_dropWhile_not isSpace text
        rw [rest] at first
        simpa using first
      obtain ⟨before, split⟩ := List.dropWhile_suffix isSpace (l := text)
      obtain ⟨front, ends⟩ := stops
      have last : (head :: more).getLast? = some 10 := by
        have whole := congrArg List.getLast? (split.trans ends)
        rw [rest] at whole
        simpa [crlf, List.getLast?_append] using whole
      rcases List.mem_cons.mp (List.mem_of_getLast? last) with same | later
      · rw [← same] at dark
        exact absurd dark (by decide)
      · exact later

-- atoi looks past a text only when the text is blank.
theorem atoi_append (text behind : Bytes) (stops : ∃ front, text = front ++ crlf) (filled : text.all isSpace = false) :
    atoi (text ++ behind) = atoi text := by
  obtain ⟨head, more, rest, stop⟩ := dropped_space text stops filled
  have digits := digits_stop more behind 10 stop rfl
  have signless := digits_stop (head :: more) behind 10 (List.mem_cons_of_mem _ stop) rfl
  have skipped : (text ++ behind).dropWhile isSpace = head :: (more ++ behind) := by
    rw [List.dropWhile_append, rest]
    rfl
  rw [atoi, atoi, skipped, rest]
  dsimp only
  rw [digits, ← List.cons_append, signless]

theorem atoi_blank (text behind : Bytes) (blank : text.all isSpace = true) : atoi (text ++ behind) = atoi behind := by
  have none : text.dropWhile isSpace = [] := List.dropWhile_eq_nil_iff.mpr (List.all_eq_true.mp blank)
  rw [atoi, atoi, List.dropWhile_append, none]
  rfl

-- A numeral that something else follows, as far as the return type reaches.
theorem atoi_numeral (digits behind : Bytes) (filled : digits ≠ []) (all : ∀ byte ∈ digits, isDigit byte = true)
    (stops : ∀ byte, behind.head? = some byte → isDigit byte = false) :
    atoi (digits ++ behind) = ((min 2147483647 (digitsValue digits) : Nat) : Int) := by
  obtain ⟨head, more, rfl⟩ := List.exists_cons_of_ne_nil filled
  have digit := all head List.mem_cons_self
  have dark : ¬isSpace head = true := by
    intro space
    simp only [isSpace, isDigit, Bool.or_eq_true, Bool.and_eq_true, beq_iff_eq, decide_eq_true_eq, UInt8.le_iff_toNat_le] at space digit
    rcases space with rfl | space
    · exact absurd digit.1 (by decide)
    · exact absurd (Nat.le_trans digit.1 space.2) (by decide)
  have minus : head ≠ 45 := fun same => absurd digit (by rw [same]; decide)
  have plus : head ≠ 43 := fun same => absurd digit (by rw [same]; decide)
  have taken : (head :: more ++ behind).takeWhile isDigit = head :: more := by
    rw [List.takeWhile_append_of_pos all]
    cases behind with
    | nil => rw [List.takeWhile_nil, List.append_nil]
    | cons byte rest => rw [List.takeWhile_cons, if_neg (by rw [stops byte rfl]; decide), List.append_nil]
  rw [List.cons_append] at taken ⊢
  rw [atoi, List.dropWhile_cons, if_neg dark]
  dsimp only
  rw [if_neg minus, if_neg plus, taken]
  omega

theorem memchr_none_count (byte : UInt8) (text : Bytes) (none : memchr byte text = none) : text.count byte = 0 := by
  induction text with
  | nil => rfl
  | cons head rest ih =>
      rw [memchr] at none
      split at none
      · cases none
      · rename_i other
        rw [List.count_cons_of_ne other]
        exact ih (Option.map_eq_none_iff.mp none)

theorem memchr_some_count (byte : UInt8) (text : Bytes) (index : Nat) (found : memchr byte text = some index) :
    text.count byte = (text.drop (index + 1)).count byte + 1 := by
  induction text generalizing index with
  | nil => cases found
  | cons head rest ih =>
      rw [memchr] at found
      split at found
      · rename_i same
        cases found
        rw [same, List.count_cons_self]
        rfl
      · rename_i other
        obtain ⟨before, foundRest, rfl⟩ := Option.map_eq_some_iff.mp found
        rw [List.count_cons_of_ne other]
        exact ih before foundRest

end ByteText
