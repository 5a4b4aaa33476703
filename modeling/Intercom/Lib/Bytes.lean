import Mathlib.Algebra.Ring.Int.Defs
import Mathlib.Algebra.Ring.Nat
import Mathlib.Data.List.Infix
import Mathlib.Data.List.TakeWhile

set_option autoImplicit false

/- Byte strings as C and its standard library see them: a NUL ends the text, searches stop there, a
   bounded printf keeps the pieces that fit, a copy into a fixed field keeps what lies beyond it. -/
namespace ByteText

abbrev Bytes := List UInt8

-- The literals of the program are ASCII, one byte for each character.
def ascii (text : String) : Bytes := text.toByteArray.data.toList

def cstr (text : Bytes) : Bytes := text.takeWhile (· != 0)

def crlf : Bytes := [13, 10]

def findSub (pattern : Bytes) : Bytes → Option Nat
  | [] => if pattern = [] then some 0 else none
  | byte :: rest =>
      if pattern.isPrefixOf (byte :: rest) then some 0 else (findSub pattern rest).map (· + 1)

def strstr (text pattern : Bytes) : Option Nat := findSub pattern (cstr text)

def memchr (byte : UInt8) : Bytes → Option Nat
  | [] => none
  | head :: rest => if head = byte then some 0 else (memchr byte rest).map (· + 1)

def lower (byte : UInt8) : UInt8 := if 65 ≤ byte ∧ byte ≤ 90 then byte + 32 else byte

def casePrefix (pattern text : Bytes) : Bool := (text.take pattern.length).map lower == pattern.map lower

def isSpace (byte : UInt8) : Bool := byte == 32 || (9 ≤ byte && byte ≤ 13)

def isDigit (byte : UInt8) : Bool := 48 ≤ byte && byte ≤ 57

def digitsValue (text : Bytes) : Nat := text.foldl (fun value byte => value * 10 + (byte.toNat - 48)) 0

-- Out of range values saturate, as the Windows runtime documents for atoi.
def atoi (text : Bytes) : Int :=
  let body := text.dropWhile isSpace
  let clamp (value : Int) : Int := max (-2147483648) (min 2147483647 value)
  match body with
  | [] => 0
  | head :: rest =>
      if head = 45 then clamp (-(digitsValue (rest.takeWhile isDigit) : Int))
      else if head = 43 then clamp (digitsValue (rest.takeWhile isDigit) : Int)
      else clamp (digitsValue (body.takeWhile isDigit) : Int)

def toU8 (value : Int) : UInt8 := UInt8.ofNat (value % 256).toNat

def toU16 (value : Int) : UInt16 := UInt16.ofNat (value % 65536).toNat

def digit (upper : Bool) (value : Nat) : UInt8 :=
  if value < 10 then UInt8.ofNat (48 + value)
  else UInt8.ofNat ((if upper then 55 else 87) + value)

def numeralLoop (base : Nat) (upper : Bool) : Nat → Nat → Bytes → Bytes
  | 0, _, done => done
  | fuel + 1, value, done =>
      let next := digit upper (value % base) :: done
      if value / base = 0 then next else numeralLoop base upper fuel (value / base) next

def decimal (value : Nat) : Bytes := numeralLoop 10 false (value + 1) value []

def signed (value : Int) : Bytes :=
  if value < 0 then 45 :: decimal value.natAbs else decimal value.toNat

def hex8 (upper : Bool) (value : UInt32) : Bytes :=
  (List.range 8).map fun index => digit upper (value.toNat / 16 ^ (7 - index) % 16)

-- Pieces are written whole or not at all; the first one that does not fit ends the output.
def snprintfLoop : Nat → List Bytes → Bytes
  | _, [] => []
  | room, piece :: rest =>
      if piece.length ≤ room then piece ++ snprintfLoop (room - piece.length) rest else []

def snprintf (size : Nat) (pieces : List Bytes) : Bytes := snprintfLoop (size - 1) pieces

def overlay (old fresh : Bytes) : Bytes := fresh ++ old.drop fresh.length

theorem snprintf_loop_whole (room : Nat) (pieces : List Bytes) (fits : pieces.flatten.length ≤ room) :
    snprintfLoop room pieces = pieces.flatten := by
  induction pieces generalizing room with
  | nil => rfl
  | cons piece rest ih =>
      rw [List.flatten_cons, List.length_append] at fits
      rw [snprintfLoop, if_pos (by omega), ih _ (by omega), List.flatten_cons]

theorem snprintf_whole (size : Nat) (pieces : List Bytes) (fits : pieces.flatten.length < size) :
    snprintf size pieces = pieces.flatten :=
  snprintf_loop_whole (size - 1) pieces (by omega)

theorem snprintf_loop_length (room : Nat) (pieces : List Bytes) : (snprintfLoop room pieces).length ≤ room := by
  induction pieces generalizing room with
  | nil => simp [snprintfLoop]
  | cons piece rest ih =>
      by_cases fits : piece.length ≤ room
      · have later := ih (room - piece.length)
        rw [snprintfLoop, if_pos fits, List.length_append]
        omega
      · rw [snprintfLoop, if_neg fits]
        exact Nat.zero_le _

theorem snprintf_length (size : Nat) (pieces : List Bytes) : (snprintf size pieces).length ≤ size - 1 :=
  snprintf_loop_length (size - 1) pieces

-- The output is the first pieces, at least as many as surely fit.
theorem snprintf_loop_take (room : Nat) (pieces : List Bytes) :
    ∃ count ≤ pieces.length, snprintfLoop room pieces = (pieces.take count).flatten ∧
      ∀ sure ≤ pieces.length, (pieces.take sure).flatten.length ≤ room → sure ≤ count := by
  induction pieces generalizing room with
  | nil => exact ⟨0, Nat.le_refl 0, rfl, fun sure bound _ => bound⟩
  | cons piece rest ih =>
      by_cases fits : piece.length ≤ room
      · obtain ⟨count, bound, output, most⟩ := ih (room - piece.length)
        refine ⟨count + 1, Nat.succ_le_succ bound, ?_, ?_⟩
        · rw [snprintfLoop, if_pos fits, output, List.take_succ_cons, List.flatten_cons]
        · intro sure within small
          cases sure with
          | zero => exact Nat.zero_le _
          | succ sure =>
              rw [List.take_succ_cons, List.flatten_cons, List.length_append] at small
              exact Nat.succ_le_succ (most sure (Nat.le_of_succ_le_succ within) (by omega))
      · refine ⟨0, Nat.zero_le _, ?_, ?_⟩
        · rw [snprintfLoop, if_neg fits]
          rfl
        · intro sure _ small
          cases sure with
          | zero => exact Nat.le_refl 0
          | succ sure =>
              rw [List.take_succ_cons, List.flatten_cons, List.length_append] at small
              omega

theorem numeral_loop_length (base : Nat) (upper : Bool) (fuel value width : Nat) (done : Bytes)
    (small : value < base ^ (width + 1)) : (numeralLoop base upper fuel value done).length ≤ done.length + (width + 1) := by
  induction fuel generalizing value width done with
  | zero => exact Nat.le_add_right _ _
  | succ fuel ih =>
      rw [numeralLoop]
      split
      · rw [List.length_cons]
        omega
      · rename_i more
        cases width with
        | zero => exact absurd (Nat.div_eq_of_lt (by simpa using small)) more
        | succ width =>
            have less : value / base < base ^ (width + 1) := by
              apply Nat.div_lt_of_lt_mul
              rw [Nat.mul_comm, ← Nat.pow_succ]
              exact small
            have later := ih (value / base) width (digit upper (value % base) :: done) less
            rw [List.length_cons] at later
            omega

theorem decimal_length (value width : Nat) (small : value < 10 ^ (width + 1)) : (decimal value).length ≤ width + 1 := by
  have bound := numeral_loop_length 10 false (value + 1) value width [] small
  rw [List.length_nil, Nat.zero_add] at bound
  exact bound

theorem memchr_first (byte : UInt8) (front rest : Bytes) (absent : byte ∉ front) :
    memchr byte (front ++ byte :: rest) = some front.length := by
  induction front with
  | nil => rw [List.nil_append, memchr, if_pos rfl, List.length_nil]
  | cons head tail ih =>
      have other : head ≠ byte := fun same => absent (by rw [same]; exact List.mem_cons_self)
      have later := ih fun member => absent (List.mem_cons_of_mem head member)
      rw [List.cons_append, memchr, if_neg other, later]
      rfl

theorem memchr_clean (byte : UInt8) (text : Bytes) (clean : byte ∉ text) : memchr byte text = none := by
  induction text with
  | nil => rfl
  | cons head rest ih =>
      have other : head ≠ byte := fun same => clean (by simp [same])
      have restClean : byte ∉ rest := fun member => clean (by simp [member])
      rw [memchr, if_neg other, ih restClean]
      rfl

theorem memchr_absent (byte : UInt8) (text : Bytes) (index : Nat) (found : memchr byte text = some index) :
    byte ∉ text.take index := by
  induction text generalizing index with
  | nil => cases found
  | cons head rest ih =>
      by_cases here : head = byte
      · rw [memchr, if_pos here] at found
        cases found
        exact List.not_mem_nil
      · rw [memchr, if_neg here] at found
        obtain ⟨before, later, rfl⟩ := Option.map_eq_some_iff.mp found
        rw [List.take_succ_cons]
        intro member
        cases List.mem_cons.mp member with
        | inl first => exact here first.symm
        | inr inside => exact ih before later inside

theorem cstr_clean (text : Bytes) (clean : 0 ∉ text) : cstr text = text := by
  rw [cstr, List.takeWhile_eq_self_iff]
  intro byte member
  have nonzero : byte ≠ 0 := by
    intro same
    subst same
    exact clean member
  simpa using nonzero

theorem cstr_no_zero (text : Bytes) : 0 ∉ cstr text := by
  intro member
  simpa using List.mem_takeWhile_imp member

theorem cstr_append_clean (text tail : Bytes) (clean : 0 ∉ text) : cstr (text ++ tail) = text ++ cstr tail := by
  induction text with
  | nil => rfl
  | cons byte rest ih =>
      have nonzero : byte ≠ 0 := fun same => clean (by simp [same])
      have restClean : 0 ∉ rest := fun member => clean (by simp [member])
      simpa [cstr, nonzero] using ih restClean

-- A hit splits the text at the first place where the pattern stands.
theorem find_sub_split (pattern text : Bytes) (index : Nat) (found : findSub pattern text = some index) :
    ∃ tail, text = text.take index ++ pattern ++ tail ∧ index + pattern.length ≤ text.length := by
  induction text generalizing index with
  | nil =>
      by_cases empty : pattern = []
      · subst pattern
        have : index = 0 := by simpa [findSub] using found.symm
        exact ⟨[], by simp, by simp [this]⟩
      · simp [findSub, empty] at found
  | cons byte rest ih =>
      by_cases here : pattern.isPrefixOf (byte :: rest)
      · have atZero : index = 0 := by simpa [findSub, here] using found.symm
        obtain ⟨tail, split⟩ := List.isPrefixOf_iff_prefix.mp here
        refine ⟨tail, by simp [atZero, split], ?_⟩
        rw [atZero, ← split]
        simp
      · simp only [findSub, here, Bool.false_eq_true, ite_false, Option.map_eq_some_iff] at found
        obtain ⟨before, foundRest, rfl⟩ := found
        obtain ⟨tail, split, bound⟩ := ih before foundRest
        refine ⟨tail, ?_, by simp; omega⟩
        simpa using split

theorem find_sub_append (pattern text tail : Bytes) (index : Nat) (found : findSub pattern text = some index) :
    findSub pattern (text ++ tail) = some index := by
  induction text generalizing index with
  | nil =>
      by_cases empty : pattern = []
      · subst pattern
        have atZero : index = 0 := by simpa [findSub] using found.symm
        cases tail <;> simp [findSub, atZero]
      · simp [findSub, empty] at found
  | cons byte rest ih =>
      by_cases here : pattern.isPrefixOf (byte :: rest)
      · have atZero : index = 0 := by simpa [findSub, here] using found.symm
        have still : pattern.isPrefixOf (byte :: (rest ++ tail)) := by
          rw [List.isPrefixOf_iff_prefix] at here ⊢
          exact here.trans (List.prefix_append (byte :: rest) tail)
        simp [findSub, still, atZero]
      · simp only [findSub, here, Bool.false_eq_true, ite_false, Option.map_eq_some_iff] at found
        obtain ⟨before, foundRest, rfl⟩ := found
        have bound := (find_sub_split pattern rest before foundRest).choose_spec.2
        have still : ¬ pattern.isPrefixOf (byte :: (rest ++ tail)) := by
          intro now
          apply here
          rw [List.isPrefixOf_iff_prefix] at now ⊢
          exact List.prefix_of_prefix_length_le now (List.prefix_append (byte :: rest) tail) (by simp; omega)
        simp [findSub, still, ih before foundRest]

theorem find_sub_infix (pattern before after : Bytes) :
    ∃ index, index ≤ before.length ∧ findSub pattern (before ++ pattern ++ after) = some index := by
  induction before with
  | nil =>
      refine ⟨0, by simp, ?_⟩
      have here : pattern.isPrefixOf (pattern ++ after) := by simp
      cases whole : pattern ++ after with
      | nil => simp_all [findSub]
      | cons byte rest =>
          rw [whole] at here
          simp [findSub, here, whole]
  | cons byte rest ih =>
      obtain ⟨index, bound, found⟩ := ih
      by_cases here : pattern.isPrefixOf (byte :: (rest ++ pattern ++ after))
      · exact ⟨0, by simp, by simp only [List.cons_append, findSub, here, ite_true]⟩
      · refine ⟨index + 1, by simpa using bound, ?_⟩
        simp only [List.cons_append, findSub, here, Bool.false_eq_true, ite_false, found, Option.map_some]

theorem find_sub_take (pattern text : Bytes) (index : Nat) (found : findSub pattern text = some index) :
    findSub pattern (text.take (index + pattern.length)) = some index := by
  obtain ⟨tail, split, bound⟩ := find_sub_split pattern text index found
  have size : (text.take index).length = index := by rw [List.length_take]; omega
  have taken : text.take (index + pattern.length) = text.take index ++ pattern ++ [] := by
    conv => lhs; rw [split]
    rw [List.take_append_of_le_length (by simp [size]), List.take_of_length_le (by simp [size]), List.append_nil]
  obtain ⟨first, _, foundFirst⟩ := find_sub_infix pattern (text.take index) []
  rw [← taken] at foundFirst
  have again := find_sub_append pattern _ (text.drop (index + pattern.length)) first foundFirst
  rw [List.take_append_drop, found] at again
  rw [foundFirst, again]

-- A header name holds no CR, so its comparison never looks past the end of the line.
theorem case_prefix_line (pattern line : Bytes) (eol : Nat) (found : findSub crlf line = some eol)
    (clean : 13 ∉ pattern.map lower) : casePrefix pattern line = casePrefix pattern (line.take eol) := by
  obtain ⟨tail, split, bound⟩ := find_sub_split crlf line eol found
  have size : (line.take eol).length = eol := by simp [crlf] at bound ⊢; omega
  by_cases fits : pattern.length ≤ eol
  · simp only [casePrefix, List.take_take, Nat.min_eq_left fits]
  · have short : ((line.take eol).take pattern.length).map lower ≠ pattern.map lower := by
      intro same
      have lengths := congrArg List.length same
      simp only [List.length_map, List.length_take] at lengths
      omega
    have long : (line.take pattern.length).map lower ≠ pattern.map lower := by
      intro same
      apply clean
      rw [← same, split]
      have inside : (13 : UInt8) ∈ (line.take eol ++ crlf ++ tail).take pattern.length := by
        rw [List.append_assoc, List.take_append, size]
        have positive : pattern.length - eol = (pattern.length - eol - 1) + 1 := by omega
        rw [positive]
        simp [crlf]
      exact List.mem_map.mpr ⟨13, inside, by decide⟩
    rw [casePrefix, casePrefix, beq_eq_false_iff_ne.mpr long, beq_eq_false_iff_ne.mpr short]

-- Text that cannot end a line.
def Unbroken (text : Bytes) : Prop := ∀ byte ∈ text, byte ≠ 13 ∧ byte ≠ 10

instance (text : Bytes) : Decidable (Unbroken text) :=
  List.decidableBAll (fun byte => byte ≠ 13 ∧ byte ≠ 10) text

theorem unbroken_append (left right : Bytes) (first : Unbroken left) (second : Unbroken right) : Unbroken (left ++ right) := by
  intro byte member
  cases List.mem_append.mp member with
  | inl early => exact first byte early
  | inr late => exact second byte late

theorem digit_unbroken : ∀ (upper : Bool) (value : Fin 16), digit upper value ≠ 13 ∧ digit upper value ≠ 10 := by decide

def Numeral (upper : Bool) (text : Bytes) : Prop := ∀ byte ∈ text, ∃ value : Fin 16, byte = digit upper value

theorem numeral_unbroken (upper : Bool) (text : Bytes) (digits : Numeral upper text) : Unbroken text := by
  intro byte member
  obtain ⟨value, same⟩ := digits byte member
  rw [same]
  exact digit_unbroken upper value

theorem numeral_loop_digits (base : Nat) (upper : Bool) (small : base ≤ 16) (positive : 0 < base) (fuel value : Nat)
    (done : Bytes) (digits : Numeral upper done) : Numeral upper (numeralLoop base upper fuel value done) := by
  induction fuel generalizing value done with
  | zero => exact digits
  | succ fuel ih =>
      have below := Nat.mod_lt value positive
      have longer : Numeral upper (digit upper (value % base) :: done) := by
        intro byte member
        cases List.mem_cons.mp member with
        | inl first => exact ⟨⟨value % base, by omega⟩, first⟩
        | inr later => exact digits byte later
      rw [numeralLoop]
      split
      · exact longer
      · exact ih _ _ longer

theorem decimal_digits (value : Nat) : Numeral false (decimal value) :=
  numeral_loop_digits 10 false (by omega) (by omega) _ _ [] (fun _ member => absurd member List.not_mem_nil)

theorem decimal_unbroken (value : Nat) : Unbroken (decimal value) := numeral_unbroken false _ (decimal_digits value)

theorem signed_unbroken (value : Int) : Unbroken (signed value) := by
  unfold signed
  split
  · exact unbroken_append [45] _ (by decide) (decimal_unbroken _)
  · exact decimal_unbroken _

theorem hex8_unbroken (upper : Bool) (value : UInt32) : Unbroken (hex8 upper value) := by
  apply numeral_unbroken upper
  intro byte member
  obtain ⟨index, _, same⟩ := List.mem_map.mp member
  exact ⟨⟨value.toNat / 16 ^ (7 - index) % 16, Nat.mod_lt _ (by omega)⟩, same.symm⟩

end ByteText
