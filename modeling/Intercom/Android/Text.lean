import Intercom.Lib.Bytes

set_option autoImplicit false

/- Kotlin strings as sequences of UTF-16 units: the functions of the standard library that RtspClient.kt calls,
   and its regular expressions as matchers tried at every position from the left. -/
namespace Intercom.Android

open ByteText

abbrev Text := List UInt16

def text (literal : String) : Text := (ascii literal).map UInt8.toUInt16

-- StringBuilder.append(b.toChar()) for every byte of a header.
def ofChars (bytes : Bytes) : Text := bytes.map UInt8.toUInt16

-- String(bytes, US_ASCII) and toByteArray(US_ASCII) replace what is not ASCII.
def ofAscii (bytes : Bytes) : Text := bytes.map fun byte => if byte < 128 then byte.toUInt16 else 0xFFFD

def toAscii (chars : Text) : Bytes := chars.map fun char => if char < 128 then char.toUInt8 else 63

def isSpace (char : UInt16) : Bool := char == 32 || (9 ≤ char && char ≤ 13)

def isDigit (char : UInt16) : Bool := 48 ≤ char && char ≤ 57

def isWord (char : UInt16) : Bool :=
  isDigit char || (65 ≤ char && char ≤ 90) || (97 ≤ char && char ≤ 122) || char == 95

def lowercase (char : UInt16) : UInt16 := if 65 ≤ char ∧ char ≤ 90 then char + 32 else char

def startsWith (chars pattern : Text) : Bool := pattern.isPrefixOf chars

def contains (chars pattern : Text) : Bool := chars.tails.any fun tail => pattern.isPrefixOf tail

-- CR, LF and CRLF each end a line; the flag says that the last character was a CR.
def linesLoop : Bool → Text → List Text
  | _, [] => [[]]
  | afterReturn, char :: rest =>
      if char = 10 then
        if afterReturn then linesLoop false rest else [] :: linesLoop false rest
      else if char = 13 then [] :: linesLoop true rest
      else (linesLoop false rest).modifyHead (char :: ·)

def lines (chars : Text) : List Text := linesLoop false chars

def digitsNumber (digits : Text) : Nat := digits.foldl (fun value digit => value * 10 + (digit.toNat - 48)) 0

-- The strings that get here hold no digits outside ASCII.
def toIntOrNull (chars : Text) : Option Int :=
  let signless := match chars with
    | 45 :: rest => (true, rest)
    | 43 :: rest => (false, rest)
    | _ => (false, chars)
  if signless.2 = [] ∨ !signless.2.all isDigit then none
  else
    let value : Int := if signless.1 then -(digitsNumber signless.2 : Int) else digitsNumber signless.2
    if -2147483648 ≤ value ∧ value ≤ 2147483647 then some value else none

def trimEnd (chars : Text) (char : UInt16) : Text := (chars.reverse.dropWhile (· == char)).reverse

-- Char.isWhitespace, wider than the \s of an expression.
def isWhitespace (char : UInt16) : Bool :=
  isSpace char || (28 ≤ char && char ≤ 31) || char == 0xA0 || char == 0x1680 || (0x2000 ≤ char && char ≤ 0x200A) ||
    char == 0x2028 || char == 0x2029 || char == 0x202F || char == 0x205F || char == 0x3000

def trim (chars : Text) : Text := ((chars.dropWhile isWhitespace).reverse.dropWhile isWhitespace).reverse

section Regex

variable {Result : Type}

def find (matcher : Text → Option Result) : Text → Option Result
  | [] => matcher []
  | char :: rest => (matcher (char :: rest)).or (find matcher rest)

def literal (pattern : Text) (next : Text → Option Result) (chars : Text) : Option Result :=
  if pattern.isPrefixOf chars then next (chars.drop pattern.length) else none

def literalIgnoreCase (pattern : Text) (next : Text → Option Result) (chars : Text) : Option Result :=
  if (pattern.map lowercase).isPrefixOf (chars.map lowercase) then next (chars.drop pattern.length) else none

-- A greedy repetition gives characters back one by one until the rest matches.
def longest (next : Nat → Option Result) : Nat → Option Result
  | 0 => next 0
  | count + 1 => (next (count + 1)).or (longest next count)

def star (member : UInt16 → Bool) (next : Text → Option Result) (chars : Text) : Option Result :=
  longest (fun count => next (chars.drop count)) (chars.takeWhile member).length

def plus (member : UInt16 → Bool) (next : Text → Option Result) (chars : Text) : Option Result :=
  longest (fun count => if count = 0 then none else next (chars.drop count)) (chars.takeWhile member).length

def group (member : UInt16 → Bool) (chars : Text) : Option Text :=
  let taken := chars.takeWhile member
  if taken = [] then none else some taken

end Regex

def contentLengthRe : Text → Option Text := find (literalIgnoreCase (text "Content-Length:") (star isSpace (group isDigit)))

def contentBaseRe : Text → Option Text :=
  find (literalIgnoreCase (text "Content-Base:") (star isSpace (group fun char => !isSpace char)))

def sessionRe : Text → Option Text :=
  find (literal (text "Session:") (star isSpace (group fun char => char != 59 && char != 13 && char != 10)))

def controlRe : Text → Option Text := find (literal (text "a=control:") (group fun char => !isSpace char))

def rtpmapRe : Text → Option Text :=
  find (literal (text "a=rtpmap:") (plus isDigit (plus isSpace (plus (fun char => !isSpace char)
    (literal (text "/") (group isDigit))))))

def spropRe : Text → Option Text :=
  find (literal (text "sprop-parameter-sets=") (group fun char => char != 59 && !isSpace char))

-- The dot stops at a line terminator.
def isTerminator (char : UInt16) : Bool := char == 10 || char == 13 || char == 0x85 || char == 0x2028 || char == 0x2029

def wwwAuthRe : Text → Option Text :=
  find (literalIgnoreCase (text "WWW-Authenticate:") (star isSpace (literalIgnoreCase (text "Digest")
    (plus isSpace fun chars => some (chars.takeWhile fun char => !isTerminator char)))))

def authField (chars : Text) : Option (Text × Text × Nat) :=
  let name := chars.takeWhile isWord
  if name = [] then none
  else
    literal (text "=\"") (fun rest =>
      let value := rest.takeWhile (· != 34)
      if rest.length ≤ value.length then none else some (name, value, name.length + value.length + 3)) (chars.drop name.length)

def authFieldsLoop : Nat → Text → List (Text × Text)
  | _, [] => []
  | 0, char :: rest =>
      match authField (char :: rest) with
      | some (name, value, length) => (name, value) :: authFieldsLoop (length - 1) rest
      | none => authFieldsLoop 0 rest
  | skip + 1, _ :: rest => authFieldsLoop skip rest

def authFields (chars : Text) : List (Text × Text) := authFieldsLoop 0 chars

theorem lines_loop_nonempty (afterReturn : Bool) (chars : Text) : linesLoop afterReturn chars ≠ [] := by
  induction chars generalizing afterReturn with
  | nil => simp [linesLoop]
  | cons char rest ih =>
      have tail := ih false
      rw [linesLoop]
      split
      · split
        · exact tail
        · simp
      · split
        · simp
        · intro empty
          cases later : linesLoop false rest with
          | nil => exact tail later
          | cons first others => simp [later] at empty

theorem lines_loop_crlf (afterReturn : Bool) (before after : Text) :
    linesLoop afterReturn (before ++ 13 :: 10 :: after) = linesLoop afterReturn before ++ lines after := by
  induction before generalizing afterReturn with
  | nil => simp [linesLoop, lines]
  | cons char rest ih =>
      rw [List.cons_append, linesLoop, linesLoop, ih, ih]
      split
      · split <;> rfl
      · split
        · rfl
        · cases later : linesLoop false rest with
          | nil => exact absurd later (lines_loop_nonempty false rest)
          | cons first others => rfl

theorem lines_crlf (before after : Text) : lines (before ++ 13 :: 10 :: after) = lines before ++ lines after :=
  lines_loop_crlf false before after

theorem to_ascii_append (left right : Text) : toAscii (left ++ right) = toAscii left ++ toAscii right := List.map_append

theorem of_chars_append (left right : Bytes) : ofChars (left ++ right) = ofChars left ++ ofChars right := List.map_append

theorem ascii_char (byte : UInt8) (small : byte < 128) : (if byte.toUInt16 < 128 then byte.toUInt16.toUInt8 else 63) = byte := by
  have wide : byte.toUInt16 < 128 := by
    have below : byte.toNat < 128 := small
    change byte.toUInt16.toNat < 128
    rw [UInt8.toNat_toUInt16]
    exact below
  rw [if_pos wide, UInt8.toUInt8_toUInt16]

theorem to_ascii_chars (bytes : Bytes) (plain : ∀ byte ∈ bytes, byte < 128) : toAscii (ofChars bytes) = bytes := by
  rw [toAscii, ofChars, List.map_map]
  conv => rhs; rw [← List.map_id bytes]
  exact List.map_congr_left fun byte member => ascii_char byte (plain byte member)

theorem of_chars_ascii (chars : Text) (plain : ∀ char ∈ chars, char < 128) : ofChars (toAscii chars) = chars := by
  rw [ofChars, toAscii, List.map_map]
  conv => rhs; rw [← List.map_id chars]
  apply List.map_congr_left
  intro char member
  have small := plain char member
  have same : char.toUInt8.toUInt16 = char := by
    apply UInt16.toNat_inj.mp
    have below : char.toNat < 128 := small
    rw [UInt8.toNat_toUInt16, UInt16.toNat_toUInt8]
    omega
  simpa [Function.comp_def, small] using same

theorem each_char (holds : UInt16 → Prop) [DecidablePred holds] (chars : Text) (all : chars.all (fun char => decide (holds char)) = true) :
    ∀ char ∈ chars, holds char := by
  simpa using all

theorem find_none {Result : Type} (matcher : Text → Option Result) (chars : Text) (fails : ∀ tail, tail <:+ chars → matcher tail = none) :
    find matcher chars = none := by
  induction chars with
  | nil => exact fails [] List.suffix_rfl
  | cons char rest ih =>
      have later := ih fun tail suffix => fails tail (suffix.trans (List.suffix_cons char rest))
      rw [find, fails _ List.suffix_rfl, later]
      rfl

theorem find_ahead {Result : Type} (head : UInt16) (pattern : Text) (next : Text → Option Result) (front rest : Text)
    (absent : ∀ char ∈ front, lowercase char ≠ lowercase head) :
    find (literalIgnoreCase (head :: pattern) next) (front ++ rest) = find (literalIgnoreCase (head :: pattern) next) rest := by
  induction front with
  | nil => rfl
  | cons char front ih =>
      have other := absent char List.mem_cons_self
      have misses : literalIgnoreCase (head :: pattern) next (char :: (front ++ rest)) = none := by
        rw [literalIgnoreCase, if_neg]
        simp [other.symm]
      rw [List.cons_append, find, misses, Option.none_or]
      exact ih fun later member => absent later (List.mem_cons_of_mem char member)

theorem find_without {Result : Type} (pattern part : Text) (next : Text → Option Result) (chars : Text)
    (inside : part <:+: pattern.map lowercase) (missing : ¬ part <:+: chars.map lowercase) :
    find (literalIgnoreCase pattern next) chars = none := by
  apply find_none
  intro tail suffix
  rw [literalIgnoreCase, if_neg]
  intro here
  have front : pattern.map lowercase <+: tail.map lowercase := List.isPrefixOf_iff_prefix.mp here
  have back : tail.map lowercase <:+ chars.map lowercase := suffix.map lowercase
  exact missing (inside.trans (front.isInfix.trans back.isInfix))

end Intercom.Android
