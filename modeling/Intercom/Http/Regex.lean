import Intercom.Lib.Headers

set_option autoImplicit false

/- re_regex of libre (fmt/regex.c), but for its escapes and its quoted classes. An expression is read into pieces; they are
   tried at one position of the text after the other, and a class never gives back what it took. -/
namespace Intercom.Http

open ByteText

-- The limits of a class: no nmax stands for -1.
inductive Piece where
  | chr (byte : UInt8)
  | cls (chrv : List (UInt8 × UInt8)) (neg : Bool) (nmin : Nat) (nmax : Option Nat)
deriving DecidableEq, Repr

def exprMatch (chrv : List (UInt8 × UInt8)) (byte : UInt8) (neg : Bool) : Bool :=
  (chrv.any fun chr => chr.1 ≤ byte && byte ≤ chr.2) != neg

-- range is the lower end of a range whose upper end comes next.
structure ClassText where
  chrv : List (UInt8 × UInt8) := []
  neg : Bool := false
  range : Option UInt8 := none

def ClassText.add (text : ClassText) (byte : UInt8) : ClassText :=
  if byte = 94 ∧ text.chrv = [] then { text with neg := true }
  else
    match text.range with
    | some least => { text with chrv := text.chrv ++ [(least, lower byte)], range := none }
    | none =>
        match text.chrv.getLast? with
        | some last =>
            if byte = 45 then { text with chrv := text.chrv.dropLast, range := some last.1 }
            else { text with chrv := text.chrv ++ [(lower byte, lower byte)] }
        | none => { text with chrv := [(lower byte, lower byte)] }

inductive ExprPos where
  | outside
  | inside (cls : ClassText)
  | closed (cls : ClassText)

def readExpr : ExprPos → Bytes → Option (List Piece)
  | .outside, [] => some []
  | .inside _, [] => none
  | .closed _, [] => none
  | .outside, byte :: rest =>
      if byte = 91 then readExpr (.inside {}) rest
      else if byte = 92 then none
      else (readExpr .outside rest).map fun pieces => .chr byte :: pieces
  | .inside cls, byte :: rest =>
      if byte = 93 then readExpr (.closed cls) rest
      else if byte = 92 ∨ (byte = 126 ∧ cls.chrv = []) ∨ 64 ≤ cls.chrv.length then none
      else readExpr (.inside (cls.add byte)) rest
  | .closed cls, byte :: rest =>
      if byte = 42 then (readExpr .outside rest).map fun pieces => .cls cls.chrv cls.neg 0 none :: pieces
      else if byte = 43 then (readExpr .outside rest).map fun pieces => .cls cls.chrv cls.neg 1 none :: pieces
      else if 49 ≤ byte && byte ≤ 57 then
        (readExpr .outside rest).map fun pieces =>
          .cls cls.chrv cls.neg (byte - 48).toNat (some (byte - 48).toNat) :: pieces
      else none

inductive Tried where
  | found (groups : List Bytes) (rest : Bytes)
  | again
  | noent
deriving DecidableEq, Repr

def Tried.after (run : Bytes) : Tried → Tried
  | .found groups rest => .found (run :: groups) rest
  | .again => .again
  | .noent => .noent

def classRun (chrv : List (UInt8 × UInt8)) (neg : Bool) (nmax : Option Nat) (text : Bytes) : Bytes :=
  let run := text.takeWhile fun byte => exprMatch chrv (lower byte) neg
  match nmax with
  | none => run
  | some most => run.take most

-- A plain character at the end of the text gives up altogether; everything else tries the next position.
def tryAt : List Piece → Bytes → Tried
  | [], text => .found [] text
  | .chr _ :: _, [] => .noent
  | .chr byte :: pieces, head :: text => if lower byte = lower head then tryAt pieces text else .again
  | .cls chrv neg nmin nmax :: pieces, text =>
      let run := classRun chrv neg nmax text
      if run.length < nmin then .again else (tryAt pieces (text.drop run.length)).after run

-- skipped is the number of positions that were tried in vain.
structure RegexMatch where
  skipped : Nat
  groups : List Bytes
  rest : Bytes
deriving DecidableEq, Repr

def searchFrom (pieces : List Piece) : Bytes → Option RegexMatch
  | [] => none
  | head :: text =>
      match tryAt pieces (head :: text) with
      | .found groups rest => some ⟨0, groups, rest⟩
      | .again => (searchFrom pieces text).map fun later => { later with skipped := later.skipped + 1 }
      | .noent => none

def reRegex (text expr : Bytes) : Option RegexMatch :=
  (readExpr .outside expr).bind fun pieces => searchFrom pieces text

example : reRegex (ascii "foo 42 bar") (ascii "[0-9]+") = some ⟨4, [ascii "42"], ascii " bar"⟩ := by decide

theorem lower_within (byte least most : UInt8) (plain : most < 65) :
    (decide (least ≤ lower byte) && decide (lower byte ≤ most)) = (decide (least ≤ byte) && decide (byte ≤ most)) := by
  rw [lower]
  by_cases capital : 65 ≤ byte ∧ byte ≤ 90
  · rw [if_pos capital]
    have size : (byte + 32).toNat = byte.toNat + 32 := by
      have last := UInt8.le_iff_toNat_le.mp capital.2
      have wrap : (90 : UInt8).toNat = 90 := rfl
      rw [UInt8.toNat_add]
      simp only [UInt8.reduceToNat] at last ⊢
      omega
    have above : ¬byte ≤ most ∧ ¬byte + 32 ≤ most := by
      have first := UInt8.le_iff_toNat_le.mp capital.1
      have small := UInt8.lt_iff_toNat_lt.mp plain
      simp only [UInt8.le_iff_toNat_le, size]
      simp only [UInt8.reduceToNat] at first small
      omega
    simp [above.1, above.2]
  · rw [if_neg capital]

theorem lower_single (byte mark : UInt8) (plain : mark < 65) :
    (decide (mark ≤ lower byte) && decide (lower byte ≤ mark)) = decide (byte = mark) := by
  rw [lower_within byte mark mark plain, ← Bool.decide_and]
  exact decide_eq_decide.mpr ⟨fun both => UInt8.le_antisymm both.2 both.1, fun same => same ▸ ⟨UInt8.le_refl _, UInt8.le_refl _⟩⟩

theorem class_run (chrv : List (UInt8 × UInt8)) (neg : Bool) (run rest : Bytes)
    (inside : ∀ byte ∈ run, exprMatch chrv (lower byte) neg = true)
    (stops : ∀ byte ∈ rest.head?, exprMatch chrv (lower byte) neg = false) :
    classRun chrv neg none (run ++ rest) = run := by
  have none_more : (rest.takeWhile fun byte => exprMatch chrv (lower byte) neg) = [] := by
    cases rest with
    | nil => rfl
    | cons head tail => simp [stops head rfl]
  rw [classRun, List.takeWhile_append_of_pos inside, none_more, List.append_nil]

theorem try_class (chrv : List (UInt8 × UInt8)) (neg : Bool) (nmin : Nat) (pieces : List Piece) (run rest : Bytes)
    (inside : ∀ byte ∈ run, exprMatch chrv (lower byte) neg = true)
    (stops : ∀ byte ∈ rest.head?, exprMatch chrv (lower byte) neg = false) (enough : nmin ≤ run.length) :
    tryAt (.cls chrv neg nmin none :: pieces) (run ++ rest) = (tryAt pieces rest).after run := by
  rw [tryAt, class_run chrv neg run rest inside stops, if_neg (Nat.not_lt.mpr enough), List.drop_left]

theorem try_class_short (chrv : List (UInt8 × UInt8)) (neg : Bool) (nmin : Nat) (pieces : List Piece) (run rest : Bytes)
    (inside : ∀ byte ∈ run, exprMatch chrv (lower byte) neg = true)
    (stops : ∀ byte ∈ rest.head?, exprMatch chrv (lower byte) neg = false) (short : run.length < nmin) :
    tryAt (.cls chrv neg nmin none :: pieces) (run ++ rest) = .again := by
  rw [tryAt, class_run chrv neg run rest inside stops, if_pos short]

theorem try_chars (chars : Bytes) (pieces : List Piece) (rest : Bytes) :
    tryAt (chars.map Piece.chr ++ pieces) (chars ++ rest) = tryAt pieces rest := by
  induction chars with
  | nil => rfl
  | cons byte chars ih =>
      rw [List.map_cons, List.cons_append, List.cons_append, tryAt, if_pos rfl]
      exact ih

end Intercom.Http
