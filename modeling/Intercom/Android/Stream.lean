import Intercom.Lib.Bytes

set_option autoImplicit false

/- The reading helpers of RtspClient.kt. The stream holds every byte up to its end; a read of several bytes may
   return any positive number of them, chosen by `pick` for the n-th such call. -/
namespace Intercom.Android

open ByteText

structure Input where
  bytes : Bytes
  calls : Nat := 0
deriving DecidableEq, Repr

-- InputStream.read(buf, off, len) for a positive len; none is the -1 at the end of the stream.
def readSome (pick : Nat → Nat) (input : Input) (len : Nat) : Option (Bytes × Input) :=
  if input.bytes = [] then none
  else
    let count := pick input.calls % min len input.bytes.length + 1
    some (input.bytes.take count, ⟨input.bytes.drop count, input.calls + 1⟩)

-- none is the IOException of a stream that ends too early.
def readFullyLoop (pick : Nat → Nat) : Nat → Input → Nat → Bytes → Option (Bytes × Input)
  | 0, input, _, got => some (got, input)
  | fuel + 1, input, remaining, got =>
      if remaining = 0 then some (got, input)
      else
        match readSome pick input remaining with
        | none => none
        | some (part, rest) => readFullyLoop pick fuel rest (remaining - part.length) (got ++ part)

def readFully (pick : Nat → Nat) (input : Input) (len : Nat) : Option (Bytes × Input) :=
  readFullyLoop pick (len + 1) input len []

def skipBytesLoop (pick : Nat → Nat) : Nat → Input → Nat → Input
  | 0, input, _ => input
  | fuel + 1, input, remaining =>
      if remaining = 0 then input
      else
        match readSome pick input (min remaining 4096) with
        | none => input
        | some (part, rest) => skipBytesLoop pick fuel rest (remaining - part.length)

def skipBytes (pick : Nat → Nat) (input : Input) (count : Nat) : Input := skipBytesLoop pick (count + 1) input count

def readByte (input : Input) : Option (UInt8 × Input) :=
  match input.bytes with
  | [] => none
  | byte :: rest => some (byte, { input with bytes := rest })

-- The loop that readResponse and skipRtspMessage share: what it reads up to the second CRLF in a row, and what
-- is left. A CR does not reset the count.
def headerLoop : UInt8 → Nat → Bytes → Option (Bytes × Bytes)
  | _, _, [] => none
  | prev, crlfCount, byte :: rest =>
      if byte = 10 ∧ prev = 13 then
        if 2 ≤ crlfCount + 1 then some ([byte], rest)
        else (headerLoop byte (crlfCount + 1) rest).map fun read => (byte :: read.1, read.2)
      else
        (headerLoop byte (if byte = 13 then crlfCount else 0) rest).map fun read => (byte :: read.1, read.2)

-- The end of the stream ends the message too.
def skipRtspMessage (input : Input) (firstByte : UInt8) : Input :=
  match headerLoop firstByte 0 input.bytes with
  | none => { input with bytes := [] }
  | some read => { input with bytes := read.2 }

theorem read_some_parts (pick : Nat → Nat) (input : Input) (len : Nat) (wanted : 0 < len) (more : input.bytes ≠ []) :
    ∃ part rest, readSome pick input len = some (part, rest) ∧ part ++ rest.bytes = input.bytes ∧
      0 < part.length ∧ part.length ≤ len := by
  have available : 0 < input.bytes.length := List.length_pos_iff.mpr more
  have bound : 0 < min len input.bytes.length := by omega
  have below := Nat.mod_lt (pick input.calls) bound
  refine ⟨_, _, by rw [readSome, if_neg more], List.take_append_drop _ _, ?_, ?_⟩
  · rw [List.length_take]
    omega
  · rw [List.length_take]
    omega

-- Induction on the fuel: every call takes at least one byte, so the fuel outlasts what remains.
theorem read_fully_loop_spec (pick : Nat → Nat) (fuel : Nat) (input : Input) (wanted rest got : Bytes)
    (split : input.bytes = wanted ++ rest) (enough : wanted.length < fuel) :
    ∃ calls, readFullyLoop pick fuel input wanted.length got = some (got ++ wanted, ⟨rest, calls⟩) := by
  induction fuel generalizing input wanted got with
  | zero => omega
  | succ fuel ih =>
      cases wanted with
      | nil =>
          refine ⟨input.calls, ?_⟩
          cases input
          simp_all [readFullyLoop]
      | cons byte tail =>
          have more : input.bytes ≠ [] := by simp [split]
          obtain ⟨part, later, taken, whole, some_read, bounded⟩ :=
            read_some_parts pick input (byte :: tail).length (by simp) more
          have aligned : (byte :: tail) = part ++ (byte :: tail).drop part.length := by
            have front := congrArg (List.take part.length) (whole.trans split)
            rw [List.take_left, List.take_append_of_le_length bounded] at front
            conv => lhs; rw [← List.take_append_drop part.length (byte :: tail), ← front]
          have after : later.bytes = (byte :: tail).drop part.length ++ rest := by
            have back := congrArg (List.drop part.length) (whole.trans split)
            rwa [List.drop_left, List.drop_append_of_le_length bounded] at back
          have shorter : ((byte :: tail).drop part.length).length < fuel := by
            rw [List.length_drop]
            omega
          obtain ⟨calls, done⟩ := ih later ((byte :: tail).drop part.length) (got ++ part) after shorter
          refine ⟨calls, ?_⟩
          rw [List.length_drop, List.append_assoc, ← aligned] at done
          rw [readFullyLoop, if_neg (by simp), taken]
          exact done

theorem read_fully_spec (pick : Nat → Nat) (wanted rest : Bytes) (calls : Nat) :
    ∃ later, readFully pick ⟨wanted ++ rest, calls⟩ wanted.length = some (wanted, ⟨rest, later⟩) := by
  obtain ⟨later, done⟩ := read_fully_loop_spec pick (wanted.length + 1) ⟨wanted ++ rest, calls⟩ wanted rest [] rfl (by omega)
  exact ⟨later, by simpa [readFully] using done⟩

theorem header_loop_text (prev : UInt8) (crlfCount : Nat) (text rest : Bytes) (clean : Unbroken text) (more : text ≠ []) :
    headerLoop prev crlfCount (text ++ crlf ++ rest) =
      (headerLoop 10 1 rest).map fun read => (text ++ crlf ++ read.1, read.2) := by
  induction text generalizing prev crlfCount with
  | nil => exact absurd rfl more
  | cons byte tail ih =>
      obtain ⟨noReturn, noFeed⟩ := clean byte (by simp)
      cases tail with
      | nil => simp [headerLoop, crlf, noReturn, noFeed, Function.comp_def]
      | cons next tail =>
          have later := ih byte 0 (fun other member => clean other (List.mem_cons_of_mem _ member)) (by simp)
          have first : headerLoop prev crlfCount (byte :: (next :: tail ++ crlf ++ rest)) =
              (headerLoop byte 0 (next :: tail ++ crlf ++ rest)).map fun read => (byte :: read.1, read.2) := by
            rw [headerLoop, if_neg (fun both => noFeed both.1), if_neg noReturn]
          rw [List.cons_append, List.cons_append, first, later, Option.map_map]
          rfl

theorem header_loop_end (rest : Bytes) : headerLoop 10 1 (crlf ++ rest) = some (crlf, rest) := by
  simp [headerLoop, crlf]

def headerLines (lines : List Bytes) : Bytes := lines.flatMap fun line => line ++ crlf

theorem header_loop_lines (prev : UInt8) (crlfCount : Nat) (line : Bytes) (lines : List Bytes) (rest : Bytes)
    (clean : ∀ text ∈ line :: lines, Unbroken text ∧ text ≠ []) :
    headerLoop prev crlfCount (headerLines (line :: lines) ++ crlf ++ rest) =
      some (headerLines (line :: lines) ++ crlf, rest) := by
  induction lines generalizing prev crlfCount line with
  | nil =>
      obtain ⟨unbroken, more⟩ := clean line (by simp)
      have first := header_loop_text prev crlfCount line (crlf ++ rest) unbroken more
      rw [header_loop_end] at first
      simpa [headerLines] using first
  | cons next lines ih =>
      obtain ⟨unbroken, more⟩ := clean line (by simp)
      have later := ih 10 1 next fun text member => clean text (List.mem_cons_of_mem _ member)
      have first := header_loop_text prev crlfCount line (headerLines (next :: lines) ++ crlf ++ rest) unbroken more
      rw [later] at first
      simpa [headerLines] using first

end Intercom.Android
