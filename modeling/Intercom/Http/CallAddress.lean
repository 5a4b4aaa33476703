import Intercom.Http.Server
import Intercom.Ownership
import Intercom.Lib.Decimal
import Intercom.Lib.Headers
import Intercom.Lib.Search
import Mathlib.Data.FinEnum

set_option autoImplicit false

/- The peer of a call as text: sa_decode and pl_u32 of libre, which read it from POST /api/call, against the address that
   GET /api/status prints. -/
namespace Intercom.Http

open ByteText

-- From the last character back, in 32 bits.
def plU32Loop : Bytes → UInt32 → UInt32 → UInt32
  | [], v, _ => v
  | byte :: rest, v, mul =>
      let c := byte - 48
      if 9 < c then 0 else plU32Loop rest (v + mul * c.toUInt32) (mul * 10)

def plU32 (pl : Bytes) : UInt32 := plU32Loop pl.reverse 0 1

-- inet_pton takes four decimal numbers without leading zeros.
def octet (part : Bytes) : Option Nat :=
  if part ≠ [] ∧ part.all isDigit = true ∧ (part.length = 1 ∨ part.head? ≠ some 48) ∧ digitsValue part ≤ 255 then
    some (digitsValue part)
  else none

def inetPton (addr : Bytes) : Option UInt32 :=
  match (addr.splitOn 46).mapM octet with
  | some [a, b, c, d] => some (UInt32.ofNat (((a * 256 + b) * 256 + c) * 256 + d))
  | _ => none

-- mapped is what the other forms that sa_pton knows give where they are IPv4 addresses again; a peer has no other kind here.
-- No form is empty or begins with a blank.
def saPton (mapped : Bytes → Option UInt32) (addr : Bytes) : Option UInt32 :=
  if addr = [] ∨ addr.head? = some 32 then none else (inetPton addr).or (mapped addr)

-- The address, and where the colon has to stand.
def addrEnd (str : Bytes) : Option (Bytes × Nat) :=
  match if str.head? = some 91 then memchr 93 str else none with
  | some close => some ((str.take close).drop 1, close + 1)
  | none => (memchr 58 str).map fun colon => (str.take colon, colon)

def saDecode (mapped : Bytes → Option UInt32) (str : Bytes) : Option Sa :=
  match addrEnd str with
  | none => none
  | some (addr, c) =>
      if str.length < c + 2 then none
      else if str[c]? ≠ some 58 then none
      else (saPton mapped addr).map fun address => ⟨address, (plU32 (str.drop (c + 1))).toUInt16⟩

theorem digit_number (byte : UInt8) (digit : isDigit byte = true) :
    ¬ 9 < byte - 48 ∧ (byte - 48).toUInt32 = UInt32.ofNat (byte.toNat - 48) := by
  have each : ∀ byte : UInt8, isDigit byte = true → ¬ 9 < byte - 48 ∧ (byte - 48).toUInt32 = UInt32.ofNat (byte.toNat - 48) := by
    decide +kernel
  exact each byte digit

-- By induction on what is left, from the right: what has been read counts as a number of its own.
theorem pl_u32_loop_value (left done : Bytes) (digits : ∀ byte ∈ left, isDigit byte = true) :
    plU32Loop left (UInt32.ofNat (digitsValue done)) (UInt32.ofNat (10 ^ done.length)) =
      UInt32.ofNat (digitsValue (left.reverse ++ done)) := by
  induction left generalizing done with
  | nil => rfl
  | cons byte rest ih =>
      obtain ⟨small, number⟩ := digit_number byte (digits byte List.mem_cons_self)
      have later := ih (byte :: done) fun other member => digits other (List.mem_cons_of_mem byte member)
      rw [digits_value_cons, List.length_cons, Nat.pow_succ] at later
      rw [plU32Loop, if_neg small, number, List.reverse_cons, List.append_assoc, List.singleton_append, ← later]
      congr 1
      · rw [← UInt32.ofNat_mul, ← UInt32.ofNat_add, Nat.mul_comm, Nat.add_comm]
      · rw [UInt32.ofNat_mul]
        rfl

theorem pl_u32_decimal (value : Nat) : plU32 (decimal value) = UInt32.ofNat value := by
  obtain ⟨digits, _, worth⟩ := decimal_read value
  have whole := pl_u32_loop_value (decimal value).reverse [] fun byte member => digits byte (List.mem_reverse.mp member)
  rw [List.reverse_reverse, List.append_nil, worth] at whole
  exact whole

theorem octet_decimal (value : Nat) (small : value < 256) : octet (decimal value) = some value := by
  have each : ∀ value : Fin 256, octet (decimal value) = some value.val := by decide +kernel
  exact each ⟨value, small⟩

theorem decimal_clear (value : Nat) (byte : UInt8) (other : isDigit byte = false) : byte ∉ decimal value := by
  intro member
  rw [(decimal_read value).1 byte member] at other
  cases other

def dotted (addr : UInt32) : Bytes :=
  [46].intercalate [decimal (addr.toNat / 2 ^ 24), decimal (addr.toNat / 2 ^ 16 % 256), decimal (addr.toNat / 2 ^ 8 % 256),
    decimal (addr.toNat % 256)]

theorem sa_text_dotted (sa : Sa) : saText sa = dotted sa.addr ++ 58 :: decimal sa.port.toNat := by
  have dot : ascii "." = [46] := by decide
  have colon : ascii ":" = [58] := by decide
  rw [saText, dot, colon, dotted]
  simp [List.intercalate]

theorem inet_pton_dotted (addr : UInt32) : inetPton (dotted addr) = some addr := by
  have bound := addr.toNat_lt
  have parts : (dotted addr).splitOn 46 = [decimal (addr.toNat / 2 ^ 24), decimal (addr.toNat / 2 ^ 16 % 256),
      decimal (addr.toNat / 2 ^ 8 % 256), decimal (addr.toNat % 256)] := by
    refine List.splitOn_intercalate 46 (fun part member => ?_) (List.cons_ne_nil _ _)
    obtain ⟨value, rfl⟩ : ∃ value, part = decimal value := by
      simp only [List.mem_cons, List.not_mem_nil, or_false] at member
      rcases member with rfl | rfl | rfl | rfl <;> exact ⟨_, rfl⟩
    exact decimal_clear value 46 (by decide)
  have whole : ((addr.toNat / 2 ^ 24 * 256 + addr.toNat / 2 ^ 16 % 256) * 256 + addr.toNat / 2 ^ 8 % 256) * 256 + addr.toNat % 256 =
      addr.toNat := by omega
  rw [inetPton, parts]
  simp only [List.mapM_cons, List.mapM_nil, octet_decimal _ (show addr.toNat / 2 ^ 24 < 256 by omega),
    octet_decimal _ (Nat.mod_lt _ (show 256 > 0 by decide)), Option.bind_eq_bind, Option.bind_some, Option.pure_def, whole,
    UInt32.ofNat_toNat]

theorem dotted_clear (addr : UInt32) (byte : UInt8) (other : isDigit byte = false) (dot : byte ≠ 46) : byte ∉ dotted addr := by
  simp [dotted, List.intercalate, decimal_clear _ byte other, dot]

theorem sa_decode_printed (mapped : Bytes → Option UInt32) (sa : Sa) : saDecode mapped (saText sa) = some sa := by
  obtain ⟨_, filled, _⟩ := decimal_read sa.port.toNat
  have room : 0 < (decimal sa.port.toNat).length := List.length_pos_of_ne_nil filled
  have plain : (saText sa).head? ≠ some 91 := by
    intro bracket
    have member := List.mem_of_head? bracket
    rw [sa_text_dotted, List.mem_append, List.mem_cons] at member
    rcases member with inside | same | inside
    · exact dotted_clear sa.addr 91 (by decide) (by decide) inside
    · cases same
    · exact decimal_clear _ 91 (by decide) inside
  have colon : memchr 58 (saText sa) = some (dotted sa.addr).length := by
    rw [sa_text_dotted]
    exact memchr_first 58 _ _ (dotted_clear sa.addr 58 (by decide) (by decide))
  have address : saPton mapped (dotted sa.addr) = some sa.addr := by
    have blank : (dotted sa.addr).head? ≠ some 32 := fun head =>
      dotted_clear sa.addr 32 (by decide) (by decide) (List.mem_of_head? head)
    have empty : dotted sa.addr ≠ [] := by simp [dotted, List.intercalate]
    rw [saPton, if_neg (not_or.mpr ⟨empty, blank⟩), inet_pton_dotted]
    rfl
  rw [saDecode, addrEnd, if_neg plain]
  simp only [colon, Option.map_some]
  rw [sa_text_dotted, if_neg (by simp only [List.length_append, List.length_cons]; omega), if_neg (by simp)]
  simp [address, pl_u32_decimal]

-- What decodes begins with none of the separators, for before a colon there has to be an address.
theorem decoded_flush (mapped : Bytes → Option UInt32) (text : Bytes) (peer : Sa) (unquoted : 34 ∉ text)
    (decoded : saDecode mapped text = some peer) (byte : UInt8) (head : text.head? = some byte) : peerSeparator byte = false := by
  obtain ⟨rest, rfl⟩ := List.head?_eq_some_iff.mp head
  by_contra separates
  have which : byte = 32 ∨ byte = 58 := by
    have quote : byte ≠ 34 := fun same => unquoted (same ▸ List.mem_cons_self)
    simpa [peerSeparator, quote, or_iff_not_imp_left] using separates
  rcases which with rfl | rfl
  · cases colon : memchr 58 rest <;> simp [saDecode, addrEnd, saPton, memchr, colon] at decoded
  · simp [saDecode, addrEnd, saPton, memchr] at decoded

def clears (pattern : Bytes) : Bytes → Bool
  | [] => true
  | byte :: rest => !(pattern.take (rest.length + 1)).isPrefixOf (byte :: rest) && clears pattern rest

theorem find_sub_past (pattern front rest : Bytes) (clear : clears pattern front = true) :
    findSub pattern (front ++ rest) = (findSub pattern rest).map (· + front.length) := by
  induction front with
  | nil =>
      rw [List.nil_append, List.length_nil]
      cases findSub pattern rest <;> rfl
  | cons byte front ih =>
      rw [clears, Bool.and_eq_true, Bool.not_eq_true', Bool.eq_false_iff, ne_eq, List.isPrefixOf_iff_prefix] at clear
      have here : ¬pattern.isPrefixOf (byte :: (front ++ rest)) = true := by
        rw [List.isPrefixOf_iff_prefix]
        intro hit
        apply clear.1
        have cut : (byte :: (front ++ rest)).take (front.length + 1) = byte :: front := by simp
        rw [← cut]
        exact hit.take (front.length + 1)
      rw [List.cons_append, findSub, if_neg here, ih clear.2, Option.map_map]
      rfl

theorem clears_append (pattern front rest : Bytes) (ahead : clears pattern front = true) (behind : clears pattern rest = true) :
    clears pattern (front ++ rest) = true := by
  induction front with
  | nil => exact behind
  | cons byte front ih =>
      rw [clears, Bool.and_eq_true, Bool.not_eq_true', Bool.eq_false_iff, ne_eq, List.isPrefixOf_iff_prefix] at ahead
      rw [List.cons_append, clears, Bool.and_eq_true, Bool.not_eq_true', Bool.eq_false_iff, ne_eq, List.isPrefixOf_iff_prefix]
      refine ⟨fun hit => ahead.1 ?_, ih ahead.2⟩
      have cut := hit.take (front.length + 1)
      rw [List.take_take, List.length_append, Nat.min_eq_left (by omega)] at cut
      simpa using cut

theorem clears_absent (head : UInt8) (pattern front : Bytes) (absent : head ∉ front) : clears (head :: pattern) front = true := by
  induction front with
  | nil => rfl
  | cons byte front ih =>
      rw [List.mem_cons, not_or] at absent
      simp [clears, List.isPrefixOf, absent.1, ih absent.2]

theorem after_past (pattern front rest : Bytes) (clear : clears pattern front = true) :
    after pattern (front ++ (pattern ++ rest)) = some rest := by
  have here := after_here pattern rest
  rw [after, find_sub_past pattern front _ clear, Option.map_map]
  rw [after] at here
  rw [← here]
  congr 1
  funext found
  rw [Function.comp_apply, Nat.add_right_comm, Nat.add_comm, List.drop_length_add_append]

structure Quotable (text : Bytes) : Prop where
  filled : text ≠ []
  short : text.length < 64
  whole : 0 ∉ text
  unquoted : 34 ∉ text

-- The separators end within the body, so that the bound of the loop is not felt.
theorem separators_skipped (skips : UInt8 → Bool) (front tail : Bytes) (byte : UInt8) (room : Nat)
    (skipped : ∀ early ∈ front, skips early = true) (stops : skips byte = false) (inside : front.length < room) :
    ((front ++ byte :: tail).take room).dropWhile skips ++ (front ++ byte :: tail).drop room = byte :: tail := by
  obtain ⟨more, rfl⟩ : ∃ more, room = front.length + (more + 1) := ⟨room - front.length - 1, by omega⟩
  rw [List.take_length_add_append, List.drop_length_add_append, List.dropWhile_append_of_pos skipped, List.take_succ_cons,
    List.dropWhile_cons_of_neg (by simp [stops]), List.drop_succ_cons, List.cons_append, List.take_append_drop]

theorem peer_text_read (front text back behind : Bytes) (clean : 0 ∉ front) (clear : clears (ascii "\"peer\"") front = true)
    (plain : Quotable text) (flush : ∀ byte, text.head? = some byte → peerSeparator byte = false) :
    peerText (front ++ (ascii "\"peer\"" ++ (58 :: 34 :: (text ++ 34 :: back)))) behind = text := by
  have key : 0 ∉ ascii "\"peer\"" := by decide
  have size : (ascii "\"peer\"").length = 6 := by decide
  have whole : cstr (front ++ (ascii "\"peer\"" ++ (58 :: 34 :: (text ++ 34 :: back))) ++ behind) =
      front ++ (ascii "\"peer\"" ++ (58 :: 34 :: (text ++ 34 :: cstr (back ++ behind)))) := by
    have opening : 0 ∉ front ++ ascii "\"peer\"" ++ (58 :: 34 :: (text ++ [34])) := by
      have quotes := plain.whole
      simp only [List.mem_append, List.mem_cons, List.not_mem_nil]
      grind
    have cut := cstr_append_clean _ (back ++ behind) opening
    simpa using cut
  have found : strstr (front ++ (ascii "\"peer\"" ++ (58 :: 34 :: (text ++ 34 :: back))) ++ behind) (ascii "\"peer\"") =
      some front.length := by
    have here : findSub (ascii "\"peer\"") (ascii "\"peer\"" ++ (58 :: 34 :: (text ++ 34 :: cstr (back ++ behind)))) = some 0 :=
      find_sub_at _ _ 0 (List.prefix_append _ _) fun early before => absurd before (Nat.not_lt_zero early)
    rw [strstr, whole, find_sub_past _ front _ clear, here, Option.map_some, Nat.zero_add]
  have some_ : front ++ (ascii "\"peer\"" ++ (58 :: 34 :: (text ++ 34 :: back))) ≠ [] := by
    simp
  have left : (front ++ (ascii "\"peer\"" ++ (58 :: 34 :: (text ++ 34 :: cstr (back ++ behind))))).drop (front.length + 6) =
      58 :: 34 :: (text ++ 34 :: cstr (back ++ behind)) := by
    rw [← size, ← List.drop_drop, List.drop_left, List.drop_left]
  rw [peerText]
  simp only [if_neg some_, found, whole, left]
  generalize room : (front ++ (ascii "\"peer\"" ++ (58 :: 34 :: (text ++ 34 :: back)))).length - (front.length + 6) = most
  have inside : 2 < most := by
    rw [← room]
    simp only [List.length_append, List.length_cons, size]
    omega
  have value : ((58 :: 34 :: (text ++ 34 :: cstr (back ++ behind))).take most).dropWhile peerSeparator ++
      (58 :: 34 :: (text ++ 34 :: cstr (back ++ behind))).drop most = text ++ 34 :: cstr (back ++ behind) := by
    cases text with
    | nil => exact absurd rfl plain.filled
    | cons byte rest =>
        exact separators_skipped peerSeparator [58, 34] (rest ++ 34 :: cstr (back ++ behind)) byte most (by simp [peerSeparator])
          (flush byte rfl) inside
  rw [value]
  simp only [memchr_first 34 text (cstr (back ++ behind)) plain.unquoted, if_pos plain.short, List.take_left, if_neg plain.filled]

theorem sa_text_quotable (sa : Sa) : Quotable (saText sa) := by
  have bound := sa.addr.toNat_lt
  have port := sa.port.toNat_lt
  have clear : ∀ byte, isDigit byte = false → byte ≠ 46 → byte ≠ 58 → byte ∉ saText sa := by
    intro byte other dot colon
    rw [sa_text_dotted, List.mem_append, List.mem_cons]
    rintro (inside | same | inside)
    · exact dotted_clear sa.addr byte other dot inside
    · exact colon same
    · exact decimal_clear _ byte other inside
  refine ⟨?_, ?_, clear 0 (by decide) (by decide) (by decide), clear 34 (by decide) (by decide) (by decide)⟩
  · rw [sa_text_dotted]
    simp
  · have first := decimal_length (sa.addr.toNat / 2 ^ 24) 2 (by omega)
    have second := decimal_length (sa.addr.toNat / 2 ^ 16 % 256) 2 (by omega)
    have third := decimal_length (sa.addr.toNat / 2 ^ 8 % 256) 2 (by omega)
    have last := decimal_length (sa.addr.toNat % 256) 2 (by omega)
    have number := decimal_length sa.port.toNat 4 (by omega)
    have dot : (ascii ".").length = 1 := by decide
    have colon : (ascii ":").length = 1 := by decide
    simp only [saText, List.length_append]
    omega

theorem peer_text_quotable (body behind : Bytes) : Quotable (peerText body behind) := by
  have default : Quotable (ascii "127.0.0.1:5006") :=
    ⟨by decide +kernel, by decide +kernel, by decide +kernel, by decide +kernel⟩
  cases found : if body = [] then none else strstr (body ++ behind) (ascii "\"peer\"") with
  | none => simpa [peerText, found] using default
  | some key =>
      generalize reading : (((cstr (body ++ behind)).drop (key + 6)).take (body.length - (key + 6))).dropWhile peerSeparator ++
        ((cstr (body ++ behind)).drop (key + 6)).drop (body.length - (key + 6)) = value
      have whole : 0 ∉ value := by
        intro member
        rw [← reading, List.mem_append] at member
        apply cstr_no_zero (body ++ behind)
        rcases member with skipped | beyond
        · exact List.mem_of_mem_drop (List.mem_of_mem_take ((List.dropWhile_sublist _).mem skipped))
        · exact List.mem_of_mem_drop (List.mem_of_mem_drop beyond)
      cases closed : memchr 34 value with
      | none => simpa only [peerText, found, reading, closed, if_true] using default
      | some stop =>
          by_cases read : stop < 64 ∧ value.take stop ≠ []
          · have taken : peerText body behind = value.take stop := by
              simp only [peerText, found, reading, closed, if_pos read.1, if_neg read.2]
            rw [taken]
            refine ⟨read.2, ?_, fun member => whole (List.mem_of_mem_take member), memchr_absent 34 value stop closed⟩
            rw [List.length_take]
            omega
          · have other : peerText body behind = ascii "127.0.0.1:5006" := by
              by_cases short : stop < 64
              · have empty : value.take stop = [] := by
                  by_contra filled
                  exact read ⟨short, filled⟩
                simp only [peerText, found, reading, closed, if_pos short, if_pos empty]
              · simp only [peerText, found, reading, closed, if_neg short, if_true]
            rw [other]
            exact default

theorem call_created (w : World) (d : Device) (body behind : Bytes) (sess : Session) (created : (handleCallCreate w d body behind).1.sess = some sess) :
    w.saDecode (peerText body behind) = some sess.peerAddr := by
  have ended := (end_session_result d).1
  rw [handleCallCreate] at created
  dsimp only at created
  cases decoded : w.saDecode (peerText body behind) with
  | none =>
      rw [decoded] at created
      dsimp only at created
      rw [ended] at created
      cases created
  | some peer =>
      rw [decoded] at created
      dsimp only at created
      cases result : (sessionAlloc w (endSession d) peer).2 with
      | false =>
          rw [(session_alloc_failed w _ peer result).1, ended] at created
          cases created
      | true =>
          rw [sessionAlloc] at created result
          dsimp only at created result
          split at created
          · rename_i opened
            rw [if_pos opened] at result
            split at created
            · rename_i port
              rw [port] at result
              cases result
            · cases created
              rfl
          · rename_i failed
            rw [if_neg failed] at result
            cases result

theorem call_accepted (w : World) (d : Device) (body behind : Bytes) (peer : Sa) (decoded : w.saDecode (peerText body behind) = some peer) :
    (handleCallCreate w d body behind).2 ≠ [.http 400] := by
  simp only [handleCallCreate, decoded]
  split <;> simp

-- The body of an answer, sent back, is taken as a call to this peer, whatever lies behind it.
def Redials (w : World) (d : Device) (reply : HttpReply) (peer : Sa) : Prop :=
  ∃ body, after (crlf ++ crlf) reply.text = some body ∧ ∀ behind, (handleCallCreate w d body behind).2 ≠ [.http 400] ∧
    ∀ sess, (handleCallCreate w d body behind).1.sess = some sess → sess.peerAddr = peer

theorem call_answer_redials (w : World) (d : Device) (opening text : Bytes) (port : Nat) (peer : Sa) (clean : 0 ∉ opening)
    (clear : clears (ascii "\"peer\"") opening = true) (plain : Quotable text)
    (flush : ∀ byte, text.head? = some byte → peerSeparator byte = false) (decoded : w.saDecode text = some peer) (reason : String)
    (scode : Nat) :
    Redials w d (httpReply scode reason [jsonHeaders, opening, decimal port, ascii ",\"peer\":\"", text, ascii "\"\x7d"]) peer := by
  have headers : jsonHeaders =
      ascii "Content-Type: application/json\r\nAccess-Control-Allow-Origin: *\r\nConnection: close" ++ (crlf ++ crlf) := by decide
  have quoted : ascii ",\"peer\":\"" = 44 :: ascii "\"peer\"" ++ [58, 34] := by decide
  have closing : ascii "\"\x7d" = [34, 125] := by decide
  have digits : 34 ∉ decimal port ++ [44] := by simp [decimal_clear port 34 (by decide)]
  have nonzero : 0 ∉ decimal port ++ [44] := by simp [decimal_clear port 0 (by decide)]
  have front : clears (ascii "\"peer\"") (opening ++ (decimal port ++ [44])) = true :=
    clears_append _ _ _ clear (clears_absent 34 _ _ digits)
  have read := fun behind => peer_text_read (opening ++ (decimal port ++ [44])) text [125] behind
    (fun member => (List.mem_append.mp member).elim clean nonzero) front plain flush
  refine ⟨opening ++ (decimal port ++ [44]) ++ (ascii "\"peer\"" ++ (58 :: 34 :: (text ++ 34 :: [125]))), ?_, fun behind => ⟨?_, ?_⟩⟩
  · have past := after_past (crlf ++ crlf)
      (ascii "Content-Type: application/json\r\nAccess-Control-Allow-Origin: *\r\nConnection: close")
      (opening ++ (decimal port ++ [44]) ++ (ascii "\"peer\"" ++ (58 :: 34 :: (text ++ 34 :: [125])))) (by decide)
    rw [← past, httpReply, headers, quoted, closing]
    simp
  · apply call_accepted w d _ behind peer
    rw [read behind, decoded]
  · intro sess created
    have made := call_created w d _ behind sess created
    rw [read behind, decoded] at made
    cases made
    rfl

theorem answers_redial (w : World) (mapped : Bytes → Option UInt32) (decodes : w.saDecode = saDecode mapped) (d later : Device)
    (sess : Session) :
    (d.sess = some sess → Redials w later (handleStatus d) sess.peerAddr) ∧
    (∀ asked behind, (handleCallCreate w d asked behind).1.sess = some sess →
      Redials w later (callCreateReply asked behind (handleCallCreate w d asked behind)) sess.peerAddr) := by
  constructor
  · intro active
    have plain := sa_text_quotable sess.peerAddr
    have decoded := sa_decode_printed mapped sess.peerAddr
    rw [handleStatus, active]
    apply call_answer_redials w later _ _ _ _ (by decide) (by decide) plain (decoded_flush mapped _ _ plain.unquoted decoded)
    rw [decodes]
    exact decoded
  · intro asked behind created
    have plain := peer_text_quotable asked behind
    have decoded := call_created w d asked behind sess created
    have accepted := call_accepted w d asked behind sess.peerAddr decoded
    have flush := decoded_flush mapped _ _ plain.unquoted (decodes ▸ decoded)
    rw [callCreateReply, if_neg accepted, created]
    exact call_answer_redials w later _ _ _ _ (by decide) (by decide) plain flush decoded _ _

def dialWorld : World := { sampleWorld with saDecode := saDecode fun _ => none }

theorem default_call_redials :
    Redials dialWorld {} (callCreateReply [] [] (handleCallCreate dialWorld {} [] [])) ⟨0x7F000001, 5006⟩ := by
  have created : ∃ sess, (handleCallCreate dialWorld {} [] []).1.sess = some sess ∧ sess.peerAddr = ⟨0x7F000001, 5006⟩ := by
    decide +kernel
  obtain ⟨sess, made, peer⟩ := created
  rw [← peer]
  exact (answers_redial dialWorld (fun _ => none) rfl {} {} sess).2 [] [] made

end Intercom.Http
