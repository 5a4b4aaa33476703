import Intercom.Lib.Search
import Intercom.Rtsp.Auth
import Intercom.Rtsp.Requests

set_option autoImplicit false

/- The Authorization value a client prints and what rtsp_auth_check reads in it. The value is cut by its quotes: a
   field is found where a name and an equals sign stand before a quote, and nowhere else as long as no value ends
   with an equals sign. -/
namespace Intercom

open ByteText

theorem name_not_suffix (field segment : Bytes) (ends : segment.getLast? ≠ some 61) : ¬ (field ++ [61]) <:+ segment := by
  intro suffix
  obtain ⟨front, rfl⟩ := suffix
  apply ends
  rw [← List.append_assoc, List.getLast?_append, List.getLast?_singleton]
  rfl

-- The branch of parse_digest_field for a value in quotes.
def quotedField (field : Bytes) (size : Nat) (hdr : Bytes) : Option Bytes :=
  (findSub (field ++ [61] ++ [34]) hdr).bind fun found =>
    (memchr 34 (hdr.drop (found + field.length + 2))).map fun stop =>
      ((hdr.drop (found + field.length + 2)).take stop).take (size - 1)

theorem quoted_field_parsed (hdr field : Bytes) (size : Nat) (value : Bytes) (quoted : quotedField field size hdr = some value) :
    parseDigestField hdr field size = some value := by
  have pattern : field ++ ascii "=\"" = field ++ [61] ++ [34] := by
    rw [List.append_assoc]
    rfl
  rw [parseDigestField, pattern]
  cases found : findSub (field ++ [61] ++ [34]) hdr with
  | none =>
      rw [quotedField, found] at quoted
      cases quoted
  | some index =>
      rw [quotedField, found] at quoted
      exact quoted

theorem quoted_field_after (field : Bytes) (size : Nat) (hdr : Bytes) :
    quotedField field size hdr =
      (after (field ++ [61] ++ [34]) hdr).bind fun start => (memchr 34 start).map fun stop => (start.take stop).take (size - 1) := by
  rw [quotedField, after]
  cases findSub (field ++ [61] ++ [34]) hdr with
  | none => rfl
  | some found =>
      have place : found + (field ++ [61] ++ [34]).length = found + field.length + 2 := by simp [Nat.add_assoc]
      rw [Option.map_some, Option.bind_some, Option.bind_some, place]

theorem name_plain (field : Bytes) (plain : 34 ∉ field) : 34 ∉ field ++ [61] := by
  intro member
  rcases List.mem_append.mp member with first | last
  · exact plain first
  · exact absurd last (by decide)

-- A segment that does not end with the name is passed over.
theorem quoted_field_later (field segment rest : Bytes) (size : Nat) (plain : 34 ∉ field) (clean : 34 ∉ segment)
    (other : ¬ (field ++ [61]) <:+ segment) : quotedField field size (segment ++ 34 :: rest) = quotedField field size rest := by
  rw [quoted_field_after, quoted_field_after, after_delimited 34 _ segment rest (name_plain field plain) clean, if_neg other]

theorem quoted_field_here (front field value behind : Bytes) (size : Nat) (clean : 34 ∉ front ++ (field ++ [61])) (plain : 34 ∉ value)
    (short : value.length < size) : quotedField field size (front ++ (field ++ [61]) ++ 34 :: (value ++ 34 :: behind)) = some value := by
  have name : 34 ∉ field ++ [61] := fun member => clean (List.mem_append_right front member)
  rw [quoted_field_after, after_delimited 34 _ _ _ name clean, if_pos (List.suffix_append _ _), Option.bind_some,
    memchr_first 34 value behind plain, Option.map_some, List.take_left, List.take_of_length_le (by omega)]

def digestValue (username sentRealm nonce uri response : Bytes) : Bytes :=
  ascii "Digest username=" ++ 34 :: (username ++ 34 :: (ascii ", realm=" ++ 34 :: (sentRealm ++ 34 :: (ascii ", nonce=" ++ 34 ::
    (nonce ++ 34 :: (ascii ", uri=" ++ 34 :: (uri ++ 34 :: (ascii ", response=" ++ 34 :: (response ++ [34])))))))))

-- Text that can stand between two quotes without being taken for the name of a field.
structure Quotable (value : Bytes) : Prop where
  quoteless : 34 ∉ value
  ends : value.getLast? ≠ some 61

section Fields

variable (username sentRealm nonce uri response : Bytes) (user : Quotable username) (place : Quotable sentRealm)
  (once : Quotable nonce) (target : Quotable uri) (answer : Quotable response)

theorem quotable_later (field value rest : Bytes) (size : Nat) (plain : 34 ∉ field) (quotable : Quotable value) :
    quotedField field size (value ++ 34 :: rest) = quotedField field size rest :=
  quoted_field_later field value rest size plain quotable.quoteless (name_not_suffix field value quotable.ends)

include user

theorem username_read (short : username.length < 64) :
    parseDigestField (digestValue username sentRealm nonce uri response) (ascii "username") 64 = some username := by
  apply quoted_field_parsed
  exact quoted_field_here (ascii "Digest ") (ascii "username") username _ 64 (by decide) user.quoteless short

include place

theorem realm_read (short : sentRealm.length < 64) :
    parseDigestField (digestValue username sentRealm nonce uri response) (ascii "realm") 64 = some sentRealm := by
  apply quoted_field_parsed
  rw [digestValue, quoted_field_later (ascii "realm") _ _ _ (by decide) (by decide) (by decide),
    quotable_later (ascii "realm") _ _ _ (by decide) user]
  exact quoted_field_here (ascii ", ") (ascii "realm") sentRealm _ 64 (by decide) place.quoteless short

include once

theorem nonce_read (short : nonce.length < 64) :
    parseDigestField (digestValue username sentRealm nonce uri response) (ascii "nonce") 64 = some nonce := by
  apply quoted_field_parsed
  rw [digestValue, quoted_field_later (ascii "nonce") _ _ _ (by decide) (by decide) (by decide),
    quotable_later (ascii "nonce") _ _ _ (by decide) user,
    quoted_field_later (ascii "nonce") _ _ _ (by decide) (by decide) (by decide),
    quotable_later (ascii "nonce") _ _ _ (by decide) place]
  exact quoted_field_here (ascii ", ") (ascii "nonce") nonce _ 64 (by decide) once.quoteless short

include target

theorem uri_read (short : uri.length < 256) :
    parseDigestField (digestValue username sentRealm nonce uri response) (ascii "uri") 256 = some uri := by
  apply quoted_field_parsed
  rw [digestValue, quoted_field_later (ascii "uri") _ _ _ (by decide) (by decide) (by decide),
    quotable_later (ascii "uri") _ _ _ (by decide) user,
    quoted_field_later (ascii "uri") _ _ _ (by decide) (by decide) (by decide),
    quotable_later (ascii "uri") _ _ _ (by decide) place,
    quoted_field_later (ascii "uri") _ _ _ (by decide) (by decide) (by decide),
    quotable_later (ascii "uri") _ _ _ (by decide) once]
  exact quoted_field_here (ascii ", ") (ascii "uri") uri _ 256 (by decide) target.quoteless short

include answer

theorem response_read (short : response.length < 64) :
    parseDigestField (digestValue username sentRealm nonce uri response) (ascii "response") 64 = some response := by
  apply quoted_field_parsed
  rw [digestValue, quoted_field_later (ascii "response") _ _ _ (by decide) (by decide) (by decide),
    quotable_later (ascii "response") _ _ _ (by decide) user,
    quoted_field_later (ascii "response") _ _ _ (by decide) (by decide) (by decide),
    quotable_later (ascii "response") _ _ _ (by decide) place,
    quoted_field_later (ascii "response") _ _ _ (by decide) (by decide) (by decide),
    quotable_later (ascii "response") _ _ _ (by decide) once,
    quoted_field_later (ascii "response") _ _ _ (by decide) (by decide) (by decide),
    quotable_later (ascii "response") _ _ _ (by decide) target]
  exact quoted_field_here (ascii ", ") (ascii "response") response [] 64 (by decide) answer.quoteless short

end Fields

theorem hex_digit_plain : ∀ value : Fin 16, digit false value ≠ 34 ∧ digit false value ≠ 61 ∧ digit false value ≠ 0 ∧
    digit false value < 128 := by decide

theorem hex_quotable (text : Bytes) (hex : Numeral false text) : Quotable text := by
  constructor
  · intro member
    obtain ⟨value, same⟩ := hex 34 member
    exact (hex_digit_plain value).1 same.symm
  · intro last
    obtain ⟨value, same⟩ := hex 61 (List.mem_of_getLast? last)
    exact (hex_digit_plain value).2.1 same.symm

theorem md5_hex (md5 : Bytes → Fin 16 → UInt8) (data : Bytes) : Numeral false (md5Hex md5 data) ∧ (md5Hex md5 data).length = 32 := by
  constructor
  · intro byte member
    obtain ⟨octet, _, inside⟩ := List.mem_flatMap.mp member
    have small : octet.toNat < 256 := octet.toNat_lt
    rcases List.mem_cons.mp inside with high | rest
    · exact ⟨⟨octet.toNat / 16, by omega⟩, high⟩
    · exact ⟨⟨octet.toNat % 16, by omega⟩, List.mem_singleton.mp rest⟩
  · rw [md5Hex, List.length_flatMap]
    simp

theorem nonce_hex (rand : Nat → Nat) (call : Nat) : Numeral false (generateNonce rand call) := by
  intro byte member
  obtain ⟨index, _, same⟩ := List.mem_map.mp member
  exact ⟨⟨rand (call + index) % 16, Nat.mod_lt _ (by decide)⟩, same.symm⟩

theorem nonce_unbroken (rand : Nat → Nat) (call : Nat) : Unbroken (generateNonce rand call) :=
  numeral_unbroken false _ (nonce_hex rand call)

theorem nonce_length (rand : Nat → Nat) (call : Nat) : (generateNonce rand call).length = nonceLen := by
  rw [generateNonce, List.length_map, List.length_range]

theorem digest_response_whole (md5 : Bytes → Fin 16 → UInt8) (auth : Auth) (method uri nonce : Bytes) (user : auth.username.length ≤ 63)
    (pass : auth.password.length ≤ 63) (target : method.length + 1 + uri.length ≤ 255) (once : nonce.length ≤ 63) :
    digestResponse md5 auth method uri realm nonce =
      md5Hex md5 (md5Hex md5 (auth.username ++ ascii ":" ++ realm ++ ascii ":" ++ auth.password) ++ ascii ":" ++ nonce ++ ascii ":" ++
        md5Hex md5 (method ++ ascii ":" ++ uri)) := by
  have colon : (ascii ":").length = 1 := rfl
  have place : realm.length = 17 := by decide
  have first : snprintf 256 [auth.username, ascii ":", realm, ascii ":", auth.password] =
      auth.username ++ ascii ":" ++ realm ++ ascii ":" ++ auth.password := by
    rw [snprintf_whole]
    · simp
    · simp only [List.flatten_cons, List.flatten_nil, List.length_append, List.length_nil, colon, place]
      omega
  have second : snprintf 256 [method, ascii ":", uri] = method ++ ascii ":" ++ uri := by
    rw [snprintf_whole]
    · simp
    · simp only [List.flatten_cons, List.flatten_nil, List.length_append, List.length_nil, colon]
      omega
  rw [digestResponse, first, second]
  generalize outer : md5Hex md5 (auth.username ++ ascii ":" ++ realm ++ ascii ":" ++ auth.password) = ha1
  generalize inner : md5Hex md5 (method ++ ascii ":" ++ uri) = ha2
  have outerLength : ha1.length = 32 := outer ▸ (md5_hex md5 _).2
  have innerLength : ha2.length = 32 := inner ▸ (md5_hex md5 _).2
  rw [snprintf_whole]
  · simp
  · simp only [List.flatten_cons, List.flatten_nil, List.length_append, List.length_nil, colon]
    omega

theorem digest_accepted (md5 : Bytes → Fin 16 → UInt8) (auth : Auth) (method asked uri : Bytes) (user : Quotable auth.username)
    (userShort : auth.username.length < 64) (once : Quotable auth.nonce) (onceShort : auth.nonce.length < 64) (target : Quotable uri)
    (targetShort : uri.length < 256) :
    rtspAuthCheck md5 auth method asked (some (digestValue auth.username realm auth.nonce uri
      (digestResponse md5 auth method uri realm auth.nonce))) = true := by
  have place : Quotable realm := ⟨by decide, by decide⟩
  obtain ⟨hex, width⟩ : Numeral false (digestResponse md5 auth method uri realm auth.nonce) ∧
    (digestResponse md5 auth method uri realm auth.nonce).length = 32 := md5_hex md5 _
  have answer := hex_quotable _ hex
  generalize response : digestResponse md5 auth method uri realm auth.nonce = sent at hex width answer
  have digest : casePrefix (ascii "Digest ") (digestValue auth.username realm auth.nonce uri sent) = true := rfl
  unfold rtspAuthCheck
  by_cases enabled : auth.enabled = true
  · rw [if_pos enabled]
    dsimp only
    rw [if_pos digest, username_read _ _ _ _ _ user userShort, realm_read _ _ _ _ _ user place (by decide),
      nonce_read _ _ _ _ _ user place once onceShort, response_read _ _ _ _ _ user place once target answer (by omega),
      uri_read _ _ _ _ _ user place once target targetShort]
    dsimp only
    rw [response, List.take_of_length_le (by omega), decide_eq_true rfl, decide_eq_true rfl, decide_eq_true rfl]
    rfl
  · rw [if_neg enabled]

end Intercom
