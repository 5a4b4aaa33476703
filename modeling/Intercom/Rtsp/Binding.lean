import Intercom.Rtsp.Digest

set_option autoImplicit false

/- What a header that rtsp_auth_check accepts proves about the request it came with. -/
namespace Intercom

open ByteText

-- A field of the header before it is cut to the size of the buffer it is copied to.
def wholeField (hdr field : Bytes) : Option Bytes := parseDigestField hdr field (hdr.length + 1)

theorem parsed_field (hdr field : Bytes) (size : Nat) :
    parseDigestField hdr field size = (wholeField hdr field).map fun value => value.take (size - 1) := by
  rw [wholeField, parseDigestField, parseDigestField]
  cases findSub (field ++ ascii "=\"") hdr with
  | some found =>
      dsimp only
      cases memchr 34 (hdr.drop (found + field.length + 2)) with
      | none => rfl
      | some stop =>
          have fits : ((hdr.drop (found + field.length + 2)).take stop).length ≤ hdr.length := by
            rw [List.length_take, List.length_drop]
            omega
          simp only [Option.map_some]
          rw [Nat.add_sub_cancel, List.take_of_length_le fits]
  | none =>
      dsimp only
      cases findSub (field ++ ascii "=") hdr with
      | none => rfl
      | some found =>
          have fits : ((hdr.drop (found + field.length + 1)).takeWhile fun byte => byte != 44 && byte != 32 && byte != 13).length ≤
              hdr.length := by
            have shorter := (List.takeWhile_sublist (fun byte : UInt8 => byte != 44 && byte != 32 && byte != 13)
              (l := hdr.drop (found + field.length + 1))).length_le
            rw [List.length_drop] at shorter
            omega
          simp only [Option.map_some]
          rw [Nat.add_sub_cancel, List.take_of_length_le fits]

theorem uncut (text value : Bytes) (size : Nat) (same : text.take size = value) (short : value.length < size) : text = value := by
  have fits : text.length ≤ size := by
    have count := congrArg List.length same
    rw [List.length_take] at count
    omega
  rw [← same, List.take_of_length_le fits]

-- The response of RFC 2617, over the texts as they are.
def rfcResponse (md5 : Bytes → Fin 16 → UInt8) (auth : Auth) (method uri sentRealm nonce : Bytes) : Bytes :=
  md5Hex md5 (md5Hex md5 (auth.username ++ ascii ":" ++ sentRealm ++ ascii ":" ++ auth.password) ++ ascii ":" ++ nonce ++ ascii ":" ++
    md5Hex md5 (method ++ ascii ":" ++ uri))

structure BoundTo (md5 : Bytes → Fin 16 → UInt8) (auth : Auth) (method uri hdr : Bytes) : Prop where
  place : wholeField hdr (ascii "realm") = some realm
  once : wholeField hdr (ascii "nonce") = some auth.nonce
  target : wholeField hdr (ascii "uri") = some uri
  answer : ∃ response, wholeField hdr (ascii "response") = some response ∧
    response.take 32 = rfcResponse md5 auth method uri realm auth.nonce

-- The header was made by somebody who knows the password and the nonce, for the realm and the uri that it names itself.
structure Proves (md5 : Bytes → Fin 16 → UInt8) (auth : Auth) (method hdr sentRealm reqUri response : Bytes) : Prop where
  digest : casePrefix (ascii "Digest ") hdr = true
  user : parseDigestField hdr (ascii "username") 64 = some auth.username
  place : parseDigestField hdr (ascii "realm") 64 = some sentRealm
  once : parseDigestField hdr (ascii "nonce") 64 = some auth.nonce
  answer : parseDigestField hdr (ascii "response") 64 = some response
  target : parseDigestField hdr (ascii "uri") 256 = some reqUri
  correct : response.take 32 = digestResponse md5 auth method reqUri sentRealm auth.nonce

theorem check_accepts_iff (md5 : Bytes → Fin 16 → UInt8) (auth : Auth) (method uri hdr : Bytes) (enabled : auth.enabled = true) :
    rtspAuthCheck md5 auth method uri (some hdr) = true ↔
      ∃ sentRealm reqUri response, Proves md5 auth method hdr sentRealm reqUri response := by
  rw [rtspAuthCheck, if_pos enabled]
  constructor
  · intro accepted
    by_cases digest : casePrefix (ascii "Digest ") hdr = true
    · rw [if_pos digest] at accepted
      split at accepted
      · rename_i username sentRealm nonce response reqUri hasUser hasRealm hasNonce hasResponse hasUri
        simp only [Bool.and_eq_true, decide_eq_true_eq] at accepted
        obtain ⟨⟨rfl, rfl⟩, same⟩ := accepted
        exact ⟨sentRealm, reqUri, response, digest, hasUser, hasRealm, hasNonce, hasResponse, hasUri, same⟩
      · cases accepted
    · rw [if_neg digest] at accepted
      cases accepted
  · rintro ⟨sentRealm, reqUri, response, proves⟩
    rw [if_pos proves.digest, proves.user, proves.place, proves.once, proves.answer, proves.target]
    dsimp only
    rw [proves.correct]
    simp

-- g_auth at any time after rtsp_auth_init; the nonce is the one generated last.
def liveAuth (rand : Nat → Nat) (first last : Nat) (username password : Bytes) : Auth :=
  rotateNonce rand last (rtspAuthInit rand first username password)

theorem live_auth_sizes (rand : Nat → Nat) (first last : Nat) (username password : Bytes) :
    (liveAuth rand first last username password).username.length ≤ 63 ∧
      (liveAuth rand first last username password).password.length ≤ 63 ∧
      (liveAuth rand first last username password).nonce.length = 32 := by
  refine ⟨?_, ?_, nonce_length rand last⟩
  · simp only [liveAuth, rotateNonce, rtspAuthInit]
    split
    · exact Nat.zero_le _
    · exact List.length_take_le _ _
  · simp only [liveAuth, rotateNonce, rtspAuthInit]
    split
    · exact Nat.zero_le _
    · exact List.length_take_le _ _

-- What rtsp_auth_check leaves unchecked: the realm, the URI, and the part of the hashed text that snprintf cuts off.
def MadeFor (md5 : Bytes → Fin 16 → UInt8) (auth : Auth) (method uri hdr : Bytes) : Prop :=
  wholeField hdr (ascii "realm") = some realm ∧ wholeField hdr (ascii "uri") = some uri ∧
    (method.length + 1 + uri.length ≤ 255 ∨
      digestResponse md5 auth method (uri.take 255) realm auth.nonce = rfcResponse md5 auth method uri realm auth.nonce)

theorem field_cut (hdr field value whole : Bytes) (size : Nat) (parsed : parseDigestField hdr field size = some value)
    (full : wholeField hdr field = some whole) : value = whole.take (size - 1) := by
  rw [parsed_field, full] at parsed
  exact (Option.some.inj parsed).symm

theorem field_whole (hdr field value : Bytes) (size : Nat) (parsed : parseDigestField hdr field size = some value)
    (short : value.length < size - 1) : wholeField hdr field = some value := by
  rw [parsed_field] at parsed
  obtain ⟨whole, full, same⟩ := Option.map_eq_some_iff.mp parsed
  rw [full, uncut whole value (size - 1) same short]

theorem realm_uncut : realm.take 63 = realm := by decide

theorem bound_made_for (md5 : Bytes → Fin 16 → UInt8) (auth : Auth) (method uri hdr sentRealm reqUri response : Bytes)
    (proves : Proves md5 auth method hdr sentRealm reqUri response) (bound : BoundTo md5 auth method uri hdr) :
    MadeFor md5 auth method uri hdr := by
  obtain ⟨whole, full, correct⟩ := bound.answer
  have place := field_cut _ _ _ _ _ proves.place bound.place
  have target := field_cut _ _ _ _ _ proves.target bound.target
  have answer := field_cut _ _ _ _ _ proves.answer full
  have computed := proves.correct
  rw [answer, List.take_take, place, target] at computed
  refine ⟨bound.place, bound.target, Or.inr ?_⟩
  rw [← correct]
  rw [realm_uncut] at computed
  exact computed.symm

theorem made_for_bound (md5 : Bytes → Fin 16 → UInt8) (auth : Auth) (method uri hdr sentRealm reqUri response : Bytes)
    (user : auth.username.length ≤ 63) (pass : auth.password.length ≤ 63) (nonce : auth.nonce.length = 32)
    (proves : Proves md5 auth method hdr sentRealm reqUri response) (made : MadeFor md5 auth method uri hdr) :
    BoundTo md5 auth method uri hdr := by
  obtain ⟨place, target, covered⟩ := made
  have same : digestResponse md5 auth method (uri.take 255) realm auth.nonce = rfcResponse md5 auth method uri realm auth.nonce := by
    cases covered with
    | inl fits =>
        rw [List.take_of_length_le (by omega)]
        exact digest_response_whole md5 auth method uri auth.nonce user pass fits (by omega)
    | inr equal => exact equal
  have cutRealm := field_cut _ _ _ _ _ proves.place place
  have cutUri := field_cut _ _ _ _ _ proves.target target
  have correct := proves.correct
  rw [cutRealm, cutUri, realm_uncut] at correct
  obtain ⟨whole, full, cut⟩ := Option.map_eq_some_iff.mp ((parsed_field hdr (ascii "response") 64).symm.trans proves.answer)
  refine ⟨place, field_whole _ _ _ _ proves.once (by omega), target, whole, full, ?_⟩
  rw [← cut, List.take_take] at correct
  exact correct.trans same

theorem accepted_is_bound_iff (md5 : Bytes → Fin 16 → UInt8) (rand : Nat → Nat) (first last : Nat) (username password method uri : Bytes)
    (hdr : Option Bytes) :
    ((liveAuth rand first last username password).enabled = true →
      rtspAuthCheck md5 (liveAuth rand first last username password) method uri hdr = true →
      ∃ text, hdr = some text ∧ BoundTo md5 (liveAuth rand first last username password) method uri text) ↔
    ((liveAuth rand first last username password).enabled = true →
      ∀ text sentRealm reqUri response, hdr = some text →
        Proves md5 (liveAuth rand first last username password) method text sentRealm reqUri response →
        MadeFor md5 (liveAuth rand first last username password) method uri text) := by
  obtain ⟨user, pass, nonce⟩ := live_auth_sizes rand first last username password
  generalize liveAuth rand first last username password = auth at user pass nonce
  refine forall_congr' fun enabled => ⟨?_, ?_⟩
  · rintro sound text sentRealm reqUri response rfl proves
    have accepted := (check_accepts_iff md5 auth method uri text enabled).mpr ⟨sentRealm, reqUri, response, proves⟩
    obtain ⟨other, same, bound⟩ := sound accepted
    cases same
    exact bound_made_for md5 auth method uri text sentRealm reqUri response proves bound
  · intro made accepted
    cases hdr with
    | none =>
        rw [rtspAuthCheck, if_pos enabled] at accepted
        cases accepted
    | some text =>
        obtain ⟨sentRealm, reqUri, response, proves⟩ := (check_accepts_iff md5 auth method uri text enabled).mp accepted
        refine ⟨text, rfl, ?_⟩
        exact made_for_bound md5 auth method uri text sentRealm reqUri response user pass nonce proves
          (made text sentRealm reqUri response rfl proves)

-- MD5 of the three texts that are hashed for the header of test_auth.ps1, with a nonce of zeros.
def sampleMd5 (data : Bytes) (index : Fin 16) : UInt8 :=
  if data = ascii "admin:SmartLockIntercom:test123" then
    [0x88, 0x41, 0x10, 0x84, 0x75, 0x6e, 0xeb, 0x25, 0x49, 0xcf, 0x14, 0x58, 0xeb, 0x73, 0x1c, 0xf1].getD index 0
  else if data = ascii "DESCRIBE:rtsp://127.0.0.1:8555/live" then
    [0xb4, 0xd9, 0x6d, 0x86, 0xef, 0xd8, 0xea, 0x05, 0xad, 0xb7, 0xd1, 0xcf, 0x1a, 0x33, 0xd9, 0x70].getD index 0
  else if data = ascii "88411084756eeb2549cf1458eb731cf1:00000000000000000000000000000000:b4d96d86efd8ea05adb7d1cf1a33d970" then
    [0x46, 0x26, 0xfb, 0xb6, 0xfd, 0x8d, 0x2e, 0x23, 0x31, 0xe3, 0x28, 0x84, 0xb4, 0x1a, 0xf9, 0x15].getD index 0
  else 0

def sampleHeader : Bytes :=
  digestValue (ascii "admin") realm (ascii "00000000000000000000000000000000") (ascii "rtsp://127.0.0.1:8555/live")
    (ascii "4626fbb6fd8d2e2331e32884b41af915")

theorem header_for_live_opens_admin :
    ¬ ((liveAuth (fun _ => 0) 0 0 (ascii "admin") (ascii "test123")).enabled = true →
      rtspAuthCheck sampleMd5 (liveAuth (fun _ => 0) 0 0 (ascii "admin") (ascii "test123")) (ascii "DESCRIBE")
        (ascii "rtsp://127.0.0.1:8555/admin") (some sampleHeader) = true →
      ∃ text, some sampleHeader = some text ∧
        BoundTo sampleMd5 (liveAuth (fun _ => 0) 0 0 (ascii "admin") (ascii "test123")) (ascii "DESCRIBE")
          (ascii "rtsp://127.0.0.1:8555/admin") text) := by
  intro sound
  obtain ⟨text, same, bound⟩ := sound (by decide) (by decide +kernel)
  cases same
  have named : wholeField sampleHeader (ascii "uri") = some (ascii "rtsp://127.0.0.1:8555/live") := by decide +kernel
  have target := bound.target
  rw [named] at target
  exact absurd target (by decide)

end Intercom
