import Intercom.Steps
import Intercom.Rtsp.Digest
import Intercom.Rtsp.Framing
import Intercom.Android.Connect

set_option autoImplicit false

/- Digest authentication between the app and the device: the header that buildAuthHeader prints is what the device
   reads, and a challenge is answered so that the device accepts. -/
namespace Intercom.Android

open ByteText

def Printable (chars : Text) : Prop := ∀ char ∈ chars, 32 ≤ char ∧ char ≤ 126

-- The same credentials on both sides, and a nonce the device made up.
structure Shared (cfg : Config) (auth : Auth) (user pass : Text) : Prop where
  userGiven : cfg.username = some user
  passGiven : cfg.password = some pass
  userPrintable : Printable user
  passPrintable : Printable pass
  userSize : 1 ≤ user.length ∧ user.length ≤ 63
  passSize : 1 ≤ pass.length ∧ pass.length ≤ 63
  quoteless : 34 ∉ user
  ends : user.getLast? ≠ some 61
  enabled : auth.enabled = true
  username : auth.username = toAscii user
  password : auth.password = toAscii pass
  nonce : ∃ rand call, auth.nonce = generateNonce rand call

def appMethods : List Text := [text "DESCRIBE", text "SETUP", text "PLAY", text "TEARDOWN"]

structure Target (method uri : Text) : Prop where
  named : method ∈ appMethods
  plain : ∀ char ∈ uri, char ≠ 32 ∧ char ≠ 13 ∧ char ≠ 10 ∧ char ≠ 34
  ascii : ∀ char ∈ uri, char ≠ 0 ∧ char < 128
  ends : uri.getLast? ≠ some 61
  short : method.length + 1 + uri.length ≤ 255

-- Text without a line break and without the NUL that ends a C string.
def Clean (text : Bytes) : Prop := Unbroken text ∧ 0 ∉ text

-- The further headers of a request: whole lines, none of them an Authorization header.
def Extras (extraHeaders : Text) (lines : List Bytes) : Prop :=
  toAscii extraHeaders = linesText lines ∧
    ∀ line ∈ lines, line ≠ [] ∧ Clean line ∧ casePrefix (ascii "Authorization:") line = false

def requestBytes (w : World) (cfg : Config) (client : Client) (method uri extraHeaders : Text) : Bytes :=
  toAscii (requestText w cfg client method uri extraHeaders)

-- The device finds one request in what the app sent, reads what the app meant and accepts it.
def ReadBack (w : World) (cfg : Config) (auth : Auth) (client : Client) (method uri extraHeaders : Text) : Prop :=
  ∃ req, nextRequest (requestBytes w cfg client method uri extraHeaders) = some req ∧
    ofChars req.method = method ∧ ofChars req.uri = fullUri cfg uri ∧
    (buildAuthHeader w cfg client method (fullUri cfg uri)).map toAscii = some (ascii "Authorization: " ++ req.authorization ++ crlf) ∧
    rtspAuthCheck w.md5 auth req.method req.uri (some req.authorization) = true

instance (text : Bytes) : Decidable (Clean text) := inferInstanceAs (Decidable (Unbroken text ∧ 0 ∉ text))

theorem clean_append (left right : Bytes) (first : Clean left) (second : Clean right) : Clean (left ++ right) := by
  refine ⟨unbroken_append left right first.1 second.1, ?_⟩
  intro member
  cases List.mem_append.mp member with
  | inl early => exact first.2 early
  | inr late => exact second.2 late

theorem clean_cons (byte : UInt8) (text : Bytes) (plain : byte ≠ 13 ∧ byte ≠ 10 ∧ byte ≠ 0) (rest : Clean text) : Clean (byte :: text) := by
  refine ⟨(unbroken_cons byte text).mpr ⟨⟨plain.1, plain.2.1⟩, rest.1⟩, ?_⟩
  intro member
  cases List.mem_cons.mp member with
  | inl first => exact plain.2.2 first.symm
  | inr later => exact rest.2 later

theorem hex_clean (text : Bytes) (hex : Numeral false text) : Clean text := by
  refine ⟨numeral_unbroken false text hex, ?_⟩
  intro member
  obtain ⟨value, same⟩ := hex 0 member
  exact (hex_digit_plain value).2.2.1 same.symm

theorem sent_char (chars : Text) (plain : ∀ char ∈ chars, char < 128) (byte : UInt8) (member : byte ∈ toAscii chars) :
    byte.toUInt16 ∈ chars := by
  have inside := List.mem_map_of_mem (f := UInt8.toUInt16) member
  rwa [show (toAscii chars).map UInt8.toUInt16 = chars from of_chars_ascii chars plain] at inside

theorem sent_clean (chars : Text) (plain : ∀ char ∈ chars, char < 128) (clean : ∀ char ∈ chars, char ≠ 13 ∧ char ≠ 10 ∧ char ≠ 0) :
    Clean (toAscii chars) := by
  have each : ∀ byte ∈ toAscii chars, byte ≠ 13 ∧ byte ≠ 10 ∧ byte ≠ 0 := by
    intro byte member
    obtain ⟨noReturn, noFeed, noZero⟩ := clean _ (sent_char chars plain byte member)
    refine ⟨?_, ?_, ?_⟩
    · rintro rfl
      exact noReturn rfl
    · rintro rfl
      exact noFeed rfl
    · rintro rfl
      exact noZero rfl
  exact ⟨fun byte member => ⟨(each byte member).1, (each byte member).2.1⟩, fun member => (each 0 member).2.2 rfl⟩

theorem sent_quotable (chars : Text) (plain : ∀ char ∈ chars, char < 128) (quoteless : 34 ∉ chars) (ends : chars.getLast? ≠ some 61) :
    Quotable (toAscii chars) := by
  constructor
  · exact fun member => quoteless (sent_char chars plain 34 member)
  · intro last
    apply ends
    rw [← of_chars_ascii chars plain, ofChars, List.getLast?_map, last]
    rfl

theorem printable_ascii (chars : Text) (printable : Printable chars) : ∀ char ∈ chars, char < 128 := by
  intro char member
  have bound : char.toNat ≤ 126 := (printable char member).2
  change char.toNat < 128
  omega

theorem printable_clean (chars : Text) (printable : Printable chars) : Clean (toAscii chars) := by
  apply sent_clean chars (printable_ascii chars printable)
  intro char member
  have bound := (printable char member).1
  refine ⟨?_, ?_, ?_⟩
  · rintro rfl
    exact absurd bound (by decide)
  · rintro rfl
    exact absurd bound (by decide)
  · rintro rfl
    exact absurd bound (by decide)

theorem md5_text_bytes (w : World) (chars : Text) : toAscii (md5Text w chars) = md5Hex w.md5 (toAscii chars) := by
  apply to_ascii_chars
  intro byte member
  obtain ⟨value, same⟩ := (md5_hex w.md5 (toAscii chars)).1 byte member
  rw [same]
  exact (hex_digit_plain value).2.2.2

def authResponse (w : World) (user pass sentRealm nonce method uri : Bytes) : Bytes :=
  md5Hex w.md5 (md5Hex w.md5 (user ++ ascii ":" ++ sentRealm ++ ascii ":" ++ pass) ++ ascii ":" ++ nonce ++ ascii ":" ++
    md5Hex w.md5 (method ++ ascii ":" ++ uri))

theorem auth_header_bytes (w : World) (cfg : Config) (client : Client) (user pass sentRealm nonce method uri : Text)
    (userGiven : cfg.username = some user) (passGiven : cfg.password = some pass) (realmKnown : client.authRealm = some sentRealm)
    (nonceKnown : client.authNonce = some nonce) :
    (buildAuthHeader w cfg client method uri).map toAscii = some (ascii "Authorization: " ++
      digestValue (toAscii user) (toAscii sentRealm) (toAscii nonce) (toAscii uri)
        (authResponse w (toAscii user) (toAscii pass) (toAscii sentRealm) (toAscii nonce) (toAscii method) (toAscii uri)) ++ crlf) := by
  have colon : toAscii (text ":") = ascii ":" := by decide
  have opening : toAscii (text "Authorization: Digest username=\"") = ascii "Authorization: " ++ ascii "Digest username=" ++ [34] := by decide
  have realmName : toAscii (text "\", realm=\"") = 34 :: ascii ", realm=" ++ [34] := by decide
  have nonceName : toAscii (text "\", nonce=\"") = 34 :: ascii ", nonce=" ++ [34] := by decide
  have uriName : toAscii (text "\", uri=\"") = 34 :: ascii ", uri=" ++ [34] := by decide
  have responseName : toAscii (text "\", response=\"") = 34 :: ascii ", response=" ++ [34] := by decide
  have ending : toAscii (text "\"\r\n") = 34 :: crlf := by decide
  rw [buildAuthHeader, userGiven, passGiven, realmKnown, nonceKnown]
  dsimp only
  rw [Option.map_some, digestValue, authResponse]
  simp only [to_ascii_append, md5_text_bytes, colon, opening, realmName, nonceName, uriName, responseName, ending, List.append_assoc,
    List.cons_append, List.nil_append]

-- The headers of every request, in front of the Authorization header.
def leadLines (client : Client) : List Bytes := [ascii "CSeq: " ++ decimal client.cseq, ascii "User-Agent: SmartLockIntercom/1.0"]

theorem request_bytes_lines (w : World) (cfg : Config) (client : Client) (method uri extraHeaders : Text) (given lines : List Bytes)
    (header : toAscii ((buildAuthHeader w cfg client method (fullUri cfg uri)).getD []) = linesText given)
    (extra : toAscii extraHeaders = linesText lines) :
    requestBytes w cfg client method uri extraHeaders =
      linesText (requestLine (toAscii method) (toAscii (fullUri cfg uri)) :: (leadLines client ++ given ++ lines)) ++ crlf := by
  have space : toAscii (text " ") = [32] := by decide
  have version : toAscii (text " RTSP/1.0\r\n") = ascii " RTSP/1.0" ++ crlf := by decide
  have cseq : toAscii (text "CSeq: ") = ascii "CSeq: " := by decide
  have agent : toAscii (text "\r\nUser-Agent: SmartLockIntercom/1.0\r\n") =
      crlf ++ (ascii "User-Agent: SmartLockIntercom/1.0" ++ crlf) := by decide
  have ending : toAscii (text "\r\n") = crlf := by decide
  have number : toAscii (ofChars (decimal client.cseq)) = decimal client.cseq := by
    apply to_ascii_chars
    intro byte member
    obtain ⟨value, same⟩ := decimal_digits client.cseq byte member
    rw [same]
    exact (hex_digit_plain value).2.2.2
  rw [requestBytes, requestText]
  simp only [to_ascii_append, space, version, cseq, agent, ending, number, header, extra]
  simp [linesText, requestLine, leadLines]

-- A request of whole lines is one message of the stream.
theorem lines_are_text (line : Bytes) (lines : List Bytes) (each : ∀ other ∈ line :: lines, other ≠ [] ∧ Clean other)
    (start : line.head? ≠ some 36) : IsText (linesText (line :: lines) ++ crlf) := by
  obtain ⟨front, ends⟩ := lines_text_ends line lines
  have found := find_blank_line line lines fun other member => ⟨(each other member).2.1, (each other member).1⟩
  have size : (linesText (line :: lines)).length - 2 = front.length := by
    rw [ends, List.length_append]
    exact Nat.add_sub_cancel _ _
  have noZero : 0 ∉ linesText (line :: lines) ++ crlf := by
    intro member
    cases List.mem_append.mp member with
    | inl inside =>
        obtain ⟨other, present, among⟩ := List.mem_flatMap.mp inside
        cases List.mem_append.mp among with
        | inl zero => exact (each other present).2.2 zero
        | inr zero => exact absurd zero (by decide)
    | inr zero => exact absurd zero (by decide)
  refine ⟨⟨noZero, front, by rw [ends], by rw [found, size]⟩, ?_⟩
  obtain ⟨head, tail, rfl⟩ := List.exists_cons_of_ne_nil (each line List.mem_cons_self).1
  exact start

theorem next_text (message : Bytes) (isText : IsText message) : nextRequest message = some (parseRtspRequest message message.length) := by
  obtain ⟨⟨noZero, front, split, found⟩, start⟩ := isText
  have whole := cstr_clean message noZero
  have size : front.length + 4 = message.length := by
    rw [split, List.length_append, List.length_append]
    rfl
  rw [nextRequest, if_neg start, strstr, whole, found, Option.map_some, size]

theorem header_lines (header : Option Text) (line : Bytes) (built : header.map toAscii = some (line ++ crlf)) :
    toAscii (header.getD []) = linesText [line] := by
  obtain ⟨chars, rfl, same⟩ := Option.map_eq_some_iff.mp built
  rw [Option.getD_some, same]
  simp [linesText]

structure MethodName (method : Text) : Prop where
  ascii : ∀ char ∈ method, char < 128
  clean : Clean (toAscii method)
  spaceless : 32 ∉ toAscii method
  size : 4 ≤ method.length ∧ (toAscii method).length ≤ 15
  start : (toAscii method).head? ≠ some 36
  filled : toAscii method ≠ []

theorem app_method (method : Text) (named : method ∈ appMethods) : MethodName method := by
  have facts : ∀ method ∈ appMethods, method.all (fun char => decide (char < 128)) = true ∧ Clean (toAscii method) ∧ 32 ∉ toAscii method ∧
      (4 ≤ method.length ∧ (toAscii method).length ≤ 15) ∧ (toAscii method).head? ≠ some 36 ∧ toAscii method ≠ [] := by decide
  obtain ⟨plain, clean, spaceless, size, start, filled⟩ := facts method named
  exact ⟨each_char _ method plain, clean, spaceless, size, start, filled⟩

section Requests

variable (w : World) (cfg : Config) (client : Client) (method uri extraHeaders : Text) (lines : List Bytes)
  (target : Target method (fullUri cfg uri)) (extras : Extras extraHeaders lines)

include target

theorem target_clean : Clean (toAscii (fullUri cfg uri)) := by
  apply sent_clean _ fun char member => (target.ascii char member).2
  intro char member
  obtain ⟨_, noReturn, noFeed, _⟩ := target.plain char member
  exact ⟨noReturn, noFeed, (target.ascii char member).1⟩

theorem target_spaceless : 32 ∉ toAscii (fullUri cfg uri) := by
  intro member
  have space := sent_char _ (fun char inside => (target.ascii char inside).2) 32 member
  exact (target.plain _ space).1 rfl

theorem target_quotable : Quotable (toAscii (fullUri cfg uri)) := by
  apply sent_quotable _ (fun char member => (target.ascii char member).2) _ target.ends
  exact fun quote => (target.plain 34 quote).2.2.2 rfl

theorem target_size : (toAscii (fullUri cfg uri)).length ≤ 250 := by
  have named := (app_method method target.named).size.1
  have short := target.short
  rw [toAscii, List.length_map]
  omega

include extras

theorem request_is_text (given : List Bytes)
    (header : toAscii ((buildAuthHeader w cfg client method (fullUri cfg uri)).getD []) = linesText given)
    (givenClean : ∀ line ∈ given, line ≠ [] ∧ Clean line) : IsText (requestBytes w cfg client method uri extraHeaders) := by
  have named := app_method method target.named
  have agent : ascii "User-Agent: SmartLockIntercom/1.0" ≠ [] ∧ Clean (ascii "User-Agent: SmartLockIntercom/1.0") := by decide
  have cseq : Clean (ascii "CSeq: " ++ decimal client.cseq) :=
    clean_append _ _ (by decide) (hex_clean _ (decimal_digits client.cseq))
  have version : Clean (ascii " RTSP/1.0") := by decide
  have first : Clean (requestLine (toAscii method) (toAscii (fullUri cfg uri))) := by
    apply clean_append _ _ named.clean
    apply clean_cons _ _ (by decide)
    exact clean_append _ _ (target_clean cfg method uri target) version
  rw [request_bytes_lines w cfg client method uri extraHeaders given lines header extras.1]
  apply lines_are_text
  · intro other member
    rcases List.mem_cons.mp member with rfl | later
    · exact ⟨List.append_ne_nil_of_left_ne_nil named.filled _, first⟩
    rcases List.mem_append.mp later with front | last
    · rcases List.mem_append.mp front with lead | among
      · rcases List.mem_cons.mp lead with rfl | second
        · exact ⟨List.append_ne_nil_of_left_ne_nil (by decide) _, cseq⟩
        · rw [List.mem_singleton.mp second]
          exact agent
      · exact givenClean other among
    · exact ⟨(extras.2 other last).1, (extras.2 other last).2.1⟩
  · obtain ⟨head, tail, shape⟩ := List.exists_cons_of_ne_nil named.filled
    have start := named.start
    rw [requestLine, shape]
    rw [shape] at start
    exact start

end Requests

theorem realm_sent : toAscii (ofChars realm) = realm := by decide

theorem nonce_sent (rand : Nat → Nat) (call : Nat) : toAscii (ofChars (generateNonce rand call)) = generateNonce rand call := by
  apply to_ascii_chars
  intro byte member
  obtain ⟨value, same⟩ := nonce_hex rand call byte member
  rw [same]
  exact (hex_digit_plain value).2.2.2

theorem digest_value_clean (username sentRealm nonce uri response : Bytes) (user : Clean username) (place : Clean sentRealm)
    (once : Clean nonce) (target : Clean uri) (answer : Clean response) : Clean (digestValue username sentRealm nonce uri response) := by
  have quote : (34 : UInt8) ≠ 13 ∧ (34 : UInt8) ≠ 10 ∧ (34 : UInt8) ≠ 0 := by decide
  have ending : Clean [34] := by decide
  apply clean_append _ _ (by decide)
  apply clean_cons _ _ quote
  apply clean_append _ _ user
  apply clean_cons _ _ quote
  apply clean_append _ _ (by decide)
  apply clean_cons _ _ quote
  apply clean_append _ _ place
  apply clean_cons _ _ quote
  apply clean_append _ _ (by decide)
  apply clean_cons _ _ quote
  apply clean_append _ _ once
  apply clean_cons _ _ quote
  apply clean_append _ _ (by decide)
  apply clean_cons _ _ quote
  apply clean_append _ _ target
  apply clean_cons _ _ quote
  apply clean_append _ _ (by decide)
  apply clean_cons _ _ quote
  exact clean_append _ _ answer ending

theorem digest_value_length (username sentRealm nonce uri response : Bytes) :
    (digestValue username sentRealm nonce uri response).length =
      59 + username.length + sentRealm.length + nonce.length + uri.length + response.length := by
  have names : (ascii "Digest username=").length = 16 ∧ (ascii ", realm=").length = 8 ∧ (ascii ", nonce=").length = 8 ∧
      (ascii ", uri=").length = 6 ∧ (ascii ", response=").length = 11 := by decide
  simp only [digestValue, List.length_append, List.length_cons, List.length_nil]
  omega

section Agreement

variable (w : World) (cfg : Config) (auth : Auth) (user pass : Text) (client : Client) (method uri extraHeaders : Text)
  (lines : List Bytes) (shared : Shared cfg auth user pass) (target : Target method (fullUri cfg uri))
  (extras : Extras extraHeaders lines)

-- The value that the app prints for a challenge of the device.
def appValue (nonce : Bytes) : Bytes :=
  digestValue (toAscii user) realm nonce (toAscii (fullUri cfg uri))
    (authResponse w (toAscii user) (toAscii pass) realm nonce (toAscii method) (toAscii (fullUri cfg uri)))

include shared

theorem shared_nonce : Numeral false auth.nonce ∧ auth.nonce.length ≤ 32 := by
  obtain ⟨rand, call, fresh⟩ := shared.nonce
  rw [fresh]
  exact ⟨nonce_hex rand call, Nat.le_of_eq (nonce_length rand call)⟩

theorem app_header (rand : Nat → Nat) (call : Nat) (realmKnown : client.authRealm = some (ofChars realm))
    (nonceKnown : client.authNonce = some (ofChars (generateNonce rand call))) :
    (buildAuthHeader w cfg client method (fullUri cfg uri)).map toAscii =
      some (ascii "Authorization: " ++ appValue w cfg user pass method uri (generateNonce rand call) ++ crlf) := by
  have header := auth_header_bytes w cfg client user pass _ _ method (fullUri cfg uri) shared.userGiven shared.passGiven realmKnown nonceKnown
  rw [realm_sent, nonce_sent] at header
  exact header

include target

theorem app_value_clean (rand : Nat → Nat) (call : Nat) : Clean (appValue w cfg user pass method uri (generateNonce rand call)) := by
  apply digest_value_clean
  · exact printable_clean user shared.userPrintable
  · decide
  · exact hex_clean _ (nonce_hex rand call)
  · exact target_clean cfg method uri target
  · exact hex_clean _ (md5_hex w.md5 _).1

theorem app_value_accepted (asked : Bytes) :
    rtspAuthCheck w.md5 auth (toAscii method) asked (some (appValue w cfg user pass method uri auth.nonce)) = true := by
  obtain ⟨hex, once⟩ := shared_nonce cfg auth user pass shared
  have userLength : auth.username.length ≤ 63 := by
    rw [shared.username, toAscii, List.length_map]
    exact shared.userSize.2
  have passLength : auth.password.length ≤ 63 := by
    rw [shared.password, toAscii, List.length_map]
    exact shared.passSize.2
  have uriLength := target_size cfg method uri target
  have both : (toAscii method).length + 1 + (toAscii (fullUri cfg uri)).length ≤ 255 := by
    rw [toAscii, toAscii, List.length_map, List.length_map]
    exact target.short
  have response := digest_response_whole w.md5 auth (toAscii method) (toAscii (fullUri cfg uri)) auth.nonce userLength passLength both
    (by omega)
  have quotable : Quotable auth.username := by
    rw [shared.username]
    exact sent_quotable user (printable_ascii user shared.userPrintable) shared.quoteless shared.ends
  have accepted := digest_accepted w.md5 auth (toAscii method) asked (toAscii (fullUri cfg uri)) quotable (by omega)
    (hex_quotable _ hex) (by omega) (target_quotable cfg method uri target) (by omega)
  rw [response, shared.username, shared.password] at accepted
  exact accepted

include extras

theorem read_back (realmKnown : client.authRealm = some (ofChars realm)) (nonceKnown : client.authNonce = some (ofChars auth.nonce)) :
    ReadBack w cfg auth client method uri extraHeaders := by
  obtain ⟨rand, call, fresh⟩ := shared.nonce
  rw [fresh] at nonceKnown
  have named := app_method method target.named
  have header := app_header w cfg auth user pass client method uri shared rand call realmKnown nonceKnown
  have clean := app_value_clean w cfg auth user pass method uri shared target rand call
  have short : (appValue w cfg user pass method uri (generateNonce rand call)).length ≤ 511 := by
    have uriLength := target_size cfg method uri target
    have userLength : (toAscii user).length ≤ 63 := by
      rw [toAscii, List.length_map]
      exact shared.userSize.2
    rw [appValue, digest_value_length, nonce_length, authResponse, (md5_hex w.md5 _).2, show realm.length = 17 by decide, nonceLen]
    omega
  have lead : ∀ line ∈ leadLines client ++ lines, Unbroken line ∧ casePrefix (ascii "Authorization:") line = false := by
    intro line member
    rcases List.mem_append.mp member with first | later
    · rcases List.mem_cons.mp first with rfl | second
      · exact ⟨unbroken_append _ _ (by decide) (decimal_unbroken _), rfl⟩
      · rw [List.mem_singleton.mp second]
        decide
    · exact ⟨(extras.2 line later).2.1.1, (extras.2 line later).2.2⟩
  have given := header_lines _ _ header
  have shape := request_bytes_lines w cfg client method uri extraHeaders _ lines given extras.1
  rw [List.append_assoc, List.singleton_append] at shape
  have isText := request_is_text w cfg client method uri extraHeaders lines target extras _ given (by
    intro line member
    rw [List.mem_singleton.mp member]
    exact ⟨List.append_ne_nil_of_left_ne_nil (by decide) _, clean_append _ _ (by decide) clean⟩)
  obtain ⟨methodRead, uriRead, valueRead⟩ := parsed_request (toAscii method) (toAscii (fullUri cfg uri)) _ (leadLines client) lines
    named.spaceless named.size.2 named.clean.1 (target_spaceless cfg method uri target)
    (Nat.le_trans (target_size cfg method uri target) (by decide)) (target_clean cfg method uri target).1 clean.1
    (by intro starts; cases starts) short lead _ shape
  refine ⟨_, next_text _ isText, ?_, ?_, ?_, ?_⟩
  · rw [methodRead]
    exact of_chars_ascii method named.ascii
  · rw [uriRead]
    exact of_chars_ascii _ fun char member => (target.ascii char member).2
  · rw [valueRead]
    exact header
  · rw [methodRead, valueRead, ← fresh]
    exact app_value_accepted w cfg auth user pass method uri shared target _

end Agreement

end Intercom.Android
