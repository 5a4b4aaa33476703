import Intercom.Android.Digest

set_option autoImplicit false

/- A 401 of the device as the app reads it, and sendAuthRequest against a device that nobody else talks to. -/
namespace Intercom.Android

open ByteText

def challengeParams (nonce : Text) : Text := text "realm=\"SmartLockIntercom\", nonce=\"" ++ nonce ++ text "\""

def statusAndCseq (cseq : Int) : Bytes := ascii "RTSP/1.0 401 Unauthorized\r\nCSeq: " ++ signed cseq ++ crlf

def challengeHeader (nonce : Bytes) : Bytes := ascii "WWW-Authenticate: Digest realm=\"SmartLockIntercom\", nonce=\"" ++ (nonce ++ [34])

theorem challenge_text (cseq : Int) (nonce : Bytes) (short : nonce.length ≤ 32) :
    (challengeReply cseq nonce).text = statusAndCseq cseq ++ (challengeHeader nonce ++ crlf ++ crlf) := by
  have opening : ascii "WWW-Authenticate: Digest realm=\"SmartLockIntercom\", nonce=\"" =
      ascii "WWW-Authenticate: Digest realm=\"" ++ (realm ++ ascii "\", nonce=\"") := by decide
  have status : ascii "RTSP/1.0 401 Unauthorized\r\nCSeq: " =
      ascii "RTSP/1.0 " ++ (decimal 401 ++ (ascii " " ++ (ascii "Unauthorized" ++ (crlf ++ ascii "CSeq: ")))) := by decide
  have ending : ascii "\"\r\n" = 34 :: crlf := by decide
  have widths : (ascii "WWW-Authenticate: Digest realm=\"").length = 32 ∧ realm.length = 17 ∧ (ascii "\", nonce=\"").length = 10 ∧
      (ascii "\"\r\n").length = 3 := by decide
  have printed : (Extra.challenge nonce).text = challengeHeader nonce ++ crlf := by
    rw [Extra.text, snprintf_whole, challengeHeader, opening, ending]
    · simp
    · simp only [List.flatten_cons, List.flatten_nil, List.length_append, List.length_nil]
      omega
  rw [Reply.text, statusAndCseq, status]
  simp only [challengeReply, printed, if_true]
  simp

theorem auth_fields_skip (skip : Nat) (chars : Text) (enough : chars.length ≤ skip) : authFieldsLoop skip chars = [] := by
  induction chars generalizing skip with
  | nil => cases skip <;> rfl
  | cons char rest ih =>
      cases skip with
      | zero => cases enough
      | succ skip =>
          rw [authFieldsLoop]
          exact ih skip (Nat.le_of_succ_le_succ enough)

theorem auth_field_nonce (nonce : Text) (quoteless : 34 ∉ nonce) :
    authField (text "nonce=\"" ++ nonce ++ text "\"") = some (text "nonce", nonce, 5 + nonce.length + 3) := by
  have value : (nonce ++ text "\"").takeWhile (· != 34) = nonce := by
    have all : ∀ char ∈ nonce, (char != 34) = true := by
      intro char member
      have other : char ≠ 34 := by
        rintro rfl
        exact quoteless member
      simpa using other
    rw [List.takeWhile_append_of_pos all]
    exact List.append_nil nonce
  have shape : text "nonce=\"" ++ nonce ++ text "\"" = text "nonce=\"" ++ (nonce ++ text "\"") := List.append_assoc _ _ _
  have longer : ¬ (nonce ++ text "\"").length ≤ nonce.length := by
    rw [List.length_append]
    exact Nat.not_succ_le_self _
  rw [shape]
  change (if (nonce ++ text "\"").length ≤ ((nonce ++ text "\"").takeWhile (· != 34)).length then none
    else some (text "nonce", (nonce ++ text "\"").takeWhile (· != 34), 5 + ((nonce ++ text "\"").takeWhile (· != 34)).length + 3)) = _
  rw [value, if_neg longer]

theorem challenge_fields (nonce : Text) (quoteless : 34 ∉ nonce) :
    authFields (challengeParams nonce) = [(text "realm", ofChars realm), (text "nonce", nonce)] := by
  have second := auth_field_nonce nonce quoteless
  have rest : authFieldsLoop 0 (text "nonce=\"" ++ nonce ++ text "\"") = [(text "nonce", nonce)] := by
    change authFieldsLoop 0 (110 :: (text "once=\"" ++ nonce ++ text "\"")) = _
    change authField (110 :: (text "once=\"" ++ nonce ++ text "\"")) = _ at second
    rw [authFieldsLoop, second]
    dsimp only
    rw [auth_fields_skip]
    have widths : (text "once=\"").length = 6 ∧ (text "\"").length = 1 := by decide
    rw [List.length_append, List.length_append]
    omega
  have first : authFields (challengeParams nonce) =
      (text "realm", ofChars realm) :: authFieldsLoop 0 (text "nonce=\"" ++ nonce ++ text "\"") := by
    rfl
  rw [first, rest]

-- Characters of a number, a sign before it included.
def NumberChar (char : UInt16) : Prop := char = 45 ∨ ∃ value : Fin 16, char = (digit false value).toUInt16

theorem signed_chars (value : Int) : ∀ char ∈ ofChars (signed value), NumberChar char := by
  have digits : ∀ number char, char ∈ ofChars (decimal number) → NumberChar char := by
    intro number char member
    obtain ⟨byte, inside, rfl⟩ := List.mem_map.mp member
    obtain ⟨digit, same⟩ := decimal_digits number byte inside
    rw [same]
    exact Or.inr ⟨digit, rfl⟩
  intro char member
  rw [signed] at member
  split at member
  · cases List.mem_cons.mp member with
    | inl sign => exact Or.inl sign
    | inr later => exact digits _ char later
  · exact digits _ char member

theorem number_char (char : UInt16) (number : NumberChar char) : lowercase char ≠ 110 ∧ lowercase char ≠ 119 ∧ char ≠ 34 ∧
    isTerminator char = false := by
  have digits : ∀ value : Fin 16, lowercase (digit false value).toUInt16 ≠ 110 ∧ lowercase (digit false value).toUInt16 ≠ 119 ∧
      (digit false value).toUInt16 ≠ 34 ∧ isTerminator (digit false value).toUInt16 = false := by decide
  cases number with
  | inl sign =>
      rw [sign]
      decide
  | inr hex =>
      obtain ⟨value, rfl⟩ := hex
      exact digits value

-- The only expression that could disturb a challenge asks for a word with this pair in it.
def Apart (chars : Text) : Prop := ¬ [110, 103] <:+: chars.map lowercase

theorem apart_append (left right : Text) (first : Apart left) (ends : (left.map lowercase).getLast? ≠ some 110) (second : Apart right) :
    Apart (left ++ right) := by
  intro pair
  rw [List.map_append, List.infix_append_iff_ne_nil] at pair
  rcases pair with inLeft | inRight | ⟨front, back, filled, more, split, suffix, _⟩
  · exact first inLeft
  · exact second inRight
  · obtain ⟨head, rest, rfl⟩ := List.exists_cons_of_ne_nil filled
    have parts : head = 110 ∧ rest = [] := by
      cases rest with
      | nil => exact ⟨(List.cons.inj split).1.symm, rfl⟩
      | cons next tail =>
          have length := congrArg List.length split
          have positive := List.length_pos_iff.mpr more
          simp only [List.length_append, List.length_cons, List.length_nil] at length
          omega
    obtain ⟨before, whole⟩ := suffix
    apply ends
    rw [← whole, parts.1, parts.2, List.getLast?_append, List.getLast?_singleton]
    rfl

theorem numbers_apart (chars right : Text) (numbers : ∀ char ∈ chars, NumberChar char) (second : Apart right) : Apart (chars ++ right) := by
  have absent : 110 ∉ chars.map lowercase := by
    intro member
    obtain ⟨char, inside, same⟩ := List.mem_map.mp member
    exact (number_char char (numbers char inside)).1 same
  apply apart_append chars right _ _ second
  · intro pair
    exact absent (pair.subset List.mem_cons_self)
  · intro last
    exact absent (List.mem_of_getLast? last)

section Challenge

variable (cseq : Int) (nonce : Bytes) (hex : Numeral false nonce)

def challengeChars : Text :=
  text "RTSP/1.0 401 Unauthorized\r\nCSeq: " ++ (ofChars (signed cseq) ++ (text "\r\n" ++
    (text "WWW-Authenticate: Digest realm=\"SmartLockIntercom\", nonce=\"" ++ (ofChars nonce ++ text "\"\r\n\r\n"))))

theorem challenge_chars (short : nonce.length ≤ 32) : ofChars (challengeReply cseq nonce).text = challengeChars cseq nonce := by
  have ending : text "\"\r\n\r\n" = ofChars ([34] ++ crlf ++ crlf) := by decide
  rw [challenge_text cseq nonce short, statusAndCseq, challengeHeader, challengeChars, ending]
  simp only [of_chars_append, List.append_assoc]
  rfl

include hex

theorem nonce_chars : ∀ char ∈ ofChars nonce, NumberChar char := by
  intro char member
  obtain ⟨byte, inside, rfl⟩ := List.mem_map.mp member
  obtain ⟨value, same⟩ := hex byte inside
  rw [same]
  exact Or.inr ⟨value, rfl⟩

theorem challenge_without_body : contentLengthRe (challengeChars cseq nonce) = none := by
  apply find_without (text "Content-Length:") [110, 103]
  · decide
  · have last : Apart (text "\"\r\n\r\n") := by unfold Apart; decide
    have header : Apart (text "WWW-Authenticate: Digest realm=\"SmartLockIntercom\", nonce=\"") := by unfold Apart; decide
    have lineEnd : Apart (text "\r\n") := by unfold Apart; decide
    have status : Apart (text "RTSP/1.0 401 Unauthorized\r\nCSeq: ") := by unfold Apart; decide
    apply apart_append _ _ status (by decide)
    apply numbers_apart _ _ (signed_chars cseq)
    apply apart_append _ _ lineEnd (by decide)
    apply apart_append _ _ header (by decide)
    exact numbers_apart _ _ (nonce_chars nonce hex) last

theorem challenge_params : wwwAuthRe (challengeChars cseq nonce) = some (challengeParams (ofChars nonce)) := by
  have front : ∀ char ∈ text "RTSP/1.0 401 Unauthorized\r\nCSeq: " ++ (ofChars (signed cseq) ++ text "\r\n"),
      lowercase char ≠ lowercase 87 := by
    have status : ∀ char ∈ text "RTSP/1.0 401 Unauthorized\r\nCSeq: ", lowercase char ≠ lowercase 87 := each_char _ _ (by decide)
    have ending : ∀ char ∈ text "\r\n", lowercase char ≠ lowercase 87 := each_char _ _ (by decide)
    intro char member
    rcases List.mem_append.mp member with early | late
    · exact status char early
    · rcases List.mem_append.mp late with number | last
      · exact (number_char char (signed_chars cseq char number)).2.1
      · exact ending char last
  have shape : challengeChars cseq nonce = (text "RTSP/1.0 401 Unauthorized\r\nCSeq: " ++ (ofChars (signed cseq) ++ text "\r\n")) ++
      (text "WWW-Authenticate: Digest realm=\"SmartLockIntercom\", nonce=\"" ++ (ofChars nonce ++ text "\"\r\n\r\n")) := by
    rw [challengeChars]
    simp only [List.append_assoc]
  have ahead := find_ahead 87 (text "WW-Authenticate:") (star isSpace (literalIgnoreCase (text "Digest")
    (plus isSpace fun chars => some (chars.takeWhile fun char => !isTerminator char)))) _
    (text "WWW-Authenticate: Digest realm=\"SmartLockIntercom\", nonce=\"" ++ (ofChars nonce ++ text "\"\r\n\r\n")) front
  have here : wwwAuthRe (text "WWW-Authenticate: Digest realm=\"SmartLockIntercom\", nonce=\"" ++ (ofChars nonce ++ text "\"\r\n\r\n")) =
      some ((text "realm=\"SmartLockIntercom\", nonce=\"" ++ (ofChars nonce ++ text "\"\r\n\r\n")).takeWhile
        fun char => !isTerminator char) := rfl
  have taken : (text "realm=\"SmartLockIntercom\", nonce=\"" ++ (ofChars nonce ++ text "\"\r\n\r\n")).takeWhile
      (fun char => !isTerminator char) = challengeParams (ofChars nonce) := by
    have opening : ∀ char ∈ text "realm=\"SmartLockIntercom\", nonce=\"", (!isTerminator char) = true := each_char _ _ (by decide)
    have inside : ∀ char ∈ ofChars nonce, (!isTerminator char) = true := by
      intro char member
      rw [(number_char char (nonce_chars nonce hex char member)).2.2.2]
      rfl
    rw [List.takeWhile_append_of_pos opening, List.takeWhile_append_of_pos inside, challengeParams, List.append_assoc]
    rfl
  rw [shape]
  exact (ahead.trans here).trans (congrArg some taken)

theorem challenge_adopted (client : Client) : adoptChallenge (challengeChars cseq nonce) client =
    { client with authRealm := some (ofChars realm), authNonce := some (ofChars nonce) } := by
  have quoteless : 34 ∉ ofChars nonce := fun member => (number_char 34 (nonce_chars nonce hex 34 member)).2.2.1 rfl
  rw [adoptChallenge, challenge_params cseq nonce hex]
  dsimp only
  rw [challenge_fields _ quoteless]
  rfl

end Challenge

def statusCodes : List (Nat × String) := (401, "Unauthorized") :: handlerCodes

def statusLineOf (pair : Nat × String) : Bytes := ascii "RTSP/1.0 " ++ decimal pair.1 ++ ascii " " ++ ascii pair.2

theorem status_lines : ∀ pair ∈ statusCodes, Unbroken (statusLineOf pair) ∧ statusLineOf pair ≠ [] ∧
    statusCode ((lines (ofChars (statusLineOf pair))).headD []) = pair.1 := by decide +kernel

-- The status line comes first, so the app reads the right code whatever stands behind it.
theorem status_read (answer : Reply) (pair : Nat × String) (among : pair ∈ statusCodes) (code : answer.code = pair.1)
    (reason : answer.reason = ascii pair.2) (rest : Bytes) (read : Bytes × Bytes)
    (found : headerLoop 0 0 (answer.text ++ rest) = some read) : statusCode ((lines (ofChars read.1)).headD []) = answer.code := by
  obtain ⟨unbroken, filled, value⟩ := status_lines pair among
  have status : answer.status = statusLineOf pair := by rw [Reply.status, statusLineOf, code, reason]
  obtain ⟨more, text⟩ : ∃ more, answer.text ++ rest = statusLineOf pair ++ crlf ++ more := by
    rw [reply_text_lines, lines_text_cons, status, List.append_assoc]
    exact ⟨_, rfl⟩
  rw [text, header_loop_text 0 0 _ more unbroken filled] at found
  obtain ⟨tail, _, rfl⟩ := Option.map_eq_some_iff.mp found
  have split : ofChars (statusLineOf pair ++ crlf ++ tail.1) = ofChars (statusLineOf pair) ++ 13 :: 10 :: ofChars tail.1 := by
    rw [List.append_assoc, of_chars_append]
    rfl
  have first : (lines (ofChars (statusLineOf pair)) ++ lines (ofChars tail.1)).headD [] = (lines (ofChars (statusLineOf pair))).headD [] := by
    cases shape : lines (ofChars (statusLineOf pair)) with
    | nil => exact absurd shape (lines_loop_nonempty false _)
    | cons => rfl
  rw [split, lines_crlf, first, value, code]

def Failure.isAuth : Failure → Bool
  | .authenticationFailed => true
  | .authenticationRequired => true
  | _ => false

-- Reading a response never complains about credentials.
theorem read_response_result (pick : Nat → Nat) (link : Link) :
    (∃ failure, readResponse pick link = .error failure ∧ failure.isAuth = false) ∨
      ∃ resp later read, readResponse pick link = .ok (resp, later) ∧ headerLoop 0 0 link.input.bytes = some read ∧
        resp.statusCode = statusCode ((lines (ofChars read.1)).headD []) := by
  rw [readResponse]
  cases found : headerLoop 0 0 link.input.bytes with
  | none => exact Or.inl ⟨.closed, rfl, rfl⟩
  | some read =>
      dsimp only
      cases body : readBody pick (ofChars read.1) { link.input with bytes := read.2 } with
      | error failure =>
          refine Or.inl ⟨failure, rfl, ?_⟩
          rw [readBody] at body
          split at body
          · cases body
          · split at body
            · cases body
              rfl
            · split at body
              · cases body
              · split at body
                · cases body
                  rfl
                · cases body
      | ok result =>
          dsimp only
          split
          · exact Or.inl ⟨_, rfl, rfl⟩
          · exact Or.inr ⟨_, _, read, rfl, rfl, rfl⟩

theorem handled_read (pick : Nat → Nat) (link : Link) (answer : Reply) (rest : Bytes) (handled : answer.Handled)
    (bytes : link.input.bytes = answer.text ++ rest) :
    (∃ failure, readResponse pick link = .error failure ∧ failure.isAuth = false) ∨
      ∃ resp later, readResponse pick link = .ok (resp, later) ∧ resp.statusCode ≠ 401 := by
  cases read_response_result pick link with
  | inl failed => exact Or.inl failed
  | inr done =>
      obtain ⟨resp, later, read, result, found, code⟩ := done
      obtain ⟨pair, among, number, reason⟩ := handled
      have other : ∀ pair ∈ handlerCodes, (pair.1 : Int) ≠ 401 := by decide
      rw [bytes] at found
      refine Or.inr ⟨resp, later, result, ?_⟩
      rw [code, status_read answer pair (List.mem_cons_of_mem _ among) number reason rest read found, number]
      exact other pair among

theorem challenge_loop (cseq : Int) (nonce : Bytes) (hex : Numeral false nonce) (short : nonce.length ≤ 32) :
    headerLoop 0 0 (challengeReply cseq nonce).text = some ((challengeReply cseq nonce).text, []) := by
  have number : Unbroken (ascii "CSeq: " ++ signed cseq) := unbroken_append _ _ (by decide) (signed_unbroken cseq)
  have header : Unbroken (challengeHeader nonce) :=
    unbroken_append _ _ (by decide) (unbroken_append _ _ (numeral_unbroken false nonce hex) (by decide))
  have opening : ascii "RTSP/1.0 401 Unauthorized\r\nCSeq: " = ascii "RTSP/1.0 401 Unauthorized" ++ (crlf ++ ascii "CSeq: ") := by decide
  have shape : (challengeReply cseq nonce).text =
      headerLines [ascii "RTSP/1.0 401 Unauthorized", ascii "CSeq: " ++ signed cseq, challengeHeader nonce] ++ crlf := by
    rw [challenge_text cseq nonce short, statusAndCseq, opening]
    simp [headerLines]
  have clean : ∀ text ∈ [ascii "RTSP/1.0 401 Unauthorized", ascii "CSeq: " ++ signed cseq, challengeHeader nonce],
      Unbroken text ∧ text ≠ [] := by
    intro text member
    rcases List.mem_cons.mp member with rfl | second
    · decide
    rcases List.mem_cons.mp second with rfl | third
    · exact ⟨number, List.append_ne_nil_of_left_ne_nil (by decide) _⟩
    · rw [List.mem_singleton.mp third]
      exact ⟨header, List.append_ne_nil_of_left_ne_nil (by decide) _⟩
  have loop := header_loop_lines 0 0 _ _ [] clean
  rw [List.append_nil, ← shape] at loop
  exact loop

theorem challenge_read (pick : Nat → Nat) (link : Link) (cseq : Int) (nonce : Bytes) (hex : Numeral false nonce)
    (short : nonce.length ≤ 32) (bytes : link.input.bytes = (challengeReply cseq nonce).text) :
    ∃ resp later, readResponse pick link = .ok (resp, later) ∧ resp.statusCode = 401 ∧ later.server = link.server ∧
      later.input.bytes = [] ∧ later.client.authRealm = some (ofChars realm) ∧ later.client.authNonce = some (ofChars nonce) := by
  have loop := challenge_loop cseq nonce hex short
  have code := status_read (challengeReply cseq nonce) (401, "Unauthorized") List.mem_cons_self rfl rfl [] _ (by rw [List.append_nil, loop])
  have body : readBody pick (ofChars (challengeReply cseq nonce).text) { link.input with bytes := [] } =
      .ok ([], { link.input with bytes := [] }) := by
    rw [readBody, challenge_chars cseq nonce short, challenge_without_body cseq nonce hex]
  rw [readResponse, bytes, loop]
  dsimp only
  rw [body]
  dsimp only
  change statusCode ((lines (ofChars (challengeReply cseq nonce).text)).headD []) = (401 : Int) at code
  rw [code, if_pos rfl, if_neg (by decide), challenge_chars cseq nonce short, challenge_adopted cseq nonce hex]
  exact ⟨_, _, rfl, rfl, rfl, rfl, rfl, rfl⟩

theorem text_delivered (w : World) (d : Device) (conn : ConnId) (message : Bytes) (held : Held conn d) (isText : IsText message) :
    (rtspRecvHandler w d conn message).2 = [] ∨
      ∃ cli, d.client? conn = some cli ∧ rtspRecvHandler w d conn message =
        ((dispatchRtsp w d cli message message.length).1.setRbuf conn [], (dispatchRtsp w d cli message message.length).2) := by
  cases live : d.client? conn with
  | none =>
      left
      rw [rtspRecvHandler, live]
  | some cli =>
      by_cases small : message.length ≤ rbufLimit
      · right
        have taken := recv_text w conn d cli message [] live isText
        rw [show cstr [] = [] from rfl, List.append_nil] at taken
        exact ⟨cli, rfl, whole_message w conn d _ cli message _ live held small taken⟩
      · left
        have empty : cli.rbuf = [] := held cli (find_client d conn cli live).1 (find_client d conn cli live).2
        rw [rtspRecvHandler, live]
        dsimp only
        rw [empty, List.nil_append, if_pos (Nat.lt_of_not_le small)]

-- What a client that has only talked to this device can know of its challenges.
def Known (client : Client) : Prop :=
  client.authRealm = none ∧ client.authNonce = none ∨
    ∃ rand call, client.authRealm = some (ofChars realm) ∧ client.authNonce = some (ofChars (generateNonce rand call))

-- The client holds what it read in the challenge that this step answered with, and no request was accepted since.
structure Challenged (w : World) (d : Device) (action : Action) (actions : List Action) (client : Client) : Prop where
  read : ∃ conn answer earlier, .reply conn answer ∈ (step w d action).2 ∧ answer.code = 401 ∧
    client.authRealm = (adoptChallenge (ofChars answer.text) earlier).authRealm ∧
    client.authNonce = (adoptChallenge (ofChars answer.text) earlier).authNonce
  unused : ∀ conn, .accepted conn ∉ (reached w (step w d action).1 actions).2

theorem accepted_admits (w : World) (d : Device) (req : RtspReq) (enabled : d.auth.enabled = true)
    (accepted : rtspAuthCheck w.md5 d.auth req.method req.uri (some req.authorization) = true) : admits w d req = true := by
  have given : req.authorization ≠ [] := by
    intro empty
    rw [empty, rtspAuthCheck, if_pos enabled] at accepted
    cases accepted
  rw [admits, authCheck, if_neg given, if_pos accepted]
  exact Bool.or_true _

-- Nothing came back, or something that starts with the reply of a handler.
def Answered (link : Link) : Prop :=
  link.input.bytes = [] ∨ ∃ (answer : Reply) (rest : Bytes), answer.Handled ∧ link.input.bytes = answer.text ++ rest

theorem answered_read (pick : Nat → Nat) (link : Link) (answered : Answered link) :
    (∃ failure, readResponse pick link = .error failure ∧ failure.isAuth = false) ∨
      ∃ resp later, readResponse pick link = .ok (resp, later) ∧ resp.statusCode ≠ 401 := by
  cases answered with
  | inl silent =>
      left
      rw [readResponse, silent]
      exact ⟨.closed, rfl, rfl⟩
  | inr handled =>
      obtain ⟨answer, rest, code, bytes⟩ := handled
      exact handled_read pick link answer rest code bytes

section Exchange

variable (w : World) (cfg : Config) (auth : Auth) (user pass : Text) (method uri extraHeaders : Text)
  (lines : List Bytes) (shared : Shared cfg auth user pass) (target : Target method (fullUri cfg uri))
  (extras : Extras extraHeaders lines)

include shared target

theorem known_header (client : Client) (known : Known client) :
    ∃ given, toAscii ((buildAuthHeader w cfg client method (fullUri cfg uri)).getD []) = linesText given ∧
      ∀ line ∈ given, line ≠ [] ∧ Clean line := by
  cases known with
  | inl unknown =>
      have none : buildAuthHeader w cfg client method (fullUri cfg uri) = none := by
        rw [buildAuthHeader, shared.userGiven, shared.passGiven, unknown.1]
      rw [none]
      exact ⟨[], rfl, fun _ member => absurd member List.not_mem_nil⟩
  | inr challenged =>
      obtain ⟨rand, call, realmKnown, nonceKnown⟩ := challenged
      have header := header_lines _ _ (app_header w cfg auth user pass client method uri shared rand call realmKnown nonceKnown)
      have clean := app_value_clean w cfg auth user pass method uri shared target rand call
      refine ⟨_, header, ?_⟩
      intro line member
      rw [List.mem_singleton.mp member]
      exact ⟨List.append_ne_nil_of_left_ne_nil (by decide) _, clean_append _ _ (by decide) clean⟩

include extras

theorem challenged_read_back (d : Device) (action : Action) (actions : List Action) (client : Client) (same : d.auth = auth)
    (challenged : Challenged w d action actions client) :
    ReadBack w cfg (reached w (step w d action).1 actions).1.auth client method uri extraHeaders := by
  obtain ⟨conn, answer, earlier, sent, code, realmRead, nonceRead⟩ := challenged.read
  obtain ⟨kept, cseq, rfl⟩ := step_challenges w d action conn answer sent code
  obtain ⟨hex, short⟩ := shared_nonce cfg auth user pass shared
  have stands : (reached w (step w d action).1 actions).1.auth = auth := by
    rw [reached, run_unaccepted w _ [] actions challenged.unused, kept, same]
  rw [same, challenge_chars cseq auth.nonce short, challenge_adopted cseq auth.nonce hex] at realmRead nonceRead
  rw [stands]
  exact read_back w cfg auth user pass client method uri extraHeaders lines shared target extras realmRead nonceRead

-- A challenge only comes back to a request that was not admitted.
theorem request_outcome (conn : ConnId) (link : Link) (same : link.server.auth = auth) (held : Held conn link.server)
    (quiet : link.input.bytes = []) (known : Known link.client) :
    Answered (sendRequest w cfg conn link method uri extraHeaders) ∨
    ∃ req cseq, nextRequest (requestBytes w cfg { link.client with cseq := link.client.cseq + 1 } method uri extraHeaders) = some req ∧
      admits w link.server req = false ∧ (sendRequest w cfg conn link method uri extraHeaders).server = link.server ∧
      (sendRequest w cfg conn link method uri extraHeaders).input.bytes = (challengeReply cseq auth.nonce).text := by
  obtain ⟨given, header, clean⟩ := known_header w cfg auth user pass method uri shared target
    { link.client with cseq := link.client.cseq + 1 } known
  have isText := request_is_text w cfg { link.client with cseq := link.client.cseq + 1 } method uri extraHeaders lines target extras
    given header clean
  have bytes : (sendRequest w cfg conn link method uri extraHeaders).input.bytes = written conn (rtspRecvHandler w link.server conn
      (requestBytes w cfg { link.client with cseq := link.client.cseq + 1 } method uri extraHeaders)).2 := by
    rw [sendRequest, quiet]
    rfl
  have server : (sendRequest w cfg conn link method uri extraHeaders).server = (rtspRecvHandler w link.server conn
      (requestBytes w cfg { link.client with cseq := link.client.cseq + 1 } method uri extraHeaders)).1 := rfl
  rw [Answered, bytes, server]
  generalize requestBytes w cfg { link.client with cseq := link.client.cseq + 1 } method uri extraHeaders = request at isText
  cases text_delivered w link.server conn request held isText with
  | inl silent =>
      rw [silent]
      exact Or.inl (Or.inl rfl)
  | inr served =>
      obtain ⟨cli, live, result⟩ := served
      have own := (find_client link.server conn cli live).2
      rw [result]
      cases dispatch_replies w link.server cli request request.length with
      | inl refused =>
          obtain ⟨denied, cseq, outcome⟩ := refused
          refine Or.inr ⟨_, cseq, next_text request isText, denied, ?_, ?_⟩
          · rw [outcome]
            exact set_rbuf_held link.server conn held
          · rw [outcome, written, List.flatMap_cons, List.flatMap_cons, Out.written, if_pos own, same]
            exact List.append_nil _
      | inr handled =>
          obtain ⟨answer, rest, code, _, text⟩ := handled
          rw [own] at text
          exact Or.inl (Or.inr ⟨answer, rest, code, text⟩)

-- With the nonce of the last challenge the next request is admitted.
theorem known_answered (conn : ConnId) (link : Link) (same : link.server.auth = auth) (held : Held conn link.server)
    (quiet : link.input.bytes = []) (realmKnown : link.client.authRealm = some (ofChars realm))
    (nonceKnown : link.client.authNonce = some (ofChars auth.nonce)) : Answered (sendRequest w cfg conn link method uri extraHeaders) := by
  obtain ⟨rand, call, fresh⟩ := shared.nonce
  have known : Known link.client := Or.inr ⟨rand, call, realmKnown, by rw [nonceKnown, fresh]⟩
  have enabled : link.server.auth.enabled = true := by
    rw [same]
    exact shared.enabled
  cases request_outcome w cfg auth user pass method uri extraHeaders lines shared target extras conn link same held quiet known with
  | inl answered => exact answered
  | inr refused =>
      obtain ⟨req, _, found, denied, _⟩ := refused
      obtain ⟨other, read, _, _, _, passes⟩ := read_back w cfg auth user pass { link.client with cseq := link.client.cseq + 1 } method uri
        extraHeaders lines shared target extras realmKnown nonceKnown
      rw [found] at read
      cases read
      rw [← same] at passes
      rw [accepted_admits w link.server req enabled passes] at denied
      cases denied

theorem alone_never_refused (pick : Nat → Nat) (conn : ConnId) (link : Link) (same : link.server.auth = auth)
    (held : Held conn link.server) (quiet : link.input.bytes = []) (known : Known link.client) (failure : Failure)
    (failed : sendAuthRequest w pick cfg conn link method uri extraHeaders = .error failure) : failure.isAuth = false := by
  rw [sendAuthRequest] at failed
  have first := request_outcome w cfg auth user pass method uri extraHeaders lines shared target extras conn link same held quiet known
  generalize sendRequest w cfg conn link method uri extraHeaders = sent at first failed
  rcases first with answered | ⟨_, cseq, _, _, server, bytes⟩
  · rcases answered_read pick sent answered with ⟨other, result, harmless⟩ | ⟨resp, later, result, code⟩
    · rw [result] at failed
      cases failed
      exact harmless
    · rw [result] at failed
      dsimp only at failed
      rw [if_neg code] at failed
      cases failed
  · obtain ⟨hex, short⟩ := shared_nonce cfg auth user pass shared
    obtain ⟨resp, later, result, code, kept, empty, realmKnown, nonceKnown⟩ := challenge_read pick sent cseq auth.nonce hex short bytes
    have answered : Answered (sendRequest w cfg conn later method uri extraHeaders) := by
      rw [← server, ← kept] at same held
      exact known_answered w cfg auth user pass method uri extraHeaders lines shared target extras conn later same held empty realmKnown
        nonceKnown
    have credentials : (cfg.username.isSome && cfg.password.isSome && later.client.authRealm.isSome && later.client.authNonce.isSome) =
        true := by
      rw [shared.userGiven, shared.passGiven, realmKnown, nonceKnown]
      rfl
    rw [result] at failed
    dsimp only at failed
    rw [if_pos code, if_pos credentials] at failed
    rcases answered_read pick _ answered with ⟨other, retried, harmless⟩ | ⟨again, last, retried, accepted⟩
    · rw [retried] at failed
      cases failed
      exact harmless
    · rw [retried] at failed
      dsimp only at failed
      rw [if_neg accepted] at failed
      cases failed

end Exchange

theorem digest_agreement (w : World) (cfg : Config) (auth : Auth) (user pass method uri extraHeaders : Text) (lines : List Bytes)
    (shared : Shared cfg auth user pass) (target : Target method (fullUri cfg uri)) (extras : Extras extraHeaders lines) :
    (∀ d action actions client, d.auth = auth → Challenged w d action actions client →
      ReadBack w cfg (reached w (step w d action).1 actions).1.auth client method uri extraHeaders) ∧
    ∀ pick conn link, link.server.auth = auth → Held conn link.server → link.input.bytes = [] → Known link.client →
      sendAuthRequest w pick cfg conn link method uri extraHeaders ≠ .error .authenticationFailed ∧
      sendAuthRequest w pick cfg conn link method uri extraHeaders ≠ .error .authenticationRequired := by
  constructor
  · intro d action actions client same challenged
    exact challenged_read_back w cfg auth user pass method uri extraHeaders lines shared target extras d action actions client same challenged
  · intro pick conn link same held quiet known
    have never := alone_never_refused w cfg auth user pass method uri extraHeaders lines shared target extras pick conn link same held
      quiet known
    refine ⟨?_, ?_⟩
    · intro failed
      cases never _ failed
    · intro failed
      cases never _ failed

-- A device with credentials that has just been asked without any.
def doorConfig : Config := { host := text "10.0.0.2", username := some (text "admin"), password := some (text "1234") }

def doorAuth : Auth := rtspAuthInit sampleWorld.rand 0 (ascii "admin") (ascii "1234")

def doorDevice : Device :=
  { clients := [{ tc := 0, peer := ⟨1, 1⟩, rbuf := ascii "DESCRIBE rtsp://10.0.0.2:8555/live RTSP/1.0\r\nCSeq: 1\r\n\r\n" }]
    nextConn := 1, auth := doorAuth, calls := nonceLen }

def doorClient : Client := { authRealm := some (ofChars realm), authNonce := some (ofChars doorAuth.nonce) }

def acceptSdp : Text := text "Accept: application/sdp\r\n"

theorem door_shared : Shared doorConfig doorAuth (text "admin") (text "1234") where
  userGiven := rfl
  passGiven := rfl
  userPrintable := each_char _ _ (by decide)
  passPrintable := each_char _ _ (by decide)
  userSize := by decide
  passSize := by decide
  quoteless := by decide
  ends := by decide
  enabled := by decide
  username := by decide
  password := by decide
  nonce := ⟨sampleWorld.rand, 0, rfl⟩

theorem door_challenged : Challenged sampleWorld doorDevice (.process 0) [.close 0] doorClient where
  read := by
    obtain ⟨hex, short⟩ := shared_nonce doorConfig doorAuth _ _ door_shared
    refine ⟨0, challengeReply 1 doorAuth.nonce, {}, by decide +kernel, rfl, ?_, ?_⟩
    · rw [challenge_chars 1 doorAuth.nonce short, challenge_adopted 1 doorAuth.nonce hex]
      rfl
    · rw [challenge_chars 1 doorAuth.nonce short, challenge_adopted 1 doorAuth.nonce hex]
      rfl
  unused := fun _ => List.not_mem_nil

theorem describe_agreed_at_door :
    ReadBack sampleWorld doorConfig (reached sampleWorld (step sampleWorld doorDevice (.process 0)).1 [.close 0]).1.auth doorClient
      (text "DESCRIBE") (text "/live") acceptSdp ∧
    sendAuthRequest sampleWorld (fun call => call) doorConfig 0
      ⟨{}, rtspConnHandler (initial sampleWorld [] (ascii "admin") (ascii "1234")) ⟨1, 1⟩, ⟨[], 0⟩⟩
      (text "DESCRIBE") (text "/live") acceptSdp ≠ .error .authenticationFailed := by
  have target : Target (text "DESCRIBE") (fullUri doorConfig (text "/live")) :=
    ⟨by decide, each_char _ _ (by decide), each_char _ _ (by decide), by decide, by decide⟩
  have extras : Extras acceptSdp [ascii "Accept: application/sdp"] := by
    refine ⟨by decide, ?_⟩
    intro line member
    rw [List.mem_singleton.mp member]
    decide
  obtain ⟨readBack, alone⟩ := digest_agreement sampleWorld doorConfig doorAuth (text "admin") (text "1234") (text "DESCRIBE") (text "/live")
    acceptSdp [ascii "Accept: application/sdp"] door_shared target extras
  have held : Held 0 (rtspConnHandler (initial sampleWorld [] (ascii "admin") (ascii "1234")) ⟨1, 1⟩) := by
    intro cli member _
    rw [List.mem_singleton.mp member]
  refine ⟨readBack doorDevice (.process 0) [.close 0] doorClient rfl door_challenged, ?_⟩
  exact (alone _ 0 ⟨{}, rtspConnHandler (initial sampleWorld [] (ascii "admin") (ascii "1234")) ⟨1, 1⟩, ⟨[], 0⟩⟩ rfl held rfl
    (Or.inl ⟨rfl, rfl⟩)).1

-- An accent is sent as a question mark, and the device waits forever for the end of a request with a NUL in it.
def accentedPath : Text := text "/caf" ++ [233]

def zeroPath : Text := text "/live" ++ [0]

theorem odd_paths_not_read :
    Shared doorConfig doorAuth (text "admin") (text "1234") ∧ Challenged sampleWorld doorDevice (.process 0) [.close 0] doorClient ∧
    ((∀ char ∈ fullUri doorConfig accentedPath, char ≠ 32 ∧ char ≠ 13 ∧ char ≠ 10 ∧ char ≠ 34) ∧
      (fullUri doorConfig accentedPath).getLast? ≠ some 61 ∧ (text "DESCRIBE").length + 1 + (fullUri doorConfig accentedPath).length ≤ 255 ∧
      ¬ ReadBack sampleWorld doorConfig (reached sampleWorld (step sampleWorld doorDevice (.process 0)).1 [.close 0]).1.auth doorClient
        (text "DESCRIBE") accentedPath acceptSdp) ∧
    (∀ char ∈ fullUri doorConfig zeroPath, char ≠ 32 ∧ char ≠ 13 ∧ char ≠ 10 ∧ char ≠ 34) ∧
      (fullUri doorConfig zeroPath).getLast? ≠ some 61 ∧ (text "DESCRIBE").length + 1 + (fullUri doorConfig zeroPath).length ≤ 255 ∧
      ¬ ReadBack sampleWorld doorConfig (reached sampleWorld (step sampleWorld doorDevice (.process 0)).1 [.close 0]).1.auth doorClient
        (text "DESCRIBE") zeroPath acceptSdp := by
  have question : (nextRequest (requestBytes sampleWorld doorConfig doorClient (text "DESCRIBE") accentedPath acceptSdp)).map RtspReq.uri =
      some (ascii "rtsp://10.0.0.2:8555/caf?") := by decide +kernel
  have unended : nextRequest (requestBytes sampleWorld doorConfig doorClient (text "DESCRIBE") zeroPath acceptSdp) = none := by
    decide +kernel
  refine ⟨door_shared, door_challenged, ⟨each_char _ _ (by decide), by decide, by decide, ?_⟩, each_char _ _ (by decide), by decide, by decide, ?_⟩
  · intro readBack
    obtain ⟨req, found, _, uri, _⟩ := readBack
    rw [found, Option.map_some] at question
    rw [Option.some.inj question] at uri
    exact absurd uri (by decide)
  · intro readBack
    obtain ⟨req, found, _⟩ := readBack
    rw [unended] at found
    cases found

end Intercom.Android
