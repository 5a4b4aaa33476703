import Intercom.Rtsp.Locality
import Intercom.Rtsp.Frame

set_option autoImplicit false

/- The receive loop as a reader of messages: '$' frames and requests. -/
namespace Intercom

open ByteText

def IsFrame (message : Bytes) : Prop :=
  ∃ channel hi lo data, message = 36 :: channel :: hi :: lo :: data ∧ data.length = hi.toNat * 256 + lo.toNat

def IsText (message : Bytes) : Prop := IsRequest message ∧ message.head? ≠ some 36

def IsMessage (message : Bytes) : Prop := IsFrame message ∨ IsText message

theorem request_nonempty (text : Bytes) (request : IsRequest text) : text ≠ [] := by
  obtain ⟨_, front, split, _⟩ := request
  intro empty
  rw [empty] at split
  simp [crlf] at split

theorem take_frame_whole (channel hi lo : UInt8) (data behind : Bytes) (size : data.length = hi.toNat * 256 + lo.toNat) :
    takeFrame (36 :: channel :: hi :: lo :: (data ++ behind)) = some (channel, data, behind) := by
  have enough : ¬ (data ++ behind).length < hi.toNat * 256 + lo.toNat := by
    rw [List.length_append]
    omega
  rw [takeFrame, if_neg enough, ← size, List.take_left, List.drop_left]

theorem take_frame_split (buf data rest : Bytes) (channel : UInt8) (dollar : buf.head? = some 36)
    (taken : takeFrame buf = some (channel, data, rest)) :
    ∃ hi lo, buf = 36 :: channel :: hi :: lo :: (data ++ rest) ∧ data.length = hi.toNat * 256 + lo.toNat := by
  match buf, dollar, taken with
  | first :: ch :: hi :: lo :: body, dollar, taken =>
      have isDollar : first = 36 := by simpa using dollar
      by_cases short : body.length < hi.toNat * 256 + lo.toNat
      · simp [takeFrame, short] at taken
      · rw [takeFrame, if_neg short] at taken
        obtain ⟨rfl, rfl, rfl⟩ : ch = channel ∧ body.take _ = data ∧ body.drop _ = rest := by simpa using taken
        refine ⟨hi, lo, by rw [isDollar, List.take_append_drop], ?_⟩
        rw [List.length_take]
        omega
  | [], _, taken => simp [takeFrame] at taken
  | [_], _, taken => simp [takeFrame] at taken
  | [_, _], _, taken => simp [takeFrame] at taken
  | [_, _, _], _, taken => simp [takeFrame] at taken

theorem recv_frame (w : World) (conn : ConnId) (d : Device) (cli : RtspClient) (channel hi lo : UInt8) (data behind : Bytes)
    (live : d.client? conn = some cli) (size : data.length = hi.toNat * 256 + lo.toNat) :
    recvStep w conn d (36 :: channel :: hi :: lo :: (data ++ behind)) =
      some (d, .frame conn channel data :: playBackchannel cli channel data, behind) := by
  simp [recvStep, live, take_frame_whole channel hi lo data behind size]

theorem recv_text (w : World) (conn : ConnId) (d : Device) (cli : RtspClient) (text behind : Bytes)
    (live : d.client? conn = some cli) (isText : IsText text) :
    recvStep w conn d (text ++ behind) =
      some ((dispatchRtsp w d cli (text ++ cstr behind) text.length).1,
        (dispatchRtsp w d cli (text ++ cstr behind) text.length).2, behind) := by
  obtain ⟨request, notDollar⟩ := isText
  have nonempty := request_nonempty text request
  obtain ⟨clean, front, split, first⟩ := request
  have total : text.length = front.length + 4 := by simp [split, crlf]
  have found : strstr (text ++ behind) (crlf ++ crlf) = some front.length := by
    rw [strstr, cstr_append_clean text behind clean]
    exact find_sub_append _ _ _ _ first
  have head : (text ++ behind).head? = text.head? := by
    cases text with
    | nil => exact absurd rfl nonempty
    | cons => rfl
  simp only [recvStep, live, List.append_eq_nil_iff, nonempty, false_and, if_false, head, notDollar, found,
    Option.map_some, cstr_append_clean text behind clean, ← total, List.drop_left]

theorem text_of_hit (buf : Bytes) (eor : Nat) (dollar : buf.head? ≠ some 36)
    (found : strstr buf (crlf ++ crlf) = some eor) :
    ∃ text, IsText text ∧ text.length = eor + 4 ∧ buf = text ++ buf.drop (eor + 4) := by
  obtain ⟨tail, split, bound⟩ := find_sub_split (crlf ++ crlf) (cstr buf) eor found
  have bound : eor + 4 ≤ (cstr buf).length := by simpa [crlf] using bound
  have front : ((cstr buf).take eor).length = eor := by rw [List.length_take]; omega
  have whole : (cstr buf).take (eor + 4) = (cstr buf).take eor ++ crlf ++ crlf := by
    conv => lhs; rw [split]
    rw [List.take_append_of_le_length (by simp [front, crlf]), List.take_of_length_le (by simp [front, crlf]),
      List.append_assoc]
  have prefixed : buf.take (eor + 4) = (cstr buf).take (eor + 4) := by
    conv => lhs; rw [← List.takeWhile_append_dropWhile (p := (· != 0)) (l := buf)]
    exact List.take_append_of_le_length bound
  have first : findSub (crlf ++ crlf) ((cstr buf).take (eor + 4)) = some ((cstr buf).take eor).length := by
    rw [front]
    exact find_sub_take (crlf ++ crlf) (cstr buf) eor found
  refine ⟨buf.take (eor + 4), ⟨⟨?_, (cstr buf).take eor, ?_, ?_⟩, ?_⟩, ?_, (List.take_append_drop _ _).symm⟩
  · rw [prefixed]
    exact fun member => cstr_no_zero buf (List.mem_of_mem_take member)
  · rw [prefixed, whole]
  · rw [prefixed, first]
  · rwa [List.head?_take, if_neg (by omega)]
  · rw [prefixed, List.length_take]
    omega

-- Everything an iteration can do.
theorem recv_step_cases (w : World) (conn : ConnId) (d next : Device) (buf rest : Bytes) (outs : List Out)
    (taken : recvStep w conn d buf = some (next, outs, rest)) :
    ∃ cli, d.client? conn = some cli ∧
      ((∃ channel hi lo data, buf = 36 :: channel :: hi :: lo :: (data ++ rest) ∧ data.length = hi.toNat * 256 + lo.toNat ∧
          next = d ∧ outs = .frame conn channel data :: playBackchannel cli channel data) ∨
        ∃ text, IsText text ∧ buf = text ++ rest ∧
          (next, outs) = dispatchRtsp w d cli (text ++ cstr rest) text.length) := by
  cases live : d.client? conn with
  | none => simp [recvStep, live] at taken
  | some cli =>
      refine ⟨cli, rfl, ?_⟩
      by_cases empty : buf = []
      · simp [recvStep, live, empty] at taken
      · by_cases dollar : buf.head? = some 36
        · simp only [recvStep, live, if_neg empty, if_pos dollar, Option.map_eq_some_iff] at taken
          obtain ⟨⟨channel, data, after⟩, frame, same⟩ := taken
          obtain ⟨hi, lo, split, size⟩ := take_frame_split buf data after channel dollar frame
          obtain ⟨rfl, rfl, rfl⟩ : d = next ∧ _ = outs ∧ after = rest := by simpa using same
          exact Or.inl ⟨channel, hi, lo, data, split, size, rfl, rfl⟩
        · have hit := taken
          simp only [recvStep, live, if_neg empty, if_neg dollar, Option.map_eq_some_iff] at hit
          obtain ⟨eor, found, same⟩ := hit
          obtain ⟨text, isText, size, split⟩ := text_of_hit buf eor dollar found
          have after : buf.drop (eor + 4) = rest := (Prod.mk.inj (Prod.mk.inj same).2).2
          rw [after] at split
          rw [split, recv_text w conn d cli text rest live isText] at taken
          obtain ⟨device, result, _⟩ : _ = next ∧ _ = outs ∧ rest = rest := by simpa using taken
          exact Or.inr ⟨text, isText, split, by rw [← device, ← result]⟩

theorem recv_step_shrinks (w : World) (conn : ConnId) (d next : Device) (buf rest : Bytes) (outs : List Out)
    (taken : recvStep w conn d buf = some (next, outs, rest)) : rest.length < buf.length := by
  obtain ⟨cli, _, ⟨channel, hi, lo, data, split, _⟩ | ⟨text, isText, split, _⟩⟩ :=
    recv_step_cases w conn d next buf rest outs taken
  · simp [split]
    omega
  · have positive : 0 < text.length := List.length_pos_iff.mpr (request_nonempty text isText.1)
    rw [split, List.length_append]
    omega

theorem recv_step_stable (w : World) (conn : ConnId) (d next : Device) (buf rest : Bytes) (outs : List Out)
    (taken : recvStep w conn d buf = some (next, outs, rest)) (behind : Bytes) :
    ∃ others, recvStep w conn d (buf ++ behind) = some (next, others, rest ++ behind) ∧
      others.map forgetCseq = outs.map forgetCseq := by
  obtain ⟨cli, live, ⟨channel, hi, lo, data, split, size, rfl, rfl⟩ | ⟨text, isText, split, result⟩⟩ :=
    recv_step_cases w conn d next buf rest outs taken
  · refine ⟨_, ?_, rfl⟩
    rw [split]
    simpa using recv_frame w conn next cli channel hi lo data (rest ++ behind) live size
  · have again := recv_text w conn d cli text (rest ++ behind) live isText
    obtain ⟨device, sameOuts⟩ := dispatch_local w d cli text (cstr (rest ++ behind)) (cstr rest) isText.1
    rw [← result] at device sameOuts
    refine ⟨_, ?_, sameOuts⟩
    rw [split, List.append_assoc, again, device]

def rtspReader (w : World) (conn : ConnId) : Chunked.Reader Device Out UInt8 Out where
  step := recvStep w conn
  view := forgetCseq
  shrinks := fun d buf next outs rest taken => recv_step_shrinks w conn d next buf rest outs taken
  stable := fun d buf next outs rest taken behind => recv_step_stable w conn d next buf rest outs taken behind

-- The loop holds the buffer: the record in the list has none.
def Held (conn : ConnId) (d : Device) : Prop := ∀ cli ∈ d.clients, cli.tc = conn → cli.rbuf = []

theorem held_kept (conn : ConnId) (before after : Device) (kept : Kept before after) (held : Held conn before) :
    Held conn after := by
  unfold Held
  rw [kept.clients]
  exact held

theorem held_put (conn : ConnId) (d : Device) (cli : RtspClient) (held : Held conn d) (empty : cli.rbuf = []) :
    Held conn (d.put cli) := by
  intro other member named
  rcases mem_put d cli other member with rfl | ⟨old, _⟩
  · exact empty
  · exact held other old named

theorem method_held (w : World) (conn : ConnId) (d : Device) (cli : RtspClient) (req : RtspReq)
    (held : Held conn d) (empty : cli.rbuf = []) : Held conn (handleMethod w d cli req).1 := by
  unfold handleMethod
  split
  · exact held
  split
  · exact held_kept conn d _ (handle_describe_kept w d cli req) held
  split
  · have fields := setup_outcome_fields cli _ req _ (handle_setup_outcome w d cli req)
    exact held_put conn _ _ (held_kept conn d _ (handle_setup_kept w d cli req) held) (fields.2.2.1.trans empty)
  split
  · have fields := handle_play_fields w d cli req
    exact held_put conn _ _ (held_kept conn d _ (handle_play_kept w d cli req) held) (fields.2.trans empty)
  split
  · intro other member named
    have present := (mem_free _ _ other member).1
    rw [maybe_stop_media_clients] at present
    exact held_put conn d { cli with state := .idle } held empty other present named
  split
  · exact held
  · exact held

theorem auth_check_held (w : World) (conn : ConnId) (d : Device) (req : RtspReq) (held : Held conn d) :
    Held conn (authCheck w d req).1 := by
  obtain ⟨auth, calls, _, same⟩ := auth_check_device w d req
  rw [same]
  exact held

theorem recv_step_held (w : World) (conn : ConnId) (d next : Device) (buf rest : Bytes) (outs : List Out)
    (taken : recvStep w conn d buf = some (next, outs, rest)) (held : Held conn d) : Held conn next := by
  obtain ⟨cli, live, ⟨_, _, _, _, _, _, rfl, _⟩ | ⟨text, _, _, result⟩⟩ :=
    recv_step_cases w conn d next buf rest outs taken
  · exact held
  · obtain ⟨member, named⟩ := find_client d conn cli live
    have empty := held cli member named
    have device := congrArg Prod.fst result
    dsimp only at device
    rw [device, dispatchRtsp]
    split
    · dsimp only
      split
      · exact method_held w conn _ cli _ (auth_check_held w conn d _ held) empty
      · exact held
    · exact method_held w conn d cli _ held empty

theorem drain_held (w : World) (conn : ConnId) (d : Device) (buf : Bytes) (held : Held conn d) :
    Held conn (Chunked.drain (recvStep w conn) d buf).1 := by
  induction size : buf.length using Nat.strongRecOn generalizing d buf with
  | ind length ih =>
      cases taken : recvStep w conn d buf with
      | none =>
          have stuck : Chunked.drain (recvStep w conn) d buf = (d, [], buf) :=
            Chunked.drain_stuck (rtspReader w conn) d buf taken
          rw [stuck]
          exact held
      | some result =>
          have shorter := recv_step_shrinks w conn d result.1 buf result.2.2 result.2.1 taken
          have after := recv_step_held w conn d result.1 buf result.2.2 result.2.1 taken held
          have rest := ih result.2.2.length (by omega) result.1 result.2.2 after rfl
          have unfolded := Chunked.drain_message (rtspReader w conn) d result.1 buf result.2.2 result.2.1 taken
          rw [show Chunked.drain (recvStep w conn) d buf = _ from unfolded]
          exact rest

theorem set_rbuf_twice (d : Device) (conn : ConnId) (first second : Bytes) :
    (d.setRbuf conn first).setRbuf conn second = d.setRbuf conn second := by
  have entries : ∀ cli : RtspClient, (fun other : RtspClient => if other.tc = conn then { other with rbuf := second } else other)
      (if cli.tc = conn then { cli with rbuf := first } else cli) =
      if cli.tc = conn then { cli with rbuf := second } else cli := by
    intro cli
    by_cases named : cli.tc = conn <;> simp [named]
  simp only [Device.setRbuf, List.map_map]
  congr 1
  exact List.map_congr_left fun cli _ => entries cli

theorem set_rbuf_held (d : Device) (conn : ConnId) (held : Held conn d) : d.setRbuf conn [] = d := by
  have entries : d.clients.map (fun cli => if cli.tc = conn then { cli with rbuf := [] } else cli) = d.clients := by
    conv => rhs; rw [← List.map_id d.clients]
    apply List.map_congr_left
    intro cli member
    by_cases named : cli.tc = conn
    · rw [if_pos named]
      have empty := held cli member named
      cases cli
      simp_all
    · rw [if_neg named]
      rfl
  simp only [Device.setRbuf, entries]

theorem held_set_rbuf (d : Device) (conn : ConnId) : Held conn (d.setRbuf conn []) := by
  intro cli member named
  obtain ⟨old, _, same⟩ := List.mem_map.mp member
  by_cases hit : old.tc = conn
  · rw [if_pos hit] at same
    rw [← same]
  · rw [if_neg hit] at same
    exact absurd (same ▸ named) hit

theorem client_set_rbuf (d : Device) (conn : ConnId) (rest : Bytes) :
    (d.setRbuf conn rest).client? conn = (d.client? conn).map fun cli => { cli with rbuf := rest } := by
  unfold Device.setRbuf Device.client?
  dsimp only
  induction d.clients with
  | nil => rfl
  | cons cli tail ih =>
      by_cases named : cli.tc = conn
      · simp [named]
      · simp [named, ih]

theorem set_rbuf_gone (d : Device) (conn : ConnId) (rest : Bytes) (gone : d.client? conn = none) : d.setRbuf conn rest = d := by
  have absent : ∀ cli ∈ d.clients, ¬ cli.tc = conn := by
    simpa [Device.client?] using gone
  have entries : d.clients.map (fun cli => if cli.tc = conn then { cli with rbuf := rest } else cli) = d.clients := by
    conv => rhs; rw [← List.map_id d.clients]
    exact List.map_congr_left fun cli member => if_neg (absent cli member)
  simp only [Device.setRbuf, entries]

def receiveAll (w : World) (conn : ConnId) : Device → List Bytes → Device × List Out
  | d, [] => (d, [])
  | d, chunk :: rest =>
      let first := rtspRecvHandler w d conn chunk
      let later := receiveAll w conn first.1 rest
      (later.1, first.2 ++ later.2)

-- The buffered amount never exceeds the limit, so no chunk closes the connection.
def Fits (w : World) (conn : ConnId) : Device → List Bytes → Prop
  | _, [] => True
  | d, chunk :: rest =>
      (∀ cli, d.client? conn = some cli → (cli.rbuf ++ chunk).length ≤ rbufLimit) ∧
        Fits w conn (rtspRecvHandler w d conn chunk).1 rest

-- One callback is one feed of the reader, as long as the buffer does not overflow.
theorem handler_feed (w : World) (conn : ConnId) (d : Device) (before : List Out) (buf chunk : Bytes) (held : Held conn d)
    (fits : ∀ cli, (d.setRbuf conn buf).client? conn = some cli → (cli.rbuf ++ chunk).length ≤ rbufLimit) :
    let fed := Chunked.feed (recvStep w conn) (d, before, buf) chunk
    (rtspRecvHandler w (d.setRbuf conn buf) conn chunk).1 = fed.1.setRbuf conn fed.2.2 ∧
      before ++ (rtspRecvHandler w (d.setRbuf conn buf) conn chunk).2 = fed.2.1 ∧ Held conn fed.1 := by
  intro fed
  have after : Held conn fed.1 := drain_held w conn d (buf ++ chunk) held
  rw [client_set_rbuf] at fits
  unfold rtspRecvHandler
  rw [client_set_rbuf]
  cases live : d.client? conn with
  | none =>
      have stuck : recvStep w conn d (buf ++ chunk) = none := by simp [recvStep, live]
      have same : fed = (d, before, buf ++ chunk) := by
        change Chunked.feed (rtspReader w conn).step (d, before, buf) chunk = _
        simp [Chunked.feed, Chunked.drain_stuck (rtspReader w conn) d (buf ++ chunk) stuck]
      refine ⟨?_, ?_, after⟩
      · rw [same, set_rbuf_gone d conn (buf ++ chunk) live]
        exact set_rbuf_gone d conn buf live
      · simp [same]
  | some cli =>
      have small := fits { cli with rbuf := buf } (by rw [live]; rfl)
      dsimp only [Option.map_some] at small ⊢
      rw [if_neg (by omega), set_rbuf_twice, set_rbuf_held d conn held]
      exact ⟨rfl, rfl, after⟩

-- A message that arrives whole is handled at once.
theorem whole_message (w : World) (conn : ConnId) (d after : Device) (cli : RtspClient) (message : Bytes) (outs : List Out)
    (live : d.client? conn = some cli) (fresh : Held conn d) (small : message.length ≤ rbufLimit)
    (taken : recvStep w conn d message = some (after, outs, [])) : rtspRecvHandler w d conn message = (after.setRbuf conn [], outs) := by
  have empty : cli.rbuf = [] := fresh cli (find_client d conn cli live).1 (find_client d conn cli live).2
  have stuck : (rtspReader w conn).step after [] = none := by
    change recvStep w conn after [] = none
    cases gone : after.client? conn with
    | none => simp [recvStep, gone]
    | some _ => simp [recvStep, gone]
  have drained : Chunked.drain (recvStep w conn) d message = (after, outs, []) := by
    have first := Chunked.drain_message (rtspReader w conn) d after message [] outs taken
    rw [Chunked.drain_stuck (rtspReader w conn) after [] stuck, List.append_nil] at first
    exact first
  rw [rtspRecvHandler, live]
  dsimp only
  rw [empty, List.nil_append, if_neg (Nat.not_lt_of_le small), set_rbuf_held d conn fresh, drained]

theorem receive_all_feeds (w : World) (conn : ConnId) (d : Device) (before : List Out) (buf : Bytes) (chunks : List Bytes)
    (held : Held conn d) (fits : Fits w conn (d.setRbuf conn buf) chunks) :
    let fed := chunks.foldl (Chunked.feed (recvStep w conn)) (d, before, buf)
    (receiveAll w conn (d.setRbuf conn buf) chunks).1 = fed.1.setRbuf conn fed.2.2 ∧
      before ++ (receiveAll w conn (d.setRbuf conn buf) chunks).2 = fed.2.1 := by
  induction chunks generalizing d before buf with
  | nil => exact ⟨rfl, by simp [receiveAll]⟩
  | cons chunk rest ih =>
      obtain ⟨device, outs, after⟩ := handler_feed w conn d before buf chunk held fits.1
      have fitsRest := fits.2
      rw [device] at fitsRest
      have later := ih _ (Chunked.feed (recvStep w conn) (d, before, buf) chunk).2.1 _ after fitsRest
      simp only [receiveAll, List.foldl_cons]
      rw [device]
      refine ⟨later.1, ?_⟩
      rw [← List.append_assoc, outs]
      exact later.2

def Live (conn : ConnId) (d : Device) : Prop := (d.client? conn).isSome

theorem frame_waits (w : World) (conn : ConnId) (d : Device) (frame received missing : Bytes) (isFrame : IsFrame frame)
    (split : frame = received ++ missing) (cut : missing ≠ []) : recvStep w conn d received = none := by
  obtain ⟨channel, hi, lo, data, shape, size⟩ := isFrame
  rw [shape] at split
  have positive : 0 < missing.length := List.length_pos_iff.mpr cut
  have short : takeFrame received = none := by
    match received, split with
    | [], _ => rfl
    | [_], _ => rfl
    | [_, _], _ => rfl
    | [_, _, _], _ => rfl
    | _ :: _ :: high :: low :: body, split =>
        simp only [List.cons_append, List.cons.injEq] at split
        obtain ⟨_, _, rfl, rfl, rfl⟩ := split
        rw [List.length_append] at size
        rw [takeFrame, if_pos (by omega)]
  have dollar : received ≠ [] → received.head? = some 36 := by
    cases received with
    | nil => exact fun nonempty => absurd rfl nonempty
    | cons byte rest =>
        intro _
        rw [List.cons_append] at split
        rw [← (List.cons.inj split).1]
        rfl
  cases live : d.client? conn with
  | none => simp [recvStep, live]
  | some cli =>
      by_cases empty : received = []
      · simp [recvStep, live, empty]
      · simp [recvStep, live, empty, dollar empty, short]

theorem text_waits (w : World) (conn : ConnId) (d : Device) (text received missing : Bytes) (isText : IsText text)
    (split : text = received ++ missing) (cut : missing ≠ []) : recvStep w conn d received = none := by
  obtain ⟨⟨clean, front, shape, first⟩, notDollar⟩ := isText
  have positive : 0 < missing.length := List.length_pos_iff.mpr cut
  have total : received.length + missing.length = front.length + 4 := by
    rw [← List.length_append, ← split, shape]
    simp [crlf]
  have prefixClean : 0 ∉ received := fun member => clean (by rw [split]; simp [member])
  have unfinished : strstr received (crlf ++ crlf) = none := by
    rw [strstr, cstr_clean received prefixClean]
    cases found : findSub (crlf ++ crlf) received with
    | none => rfl
    | some index =>
        have whole := find_sub_append _ received missing index found
        rw [← split, first] at whole
        have bound := (find_sub_split _ received index found).choose_spec.2
        have same : front.length = index := Option.some.inj whole
        simp [crlf] at bound
        omega
  cases live : d.client? conn with
  | none => simp [recvStep, live]
  | some cli =>
      cases received with
      | nil => simp [recvStep, live]
      | cons byte rest =>
          have head : (byte :: rest).head? ≠ some 36 := by
            rw [split] at notDollar
            exact notDollar
          simp only [recvStep, live, if_neg (List.cons_ne_nil byte rest), if_neg head, unfinished, Option.map_none]

theorem dead_stuck (w : World) (conn : ConnId) (d : Device) (buf : Bytes) (dead : ¬ Live conn d) :
    recvStep w conn d buf = none := by
  have gone : d.client? conn = none := by simpa [Live] using dead
  simp [recvStep, gone]

theorem wire_message (w : World) (conn : ConnId) (message : Bytes) (wire : IsMessage message) :
    Chunked.Message (rtspReader w conn) (Live conn) message where
  taken := by
    intro d behind live
    obtain ⟨cli, found⟩ := Option.isSome_iff_exists.mp live
    rcases wire with ⟨channel, hi, lo, data, rfl, size⟩ | isText
    · exact ⟨_, _, recv_frame w conn d cli channel hi lo data behind found size⟩
    · exact ⟨_, _, recv_text w conn d cli message behind found isText⟩
  waits := by
    intro d received missing split cut
    rcases wire with isFrame | isText
    · exact frame_waits w conn d message received missing isFrame split cut
    · exact text_waits w conn d message received missing isText split cut

theorem gone_fits (w : World) (conn : ConnId) (d : Device) (chunks : List Bytes) (gone : d.client? conn = none) :
    Fits w conn d chunks := by
  induction chunks with
  | nil => trivial
  | cons chunk rest ih =>
      refine ⟨fun cli found => absurd found (by simp [gone]), ?_⟩
      simpa [rtspRecvHandler, gone] using ih

-- TCP_RXSZ_DEFAULT of libre.
def rxSize : Nat := 8192

-- Induction on the chunks: the rest carried over is part of one message, so it stays within the bound.
theorem sequence_fits (w : World) (conn : ConnId) (d : Device) (buf : Bytes) (chunks messages : List Bytes) (tail : Bytes)
    (held : Held conn d) (small : buf.length ≤ rxSize) (chunksSmall : ∀ chunk ∈ chunks, chunk.length ≤ rxSize)
    (inv : Chunked.Sequence (rtspReader w conn) (Live conn) rxSize messages tail)
    (stream : buf ++ chunks.flatten = messages.flatten ++ tail) : Fits w conn (d.setRbuf conn buf) chunks := by
  induction chunks generalizing d buf messages tail with
  | nil => trivial
  | cons chunk rest ih =>
      have chunkSmall := chunksSmall chunk (by simp)
      have fits : ∀ cli, (d.setRbuf conn buf).client? conn = some cli → (cli.rbuf ++ chunk).length ≤ rbufLimit := by
        intro cli found
        rw [client_set_rbuf] at found
        obtain ⟨old, _, rfl⟩ := Option.map_eq_some_iff.mp found
        rw [List.length_append]
        simp only [rxSize, rbufLimit] at *
        omega
      refine ⟨fits, ?_⟩
      obtain ⟨device, _, after⟩ := handler_feed w conn d [] buf chunk held fits
      rw [device]
      have joined : (buf ++ chunk) ++ rest.flatten = messages.flatten ++ tail := by
        rw [← stream]
        simp
      rcases Chunked.drain_sequence (rtspReader w conn) (Live conn) (dead_stuck w conn) rxSize messages tail inv d
        (buf ++ chunk) rest.flatten joined with dead | ⟨left, remaining, last, later, split⟩
      · have gone : (Chunked.drain (rtspReader w conn).step d (buf ++ chunk)).1.client? conn = none := by
          simpa [Live] using dead
        apply gone_fits
        rw [client_set_rbuf]
        exact Option.map_eq_none_iff.mpr gone
      · exact ih _ _ remaining last after left (fun other member => chunksSmall other (by simp [member])) later split

def requestTexts (outs : List Out) : List Bytes :=
  outs.filterMap fun out => match out with
    | .request _ text => some text
    | _ => none

def framesTaken (outs : List Out) : List (UInt8 × Bytes) :=
  outs.filterMap fun out => match out with
    | .frame _ channel data => some (channel, data)
    | _ => none

def payloadsPlayed (outs : List Out) : List Bytes :=
  outs.filterMap fun out => match out with
    | .played _ pcmu => some pcmu
    | _ => none

theorem seen_alike (left right : List Out) (same : left.map forgetCseq = right.map forgetCseq) :
    requestTexts left = requestTexts right ∧ framesTaken left = framesTaken right ∧
      payloadsPlayed left = payloadsPlayed right := by
  have texts : ∀ outs, requestTexts (outs.map forgetCseq) = requestTexts outs := by
    intro outs
    rw [requestTexts, List.filterMap_map]
    exact List.filterMap_congr fun out _ => by cases out <;> rfl
  have frames : ∀ outs, framesTaken (outs.map forgetCseq) = framesTaken outs := by
    intro outs
    rw [framesTaken, List.filterMap_map]
    exact List.filterMap_congr fun out _ => by cases out <;> rfl
  have payloads : ∀ outs, payloadsPlayed (outs.map forgetCseq) = payloadsPlayed outs := by
    intro outs
    rw [payloadsPlayed, List.filterMap_map]
    exact List.filterMap_congr fun out _ => by cases out <;> rfl
  refine ⟨?_, ?_, ?_⟩
  · rw [← texts left, same, texts]
  · rw [← frames left, same, frames]
  · rw [← payloads left, same, payloads]

theorem receive_all_alike (w : World) (conn : ConnId) (d : Device) (left right : List Bytes) (held : Held conn d)
    (sameStream : left.flatten = right.flatten) (leftFits : Fits w conn d left) (rightFits : Fits w conn d right) :
    (receiveAll w conn d left).1 = (receiveAll w conn d right).1 ∧
      (receiveAll w conn d left).2.map forgetCseq = (receiveAll w conn d right).2.map forgetCseq := by
  have same := set_rbuf_held d conn held
  have first := receive_all_feeds w conn d [] [] left held (by rw [same]; exact leftFits)
  have second := receive_all_feeds w conn d [] [] right held (by rw [same]; exact rightFits)
  rw [same] at first second
  have empty : (rtspReader w conn).step d [] = none := by
    change recvStep w conn d [] = none
    cases live : d.client? conn <;> simp [recvStep, live]
  obtain ⟨device, outs, rest⟩ := Chunked.chunking_unobservable (rtspReader w conn) (d, [], []) left right empty sameStream
  dsimp only [rtspReader] at device outs rest
  simp only [List.nil_append] at first second
  rw [first.1, first.2, second.1, second.2, device, rest]
  exact ⟨rfl, outs⟩

def residual (d : Device) (conn : ConnId) : Option Bytes := (d.client? conn).map RtspClient.rbuf

-- The stream starts when the connection was accepted: its record holds no bytes yet.
theorem receive_chunking_independent (w : World) (conn : ConnId) (d : Device)
    (fresh : ∀ cli ∈ d.clients, cli.tc = conn → cli.rbuf = []) :
    (∀ left right : List Bytes, left.flatten = right.flatten → Fits w conn d left → Fits w conn d right →
      requestTexts (receiveAll w conn d left).2 = requestTexts (receiveAll w conn d right).2 ∧
      framesTaken (receiveAll w conn d left).2 = framesTaken (receiveAll w conn d right).2 ∧
      payloadsPlayed (receiveAll w conn d left).2 = payloadsPlayed (receiveAll w conn d right).2 ∧
      residual (receiveAll w conn d left).1 conn = residual (receiveAll w conn d right).1 conn ∧
      (receiveAll w conn d left).1 = (receiveAll w conn d right).1) ∧
    ∀ (messages : List Bytes) (tail : Bytes) (chunks : List Bytes), chunks.flatten = messages.flatten ++ tail →
      (∀ message ∈ messages, IsMessage message ∧ message.length ≤ rxSize) → tail.length ≤ rxSize →
      (∀ chunk ∈ chunks, chunk.length ≤ rxSize) → Fits w conn d chunks := by
  constructor
  · intro left right sameStream leftFits rightFits
    obtain ⟨device, outs⟩ := receive_all_alike w conn d left right fresh sameStream leftFits rightFits
    obtain ⟨texts, frames, payloads⟩ := seen_alike _ _ outs
    exact ⟨texts, frames, payloads, by rw [device], device⟩
  · intro messages tail chunks stream wire tailSmall chunksSmall
    have inv : Chunked.Sequence (rtspReader w conn) (Live conn) rxSize messages tail :=
      ⟨fun message member => ⟨wire_message w conn message (wire message member).1, Nat.le_succ_of_le (wire message member).2⟩,
        tailSmall⟩
    rw [← set_rbuf_held d conn fresh]
    exact sequence_fits w conn d [] chunks messages tail fresh (by simp) chunksSmall inv (by simpa using stream)

def optionsText : Bytes := ascii "OPTIONS * RTSP/1.0\r\nCSeq: 1\r\n\r\n"

def oneClient : Device := { clients := [{ tc := 0, peer := ⟨0, 0⟩ }], nextConn := 1 }

theorem options_is_message : IsMessage optionsText :=
  Or.inr ⟨⟨by decide, ascii "OPTIONS * RTSP/1.0\r\nCSeq: 1", by decide, by decide⟩, by decide⟩

-- One request and the start of a '$' frame, cut inside the first CRLF and inside the frame header.
theorem receive_chunking_options :
    Fits sampleWorld 0 oneClient [optionsText ++ [36, 0, 0]] ∧
      framesTaken (receiveAll sampleWorld 0 oneClient [optionsText ++ [36, 0, 0]]).2 =
        framesTaken (receiveAll sampleWorld 0 oneClient [optionsText.take 19, optionsText.drop 19 ++ [36], [0, 0]]).2 ∧
      residual (receiveAll sampleWorld 0 oneClient [optionsText ++ [36, 0, 0]]).1 0 =
        residual (receiveAll sampleWorld 0 oneClient [optionsText.take 19, optionsText.drop 19 ++ [36], [0, 0]]).1 0 := by
  obtain ⟨alike, bounded⟩ := receive_chunking_independent sampleWorld 0 oneClient (by decide)
  have wire : ∀ message ∈ [optionsText], IsMessage message ∧ message.length ≤ rxSize := by
    intro message member
    rw [List.mem_singleton.mp member]
    exact ⟨options_is_message, by decide⟩
  have whole := bounded [optionsText] [36, 0, 0] [optionsText ++ [36, 0, 0]] (by decide) wire (by decide) (by decide)
  have pieces := bounded [optionsText] [36, 0, 0] [optionsText.take 19, optionsText.drop 19 ++ [36], [0, 0]] (by decide) wire
    (by decide) (by decide)
  have same := alike _ _ (by decide) whole pieces
  exact ⟨whole, same.2.1, same.2.2.2.1⟩

end Intercom
