import Intercom.Lib.Search
import Intercom.Rtsp.Frame

set_option autoImplicit false

/- Which track a SETUP sets up. The URI is read three times, each time for the first place where trackID=0, 1 or 2
   stands; a URI that names some other track is taken for one that names none. -/
namespace Intercom

open ByteText

def trackKey : Bytes := ascii "trackID="

def endsTrack (byte : UInt8) : Bool := byte == 47 || byte == 38 || byte == 59 || byte == 32

-- The values of all trackID parameters of a URI, each up to its terminator or the end.
def trackValues : Bytes → List Bytes
  | [] => []
  | byte :: rest =>
      if trackKey.isPrefixOf (byte :: rest) then ((byte :: rest).drop 8).takeWhile (! endsTrack ·) :: trackValues rest
      else trackValues rest

def trackNumber : Track → UInt8
  | .video => 0
  | .audio => 1
  | .backchannel => 2

def trackValue (track : Track) : Bytes := [48 + trackNumber track]

theorem mem_track_values (uri value : Bytes) :
    value ∈ trackValues uri ↔ ∃ index, trackKey <+: uri.drop index ∧ value = (uri.drop (index + 8)).takeWhile (! endsTrack ·) := by
  induction uri with
  | nil =>
      refine ⟨fun member => absurd member List.not_mem_nil, ?_⟩
      rintro ⟨index, hit, _⟩
      rw [List.drop_nil] at hit
      exact absurd (List.prefix_nil.mp hit) (by decide)
  | cons byte rest ih =>
      have step : value ∈ trackValues (byte :: rest) ↔
          (trackKey <+: byte :: rest ∧ value = ((byte :: rest).drop 8).takeWhile (! endsTrack ·)) ∨ value ∈ trackValues rest := by
        rw [trackValues]
        split
        · rename_i here
          rw [List.mem_cons]
          exact or_congr ⟨fun same => ⟨List.isPrefixOf_iff_prefix.mp here, same⟩, And.right⟩ Iff.rfl
        · rename_i elsewhere
          exact ⟨Or.inr, fun either => either.elim (fun here => absurd (List.isPrefixOf_iff_prefix.mpr here.1) elsewhere) id⟩
      rw [step, ih]
      refine ⟨?_, ?_⟩
      · rintro (⟨hit, same⟩ | ⟨index, hit, same⟩)
        · exact ⟨0, hit, same⟩
        · exact ⟨index + 1, hit, same⟩
      · rintro ⟨index, hit, same⟩
        cases index with
        | zero => exact Or.inl ⟨hit, same⟩
        | succ index => exact Or.inr ⟨index, hit, same⟩

theorem value_at (uri : Bytes) (index : Nat) (number : UInt8) (dark : endsTrack number = false)
    (hit : trackKey ++ [number] <+: uri.drop index) :
    ∃ value ∈ trackValues uri, value = number :: (uri.drop (index + 9)).takeWhile (! endsTrack ·) := by
  obtain ⟨key, next⟩ := (prefix_snoc trackKey (uri.drop index) number).mp hit
  have length : trackKey.length = 8 := by decide
  rw [List.getElem?_drop, length] at next
  refine ⟨_, (mem_track_values uri _).mpr ⟨index, key, rfl⟩, ?_⟩
  obtain ⟨inside, same⟩ := List.getElem?_eq_some_iff.mp next
  rw [List.drop_eq_getElem_cons inside, same, List.takeWhile_cons, if_pos (by rw [dark]; rfl)]

theorem names_unheard (uri : Bytes) (track : Track) (absent : ∀ value ∈ trackValues uri, value.head? ≠ some (48 + trackNumber track)) :
    namesTrack uri (trackNumber track) = false := by
  have dark : endsTrack (48 + trackNumber track) = false := by cases track <;> decide
  have missing : findSub (trackKey ++ [48 + trackNumber track]) uri = none := by
    apply find_sub_none
    intro index hit
    obtain ⟨value, member, rfl⟩ := value_at uri index _ dark hit
    exact absent _ member rfl
  rw [namesTrack, ← trackKey, missing]

theorem names_only (uri : Bytes) (track : Track) (some : trackValues uri ≠ [])
    (only : ∀ value ∈ trackValues uri, value = trackValue track) : namesTrack uri (trackNumber track) = true := by
  have dark : endsTrack (48 + trackNumber track) = false := by cases track <;> decide
  obtain ⟨value, others, list⟩ := List.exists_cons_of_ne_nil some
  have member : value ∈ trackValues uri := by
    rw [list]
    exact List.mem_cons_self
  obtain ⟨index, key, same⟩ := (mem_track_values uri value).mp member
  have number : uri[index + 8]? = Option.some (48 + trackNumber track) := by
    have head := congrArg List.head? (same.symm.trans (only value member))
    cases rest : uri.drop (index + 8) with
    | nil =>
        rw [rest] at head
        cases head
    | cons byte tail =>
        rw [rest, List.takeWhile_cons] at head
        split at head
        · rw [← List.head?_drop, rest]
          exact head
        · cases head
  have hit : trackKey ++ [48 + trackNumber track] <+: uri.drop index := by
    refine (prefix_snoc trackKey _ _).mpr ⟨key, ?_⟩
    rw [List.getElem?_drop]
    exact number
  cases found : findSub (trackKey ++ [48 + trackNumber track]) uri with
  | none => exact absurd hit (find_sub_miss _ uri found index)
  | some place =>
      obtain ⟨other, listed, shape⟩ := value_at uri place _ dark (find_sub_hit _ uri place found)
      have bare : (uri.drop (place + 9)).takeWhile (! endsTrack ·) = [] :=
        (List.cons.inj (shape.symm.trans (only other listed))).2
      rw [namesTrack, ← trackKey, found]
      dsimp only
      cases next : uri[place + 9]? with
      | none => rfl
      | some char =>
          obtain ⟨inside, rfl⟩ := List.getElem?_eq_some_iff.mp next
          rw [List.drop_eq_getElem_cons inside, List.takeWhile_cons] at bare
          split at bare
          · cases bare
          · rename_i ends
            rw [Bool.not_eq_true', Bool.not_eq_false] at ends
            exact ends

def chosenTrack (cli : RtspClient) (uri : Bytes) : Track :=
  let flags := chooseTrack cli uri
  if flags.isVideo then .video else if flags.isBackchannel then .backchannel else .audio

theorem chosen_only (cli : RtspClient) (uri : Bytes) (track : Track) (some : trackValues uri ≠ [])
    (only : ∀ value ∈ trackValues uri, value = trackValue track) : chosenTrack cli uri = track := by
  have named := names_only uri track some only
  have others (other : Track) (apart : other ≠ track) : namesTrack uri (trackNumber other) = false := by
    apply names_unheard
    intro value member
    rw [only value member]
    cases track <;> cases other <;> first | exact absurd rfl apart | decide
  cases track with
  | video => simp [chosenTrack, chooseTrack, show namesTrack uri 0 = true from named]
  | audio =>
      have video : namesTrack uri 0 = false := others .video (by decide)
      have back : namesTrack uri 2 = false := others .backchannel (by decide)
      simp [chosenTrack, chooseTrack, show namesTrack uri 1 = true from named, video, back]
  | backchannel =>
      have video : namesTrack uri 0 = false := others .video (by decide)
      simp [chosenTrack, chooseTrack, show namesTrack uri 2 = true from named, video]

theorem chosen_default (cli : RtspClient) (uri : Bytes) (none : trackValues uri = []) :
    chosenTrack cli uri = if cli.video.setup then .audio else .video := by
  have silent (track : Track) : namesTrack uri (trackNumber track) = false := by
    apply names_unheard
    intro value member
    rw [none] at member
    exact absurd member List.not_mem_nil
  have video : namesTrack uri 0 = false := silent .video
  have audio : namesTrack uri 1 = false := silent .audio
  have back : namesTrack uri 2 = false := silent .backchannel
  cases setup : cli.video.setup <;> simp [chosenTrack, chooseTrack, video, audio, back, setup]

def asksVideo (cli : RtspClient) (uri : Bytes) : Bool :=
  namesTrack uri 0 || (!namesTrack uri 1 && !namesTrack uri 2 && !cli.video.setup)

inductive NumberKind where
  | interleaved
  | clientPort
deriving DecidableEq, Repr

def Transport.numbers : Transport → NumberKind × Nat × Nat
  | .tcp rtp rtcp _ => (.interleaved, rtp.toNat, rtcp.toNat)
  | .udp rtp rtcp _ _ => (.clientPort, rtp.toNat, rtcp.toNat)

def setupNumbers (cli : RtspClient) (req : RtspReq) : NumberKind × Nat × Nat :=
  if isTcpTransport req.transport then
    let channels := (parseInterleaved req.transport).getD (if asksVideo cli req.uri then (0, 1) else (2, 3))
    (.interleaved, channels.1.toNat, channels.2.toNat)
  else
    let ports := (parseClientPort req.transport).getD (0, 0)
    (.clientPort, ports.1.toNat, ports.2.toNat)

-- The SETUPs that are answered 200. Without TCP the client must be on this host, not ask for the back channel, name
-- its ports and find a socket for the track.
def setupAccepted (w : World) (d : Device) (cli : RtspClient) (req : RtspReq) : Bool :=
  isTcpTransport req.transport ||
    (!namesTrack req.uri 2 && saIsLoopback cli.peer && (findSub (ascii "client_port=") req.transport).isSome &&
      ((if asksVideo cli req.uri then cli.video.sock else cli.audio.sock).isSome || (w.udpListen d.calls).isSome))

theorem choose_video (cli : RtspClient) (uri : Bytes) : (chooseTrack cli uri).isVideo = asksVideo cli uri := by
  rw [chooseTrack, asksVideo]
  cases namesTrack uri 0 <;> cases namesTrack uri 1 <;> cases namesTrack uri 2 <;> cases cli.video.setup <;> rfl

theorem choose_backchannel (cli : RtspClient) (uri : Bytes) : (chooseTrack cli uri).isBackchannel = namesTrack uri 2 := by
  rw [chooseTrack]
  cases namesTrack uri 0 <;> cases namesTrack uri 1 <;> cases namesTrack uri 2 <;> cases cli.video.setup <;> rfl

def Out.setupSeen? : Out → Option (Track × NumberKind × Nat × Nat)
  | .reply _ answer =>
      match answer.extra with
      | .setup track transport => if answer.code = 200 then some (track, transport.numbers) else none
      | _ => none
  | _ => none

theorem finish_setup_seen (w : World) (d : Device) (cli : RtspClient) (req : RtspReq) (track : Track) (transport : Transport) :
    (finishSetup w d cli req track transport).2.2.filterMap Out.setupSeen? = [(track, transport.numbers)] := by
  obtain ⟨id, _, result⟩ := finish_setup_result w d cli req track transport
  rw [result]
  rfl

theorem setup_tcp_seen (w : World) (d : Device) (cli : RtspClient) (req : RtspReq) (tcp : isTcpTransport req.transport = true) :
    (setupTcp w d cli req (chooseTrack cli req.uri)).2.2.filterMap Out.setupSeen? = [(chosenTrack cli req.uri, setupNumbers cli req)] := by
  rw [setupTcp, chosenTrack, setupNumbers, if_pos tcp, ← choose_video]
  dsimp only
  split
  · exact finish_setup_seen ..
  · split
    · exact finish_setup_seen ..
    · exact finish_setup_seen ..

theorem setup_udp_track_seen (w : World) (d : Device) (cli : RtspClient) (req : RtspReq) (track : Track) (old : RtpTrack)
    (write : RtpTrack → RtspClient) (ports : UInt16 × UInt16) :
    (setupUdpTrack w d cli req track old write ports).2.2.filterMap Out.setupSeen? =
      if old.sock.isSome || (w.udpListen d.calls).isSome then [(track, .clientPort, ports.1.toNat, ports.2.toNat)] else [] := by
  rw [setupUdpTrack, allocRtpSocket]
  cases old.sock with
  | some sock => exact finish_setup_seen ..
  | none =>
      cases w.udpListen d.calls with
      | none => rfl
      | some port => exact finish_setup_seen ..

theorem client_port_named (transport : Bytes) : (findSub (ascii "client_port=") transport).isSome = (parseClientPort transport).isSome := by
  rw [parseClientPort, Option.isSome_map]

theorem setup_udp_seen (w : World) (d : Device) (cli : RtspClient) (req : RtspReq) (udp : isTcpTransport req.transport = false) :
    (setupUdp w d cli req (chooseTrack cli req.uri)).2.2.filterMap Out.setupSeen? =
      if !namesTrack req.uri 2 && saIsLoopback cli.peer && (findSub (ascii "client_port=") req.transport).isSome &&
          ((if asksVideo cli req.uri then cli.video.sock else cli.audio.sock).isSome || (w.udpListen d.calls).isSome)
      then [(chosenTrack cli req.uri, setupNumbers cli req)] else [] := by
  rw [setupUdp, chosenTrack, choose_backchannel, choose_video, client_port_named, setupNumbers, udp]
  cases namesTrack req.uri 2 with
  | true => rfl
  | false =>
      cases saIsLoopback cli.peer with
      | false => rfl
      | true =>
          cases parseClientPort req.transport with
          | none => rfl
          | some ports =>
              cases asksVideo cli req.uri with
              | true => exact setup_udp_track_seen w d cli req .video cli.video (fun track => { cli with video := track }) ports
              | false => exact setup_udp_track_seen w d cli req .audio cli.audio (fun track => { cli with audio := track }) ports

theorem handle_setup_seen (w : World) (d : Device) (cli : RtspClient) (req : RtspReq) :
    (handleSetup w d cli req).2.2.filterMap Out.setupSeen? =
      if setupAccepted w d cli req then [(chosenTrack cli req.uri, setupNumbers cli req)] else [] := by
  rw [handleSetup, setupAccepted]
  cases mode : isTcpTransport req.transport with
  | true => exact setup_tcp_seen w d cli req mode
  | false => exact setup_udp_seen w d cli req mode

-- Either the SETUP is refused, and nothing is answered 200, or it is carried out for the chosen track.
theorem handle_setup_answer (w : World) (d : Device) (cli : RtspClient) (req : RtspReq) :
    (setupAccepted w d cli req = false ∧ ∀ conn answer, Out.reply conn answer ∈ (handleSetup w d cli req).2.2 → answer.code ≠ 200) ∨
    (setupAccepted w d cli req = true ∧ ∃ track transport after, SetupDone cli track transport after ∧ chosenTrack cli req.uri = track ∧
      transport.numbers = setupNumbers cli req ∧
      (handleSetup w d cli req).2 = (after, [rtspReply after req.cseq 200 "OK" (.setup track transport) []])) := by
  have seen := handle_setup_seen w d cli req
  rcases handle_setup_outcome w d cli req with ⟨code, reason, refusal, result⟩ | ⟨track, transport, after, done, result⟩
  · left
    rw [result] at seen ⊢
    refine ⟨?_, fun conn answer member ok => ?_⟩
    · cases accepted : setupAccepted w d cli req with
      | false => rfl
      | true =>
          rw [accepted] at seen
          cases seen
    · cases List.mem_singleton.mp member
      have known : (200, reason) ∈ setupRefusals := by
        rw [← ok]
        exact refusal
      simp [setupRefusals] at known
  · right
    rw [result] at seen
    cases accepted : setupAccepted w d cli req with
    | false =>
        rw [accepted] at seen
        cases seen
    | true =>
        rw [accepted] at seen
        obtain ⟨chosen, numbers⟩ := Prod.mk.inj (List.cons.inj seen).1
        exact ⟨rfl, track, transport, after, done, chosen.symm, numbers, result⟩

def SetsUp (before after : RtspClient) : Track → Prop
  | .video => after.video.setup = true ∧ after.audio = before.audio ∧ after.backchannelSetup = before.backchannelSetup ∧
      after.backchannelInterleaved = before.backchannelInterleaved ∧
      after.backchannelInterleavedRtcp = before.backchannelInterleavedRtcp
  | .audio => after.audio.setup = true ∧ after.video = before.video ∧ after.backchannelSetup = before.backchannelSetup ∧
      after.backchannelInterleaved = before.backchannelInterleaved ∧
      after.backchannelInterleavedRtcp = before.backchannelInterleavedRtcp
  | .backchannel => after.backchannelSetup = true ∧ after.video = before.video ∧ after.audio = before.audio

theorem setup_done_sets (cli after : RtspClient) (track : Track) (transport : Transport) (done : SetupDone cli track transport after) :
    SetsUp cli after track := by
  cases done with
  | tcpVideo => exact ⟨rfl, rfl, rfl, rfl, rfl⟩
  | tcpAudio => exact ⟨rfl, rfl, rfl, rfl, rfl⟩
  | tcpBackchannel => exact ⟨rfl, rfl, rfl⟩
  | udpVideo => exact ⟨rfl, rfl, rfl, rfl, rfl⟩
  | udpAudio => exact ⟨rfl, rfl, rfl, rfl, rfl⟩

-- A SETUP answered 200 sets up one track: the one every trackID of the URI names. A URI with any other trackID is not
-- answered 200, and only one without any falls back to video first and audio next.
def TrackExact (cli : RtspClient) (uri : Bytes) (after : RtspClient) (outs : List Out) : Prop :=
  ∀ conn answer, Out.reply conn answer ∈ outs → answer.code = 200 →
    ∃ track, SetsUp cli after track ∧
      (∀ other, trackValue other ∈ trackValues uri → track = other) ∧
      (∀ value ∈ trackValues uri, ∃ other, value = trackValue other) ∧
      (trackValues uri = [] → track = if cli.video.setup then .audio else .video)

def Uniform (uri : Bytes) : Prop := ∃ track, ∀ value ∈ trackValues uri, value = trackValue track

theorem track_value_inj (one other : Track) (same : trackValue one = trackValue other) : one = other := by
  revert same
  cases one <;> cases other <;> decide

theorem setup_track_exact (w : World) (d : Device) (cli : RtspClient) (req : RtspReq) :
    TrackExact cli req.uri (handleSetup w d cli req).2.1 (handleSetup w d cli req).2.2 ↔
      (setupAccepted w d cli req = true → Uniform req.uri) := by
  rcases handle_setup_answer w d cli req with ⟨refused, silent⟩ | ⟨accepted, track, transport, after, done, chosen, _, result⟩
  · refine ⟨fun _ accepted => absurd (refused.symm.trans accepted) Bool.false_ne_true, fun _ conn answer member ok => ?_⟩
    exact absurd ok (silent conn answer member)
  · have sets := setup_done_sets cli after track transport done
    rw [result]
    refine ⟨fun exact_ _ => ?_, fun uniform conn answer member ok => ?_⟩
    · obtain ⟨found, _, named, known, _⟩ := exact_ _ _ (List.mem_singleton.mpr rfl) rfl
      refine ⟨found, fun value member => ?_⟩
      obtain ⟨other, same⟩ := known value member
      rw [same, named other (by rw [← same]; exact member)]
    · obtain ⟨only, each⟩ := uniform accepted
      refine ⟨track, sets, fun other member => ?_, fun value member => ⟨only, each value member⟩, fun none => ?_⟩
      · rw [← chosen, chosen_only cli req.uri only (List.ne_nil_of_mem member) each]
        exact (track_value_inj other only (each _ member)).symm
      · rw [← chosen]
        exact chosen_default cli req.uri none

def freshClient : RtspClient := { tc := 0, peer := ⟨0x7F000001, 5000⟩ }

def tenthTrack : RtspReq := { method := ascii "SETUP", uri := ascii "rtsp://door/trackID=10", transport := ascii "RTP/AVP/TCP" }

theorem tenth_track_sets_video :
    (handleSetup sampleWorld {} freshClient tenthTrack).2.1.video.setup = true ∧
      trackValues tenthTrack.uri = [ascii "10"] ∧
      ¬TrackExact freshClient tenthTrack.uri (handleSetup sampleWorld {} freshClient tenthTrack).2.1
        (handleSetup sampleWorld {} freshClient tenthTrack).2.2 := by
  have values : trackValues tenthTrack.uri = [ascii "10"] := by decide
  refine ⟨by decide, values, fun exact_ => ?_⟩
  obtain ⟨track, _, _, known, _⟩ := exact_ _ _ (List.mem_singleton.mpr rfl) rfl
  obtain ⟨other, same⟩ := known (ascii "10") (by rw [values]; exact List.mem_singleton.mpr rfl)
  revert same
  cases other <;> decide

end Intercom
