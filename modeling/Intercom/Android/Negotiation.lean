import Intercom.System
import Intercom.Android.Connect

set_option autoImplicit false

/- What the app makes of the session description the device prints. The last media block of the description does
   not depend on anything: it is the talk-back track, and it says sendonly. -/
namespace Intercom.Android

open ByteText

def printedSdp (w : World) (d : Device) : Bytes :=
  sdpText (fetchParams w d).1.localIp (spropText (cameraGetSpsPps (fetchParams w d).1.cam))

theorem describe_prints (w : World) (d : Device) (cli : RtspClient) (req : RtspReq) :
    (handleDescribe w d cli req).2 =
      (fetchParams w d).2 ++ [rtspReply cli req.cseq 200 "OK" (.description req.uri) (printedSdp w d)] := rfl

structure RolesAgree (params : Option (Bytes × Bytes)) (tracks : Tracks) : Prop where
  video : ∃ track, tracks.video = some track ∧ track.controlUrl = text "trackID=0" ∧
    track.spropSps = params.map Prod.fst ∧ track.spropPps = params.map Prod.snd
  audio : ∃ track, tracks.audio = some track ∧ track.controlUrl = text "trackID=1"
  backchannel : ∃ track, tracks.backchannel = some track ∧ track.controlUrl = text "trackID=2"

structure AllPlaying (cli : RtspClient) : Prop where
  playing : cli.state = .playing
  video : cli.video.setup = true ∧ cli.video.interleaved = 0
  audio : cli.audio.setup = true ∧ cli.audio.interleaved = 2
  backchannel : cli.backchannelSetup = true ∧ cli.backchannelInterleaved = 4

def Agreement (w : World) (decode : Text → Option Bytes) (pick : Nat → Nat) (cfg : Config) (conn : ConnId) (link : Link) :
    Prop :=
  ∀ done, doConnect w decode pick cfg conn link = .ok done →
    (∃ tracks, parseSdp decode {} (ofAscii (printedSdp w link.server)) = some tracks ∧
      RolesAgree (cameraGetSpsPps (fetchParams w link.server).1.cam) tracks) ∧
    ∃ cli, done.server.client? conn = some cli ∧ AllPlaying cli

def sdpHead : List Bytes := [ascii "v=0\r\no=- 0 0 IN IP4 "]

def sdpVideo : List Bytes :=
  [ascii "\r\ns=Smart Lock Intercom\r\nc=IN IP4 0.0.0.0\r\nt=0 0\r\nm=video 0 RTP/AVP ", decimal ptH264.toNat,
    ascii "\r\na=rtpmap:", decimal ptH264.toNat, ascii " H264/90000\r\na=fmtp:", decimal ptH264.toNat,
    ascii " profile-level-id=42e01f;packetization-mode=1"]

def sdpAudio : List Bytes :=
  [ascii "\r\na=control:trackID=0\r\nm=audio 0 RTP/AVP ", decimal ptPcmu.toNat, ascii "\r\na=rtpmap:", decimal ptPcmu.toNat,
    ascii " PCMU/8000\r\na=ptime:", decimal 20, ascii "\r\na=control:trackID=1\r\nm=audio 0 RTP/AVP ", decimal ptPcmu.toNat,
    ascii "\r\na=rtpmap:", decimal ptPcmu.toNat, ascii " PCMU/8000\r\na=ptime:", decimal 20,
    ascii "\r\na=sendonly\r\na=control:trackID=2\r\n"]

def audioMedia : Bytes :=
  ascii "\r\na=control:trackID=0\r\nm=audio 0 RTP/AVP 0\r\na=rtpmap:0 PCMU/8000\r\na=ptime:20\r\na=control:trackID=1"

def talkBackMedia : Bytes :=
  ascii "m=audio 0 RTP/AVP 0\r\na=rtpmap:0 PCMU/8000\r\na=ptime:20\r\na=sendonly\r\na=control:trackID=2\r\n"

theorem sprop_length (params : Option (Bytes × Bytes)) : (spropText params).length ≤ 255 := by
  cases params with
  | none => simp [spropText]
  | some sets =>
      simp only [spropText]
      split
      · exact snprintf_length 256 _
      · simp

theorem fetch_params_ip (w : World) (d : Device) : (fetchParams w d).1.localIp = d.localIp := by
  rw [fetchParams]
  split
  · rfl
  · dsimp only
    split <;> rfl

-- The description fits its buffer, so its end is never cut off.
theorem sdp_ends (localIp sprop : Bytes) (address : localIp.length ≤ 63) (params : sprop.length ≤ 255) :
    ∃ front, sdpText localIp sprop = front ++ 13 :: 10 :: talkBackMedia := by
  have pieces : sdpText localIp sprop = snprintf 2048 (sdpHead ++ localIp :: (sdpVideo ++ sprop :: sdpAudio)) := rfl
  have headSize : sdpHead.flatten.length = 20 := by decide
  have videoSize : sdpVideo.flatten.length = 153 := by decide +kernel
  have audioSize : sdpAudio.flatten.length = 187 := by decide +kernel
  have audioEnd : sdpAudio.flatten = audioMedia ++ 13 :: 10 :: talkBackMedia := by decide +kernel
  have fits : (sdpHead ++ localIp :: (sdpVideo ++ sprop :: sdpAudio)).flatten.length < 2048 := by
    simp only [List.flatten_append, List.flatten_cons, List.length_append]
    omega
  refine ⟨sdpHead.flatten ++ (localIp ++ (sdpVideo.flatten ++ (sprop ++ audioMedia))), ?_⟩
  rw [pieces, snprintf_whole 2048 _ fits]
  simp only [List.flatten_append, List.flatten_cons, audioEnd, List.append_assoc]

def talkBackLines : List Text :=
  [text "m=audio 0 RTP/AVP 0", text "a=rtpmap:0 PCMU/8000", text "a=ptime:20", text "a=sendonly", text "a=control:trackID=2", []]

def talkBackBlock : Text :=
  text "m=audio 0 RTP/AVP 0\na=rtpmap:0 PCMU/8000\na=ptime:20\na=sendonly\na=control:trackID=2\n\n"

def talkBackTrack : TrackInfo := ⟨text "trackID=2", 0, 8000, .sendonly, none, none⟩

-- Induction on the lines in front; some line has always been taken into the current block before.
theorem media_blocks_last (early : List Text) (current : Text) (started : current ≠ [] ∨ early ≠ []) :
    ∃ blocks, mediaBlocksLoop (early ++ talkBackLines) current = blocks ++ [talkBackBlock] := by
  induction early generalizing current with
  | nil =>
      have more : current ≠ [] := by simpa using started
      have rest : mediaBlocksLoop talkBackLines.tail (text "m=audio 0 RTP/AVP 0" ++ [10]) = [talkBackBlock] := by decide +kernel
      have first : startsWith (text "m=audio 0 RTP/AVP 0") (text "m=") = true := by decide
      refine ⟨[current], ?_⟩
      rw [List.nil_append, talkBackLines, mediaBlocksLoop, first, if_pos (by simpa using more)]
      exact congrArg (current :: ·) rest
  | cons line early ih =>
      rw [List.cons_append, mediaBlocksLoop]
      split
      · obtain ⟨blocks, ends⟩ := ih (line ++ [10]) (.inl (by simp))
        exact ⟨current :: blocks, by rw [ends]; rfl⟩
      · exact ih (current ++ line ++ [10]) (.inl (by simp))

theorem parse_talk_back (decode : Text → Option Bytes) (tracks : Tracks) :
    parseBlock decode tracks talkBackBlock = some { tracks with audio := some talkBackTrack } := by
  have media : startsWith talkBackBlock (text "m=") = true := by decide +kernel
  have control : controlRe talkBackBlock = some (text "trackID=2") := by decide +kernel
  have mLine : (lines talkBackBlock).headD [] = text "m=audio 0 RTP/AVP 0" := by decide +kernel
  have pt : ((((text "m=audio 0 RTP/AVP 0").splitOn 32)[3]?).bind toIntOrNull).getD 0 = 0 := by decide +kernel
  have rate : ((rtpmapRe talkBackBlock).bind toIntOrNull).getD 0 = 8000 := by decide +kernel
  have direction : blockDirection talkBackBlock = .sendonly := by decide +kernel
  have sets : spropRe talkBackBlock = none := by decide +kernel
  have video : startsWith (text "m=audio 0 RTP/AVP 0") (text "m=video") = false := by decide
  have audio : startsWith (text "m=audio 0 RTP/AVP 0") (text "m=audio") = true := by decide
  simp only [parseBlock, media, control, mLine, pt, rate, direction, blockParams, sets, storeTrack, video, audio, if_true,
    Option.map_some]
  rfl

theorem parsed_audio_track (decode : Text → Option Bytes) (tracks parsed : Tracks) (localIp sprop : Bytes)
    (address : localIp.length ≤ 63) (params : sprop.length ≤ 255)
    (result : parseSdp decode tracks (ofAscii (sdpText localIp sprop)) = some parsed) :
    parsed.audio = some talkBackTrack := by
  obtain ⟨front, ends⟩ := sdp_ends localIp sprop address params
  have chars : ofAscii (sdpText localIp sprop) = ofAscii front ++ 13 :: 10 :: ofAscii talkBackMedia := by
    rw [ends, ofAscii, List.map_append]
    rfl
  have tail : lines (ofAscii talkBackMedia) = talkBackLines := by decide +kernel
  obtain ⟨blocks, last⟩ := media_blocks_last (lines (ofAscii front)) [] (.inr (lines_loop_nonempty false _))
  rw [parseSdp, mediaBlocks, chars, lines_crlf, tail, last, List.foldlM_append] at result
  cases early : blocks.foldlM (parseBlock decode) tracks with
  | none => simp [early] at result
  | some mid =>
      have parsedLast : { mid with audio := some talkBackTrack } = parsed := by
        simpa [early, List.foldlM, parse_talk_back] using result
      rw [← parsedLast]

theorem negotiation_never_agrees (w : World) (decode : Text → Option Bytes) (pick : Nat → Nat) (cfg : Config)
    (conn : ConnId) (link done : Link) (address : link.server.localIp.length ≤ 63)
    (completed : doConnect w decode pick cfg conn link = .ok done) : ¬ Agreement w decode pick cfg conn link := by
  intro agreement
  obtain ⟨⟨tracks, parsed, agree⟩, _⟩ := agreement done completed
  rw [← fetch_params_ip w] at address
  have audio := parsed_audio_track decode {} tracks _ _ address (sprop_length _) parsed
  obtain ⟨track, same, control⟩ := agree.audio
  rw [audio] at same
  cases same
  exact absurd control (by decide)

-- Base64.decode on padded text without white space.
def sextet (char : UInt16) : Option Nat := memchr char.toUInt8 base64Table

def base64Decode : Text → Option Bytes
  | [] => some []
  | a :: b :: c :: d :: rest =>
      match sextet a, sextet b, sextet c, sextet d with
      | some w, some x, some y, some z =>
          (base64Decode rest).map fun later =>
            UInt8.ofNat (w * 4 + x / 16) :: UInt8.ofNat (x * 16 + y / 4) :: UInt8.ofNat (y * 64 + z) :: later
      | some w, some x, some y, none =>
          if d = 61 ∧ rest = [] then some [UInt8.ofNat (w * 4 + x / 16), UInt8.ofNat (x * 16 + y / 4)] else none
      | some w, some x, none, none => if c = 61 ∧ d = 61 ∧ rest = [] then some [UInt8.ofNat (w * 4 + x / 16)] else none
      | _, _, _, _ => none
  | _ => none

def cameraWorld : World :=
  { sampleWorld with
    encode := fun _ =>
      { idr := true, layers := [([0, 0, 0, 1, 0x67, 0x42, 0xC0, 0, 0, 0, 1, 0x68, 0xCE, 0, 0, 0, 1, 0x65, 0x88], [7, 6, 6])] } }

def homeApp : Config := { host := text "192.168.1.5" }

def homeLink : Link :=
  ⟨{}, rtspConnHandler (initial cameraWorld (ascii "192.168.1.5") [] []) ⟨0xC0A80107, 40000⟩, ⟨[], 0⟩⟩

def homeRun : Except Failure Link := doConnect cameraWorld base64Decode (fun call => call) homeApp 0 homeLink

def homeOutcome : Option (Bool × Bool × Bool × UInt8) :=
  homeRun.toOption.bind fun done =>
    (done.server.client? 0).map fun cli =>
      (done.client.tracks.backchannel.isSome, cli.audio.setup, cli.backchannelSetup, cli.backchannelInterleaved)

theorem home_outcome : homeOutcome = some (false, false, true, 2) := by decide +kernel

theorem outcome_completed (run : Except Failure Link)
    (outcome : (run.toOption.bind fun done =>
      (done.server.client? 0).map fun cli =>
        (done.client.tracks.backchannel.isSome, cli.audio.setup, cli.backchannelSetup, cli.backchannelInterleaved)) =
      some (false, false, true, 2)) :
    ∃ done, run = .ok done ∧ done.client.tracks.backchannel = none ∧
      ∃ cli, done.server.client? 0 = some cli ∧ cli.audio.setup = false ∧ cli.backchannelSetup = true ∧
        cli.backchannelInterleaved = 2 := by
  cases run with
  | error failure => simp [Except.toOption] at outcome
  | ok done =>
      simp only [Except.toOption, Option.bind_some, Option.map_eq_some_iff, Prod.mk.injEq] at outcome
      obtain ⟨cli, found, noTalkBack, silent, talkBack, channel⟩ := outcome
      exact ⟨done, rfl, by simpa using noTalkBack, cli, found, silent, talkBack, channel⟩

theorem home_run_completes : ∃ done, homeRun = .ok done ∧ done.client.tracks.backchannel = none ∧
    ∃ cli, done.server.client? 0 = some cli ∧ cli.audio.setup = false ∧ cli.backchannelSetup = true ∧
      cli.backchannelInterleaved = 2 :=
  outcome_completed homeRun home_outcome

theorem home_app_disagrees : homeLink.server.auth.enabled = false ∧
    ¬ Agreement cameraWorld base64Decode (fun call => call) homeApp 0 homeLink := by
  obtain ⟨done, completed, _⟩ := home_run_completes
  have address : homeLink.server.localIp.length ≤ 63 := by decide
  exact ⟨rfl, negotiation_never_agrees cameraWorld base64Decode (fun call => call) homeApp 0 homeLink done address completed⟩

theorem connected_without_audio :
    ∃ done, doConnect cameraWorld base64Decode (fun call => call) homeApp 0 homeLink = .ok done ∧
      done.client.tracks.backchannel = none ∧
      (∃ cli, done.server.client? 0 = some cli ∧ cli.audio.setup = false ∧ cli.backchannelInterleaved = 2) ∧
      ¬ Agreement cameraWorld base64Decode (fun call => call) homeApp 0 homeLink := by
  obtain ⟨done, completed, noTalkBack, cli, found, silent, _, channel⟩ := home_run_completes
  refine ⟨done, completed, noTalkBack, ⟨cli, found, silent, channel⟩, ?_⟩
  intro agreement
  obtain ⟨_, other, sameRecord, playing⟩ := agreement done completed
  have same : other = cli := Option.some.inj (sameRecord.symm.trans found)
  rw [same] at playing
  exact absurd (silent.symm.trans playing.audio.1) (by decide)

end Intercom.Android
