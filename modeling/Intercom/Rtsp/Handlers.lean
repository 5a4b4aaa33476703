import Intercom.Device

set_option autoImplicit false

/- The method handlers of rtsp_server.c. A handler gets the client record by value and returns it; the caller
   writes it back into the list. -/
namespace Intercom

open ByteText

def rtspReply (cli : RtspClient) (cseq : Int) (code : Nat) (reason : String) (extra : Extra) (body : Bytes) : Out :=
  .reply cli.tc { cseq, code, reason := ascii reason, extra, body
                  session := if 200 ≤ code ∧ code < 300 then cli.sessionId else none }

-- tcp_interleaved_send or udp_send; udp_send refuses a missing socket.
def sendRtp (cli : RtspClient) (track : RtpTrack) (packet : RtpPacket) : List Out :=
  if cli.interleaved then [.interleaved cli.tc track.interleaved packet]
  else if track.sock.isSome then [.datagram cli.tc track.dest packet]
  else [.undelivered cli.tc packet]

def videoPacket (cli : RtspClient) (part : Bool × Bytes) : RtpPacket :=
  { hdr := { m := part.1, pt := ptH264, seq := cli.video.seq, ts := cli.video.ts, ssrc := cli.video.ssrc }
    payload := part.2 }

def sendVideoPart (cli : RtspClient) (part : Bool × Bytes) : RtspClient × List Out :=
  ({ cli with video.seq := cli.video.seq + 1 }, sendRtp cli cli.video (videoPacket cli part))

def sendVideoParts : RtspClient → List (Bool × Bytes) → RtspClient × List Out
  | cli, [] => (cli, [])
  | cli, part :: rest =>
      let sent := sendVideoPart cli part
      let later := sendVideoParts sent.1 rest
      (later.1, sent.2 ++ later.2)

def sendH264NaluToClient (cli : RtspClient) (nalu : Bytes) (isLastNalu : Bool) : RtspClient × List Out :=
  sendVideoParts cli (packetise nalu isLastNalu)

def sendNalus : RtspClient → List Bytes → RtspClient × List Out
  | cli, [] => (cli, [])
  | cli, nalu :: rest =>
      let sent := sendH264NaluToClient cli nalu rest.isEmpty
      let later := sendNalus sent.1 rest
      (later.1, sent.2 ++ later.2)

def videoTick : UInt32 := 90000 / 15

def sendFrame (cli : RtspClient) (nalus : List Bytes) : RtspClient × List Out :=
  let sent := sendNalus cli nalus
  ({ sent.1 with video.ts := sent.1.video.ts + videoTick }, sent.2)

def audioPacket (cli : RtspClient) (pcmu : Bytes) : RtpPacket :=
  { hdr := { pt := ptPcmu, seq := cli.audio.seq, ts := cli.audio.ts, ssrc := cli.audio.ssrc }, payload := pcmu }

def sendAudioBlock (cli : RtspClient) (pcmu : Bytes) : RtspClient × List Out :=
  ({ cli with audio.seq := cli.audio.seq + 1, audio.ts := cli.audio.ts + 160 }, sendRtp cli cli.audio (audioPacket cli pcmu))

-- One locked read of the ring; the capture thread may have run since the last one.
def readMic (w : World) (d : Device) (count : Nat) : Device × List Int :=
  let got := audioInRead count (enqueueToRing d.ain (w.captured d.calls))
  ({ d with ain := got.1, calls := d.calls + 1 }, got.2)

def encodeBlock (w : World) (samples : List Int) : Bytes :=
  (samples ++ List.replicate (audioSamples - samples.length) 0).map w.pcm2ulaw

def nextBlock (w : World) (d : Device) : Device × Bytes × List Out :=
  if d.micOpened then
    let got := readMic w d audioSamples
    (got.1, encodeBlock w got.2, [.block got.2])
  else (d, encodeBlock w [], [])

def getFrame (w : World) (d : Device) : Device × Option (List Bytes) × List Out :=
  let got := cameraGetFrame (w.encode d.calls) d.cam
  ({ d with cam := got.1, calls := d.calls + 1 }, got.2.map CameraFrame.nalus,
    (got.2.map fun frame => Out.pulled frame.nalus).toList)

def openCamera (w : World) (d : Device) : Device × Opening :=
  let result := cameraOpen (w.encoderReady d.calls) d.cam
  ({ d with cam := result.1, calls := d.calls + 1 }, result.2)

def openSpeaker (w : World) (d : Device) : Device × Bool :=
  let result := audioOutOpen (w.speakerReady d.calls) d.aout
  ({ d with aout := result.1, calls := d.calls + 1 }, result.2)

def openMic (w : World) (d : Device) : Device :=
  if d.micOpened then d
  else
    let result := audioInOpen (w.micReady d.calls) d.ain
    { d with ain := result.1, micOpened := result.2, calls := d.calls + 1 }

def startTimers (d : Device) : Device := { d with tmrVideo := true, tmrAudio := true }

-- A camera that cannot be opened leaves the microphone and the timers alone.
def ensureMediaStarted (w : World) (d : Device) : Device :=
  if d.cameraOpened then startTimers (openMic w d)
  else
    let result := openCamera w d
    if result.2 = .failed then result.1
    else startTimers (openMic w { result.1 with cameraOpened := true })

def handleOptions (cli : RtspClient) (req : RtspReq) : List Out := [rtspReply cli req.cseq 200 "OK" .methods []]

def base64Table : Bytes := ascii "ABCDEFGHIJKLMNOPQRSTUVWXYZabcdefghijklmnopqrstuvwxyz0123456789+/"

def base64Char (value : Nat) : UInt8 := base64Table.getD (value % 64) 0

-- libre's base64_encode; three input bytes at a time.
def base64Encode : Bytes → Bytes
  | [] => []
  | [a] =>
      let v := a.toNat * 65536
      [base64Char (v / 262144), base64Char (v / 4096), 61, 61]
  | [a, b] =>
      let v := a.toNat * 65536 + b.toNat * 256
      [base64Char (v / 262144), base64Char (v / 4096), base64Char (v / 64), 61]
  | a :: b :: c :: rest =>
      let v := a.toNat * 65536 + b.toNat * 256 + c.toNat
      base64Char (v / 262144) :: base64Char (v / 4096) :: base64Char (v / 64) :: base64Char v :: base64Encode rest

def spropText (params : Option (Bytes × Bytes)) : Bytes :=
  match params with
  | none => []
  | some (sps, pps) =>
      let spsB64 := base64Encode sps
      let ppsB64 := base64Encode pps
      if spsB64.length ≤ 127 ∧ ppsB64.length ≤ 127 then
        snprintf 256 [ascii ";sprop-parameter-sets=", spsB64, ascii ",", ppsB64]
      else []

def sdpText (localIp sprop : Bytes) : Bytes :=
  snprintf 2048 [ascii "v=0\r\no=- 0 0 IN IP4 ", localIp,
    ascii "\r\ns=Smart Lock Intercom\r\nc=IN IP4 0.0.0.0\r\nt=0 0\r\nm=video 0 RTP/AVP ", decimal ptH264.toNat,
    ascii "\r\na=rtpmap:", decimal ptH264.toNat, ascii " H264/90000\r\na=fmtp:", decimal ptH264.toNat,
    ascii " profile-level-id=42e01f;packetization-mode=1", sprop,
    ascii "\r\na=control:trackID=0\r\nm=audio 0 RTP/AVP ", decimal ptPcmu.toNat, ascii "\r\na=rtpmap:", decimal ptPcmu.toNat,
    ascii " PCMU/8000\r\na=ptime:", decimal 20, ascii "\r\na=control:trackID=1\r\nm=audio 0 RTP/AVP ", decimal ptPcmu.toNat,
    ascii "\r\na=rtpmap:", decimal ptPcmu.toNat, ascii " PCMU/8000\r\na=ptime:", decimal 20,
    ascii "\r\na=sendonly\r\na=control:trackID=2\r\n"]

-- Without cached parameter sets one frame is encoded to obtain them, even while others are playing.
def fetchParams (w : World) (d : Device) : Device × List Out :=
  if (cameraGetSpsPps d.cam).isSome then (d, [])
  else
    let result := openCamera w d
    let pulled :=
      if result.2 = .failed then (result.1, [])
      else
        let got := getFrame w { result.1 with cam := cameraRequestKeyframe result.1.cam }
        (got.1, got.2.2)
    ({ pulled.1 with cameraOpened := pulled.1.cameraOpened || decide (result.2 = .opened) }, pulled.2)

def handleDescribe (w : World) (d : Device) (cli : RtspClient) (req : RtspReq) : Device × List Out :=
  let fetched := fetchParams w d
  let sdp := sdpText fetched.1.localIp (spropText (cameraGetSpsPps fetched.1.cam))
  (fetched.1, fetched.2 ++ [rtspReply cli req.cseq 200 "OK" (.description req.uri) sdp])

structure TrackFlags where
  isVideo : Bool
  isAudio : Bool
  isBackchannel : Bool
deriving DecidableEq, Repr

def chooseTrack (cli : RtspClient) (uri : Bytes) : TrackFlags :=
  let named : TrackFlags := ⟨namesTrack uri 0, namesTrack uri 1, namesTrack uri 2⟩
  if named.isVideo || named.isAudio || named.isBackchannel then named
  else if cli.video.setup then ⟨false, true, false⟩
  else ⟨true, false, false⟩

def finishSetup (w : World) (d : Device) (cli : RtspClient) (req : RtspReq) (track : Track) (transport : Transport) :
    Device × RtspClient × List Out :=
  let cli := { cli with state := .ready }
  match cli.sessionId with
  | some _ => (d, cli, [rtspReply cli req.cseq 200 "OK" (.setup track transport) []])
  | none =>
      let cli := { cli with sessionId := some (w.randU32 d.calls) }
      ({ d with calls := d.calls + 1 }, cli, [rtspReply cli req.cseq 200 "OK" (.setup track transport) []])

def setupTcp (w : World) (d : Device) (cli : RtspClient) (req : RtspReq) (flags : TrackFlags) :
    Device × RtspClient × List Out :=
  let channels := (parseInterleaved req.transport).getD (if flags.isVideo then (0, 1) else (2, 3))
  let cli := { cli with interleaved := true }
  let ssrc := w.randU32 d.calls
  if flags.isVideo then
    let video := { cli.video with interleaved := channels.1, interleavedRtcp := channels.2, ssrc := ssrc, setup := true }
    finishSetup w { d with calls := d.calls + 1 } { cli with video := video } req .video (.tcp channels.1 channels.2 (some ssrc))
  else if flags.isBackchannel then
    finishSetup w d { cli with
      backchannelInterleaved := channels.1, backchannelInterleavedRtcp := channels.2, backchannelSetup := true }
      req .backchannel (.tcp channels.1 channels.2 none)
  else
    let audio := { cli.audio with interleaved := channels.1, interleavedRtcp := channels.2, ssrc := ssrc, setup := true }
    finishSetup w { d with calls := d.calls + 1 } { cli with audio := audio } req .audio (.tcp channels.1 channels.2 (some ssrc))

-- alloc_rtp_socket and the SSRC that goes with a new socket; a track that owns one keeps both.
def allocRtpSocket (w : World) (d : Device) (track : RtpTrack) : Device × Option RtpTrack :=
  match track.sock with
  | some _ => (d, some track)
  | none =>
      match w.udpListen d.calls with
      | none => ({ d with calls := d.calls + 1 }, none)
      | some port =>
          ({ d with calls := d.calls + 2 },
            some { track with sock := some d.calls, srvPort := port, ssrc := w.randU32 (d.calls + 1) })

def setupUdpTrack (w : World) (d : Device) (cli : RtspClient) (req : RtspReq) (track : Track)
    (old : RtpTrack) (write : RtpTrack → RtspClient) (ports : UInt16 × UInt16) : Device × RtspClient × List Out :=
  match allocRtpSocket w d old with
  | (d, none) => (d, cli, [rtspReply cli req.cseq 500 "Internal Error" .none []])
  | (d, some fresh) =>
      finishSetup w d (write { fresh with dest := ⟨cli.peer.addr, ports.1⟩, setup := true }) req track
        (.udp ports.1 ports.2 fresh.srvPort fresh.ssrc)

def setupUdp (w : World) (d : Device) (cli : RtspClient) (req : RtspReq) (flags : TrackFlags) :
    Device × RtspClient × List Out :=
  let refused := (d, cli, [rtspReply cli req.cseq 461 "Unsupported Transport" .none []])
  if flags.isBackchannel then refused
  else if !saIsLoopback cli.peer then refused
  else
    match parseClientPort req.transport with
    | none => refused
    | some ports =>
        if flags.isVideo then setupUdpTrack w d cli req .video cli.video (fun track => { cli with video := track }) ports
        else setupUdpTrack w d cli req .audio cli.audio (fun track => { cli with audio := track }) ports

def handleSetup (w : World) (d : Device) (cli : RtspClient) (req : RtspReq) : Device × RtspClient × List Out :=
  let flags := chooseTrack cli req.uri
  if isTcpTransport req.transport then setupTcp w d cli req flags else setupUdp w d cli req flags

def openBackchannel (w : World) (d : Device) (cli : RtspClient) : Device × RtspClient :=
  if cli.backchannelSetup && !cli.audioOutOpened then
    let result := openSpeaker w d
    (result.1, { cli with audioOutOpened := result.2 })
  else (d, cli)

-- The immediate frame goes to the client that asked, whether or not it set up video.
def immediateVideo (w : World) (d : Device) (cli : RtspClient) : Device × RtspClient × List Out :=
  let got := getFrame w d
  match got.2.1 with
  | none => (got.1, cli, got.2.2)
  | some nalus =>
      let sent := sendFrame cli nalus
      ({ got.1 with videoFrameCount := got.1.videoFrameCount + 1 }, sent.1, got.2.2 ++ sent.2)

def immediateAudio (w : World) (d : Device) (cli : RtspClient) : Device × RtspClient × List Out :=
  if cli.audio.setup then
    let got := nextBlock w d
    let sent := sendAudioBlock cli got.2.1
    (got.1, sent.1, got.2.2 ++ sent.2)
  else (d, cli, [])

def handlePlay (w : World) (d : Device) (cli : RtspClient) (req : RtspReq) : Device × RtspClient × List Out :=
  if cli.state = .idle then (d, cli, [rtspReply cli req.cseq 455 "Method Not Valid in This State" .none []])
  else
    let cli := { cli with state := .playing }
    let d := ensureMediaStarted w d
    let d := { d with cam := cameraRequestKeyframe d.cam }
    let info := Extra.rtpInfo req.uri cli.video.seq cli.video.ts cli.audio.seq cli.audio.ts cli.backchannelSetup
    let talk := openBackchannel w d cli
    let reply := rtspReply talk.2 req.cseq 200 "OK" info []
    let video := immediateVideo w talk.1 talk.2
    let audio := immediateAudio w video.1 video.2.1
    (audio.1, audio.2.1, reply :: (video.2.2 ++ audio.2.2))

def handleTeardown (d : Device) (cli : RtspClient) (req : RtspReq) : Device × List Out :=
  let idle := { cli with state := .idle }
  ((maybeStopMedia (d.put idle)).free idle, [rtspReply cli req.cseq 200 "OK" .none []])

end Intercom
