import Intercom.Rtsp.Handlers

set_option autoImplicit false

/- POST and DELETE /api/call of http_server.c and the session behind them (session.c). -/
namespace Intercom

open ByteText

-- session_destructor closes both devices, whoever opened them.
def sessionDestructor (d : Device) : Device := { d with cam := cameraClose d.cam, aout := audioOutClose d.aout }

def endSession (d : Device) : Device :=
  match d.sess with
  | none => d
  | some _ => sessionDestructor { d with sess := none }

-- The SSRCs are drawn before the devices are touched; a failure after that runs the destructor.
def sessionAlloc (w : World) (d : Device) (peer : Sa) : Device × Bool :=
  let videoSsrc := w.randU32 (d.calls + 1)
  let camera := openCamera w { d with calls := d.calls + 2 }
  if camera.2 = .opened then
    let speaker := openSpeaker w camera.1
    match w.udpListen speaker.1.calls with
    | none => (sessionDestructor { speaker.1 with calls := speaker.1.calls + 1 }, false)
    | some port =>
        ({ speaker.1 with calls := speaker.1.calls + 1, sess := some { peerAddr := peer, localPort := port, videoSsrc } }, true)
  else (sessionDestructor camera.1, false)

def peerSeparator (byte : UInt8) : Bool := byte == 32 || byte == 58 || byte == 34

-- {"peer":"IP:port"}; anything else falls back to the default peer. The body has no end of its own for strstr and strchr,
-- which go on into what lies behind it up to a NUL; only the separators are looked for within it.
def peerText (body behind : Bytes) : Bytes :=
  let text := cstr (body ++ behind)
  let found :=
    match if body = [] then none else strstr (body ++ behind) (ascii "\"peer\"") with
    | none => []
    | some key =>
        let room := body.length - (key + 6)
        let value := ((text.drop (key + 6)).take room).dropWhile peerSeparator ++ (text.drop (key + 6)).drop room
        match memchr 34 value with
        | none => []
        | some stop => if stop < 64 then value.take stop else []
  if found = [] then ascii "127.0.0.1:5006" else found

example : peerText (ascii "\x7b\"peer\":\"10.0.0.9:4000") [] = ascii "127.0.0.1:5006" := by decide +kernel

example : peerText (ascii "\x7b\"peer\":\"10.0.0.9:4000") (ascii "\"POST /api/call") = ascii "10.0.0.9:4000" := by decide +kernel

def handleCallCreate (w : World) (d : Device) (body behind : Bytes) : Device × List Out :=
  let d := endSession d
  match w.saDecode (peerText body behind) with
  | none => (d, [.http 400])
  | some peer =>
      let result := sessionAlloc w d peer
      (result.1, [.http (if result.2 then 201 else 500)])

def handleCallDelete (d : Device) : Device × List Out := (endSession d, [.http 200])

def sessionPacket (sess : Session) (part : Bool × Bytes) : RtpPacket :=
  { hdr := { m := part.1, pt := ptH264, seq := sess.videoSeq, ts := sess.videoTs, ssrc := sess.videoSsrc }, payload := part.2 }

def sendSessionParts : Session → List (Bool × Bytes) → Session × List Out
  | sess, [] => (sess, [])
  | sess, part :: rest =>
      let later := sendSessionParts { sess with videoSeq := sess.videoSeq + 1 } rest
      (later.1, .callPacket sess.peerAddr (sessionPacket sess part) :: later.2)

def sendH264NaluRtp (sess : Session) (nalu : Bytes) (isLastNalu : Bool) : Session × List Out :=
  sendSessionParts sess (packetise nalu isLastNalu)

def sendSessionNalus : Session → List Bytes → Session × List Out
  | sess, [] => (sess, [])
  | sess, nalu :: rest =>
      let sent := sendH264NaluRtp sess nalu rest.isEmpty
      let later := sendSessionNalus sent.1 rest
      (later.1, sent.2 ++ later.2)

def saIsset (sa : Sa) : Bool := sa.addr != 0 && sa.port != 0

def sessionVideoTimer (w : World) (d : Device) : Device × List Out :=
  match d.sess with
  | none => (d, [])
  | some sess =>
      if saIsset sess.peerAddr then
        let got := getFrame w d
        match got.2.1 with
        | none => (got.1, got.2.2)
        | some nalus =>
            let sent := sendSessionNalus sess nalus
            ({ got.1 with sess := some { sent.1 with
                videoTs := sent.1.videoTs + videoTick, videoFrameCount := sent.1.videoFrameCount + 1 } },
              got.2.2 ++ sent.2)
      else (d, [])

end Intercom
