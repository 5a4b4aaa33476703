import Intercom.Rtsp.Receive
import Intercom.Android.Stream
import Intercom.Android.Text

set_option autoImplicit false

/- The connecting half of RtspClient.kt: requests, responses, the session description and doConnect, run in lock
   step against the server. Every request is delivered whole and its answer is there before the client reads. -/
namespace Intercom.Android

open ByteText

inductive Direction where
  | recvonly
  | sendonly
  | sendrecv
deriving DecidableEq, Repr

structure TrackInfo where
  controlUrl : Text
  payloadType : Int
  clockRate : Int
  direction : Direction
  spropSps : Option Bytes := none
  spropPps : Option Bytes := none
deriving DecidableEq, Repr

structure Tracks where
  video : Option TrackInfo := none
  audio : Option TrackInfo := none
  backchannel : Option TrackInfo := none
deriving DecidableEq, Repr

inductive ClientState where
  | disconnected
  | connecting
  | connected
  | playing
  | reconnecting
  | error
deriving DecidableEq, Repr

structure Config where
  host : Text
  port : Int := 8555
  path : Text := text "/live"
  username : Option Text := none
  password : Option Text := none
deriving DecidableEq, Repr

structure Client where
  state : ClientState := .connecting
  cseq : Nat := 0
  sessionId : Option Text := none
  contentBase : Option Text := none
  tracks : Tracks := {}
  authRealm : Option Text := none
  authNonce : Option Text := none
deriving DecidableEq, Repr

inductive Failure where
  | closed
  | numberFormat
  | badBase64
  | rtspError (statusCode : Int) (statusLine : Text)
  | authenticationFailed
  | authenticationRequired
  | noSession
deriving DecidableEq, Repr

-- The connection as both ends see it; input is what the server has written and the client has not read.
structure Link where
  client : Client
  server : Device
  input : Input

structure Response where
  statusCode : Int
  headers : Text
  body : Text
deriving DecidableEq, Repr

def fullUri (cfg : Config) (uri : Text) : Text :=
  if startsWith uri (text "rtsp://") then uri
  else text "rtsp://" ++ cfg.host ++ text ":" ++ ofChars (signed cfg.port) ++ uri

def md5Text (w : World) (chars : Text) : Text := ofChars (md5Hex w.md5 (toAscii chars))

def buildAuthHeader (w : World) (cfg : Config) (client : Client) (method uri : Text) : Option Text :=
  match cfg.username, cfg.password, client.authRealm, client.authNonce with
  | some user, some pass, some sentRealm, some nonce =>
      let ha1 := md5Text w (user ++ text ":" ++ sentRealm ++ text ":" ++ pass)
      let ha2 := md5Text w (method ++ text ":" ++ uri)
      let response := md5Text w (ha1 ++ text ":" ++ nonce ++ text ":" ++ ha2)
      some (text "Authorization: Digest username=\"" ++ user ++ text "\", realm=\"" ++ sentRealm ++ text "\", nonce=\"" ++
        nonce ++ text "\", uri=\"" ++ uri ++ text "\", response=\"" ++ response ++ text "\"\r\n")
  | _, _, _, _ => none

def requestText (w : World) (cfg : Config) (client : Client) (method uri extraHeaders : Text) : Text :=
  let fullUri := fullUri cfg uri
  method ++ text " " ++ fullUri ++ text " RTSP/1.0\r\n" ++
    text "CSeq: " ++ ofChars (decimal client.cseq) ++ text "\r\nUser-Agent: SmartLockIntercom/1.0\r\n" ++
    (buildAuthHeader w cfg client method fullUri).getD [] ++ extraHeaders ++ text "\r\n"

def sendRequest (w : World) (cfg : Config) (conn : ConnId) (link : Link) (method uri extraHeaders : Text) : Link :=
  let client := { link.client with cseq := link.client.cseq + 1 }
  let served := rtspRecvHandler w link.server conn (toAscii (requestText w cfg client method uri extraHeaders))
  { client := client, server := served.1, input.bytes := link.input.bytes ++ written conn served.2
    input.calls := link.input.calls }

def statusCode (statusLine : Text) : Int := (((statusLine.splitOn 32)[1]?).bind toIntOrNull).getD 0

def readBody (pick : Nat → Nat) (header : Text) (input : Input) : Except Failure (Text × Input) :=
  match contentLengthRe header with
  | none => .ok ([], input)
  | some digits =>
      match toIntOrNull digits with
      | none => .error .numberFormat
      | some contentLen =>
          if contentLen ≤ 0 then .ok ([], input)
          else
            match readFully pick input contentLen.toNat with
            | none => .error .closed
            | some (body, rest) => .ok (ofAscii body, rest)

def adoptBase (header : Text) (client : Client) : Client :=
  match contentBaseRe header with
  | none => client
  | some base => { client with contentBase := some (trimEnd base 47) }

def adoptField (client : Client) (field : Text × Text) : Client :=
  if field.1.map lowercase = text "realm" then { client with authRealm := some field.2 }
  else if field.1.map lowercase = text "nonce" then { client with authNonce := some field.2 }
  else client

def adoptChallenge (header : Text) (client : Client) : Client :=
  match wwwAuthRe header with
  | none => client
  | some params => (authFields params).foldl adoptField client

def readResponse (pick : Nat → Nat) (link : Link) : Except Failure (Response × Link) :=
  match headerLoop 0 0 link.input.bytes with
  | none => .error .closed
  | some read =>
      let header := ofChars read.1
      let statusLine := (lines header).headD []
      let code := statusCode statusLine
      match readBody pick header { link.input with bytes := read.2 } with
      | .error failure => .error failure
      | .ok (body, rest) =>
          let client := adoptBase header link.client
          let client := if code = 401 then adoptChallenge header client else client
          if code ≠ 200 ∧ code ≠ 401 then .error (.rtspError code statusLine)
          else .ok (⟨code, header, body⟩, { link with client := client, input := rest })

-- One repetition with credentials, where there are any.
def sendAuthRequest (w : World) (pick : Nat → Nat) (cfg : Config) (conn : ConnId) (link : Link)
    (method uri extraHeaders : Text) : Except Failure (Response × Link) :=
  match readResponse pick (sendRequest w cfg conn link method uri extraHeaders) with
  | .error failure => .error failure
  | .ok (resp, link) =>
      if resp.statusCode = 401 then
        if cfg.username.isSome && cfg.password.isSome && link.client.authRealm.isSome && link.client.authNonce.isSome then
          match readResponse pick (sendRequest w cfg conn link method uri extraHeaders) with
          | .error failure => .error failure
          | .ok (retryResp, link) =>
              if retryResp.statusCode = 401 then .error .authenticationFailed else .ok (retryResp, link)
        else .error .authenticationRequired
      else .ok (resp, link)

-- Each block ends in front of a line that starts with m=.
def mediaBlocksLoop : List Text → Text → List Text
  | [], current => if current = [] then [] else [current]
  | line :: rest, current =>
      if startsWith line (text "m=") && current != [] then current :: mediaBlocksLoop rest (line ++ [10])
      else mediaBlocksLoop rest (current ++ line ++ [10])

def mediaBlocks (sdp : Text) : List Text := mediaBlocksLoop (lines sdp) []

def blockDirection (block : Text) : Direction :=
  if contains block (text "a=recvonly") then .recvonly
  else if contains block (text "a=sendonly") then .sendonly
  else .sendrecv

-- Base64.decode of Android is a parameter; none is the exception it throws on malformed text.
def blockParams (decode : Text → Option Bytes) (block : Text) : Option (Option Bytes × Option Bytes) :=
  match spropRe block with
  | none => some (none, none)
  | some sets =>
      match sets.splitOn 44 with
      | first :: second :: _ =>
          match decode first, decode second with
          | some sps, some pps => some (some sps, some pps)
          | _, _ => none
      | _ => some (none, none)

def storeTrack (tracks : Tracks) (mLine : Text) (track : TrackInfo) : Tracks :=
  if startsWith mLine (text "m=video") then { tracks with video := some track }
  else if startsWith mLine (text "m=audio") && track.direction == .recvonly then { tracks with backchannel := some track }
  else if startsWith mLine (text "m=audio") && track.direction == .sendonly then { tracks with audio := some track }
  else tracks

def parseBlock (decode : Text → Option Bytes) (tracks : Tracks) (block : Text) : Option Tracks :=
  if startsWith block (text "m=") then
    match controlRe block with
    | none => some tracks
    | some controlUrl =>
        let mLine := (lines block).headD []
        let pt := (((mLine.splitOn 32)[3]?).bind toIntOrNull).getD 0
        let clockRate := ((rtpmapRe block).bind toIntOrNull).getD 0
        (blockParams decode block).map fun params =>
          storeTrack tracks mLine ⟨controlUrl, pt, clockRate, blockDirection block, params.1, params.2⟩
  else some tracks

def parseSdp (decode : Text → Option Bytes) (tracks : Tracks) (sdp : Text) : Option Tracks :=
  (mediaBlocks sdp).foldlM (parseBlock decode) tracks

def resolveTrackUrl (cfg : Config) (client : Client) (control : Text) : Text :=
  if startsWith control (text "rtsp://") then control
  else
    client.contentBase.getD (text "rtsp://" ++ cfg.host ++ text ":" ++ ofChars (signed cfg.port) ++ cfg.path) ++
      text "/" ++ control

def controlOr (track : Option TrackInfo) (default : Text) : Text := (track.map TrackInfo.controlUrl).getD default

def parseSessionId (headers : Text) : Option Text := (sessionRe headers).map trim

def adoptSession (link : Link) (resp : Response) : Except Failure Link :=
  match link.client.sessionId with
  | some _ => .ok link
  | none =>
      match parseSessionId resp.headers with
      | none => .error .noSession
      | some id => if id = [] then .error .noSession else .ok { link with client.sessionId := some id }

def sessionHeader (client : Client) : Text := text "Session: " ++ client.sessionId.getD (text "null") ++ text "\r\n"

def doConnect (w : World) (decode : Text → Option Bytes) (pick : Nat → Nat) (cfg : Config) (conn : ConnId) (link : Link) :
    Except Failure Link :=
  if link.client.state ≠ .connecting ∧ link.client.state ≠ .reconnecting then .ok link
  else do
    let (_, link) ← readResponse pick (sendRequest w cfg conn link (text "OPTIONS") cfg.path [])
    let (descResp, link) ← sendAuthRequest w pick cfg conn link (text "DESCRIBE") cfg.path (text "Accept: application/sdp\r\n")
    let tracks ← match parseSdp decode link.client.tracks descResp.body with
      | some tracks => pure tracks
      | none => throw .badBase64
    let link := { link with client.tracks := tracks }
    let videoUrl := resolveTrackUrl cfg link.client (controlOr tracks.video (text "trackID=0"))
    let (setupResp, link) ← sendAuthRequest w pick cfg conn link (text "SETUP") videoUrl
      (text "Transport: RTP/AVP/TCP;unicast;interleaved=0-1\r\n")
    let link ← adoptSession link setupResp
    let audioUrl := resolveTrackUrl cfg link.client (controlOr tracks.audio (text "trackID=1"))
    let (_, link) ← sendAuthRequest w pick cfg conn link (text "SETUP") audioUrl
      (text "Transport: RTP/AVP/TCP;unicast;interleaved=2-3\r\n" ++ sessionHeader link.client)
    let link ← match tracks.backchannel with
      | none => pure link
      | some track => do
          let backchUrl := resolveTrackUrl cfg link.client track.controlUrl
          let (_, link) ← sendAuthRequest w pick cfg conn link (text "SETUP") backchUrl
            (text "Transport: RTP/AVP/TCP;unicast;interleaved=4-5\r\n" ++ sessionHeader link.client)
          pure link
    let link := { link with client.state := .connected }
    let (_, link) ← sendAuthRequest w pick cfg conn link (text "PLAY") cfg.path
      (sessionHeader link.client ++ text "Range: npt=0.000-\r\n")
    pure { link with client.state := .playing }

end Intercom.Android
