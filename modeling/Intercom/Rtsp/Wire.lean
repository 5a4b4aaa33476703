import Intercom.Lib.Bytes

set_option autoImplicit false

/- The texts and packets of rtsp_server.c: requests as parse_rtsp_request reads them, replies as rtsp_reply
   prints them, RTP headers as libre encodes them and the '$' frames around them. -/
namespace Intercom

open ByteText

-- The RTSP listener is bound to 0.0.0.0, so struct sa is always an IPv4 address here.
structure Sa where
  addr : UInt32
  port : UInt16
deriving DecidableEq, Repr

def saIsLoopback (sa : Sa) : Bool := sa.addr &&& 0xff000000 == 0x7f000000

inductive Track where
  | video
  | audio
  | backchannel
deriving DecidableEq, Repr

structure RtspReq where
  method : Bytes := []
  uri : Bytes := []
  cseq : Int := 0
  transport : Bytes := []
  session : Bytes := []
  authorization : Bytes := []
deriving DecidableEq, Repr

-- The scan over spaces stops at the CR that ends the line. The field is not cleared between two headers of
-- one name, so memcpy leaves the tail of a longer earlier value behind.
def copyValue (size : Nat) (old line : Bytes) (header eol : Nat) : Bytes :=
  overlay old ((((line.take eol).drop header).dropWhile (· == 32)).take (size - 1))

-- eol counts from the start of the line. atoi is not told where the line ends.
def parseHeaderLine (line : Bytes) (eol : Nat) (req : RtspReq) : RtspReq :=
  if casePrefix (ascii "CSeq:") line then { req with cseq := atoi (line.drop 5) }
  else if casePrefix (ascii "Transport:") line then { req with transport := copyValue 256 req.transport line 10 eol }
  else if casePrefix (ascii "Session:") line then { req with session := copyValue 32 req.session line 8 eol }
  else if casePrefix (ascii "Authorization:") line then
    { req with authorization := copyValue 512 req.authorization line 14 eol }
  else req

-- text starts at the CRLF before the next line; left is what remains up to the end of the request.
def parseHeaders : Nat → Bytes → Nat → RtspReq → RtspReq
  | 0, _, _, req => req
  | fuel + 1, text, left, req =>
      if 2 < left then
        let line := text.drop 2
        match findSub crlf line with
        | none => req
        | some eol => parseHeaders fuel (line.drop eol) (left - 2 - eol) (parseHeaderLine line eol req)
      else req

-- buf is the NUL-terminated receive buffer, len the length of the request at its front.
def parseRtspRequest (buf : Bytes) (len : Nat) : RtspReq :=
  let text := buf.take len
  match memchr 32 text with
  | none => {}
  | some sp1 =>
      let req : RtspReq := { method := (text.take sp1).take 15 }
      let rest := text.drop (sp1 + 1)
      match memchr 32 rest with
      | none => req
      | some sp2 =>
          let req := { req with uri := (rest.take sp2).take 255 }
          match findSub crlf buf with
          | none => req
          | some line => parseHeaders len (buf.drop line) (len - line) req

def parseClientPort (transport : Bytes) : Option (UInt16 × UInt16) :=
  (findSub (ascii "client_port=") transport).map fun found =>
    let rest := transport.drop (found + 12)
    let rtp := toU16 (atoi rest)
    match memchr 45 rest with
    | some dash => (rtp, toU16 (atoi (rest.drop (dash + 1))))
    | none => (rtp, rtp + 1)

def parseInterleaved (transport : Bytes) : Option (UInt8 × UInt8) :=
  (findSub (ascii "interleaved=") transport).map fun found =>
    let rest := transport.drop (found + 12)
    let rtp := toU8 (atoi rest)
    match memchr 45 rest with
    | some dash => (rtp, toU8 (atoi (rest.drop (dash + 1))))
    | none => (rtp, rtp + 1)

def isTcpTransport (transport : Bytes) : Bool :=
  (findSub (ascii "RTP/AVP/TCP") transport).isSome || (findSub (ascii "interleaved=") transport).isSome

-- strstr of "trackID=k" followed by one of the accepted terminators, at the first place it stands.
def namesTrack (uri : Bytes) (number : UInt8) : Bool :=
  match findSub (ascii "trackID=" ++ [48 + number]) uri with
  | none => false
  | some found =>
      match uri[found + 9]? with
      | none => true
      | some char => char == 47 || char == 38 || char == 59 || char == 32

structure RtpHeader where
  ver : UInt8 := 2
  pad : Bool := false
  ext : Bool := false
  m : Bool := false
  pt : UInt8
  seq : UInt16
  ts : UInt32
  ssrc : UInt32
deriving DecidableEq, Repr

def be16 (value : Nat) : Bytes := [UInt8.ofNat (value / 256 % 256), UInt8.ofNat (value % 256)]

def be32 (value : Nat) : Bytes := be16 (value / 65536 % 65536) ++ be16 (value % 65536)

def bit (flag : Bool) : UInt8 := if flag then 1 else 0

-- No header built by this program carries contributing sources.
def rtpHdrEncode (hdr : RtpHeader) : Bytes :=
  [((hdr.ver &&& 2) <<< 6) ||| (bit hdr.pad <<< 5) ||| (bit hdr.ext <<< 4), (bit hdr.m <<< 7) ||| (hdr.pt &&& 0x7f)] ++
  be16 hdr.seq.toNat ++ be32 hdr.ts.toNat ++ be32 hdr.ssrc.toNat

structure RtpPacket where
  hdr : RtpHeader
  payload : Bytes
deriving DecidableEq, Repr

def RtpPacket.bytes (packet : RtpPacket) : Bytes := rtpHdrEncode packet.hdr ++ packet.payload

def interleavedFrame (channel : UInt8) (data : Bytes) : Bytes := 36 :: channel :: be16 data.length ++ data

def ptPcmu : UInt8 := 0
def ptH264 : UInt8 := 107

inductive Transport where
  | tcp (rtp rtcp : UInt8) (ssrc : Option UInt32)
  | udp (clientRtp clientRtcp serverPort : UInt16) (ssrc : UInt32)
deriving DecidableEq, Repr

def Transport.text : Transport → Bytes
  | .tcp rtp rtcp (some ssrc) => snprintf 256 [ascii "Transport: RTP/AVP/TCP;unicast;interleaved=", decimal rtp.toNat,
      ascii "-", decimal rtcp.toNat, ascii ";ssrc=", hex8 true ssrc, crlf]
  | .tcp rtp rtcp none => snprintf 256 [ascii "Transport: RTP/AVP/TCP;unicast;interleaved=", decimal rtp.toNat,
      ascii "-", decimal rtcp.toNat, crlf]
  | .udp clientRtp clientRtcp serverPort ssrc => snprintf 256 [ascii "Transport: RTP/AVP;unicast;client_port=",
      decimal clientRtp.toNat, ascii "-", decimal clientRtcp.toNat, ascii ";server_port=", decimal serverPort.toNat,
      ascii "-", decimal (serverPort.toNat + 1), ascii ";ssrc=", hex8 true ssrc, crlf]

-- The text fields of extra_hdrs, with the track a Transport line is about kept beside it.
inductive Extra where
  | none
  | methods
  | description (uri : Bytes)
  | setup (track : Track) (transport : Transport)
  | rtpInfo (uri : Bytes) (videoSeq : UInt16) (videoTs : UInt32) (audioSeq : UInt16) (audioTs : UInt32) (backchannel : Bool)
  | challenge (nonce : Bytes)
deriving DecidableEq, Repr

def stripSlashes (uri : Bytes) : Bytes := (uri.reverse.dropWhile (· == 47)).reverse

def realm : Bytes := ascii "SmartLockIntercom"

def Extra.text : Extra → Bytes
  | .none => []
  | .methods => ascii "Public: OPTIONS, DESCRIBE, SETUP, PLAY, TEARDOWN, GET_PARAMETER\r\n"
  | .description uri => snprintf 512 [ascii "Content-Type: application/sdp\r\nContent-Base: ", uri, ascii "/\r\n"]
  | .setup _ transport => transport.text
  | .rtpInfo uri videoSeq videoTs audioSeq audioTs backchannel =>
      let base := stripSlashes uri
      let head := [ascii "Range: npt=0.000-\r\nRTP-Info: url=", base, ascii "/trackID=0;seq=", decimal videoSeq.toNat,
        ascii ";rtptime=", decimal videoTs.toNat, ascii ",url=", base, ascii "/trackID=1;seq=", decimal audioSeq.toNat,
        ascii ";rtptime=", decimal audioTs.toNat]
      if backchannel then snprintf 512 (head ++ [ascii ",url=", base, ascii "/trackID=2;seq=0;rtptime=0\r\n"])
      else snprintf 512 (head ++ [crlf])
  | .challenge nonce => snprintf 256 [ascii "WWW-Authenticate: Digest realm=\"", realm, ascii "\", nonce=\"", nonce, ascii "\"\r\n"]

structure Reply where
  cseq : Int
  code : Nat
  reason : Bytes
  session : Option UInt32 := none
  extra : Extra := .none
  body : Bytes := []
deriving DecidableEq, Repr

def Reply.text (reply : Reply) : Bytes :=
  ascii "RTSP/1.0 " ++ decimal reply.code ++ ascii " " ++ reply.reason ++ crlf ++
  ascii "CSeq: " ++ signed reply.cseq ++ crlf ++
  (match reply.session with
    | some id => ascii "Session: " ++ hex8 false id ++ ascii ";timeout=60\r\n"
    | none => []) ++
  reply.extra.text ++
  (if reply.body = [] then crlf
    else ascii "Content-Length: " ++ decimal reply.body.length ++ crlf ++ crlf ++ reply.body)

end Intercom
