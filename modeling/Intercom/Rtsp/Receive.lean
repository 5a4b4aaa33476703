import Intercom.Rtsp.Handlers
import Intercom.Lib.Chunked

set_option autoImplicit false

/- dispatch_rtsp and the receive loop of rtsp_recv_handler. -/
namespace Intercom

open ByteText

def needsAuth (method : Bytes) : Bool := method != ascii "OPTIONS" && method != ascii "GET_PARAMETER"

def authCheck (w : World) (d : Device) (req : RtspReq) : Device × Bool :=
  let header := if req.authorization = [] then none else some req.authorization
  if rtspAuthCheck w.md5 d.auth req.method req.uri header then
    ({ d with auth := rotateNonce w.rand d.calls d.auth, calls := d.calls + nonceLen }, true)
  else (d, false)

def handleMethod (w : World) (d : Device) (cli : RtspClient) (req : RtspReq) : Device × List Out :=
  if req.method = ascii "OPTIONS" then (d, handleOptions cli req)
  else if req.method = ascii "DESCRIBE" then handleDescribe w d cli req
  else if req.method = ascii "SETUP" then
    let result := handleSetup w d cli req
    (result.1.put result.2.1, result.2.2)
  else if req.method = ascii "PLAY" then
    let result := handlePlay w d cli req
    (result.1.put result.2.1, result.2.2)
  else if req.method = ascii "TEARDOWN" then handleTeardown d cli req
  else if req.method = ascii "GET_PARAMETER" then (d, [rtspReply cli req.cseq 200 "OK" .none []])
  else (d, [rtspReply cli req.cseq 405 "Method Not Allowed" .none []])

-- buf is the NUL-terminated receive buffer; the request is its first len bytes.
def dispatchRtsp (w : World) (d : Device) (cli : RtspClient) (buf : Bytes) (len : Nat) : Device × List Out :=
  let req := parseRtspRequest buf len
  if d.auth.enabled && needsAuth req.method then
    let checked := authCheck w d req
    if checked.2 then
      let handled := handleMethod w checked.1 cli req
      (handled.1, .request cli.tc (buf.take len) :: .accepted cli.tc :: handled.2)
    else (d, [.request cli.tc (buf.take len), rtspReply cli req.cseq 401 "Unauthorized" (.challenge d.auth.nonce) []])
  else
    let handled := handleMethod w d cli req
    (handled.1, .request cli.tc (buf.take len) :: handled.2)

-- The payload the '$' branch hands to audio_out_play, if any. data is the frame without its 4-byte header.
def backchannelPayload (data : Bytes) : Option Bytes :=
  if 12 ≤ data.length then
    let first := data.getD 0 0
    let hdrLen := 12 + (first &&& 0x0F).toNat * 4
    let ext := (first >>> 4) &&& 1 == 1
    let hdrLen :=
      if ext && decide (hdrLen + 4 ≤ data.length) then
        hdrLen + 4 + ((data.getD (hdrLen + 2) 0).toNat * 256 + (data.getD (hdrLen + 3) 0).toNat) * 4
      else hdrLen
    if hdrLen < data.length then some (data.drop hdrLen) else none
  else none

def playBackchannel (cli : RtspClient) (channel : UInt8) (data : Bytes) : List Out :=
  if cli.backchannelSetup && channel == cli.backchannelInterleaved && cli.audioOutOpened then
    ((backchannelPayload data).map fun pcmu => Out.played cli.tc pcmu).toList
  else []

-- '$', channel, 16-bit length, data.
def takeFrame (buf : Bytes) : Option (UInt8 × Bytes × Bytes) :=
  match buf with
  | _ :: channel :: hi :: lo :: body =>
      let frameLen := hi.toNat * 256 + lo.toNat
      if body.length < frameLen then none else some (channel, body.take frameLen, body.drop frameLen)
  | _ => none

def recvStep (w : World) (conn : ConnId) (d : Device) (buf : Bytes) : Option (Device × List Out × Bytes) :=
  match d.client? conn with
  | none => none
  | some cli =>
      if buf = [] then none
      else if buf.head? = some 36 then
        (takeFrame buf).map fun (channel, data, rest) =>
          (d, .frame conn channel data :: playBackchannel cli channel data, rest)
      else
        (strstr buf (crlf ++ crlf)).map fun eor =>
          let result := dispatchRtsp w d cli (cstr buf) (eor + 4)
          (result.1, result.2, buf.drop (eor + 4))

def rbufLimit : Nat := 16384

def Device.setRbuf (d : Device) (conn : ConnId) (rest : Bytes) : Device :=
  { d with clients := d.clients.map fun cli => if cli.tc = conn then { cli with rbuf := rest } else cli }

-- No handler looks at rbuf: while the loop runs it holds the buffer, and what is left goes back at its end.
def rtspRecvHandler (w : World) (d : Device) (conn : ConnId) (chunk : Bytes) : Device × List Out :=
  match d.client? conn with
  | none => (d, [])
  | some cli =>
      let buf := cli.rbuf ++ chunk
      if rbufLimit < buf.length then (d.free cli, [])
      else
        let result := Chunked.drain (recvStep w conn) (d.setRbuf conn []) buf
        (result.1.setRbuf conn result.2.2, result.2.1)

end Intercom
