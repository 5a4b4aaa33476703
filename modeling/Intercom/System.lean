import Intercom.Rtsp.Receive
import Intercom.Rtsp.Timers
import Intercom.Call
import Intercom.Lib.Runs

set_option autoImplicit false

/- The process as a state machine. A receive callback is cut into the append of the chunk and one action for
   each message taken, so that runs interleave at least as finely as the event loop does. -/
namespace Intercom

open ByteText

inductive Action where
  | connect (peer : Sa)
  | relayConnect (peer : Sa)
  | receive (conn : ConnId) (chunk : Bytes)
  | process (conn : ConnId)
  | close (conn : ConnId)
  | timeout (conn : ConnId)
  | audioTimer
  | videoTimer
  | callCreate (body behind : Bytes)
  | callDelete
  | sessionVideoTimer
deriving DecidableEq, Repr

def accept (d : Device) (peer : Sa) : Device :=
  { d with clients := d.clients ++ [{ tc := d.nextConn, peer }], nextConn := d.nextConn + 1 }

def rtspConnHandler (d : Device) (peer : Sa) : Device := accept d peer

def rtspAcceptRelayConn (d : Device) (peer : Sa) : Device := accept d peer

def appendChunk (d : Device) (conn : ConnId) (chunk : Bytes) : Device :=
  match d.client? conn with
  | none => d
  | some cli =>
      if rbufLimit < (cli.rbuf ++ chunk).length then d.free cli else d.setRbuf conn (cli.rbuf ++ chunk)

def processMessage (w : World) (d : Device) (conn : ConnId) : Device × List Out :=
  match d.client? conn with
  | none => (d, [])
  | some cli =>
      match recvStep w conn (d.setRbuf conn []) cli.rbuf with
      | none => (d, [])
      | some (next, outs, rest) => (next.setRbuf conn rest, outs)

-- rtsp_close_handler and session_timeout_handler do the same to the record.
def dropClient (d : Device) (conn : ConnId) : Device :=
  match d.client? conn with
  | none => d
  | some cli =>
      if cli.state = .playing then (maybeStopMedia (d.put { cli with state := .idle })).free cli else d.free cli

def rtspCloseHandler (d : Device) (conn : ConnId) : Device := dropClient d conn

def sessionTimeoutHandler (d : Device) (conn : ConnId) : Device := dropClient d conn

-- A timer that is not armed does not fire.
def step (w : World) (d : Device) : Action → Device × List Out
  | .connect peer => (rtspConnHandler d peer, [])
  | .relayConnect peer => (rtspAcceptRelayConn d peer, [])
  | .receive conn chunk => (appendChunk d conn chunk, [])
  | .process conn => processMessage w d conn
  | .close conn => (rtspCloseHandler d conn, [])
  | .timeout conn => (sessionTimeoutHandler d conn, [])
  | .audioTimer => if d.tmrAudio then audioSendTimer w d else (d, [])
  | .videoTimer => if d.tmrVideo then videoSendTimer w d else (d, [])
  | .callCreate body behind => handleCallCreate w d body behind
  | .callDelete => handleCallDelete d
  | .sessionVideoTimer => sessionVideoTimer w d

-- rtsp_server_init, then rtsp_auth_init when credentials were given on the command line.
def initial (w : World) (localIp username password : Bytes) : Device :=
  { localIp := localIp, auth := rtspAuthInit w.rand 0 username password, calls := nonceLen }

def next (w : World) : Device × List Out → Action → Device × List Out := Runs.record (step w)

def deviceStep (w : World) (d : Device) (action : Action) : Device := (step w d action).1

def reached (w : World) (start : Device) (actions : List Action) : Device × List Out :=
  Runs.run (next w) (start, []) actions

end Intercom
