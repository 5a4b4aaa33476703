import Intercom.Rtsp.Auth
import Intercom.Media.Camera
import Intercom.Media.Audio
import Intercom.Media.H264

set_option autoImplicit false

/- The state of one intercom_test process: g_rtsp with its client records, g_auth, the camera, microphone and
   speaker singletons and g_sess of http_server.c. Everything runs on one event loop. -/
namespace Intercom

open ByteText

abbrev ConnId := Nat

-- Answers of the system and of the libraries; the n-th outside call of a run is answered by entry n.
structure World where
  rand : Nat → Nat
  randU32 : Nat → UInt32
  md5 : Bytes → Fin 16 → UInt8
  udpListen : Nat → Option UInt16
  encoderReady : Nat → Bool
  encode : Nat → EncoderOutput
  speakerReady : Nat → Bool
  micReady : Nat → Bool
  captured : Nat → List Int
  pcm2ulaw : Int → UInt8
  saDecode : Bytes → Option Sa

def sampleWorld : World where
  rand := fun call => call
  randU32 := fun call => UInt32.ofNat (call + 1)
  md5 := fun _ _ => 0
  udpListen := fun call => some (UInt16.ofNat (50000 + call))
  encoderReady := fun _ => true
  encode := fun _ => { idr := true, layers := [([0, 0, 0, 1, 0x65, 0x88], [6])] }
  speakerReady := fun _ => true
  micReady := fun _ => true
  captured := fun _ => List.replicate audioSamples 0
  pcm2ulaw := fun _ => 0xFF
  saDecode := fun _ => some ⟨0x7F000001, 5006⟩

inductive RtspState where
  | idle
  | ready
  | playing
deriving DecidableEq, Repr

structure RtpTrack where
  sock : Option Nat := none
  dest : Sa := ⟨0, 0⟩
  srvPort : UInt16 := 0
  interleaved : UInt8 := 0
  interleavedRtcp : UInt8 := 0
  ssrc : UInt32 := 0
  ts : UInt32 := 0
  seq : UInt16 := 0
  setup : Bool := false
deriving DecidableEq, Repr

-- The inactivity timer is armed as long as the record lives, so it has no field.
structure RtspClient where
  tc : ConnId
  peer : Sa
  rbuf : Bytes := []
  state : RtspState := .idle
  sessionId : Option UInt32 := none
  interleaved : Bool := false
  video : RtpTrack := {}
  audio : RtpTrack := {}
  backchannelSetup : Bool := false
  backchannelInterleaved : UInt8 := 0xFF
  backchannelInterleavedRtcp : UInt8 := 0xFF
  audioOutOpened : Bool := false
deriving DecidableEq, Repr

-- struct intercom_session; its audio timer sends a computed tone and touches no shared device.
structure Session where
  peerAddr : Sa
  localPort : UInt16
  videoSsrc : UInt32
  videoTs : UInt32 := 0
  videoSeq : UInt16 := 0
  videoFrameCount : UInt32 := 0
deriving DecidableEq, Repr

structure Device where
  clients : List RtspClient := []
  nextConn : ConnId := 0
  tmrAudio : Bool := false
  tmrVideo : Bool := false
  cameraOpened : Bool := false
  videoFrameCount : UInt32 := 0
  localIp : Bytes := []
  micOpened : Bool := false
  auth : Auth := {}
  cam : Camera := {}
  ain : AudioIn := {}
  aout : AudioOut := {}
  sess : Option Session := none
  calls : Nat := 0

inductive Out where
  | request (conn : ConnId) (text : Bytes)
  | accepted (conn : ConnId)
  | reply (conn : ConnId) (reply : Reply)
  | frame (conn : ConnId) (channel : UInt8) (data : Bytes)
  | played (conn : ConnId) (pcmu : Bytes)
  | pulled (nalus : List Bytes)
  | block (samples : List Int)
  | interleaved (conn : ConnId) (channel : UInt8) (packet : RtpPacket)
  | datagram (conn : ConnId) (dest : Sa) (packet : RtpPacket)
  | undelivered (conn : ConnId) (packet : RtpPacket)
  | callPacket (dest : Sa) (packet : RtpPacket)
  | http (code : Nat)
deriving DecidableEq, Repr

def Out.written (conn : ConnId) : Out → Bytes
  | .reply target answer => if target = conn then answer.text else []
  | .interleaved target channel packet => if target = conn then interleavedFrame channel packet.bytes else []
  | _ => []

def written (conn : ConnId) (outs : List Out) : Bytes := outs.flatMap (Out.written conn)

def Device.client? (d : Device) (conn : ConnId) : Option RtspClient := d.clients.find? fun cli => cli.tc == conn

def Device.put (d : Device) (cli : RtspClient) : Device :=
  { d with clients := d.clients.map fun other => if other.tc = cli.tc then cli else other }

def hasPlayingClients (d : Device) : Bool := d.clients.any fun cli => cli.state == .playing

def maybeStopMedia (d : Device) : Device :=
  if hasPlayingClients d then d else { d with tmrVideo := false, tmrAudio := false, videoFrameCount := 0 }

def Device.free (d : Device) (cli : RtspClient) : Device :=
  { d with
    clients := d.clients.filter fun other => other.tc != cli.tc
    aout := if cli.audioOutOpened then audioOutClose d.aout else d.aout }

end Intercom
