import Intercom.Rtsp.Handlers

set_option autoImplicit false

/- audio_send_timer and video_send_timer of rtsp_server.c. -/
namespace Intercom

open ByteText

def micAvailable (w : World) (d : Device) : Device × Nat :=
  let ain := enqueueToRing d.ain (w.captured d.calls)
  ({ d with ain, calls := d.calls + 1 }, audioInAvailable ain)

def discardLoop (w : World) : Nat → Device → Nat → Device
  | 0, d, _ => d
  | fuel + 1, d, skip =>
      if skip = 0 then d
      else
        let got := readMic w d (min skip audioSamples)
        if got.2 = [] then got.1 else discardLoop w fuel got.1 (skip - got.2.length)

def drainExcess (w : World) (d : Device) : Device :=
  if d.micOpened then
    let avail := micAvailable w d
    if audioSamples * 2 < avail.2 then discardLoop w avail.2 avail.1 (avail.2 - audioSamples) else avail.1
  else d

def sendAudioTo (pcmu : Bytes) (cli : RtspClient) : RtspClient × List Out :=
  if cli.state = .playing ∧ cli.audio.setup then sendAudioBlock cli pcmu else (cli, [])

def sendFrameTo (nalus : List Bytes) (cli : RtspClient) : RtspClient × List Out :=
  if cli.state = .playing ∧ cli.video.setup then sendFrame cli nalus else (cli, [])

def sendToAll (send : RtspClient → RtspClient × List Out) (d : Device) : Device × List Out :=
  ({ d with clients := d.clients.map fun cli => (send cli).1 }, d.clients.flatMap fun cli => (send cli).2)

def audioSendTimer (w : World) (d : Device) : Device × List Out :=
  let d := { d with tmrAudio := true }
  if hasPlayingClients d then
    let block := nextBlock w (drainExcess w d)
    let sent := sendToAll (sendAudioTo block.2.1) block.1
    (sent.1, block.2.2 ++ sent.2)
  else (d, [])

def forceKeyframe (d : Device) : Device :=
  if 0 < d.videoFrameCount ∧ d.videoFrameCount % 30 = 0 then { d with cam := cameraRequestKeyframe d.cam } else d

def videoSendTimer (w : World) (d : Device) : Device × List Out :=
  let d := { d with tmrVideo := true }
  if hasPlayingClients d then
    let got := getFrame w (forceKeyframe d)
    match got.2.1 with
    | none => (got.1, got.2.2)
    | some nalus =>
        let sent := sendToAll (sendFrameTo nalus) got.1
        ({ sent.1 with videoFrameCount := sent.1.videoFrameCount + 1 }, got.2.2 ++ sent.2)
  else (d, [])

end Intercom
