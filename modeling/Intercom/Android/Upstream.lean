import Intercom.Steps
import Intercom.Rtsp.Requests
import Intercom.Android.Connect

set_option autoImplicit false

/- The talking half of RtspClient.kt: sendBackchannelAudio and the keepalive timer share one socket, and each writes
   its message in one synchronized block. Short, Int and Long are integers brought back into range after every sum;
   shr rounds down, and the mask of toByte is toU8. -/
namespace Intercom.Android

open ByteText

def backchRtpCh : UInt8 := 4

def toShort (value : Int) : Int := (value + 32768) % 65536 - 32768

def toLong (value : Int) : Int := (value + 9223372036854775808) % 18446744073709551616 - 9223372036854775808

def shr (value : Int) (bits : Nat) : Int := value / 2 ^ bits

structure Upstream where
  client : Client
  backchSeq : Int := 0
  backchTimestamp : Int
  backchSsrc : Int
  backchFirstPacket : Bool := true
deriving DecidableEq, Repr

-- The '$' header, the RTP header and the payload, byte by byte as the function stores them.
def backchannelFrame (up : Upstream) (pcmuData : Bytes) (offset length : Nat) : Bytes :=
  let rtpLen : Int := 12 + length
  let markerBit : Int := if up.backchFirstPacket then 0x80 else 0
  [0x24, backchRtpCh, toU8 (shr rtpLen 8), toU8 rtpLen,
    0x80, toU8 markerBit, toU8 (shr up.backchSeq 8), toU8 up.backchSeq,
    toU8 (shr up.backchTimestamp 24), toU8 (shr up.backchTimestamp 16), toU8 (shr up.backchTimestamp 8), toU8 up.backchTimestamp,
    toU8 (shr up.backchSsrc 24), toU8 (shr up.backchSsrc 16), toU8 (shr up.backchSsrc 8), toU8 up.backchSsrc] ++
  (pcmuData.drop offset).take length

def sendBackchannelAudio (up : Upstream) (pcmuData : Bytes) (offset length : Nat) : Upstream × Bytes :=
  if up.client.state ≠ .playing ∨ up.client.tracks.backchannel = none then (up, [])
  else
    ({ up with
      backchFirstPacket := false
      backchSeq := toShort (up.backchSeq + 1)
      backchTimestamp := toLong (up.backchTimestamp + length) }, backchannelFrame up pcmuData offset length)

def keepaliveText (w : World) (cfg : Config) (client : Client) : Bytes :=
  toAscii (requestText w cfg client (text "GET_PARAMETER") cfg.path (sessionHeader client))

def sendKeepalive (w : World) (cfg : Config) (up : Upstream) : Upstream × Bytes :=
  if up.client.state ≠ .playing then (up, [])
  else
    let client := { up.client with cseq := up.client.cseq + 1 }
    ({ up with client := client }, keepaliveText w cfg client)

inductive UpCall where
  | audio (pcmuData : Bytes) (offset length : Nat)
  | keepalive
deriving DecidableEq, Repr

def upstreamStep (w : World) (cfg : Config) (up : Upstream) : UpCall → Upstream × Bytes
  | .audio pcmuData offset length => sendBackchannelAudio up pcmuData offset length
  | .keepalive => sendKeepalive w cfg up

def upstreamMessages (w : World) (cfg : Config) : Upstream → List UpCall → List Bytes
  | _, [] => []
  | up, call :: rest => (upstreamStep w cfg up call).2 :: upstreamMessages w cfg (upstreamStep w cfg up call).1 rest

def UpCall.payload? : UpCall → Option Bytes
  | .audio pcmuData offset length => some ((pcmuData.drop offset).take length)
  | .keepalive => none

def payloadsOf (calls : List UpCall) : List Bytes := calls.filterMap UpCall.payload?

def UpCall.Valid : UpCall → Prop
  | .audio pcmuData offset length => offset + length ≤ pcmuData.length ∧ 1 ≤ length ∧ length ≤ 8176
  | .keepalive => True

def keepaliveTexts (w : World) (cfg : Config) : Upstream → List UpCall → List Bytes
  | _, [] => []
  | up, .keepalive :: rest => (sendKeepalive w cfg up).2 :: keepaliveTexts w cfg (sendKeepalive w cfg up).1 rest
  | up, .audio pcmuData offset length :: rest => keepaliveTexts w cfg (sendBackchannelAudio up pcmuData offset length).1 rest

def talkPacket (start : Nat) (ssrc : Int) (count sent : Nat) (payload : Bytes) : RtpPacket :=
  { hdr := { m := decide (count = 0), pt := ptPcmu, seq := UInt16.ofNat count, ts := UInt32.ofNat (start + sent),
             ssrc := UInt32.ofNat (ssrc % 4294967296).toNat }
    payload }

def talkPackets (start : Nat) (ssrc : Int) (payloads : List Bytes) : List RtpPacket :=
  payloads.mapIdx fun count payload => talkPacket start ssrc count ((payloads.take count).map List.length).sum payload

-- A client that has just begun to play, and the record the server keeps for it.
structure Talking (conn : ConnId) (d : Device) (cli : RtspClient) (up : Upstream) (start : Nat) : Prop where
  playing : up.client.state = .playing
  track : up.client.tracks.backchannel ≠ none
  first : up.backchFirstPacket = true
  seq : up.backchSeq = 0
  timestamp : up.backchTimestamp = start
  live : d.client? conn = some cli
  fresh : Held conn d
  setup : cli.backchannelSetup = true
  channel : cli.backchannelInterleaved = backchRtpCh
  opened : cli.audioOutOpened = true

-- What arrives: every payload once and in order, in packets numbered from zero, over a connection that stays open.
structure Arrives (w : World) (conn : ConnId) (d : Device) (cli : RtspClient) (chunks : List Bytes) (start : Nat) (ssrc : Int)
    (payloads : List Bytes) : Prop where
  played : payloadsPlayed (receiveAll w conn d chunks).2 = payloads
  numbered : framesTaken (receiveAll w conn d chunks).2 =
    (talkPackets start ssrc payloads).map fun packet => (backchRtpCh, packet.bytes)
  alive : (receiveAll w conn d chunks).1.client? conn = some cli

theorem short_bytes (value : Int) (count : Nat) (same : value % 65536 = count % 65536) :
    [toU8 (shr value 8), toU8 value] = be16 (count % 65536) := by
  have high : (value / 256 % 256).toNat = count % 65536 / 256 % 256 := by omega
  have low : (value % 256).toNat = count % 65536 % 256 := by omega
  rw [be16, toU8, toU8, shr, ← high, ← low]
  rfl

theorem long_bytes (value : Int) (count : Nat) (same : value % 4294967296 = count % 4294967296) :
    [toU8 (shr value 24), toU8 (shr value 16), toU8 (shr value 8), toU8 value] = be32 (count % 4294967296) := by
  have first : (value / 16777216 % 256).toNat = count % 4294967296 / 65536 % 65536 / 256 % 256 := by omega
  have second : (value / 65536 % 256).toNat = count % 4294967296 / 65536 % 65536 % 256 := by omega
  have third : (value / 256 % 256).toNat = count % 4294967296 % 65536 / 256 % 256 := by omega
  have fourth : (value % 256).toNat = count % 4294967296 % 65536 % 256 := by omega
  rw [be32, be16, be16, toU8, toU8, toU8, toU8, shr, shr, shr, ← first, ← second, ← third, ← fourth]
  rfl

-- The counters of the client after count packets with sent bytes of audio.
structure Counted (up : Upstream) (start count sent : Nat) : Prop where
  playing : up.client.state = .playing
  track : up.client.tracks.backchannel ≠ none
  marker : up.backchFirstPacket = decide (count = 0)
  seq : up.backchSeq % 65536 = (count : Int) % 65536
  timestamp : up.backchTimestamp % 4294967296 = ((start + sent : Nat) : Int) % 4294967296

theorem header_bytes (first : Bool) : [(0x80 : UInt8), toU8 (if first then 0x80 else 0)] =
    [(((2 : UInt8) &&& 2) <<< 6) ||| (bit false <<< 5) ||| (bit false <<< 4), (bit first <<< 7) ||| (ptPcmu &&& 0x7f)] := by
  cases first <;> decide

-- What the client stores byte by byte is the header that libre would encode.
theorem backchannel_frame_bytes (up : Upstream) (start count sent : Nat) (counted : Counted up start count sent) (pcmuData : Bytes)
    (offset length : Nat) :
    backchannelFrame up pcmuData offset length = 36 :: backchRtpCh :: toU8 (shr (12 + length) 8) :: toU8 (12 + length) ::
      (talkPacket start up.backchSsrc count sent ((pcmuData.drop offset).take length)).bytes := by
  have seq := short_bytes up.backchSeq count counted.seq
  have timestamp := long_bytes up.backchTimestamp (start + sent) counted.timestamp
  have ssrc := long_bytes up.backchSsrc (up.backchSsrc % 4294967296).toNat (by omega)
  have flags := header_bytes up.backchFirstPacket
  have stored : backchannelFrame up pcmuData offset length = 36 :: backchRtpCh :: toU8 (shr (12 + length) 8) :: toU8 (12 + length) ::
      ([0x80, toU8 (if up.backchFirstPacket then 0x80 else 0)] ++ [toU8 (shr up.backchSeq 8), toU8 up.backchSeq] ++
        [toU8 (shr up.backchTimestamp 24), toU8 (shr up.backchTimestamp 16), toU8 (shr up.backchTimestamp 8), toU8 up.backchTimestamp] ++
        [toU8 (shr up.backchSsrc 24), toU8 (shr up.backchSsrc 16), toU8 (shr up.backchSsrc 8), toU8 up.backchSsrc] ++
        (pcmuData.drop offset).take length) := rfl
  rw [stored, seq, timestamp, ssrc, flags, counted.marker]
  rw [RtpPacket.bytes, talkPacket, rtpHdrEncode, UInt16.toNat_ofNat', UInt32.toNat_ofNat', UInt32.toNat_ofNat']

theorem talk_packet_length (start : Nat) (ssrc : Int) (count sent : Nat) (payload : Bytes) :
    (talkPacket start ssrc count sent payload).bytes.length = 12 + payload.length := by
  rw [RtpPacket.bytes, List.length_append]
  rfl

theorem talk_packet_payload (start : Nat) (ssrc : Int) (count sent : Nat) (payload : Bytes) (filled : payload ≠ []) :
    backchannelPayload (talkPacket start ssrc count sent payload).bytes = some payload := by
  have some : 0 < payload.length := List.length_pos_iff.mpr filled
  have length := talk_packet_length start ssrc count sent payload
  have first : (talkPacket start ssrc count sent payload).bytes.getD 0 0 = 0x80 := by
    change (((2 : UInt8) &&& 2) <<< 6) ||| (bit false <<< 5) ||| (bit false <<< 4) = 0x80
    decide
  have rest : (talkPacket start ssrc count sent payload).bytes.drop 12 = payload := rfl
  have plain : (((0x80 : UInt8) >>> 4) &&& 1 == 1) = false := by decide
  have none : 12 + ((0x80 : UInt8) &&& 0x0F).toNat * 4 = 12 := by decide
  rw [backchannelPayload, if_pos (by omega)]
  dsimp only
  rw [first, plain, none, Bool.false_and, if_neg Bool.false_ne_true, if_pos (by omega), rest]

theorem frame_size (length : Nat) (small : length ≤ 8176) :
    12 + length = (toU8 (shr (12 + length) 8)).toNat * 256 + (toU8 (12 + length)).toNat := by
  have high : (toU8 (shr (12 + length) 8)).toNat = (12 + length) / 256 := by
    rw [toU8, shr, UInt8.toNat_ofNat']
    omega
  have low : (toU8 (12 + length)).toNat = (12 + length) % 256 := by
    rw [toU8, UInt8.toNat_ofNat']
    omega
  omega

theorem whole_message_received (w : World) (conn : ConnId) (d : Device) (cli : RtspClient) (message : Bytes) (outs : List Out)
    (live : d.client? conn = some cli) (fresh : Held conn d) (small : message.length ≤ rbufLimit)
    (taken : recvStep w conn d message = some (d, outs, [])) : rtspRecvHandler w d conn message = (d, outs) := by
  rw [whole_message w conn d d cli message outs live fresh small taken, set_rbuf_held d conn fresh]

theorem audio_received (w : World) (conn : ConnId) (d : Device) (cli : RtspClient) (live : d.client? conn = some cli)
    (fresh : Held conn d) (setup : cli.backchannelSetup = true) (channel : cli.backchannelInterleaved = backchRtpCh)
    (opened : cli.audioOutOpened = true) (hi lo : UInt8) (packet payload : Bytes) (size : packet.length = hi.toNat * 256 + lo.toNat)
    (small : packet.length ≤ rxSize) (carried : backchannelPayload packet = some payload) :
    rtspRecvHandler w d conn (36 :: backchRtpCh :: hi :: lo :: packet) =
      (d, [.frame conn backchRtpCh packet, .played cli.tc payload]) := by
  have taken := recv_frame w conn d cli backchRtpCh hi lo packet [] live size
  rw [List.append_nil, playBackchannel, setup, channel, opened, carried] at taken
  apply whole_message_received w conn d cli _ _ live fresh _ taken
  simp only [List.length_cons, rbufLimit, rxSize] at small ⊢
  omega

theorem keepalive_method (w : World) (cfg : Config) (client : Client) (behind : Bytes) :
    (parseRtspRequest (keepaliveText w cfg client ++ behind) (keepaliveText w cfg client).length).method = ascii "GET_PARAMETER" := by
  obtain ⟨rest, split⟩ : ∃ rest, keepaliveText w cfg client = ascii "GET_PARAMETER" ++ 32 :: rest := ⟨_, rfl⟩
  apply parsed_method _ _ rest
  · rw [List.take_left]
    exact split
  · decide
  · decide

theorem keepalive_received (w : World) (cfg : Config) (client : Client) (conn : ConnId) (d : Device) (cli : RtspClient)
    (live : d.client? conn = some cli) (fresh : Held conn d) (request : IsRequest (keepaliveText w cfg client))
    (small : (keepaliveText w cfg client).length ≤ rxSize + 1) :
    ∃ outs, rtspRecvHandler w d conn (keepaliveText w cfg client) = (d, outs) ∧ payloadsPlayed outs = [] ∧ framesTaken outs = [] := by
  have isText : IsText (keepaliveText w cfg client) := ⟨request, fun dollar => absurd (Option.some.inj dollar) (by decide)⟩
  have taken := recv_text w conn d cli (keepaliveText w cfg client) [] live isText
  have method := keepalive_method w cfg client (cstr [])
  have dispatched : ∃ extra, dispatchRtsp w d cli (keepaliveText w cfg client ++ cstr []) (keepaliveText w cfg client).length =
      (d, [.request cli.tc ((keepaliveText w cfg client ++ cstr []).take (keepaliveText w cfg client).length),
        rtspReply cli (parseRtspRequest (keepaliveText w cfg client ++ cstr []) (keepaliveText w cfg client).length).cseq
          200 "OK" extra []]) := by
    rw [dispatchRtsp]
    dsimp only
    generalize parseRtspRequest (keepaliveText w cfg client ++ cstr []) (keepaliveText w cfg client).length = req at method
    have free : needsAuth req.method = false := by
      rw [method]
      decide
    obtain ⟨_, extra, _, handled⟩ := method_unchecked w d cli req free
    refine ⟨extra, ?_⟩
    rw [free, Bool.and_false, if_neg Bool.false_ne_true, handled]
  obtain ⟨extra, dispatched⟩ := dispatched
  rw [List.append_nil, dispatched] at taken
  refine ⟨_, whole_message_received w conn d cli _ _ live fresh ?_ taken, rfl, rfl⟩
  simp only [rbufLimit, rxSize] at small ⊢
  omega

def talkFrom (start : Nat) (ssrc : Int) : Nat → Nat → List Bytes → List RtpPacket
  | _, _, [] => []
  | count, sent, payload :: rest =>
      talkPacket start ssrc count sent payload :: talkFrom start ssrc (count + 1) (sent + payload.length) rest

theorem talk_from_indexed (start : Nat) (ssrc : Int) (count sent : Nat) (payloads : List Bytes) :
    talkFrom start ssrc count sent payloads = payloads.mapIdx fun index payload =>
      talkPacket start ssrc (count + index) (sent + ((payloads.take index).map List.length).sum) payload := by
  induction payloads generalizing count sent with
  | nil => rfl
  | cons payload rest ih =>
      rw [talkFrom, ih, List.mapIdx_cons]
      congr 2
      funext index other
      rw [List.take_succ_cons, List.map_cons, List.sum_cons]
      congr 1
      · omega
      · omega

theorem talk_packets_from (start : Nat) (ssrc : Int) (payloads : List Bytes) :
    talkFrom start ssrc 0 0 payloads = talkPackets start ssrc payloads := by
  rw [talk_from_indexed]
  simp only [Nat.zero_add]
  rfl

theorem audio_counted (up : Upstream) (start count sent : Nat) (counted : Counted up start count sent) (pcmuData : Bytes)
    (offset length : Nat) :
    sendBackchannelAudio up pcmuData offset length =
        ((sendBackchannelAudio up pcmuData offset length).1, backchannelFrame up pcmuData offset length) ∧
      Counted (sendBackchannelAudio up pcmuData offset length).1 start (count + 1) (sent + length) ∧
      (sendBackchannelAudio up pcmuData offset length).1.backchSsrc = up.backchSsrc := by
  have seq := counted.seq
  have timestamp := counted.timestamp
  have allowed : ¬ (up.client.state ≠ .playing ∨ up.client.tracks.backchannel = none) := by
    intro refused
    cases refused with
    | inl state => exact state counted.playing
    | inr track => exact counted.track track
  rw [sendBackchannelAudio, if_neg allowed]
  refine ⟨rfl, ⟨counted.playing, counted.track, (decide_eq_false (Nat.succ_ne_zero count)).symm, ?_, ?_⟩, rfl⟩
  · dsimp only
    rw [toShort]
    omega
  · dsimp only
    rw [toLong]
    omega

theorem keepalive_counted (w : World) (cfg : Config) (up : Upstream) (start count sent : Nat) (counted : Counted up start count sent) :
    ∃ client, (sendKeepalive w cfg up).2 = keepaliveText w cfg client ∧ Counted (sendKeepalive w cfg up).1 start count sent ∧
      (sendKeepalive w cfg up).1.backchSsrc = up.backchSsrc := by
  have playing : ¬ up.client.state ≠ .playing := fun other => other counted.playing
  rw [sendKeepalive, if_neg playing]
  exact ⟨_, rfl, ⟨counted.playing, counted.track, counted.marker, counted.seq, counted.timestamp⟩, rfl⟩

structure Received (w : World) (conn : ConnId) (d : Device) (packets : List RtpPacket) (payloads messages : List Bytes) : Prop where
  device : (receiveAll w conn d messages).1 = d
  played : payloadsPlayed (receiveAll w conn d messages).2 = payloads
  frames : framesTaken (receiveAll w conn d messages).2 = packets.map fun packet => (backchRtpCh, packet.bytes)
  fits : Fits w conn d messages
  wire : ∀ message ∈ messages, IsMessage message ∧ message.length ≤ rxSize + 1

theorem payloads_played_append (left right : List Out) :
    payloadsPlayed (left ++ right) = payloadsPlayed left ++ payloadsPlayed right := by
  rw [payloadsPlayed, List.filterMap_append]
  rfl

theorem frames_taken_append (left right : List Out) : framesTaken (left ++ right) = framesTaken left ++ framesTaken right := by
  rw [framesTaken, List.filterMap_append]
  rfl

theorem received_cons (w : World) (conn : ConnId) (d : Device) (cli : RtspClient) (live : d.client? conn = some cli) (fresh : Held conn d)
    (message : Bytes) (outs : List Out) (handled : rtspRecvHandler w d conn message = (d, outs)) (isMessage : IsMessage message)
    (small : message.length ≤ rxSize + 1) (packets first : List RtpPacket) (payloads heard messages : List Bytes)
    (played : payloadsPlayed outs = heard) (frames : framesTaken outs = first.map fun packet => (backchRtpCh, packet.bytes))
    (rest : Received w conn d packets payloads messages) :
    Received w conn d (first ++ packets) (heard ++ payloads) (message :: messages) := by
  have empty : cli.rbuf = [] := fresh cli (find_client d conn cli live).1 (find_client d conn cli live).2
  have all : receiveAll w conn d (message :: messages) =
      ((receiveAll w conn d messages).1, outs ++ (receiveAll w conn d messages).2) := by
    rw [receiveAll, handled]
  refine ⟨?_, ?_, ?_, ⟨?_, ?_⟩, ?_⟩
  · rw [all]
    exact rest.device
  · rw [all, payloads_played_append, played, rest.played]
  · rw [all, frames_taken_append, frames, rest.frames, List.map_append]
  · intro other found
    rw [Option.some.inj (found.symm.trans live), empty, List.nil_append]
    simp only [rbufLimit, rxSize] at small ⊢
    omega
  · rw [handled]
    exact rest.fits
  · intro other member
    cases List.mem_cons.mp member with
    | inl same =>
        rw [same]
        exact ⟨isMessage, small⟩
    | inr later => exact rest.wire other later

-- Induction on the calls: the counters of the client tell how many packets and bytes went before.
theorem calls_received (w : World) (cfg : Config) (conn : ConnId) (d : Device) (cli : RtspClient) (live : d.client? conn = some cli)
    (fresh : Held conn d) (setup : cli.backchannelSetup = true) (channel : cli.backchannelInterleaved = backchRtpCh)
    (opened : cli.audioOutOpened = true) (up : Upstream) (start count sent : Nat) (counted : Counted up start count sent)
    (calls : List UpCall) (valid : ∀ call ∈ calls, call.Valid)
    (requests : ∀ text ∈ keepaliveTexts w cfg up calls, IsRequest text ∧ text.length ≤ rxSize + 1) :
    Received w conn d (talkFrom start up.backchSsrc count sent (payloadsOf calls)) (payloadsOf calls)
      (upstreamMessages w cfg up calls) := by
  induction calls generalizing up count sent with
  | nil => exact ⟨rfl, rfl, rfl, trivial, fun _ member => absurd member List.not_mem_nil⟩
  | cons call rest ih =>
      have validRest : ∀ other ∈ rest, other.Valid := fun other member => valid other (List.mem_cons_of_mem call member)
      cases call with
      | audio pcmuData offset length =>
          obtain ⟨inside, some, small⟩ : offset + length ≤ pcmuData.length ∧ 1 ≤ length ∧ length ≤ 8176 :=
            valid _ List.mem_cons_self
          obtain ⟨written, after, ssrc⟩ := audio_counted up start count sent counted pcmuData offset length
          have size : ((pcmuData.drop offset).take length).length = length := by
            rw [List.length_take, List.length_drop]
            omega
          have filled : (pcmuData.drop offset).take length ≠ [] := by
            intro none
            rw [none, List.length_nil] at size
            omega
          have later := ih _ (count + 1) (sent + length) after validRest requests
          rw [ssrc] at later
          have frame := backchannel_frame_bytes up start count sent counted pcmuData offset length
          generalize payloadSame : (pcmuData.drop offset).take length = payload at size filled frame
          have packetSize := talk_packet_length start up.backchSsrc count sent payload
          have carried := talk_packet_payload start up.backchSsrc count sent payload filled
          have framed := frame_size length small
          generalize packetSame : talkPacket start up.backchSsrc count sent payload = packet at packetSize carried frame
          have handled := audio_received w conn d cli live fresh setup channel opened _ _ packet.bytes payload
            (by rw [packetSize, size]; exact framed) (by rw [packetSize, size]; simp only [rxSize]; omega) carried
          have message : IsMessage (backchannelFrame up pcmuData offset length) := by
            rw [frame]
            exact Or.inl ⟨_, _, _, _, rfl, by rw [packetSize, size]; exact framed⟩
          have short : (backchannelFrame up pcmuData offset length).length ≤ rxSize + 1 := by
            rw [frame]
            simp only [List.length_cons, packetSize, size, rxSize]
            omega
          rw [← frame] at handled
          have whole := received_cons w conn d cli live fresh _ _ handled message short _ [packet] _ [payload] _ rfl rfl later
          have payloads : payloadsOf (.audio pcmuData offset length :: rest) = payload :: payloadsOf rest := by
            rw [← payloadSame]
            rfl
          rw [payloads, talkFrom, packetSame, size, upstreamMessages, upstreamStep, written]
          exact whole
      | keepalive =>
          obtain ⟨client, written, after, ssrc⟩ := keepalive_counted w cfg up start count sent counted
          have own := requests _ List.mem_cons_self
          have later := ih _ count sent after validRest fun text member => requests text (List.mem_cons_of_mem _ member)
          rw [ssrc] at later
          rw [written] at own
          obtain ⟨outs, handled, played, frames⟩ := keepalive_received w cfg client conn d cli live fresh own.1 own.2
          have message : IsMessage (keepaliveText w cfg client) :=
            Or.inr ⟨own.1, fun dollar => absurd (Option.some.inj dollar) (by decide)⟩
          have whole := received_cons w conn d cli live fresh _ _ handled message own.2 _ [] _ [] _ played frames later
          rw [upstreamMessages, upstreamStep, written]
          exact whole

theorem talk_back_arrives (w : World) (cfg : Config) (conn : ConnId) (d : Device) (cli : RtspClient) (up : Upstream) (start : Nat)
    (talking : Talking conn d cli up start) (calls : List UpCall) (valid : ∀ call ∈ calls, call.Valid)
    (requests : ∀ text ∈ keepaliveTexts w cfg up calls, IsRequest text ∧ text.length ≤ rxSize + 1)
    (chunks : List Bytes) (small : ∀ chunk ∈ chunks, chunk.length ≤ rxSize)
    (stream : chunks.flatten = (upstreamMessages w cfg up calls).flatten) :
    Arrives w conn d cli chunks start up.backchSsrc (payloadsOf calls) := by
  have counted : Counted up start 0 0 :=
    ⟨talking.playing, talking.track, talking.first, by rw [talking.seq]; rfl, by rw [talking.timestamp]; rfl⟩
  have received := calls_received w cfg conn d cli talking.live talking.fresh talking.setup talking.channel talking.opened up start 0 0
    counted calls valid requests
  rw [talk_packets_from] at received
  have inv : Chunked.Sequence (rtspReader w conn) (Live conn) rxSize (upstreamMessages w cfg up calls) [] :=
    ⟨fun message member => ⟨wire_message w conn message (received.wire message member).1, (received.wire message member).2⟩,
      Nat.zero_le _⟩
  have fits : Fits w conn d chunks := by
    have bounded := sequence_fits w conn d [] chunks _ [] talking.fresh (Nat.zero_le _) small inv (by simpa using stream)
    rw [set_rbuf_held d conn talking.fresh] at bounded
    exact bounded
  obtain ⟨device, outs⟩ := receive_all_alike w conn d chunks _ talking.fresh stream fits received.fits
  obtain ⟨_, frames, played⟩ := seen_alike _ _ outs
  refine ⟨?_, ?_, ?_⟩
  · rw [played, received.played]
  · rw [frames, received.frames]
  · rw [device, received.device]
    exact talking.live

def talkRecord : RtspClient :=
  { tc := 0, peer := ⟨1, 1⟩, state := .playing, sessionId := some 7, interleaved := true, backchannelSetup := true
    backchannelInterleaved := 4, audioOutOpened := true }

def talkDevice : Device := { clients := [talkRecord], nextConn := 1 }

def talkUpstream : Upstream :=
  { client := { state := .playing, tracks := { backchannel := some ⟨text "trackID=2", 0, 8000, .recvonly, none, none⟩ } }
    backchTimestamp := 4294967290, backchSsrc := -2 }

theorem talk_starts : Talking 0 talkDevice talkRecord talkUpstream 4294967290 := by
  have fresh : ∀ cli ∈ talkDevice.clients, cli.tc = 0 → cli.rbuf = [] := by decide
  exact ⟨rfl, by decide, rfl, rfl, rfl, rfl, fresh, rfl, rfl, rfl⟩

def talkApp : Config := { host := text "h" }

def talkCalls : List UpCall := [.audio [7, 1, 2, 3] 1 3, .keepalive, .audio [9, 9, 9] 0 3, .audio [5] 0 1]

def talkStream : Bytes := (upstreamMessages sampleWorld talkApp talkUpstream talkCalls).flatten

theorem talk_requests : ∀ text ∈ keepaliveTexts sampleWorld talkApp talkUpstream talkCalls, IsRequest text ∧ text.length ≤ rxSize + 1 := by
  have only : keepaliveTexts sampleWorld talkApp talkUpstream talkCalls =
      [ascii "GET_PARAMETER rtsp://h:8555/live RTSP/1.0\r\nCSeq: 1\r\nUser-Agent: SmartLockIntercom/1.0\r\nSession: null\r\n\r\n"] := by
    decide +kernel
  intro text member
  rw [only] at member
  rw [List.mem_singleton.mp member]
  refine ⟨⟨by decide, ascii "GET_PARAMETER rtsp://h:8555/live RTSP/1.0\r\nCSeq: 1\r\nUser-Agent: SmartLockIntercom/1.0\r\nSession: null",
    by decide, by decide +kernel⟩, by decide⟩

-- The timestamp passes 2^32 between the second packet and the third; the cut is inside the keepalive.
theorem talk_arrives_in_two_chunks :
    Arrives sampleWorld 0 talkDevice talkRecord [talkStream.take 40, talkStream.drop 40] 4294967290 (-2)
      [[1, 2, 3], [9, 9, 9], [5]] := by
  have valid : ∀ call ∈ talkCalls, call.Valid := by
    intro call member
    simp only [talkCalls, List.mem_cons, List.not_mem_nil, or_false] at member
    rcases member with rfl | rfl | rfl | rfl
    · exact ⟨by decide, by decide, by decide⟩
    · trivial
    · exact ⟨by decide, by decide, by decide⟩
    · exact ⟨by decide, by decide, by decide⟩
  have small : ∀ chunk ∈ [talkStream.take 40, talkStream.drop 40], chunk.length ≤ rxSize := by decide +kernel
  have stream : [talkStream.take 40, talkStream.drop 40].flatten = talkStream := by simp
  exact talk_back_arrives sampleWorld talkApp 0 talkDevice talkRecord talkUpstream 4294967290 talk_starts talkCalls valid talk_requests
    _ small stream

theorem piece_waits (w : World) (conn : ConnId) (d : Device) (cli : RtspClient) (message received more missing : Bytes)
    (live : d.client? conn = some cli) (fresh : Held conn d) (isText : IsText message) (split : message = received ++ more ++ missing)
    (cut : missing ≠ []) (small : (received ++ more).length ≤ rbufLimit) :
    rtspRecvHandler w (d.setRbuf conn received) conn more = (d.setRbuf conn (received ++ more), []) := by
  have stuck := text_waits w conn d message (received ++ more) missing isText split cut
  have drained : Chunked.drain (recvStep w conn) d (received ++ more) = (d, [], received ++ more) :=
    Chunked.drain_stuck (rtspReader w conn) d (received ++ more) stuck
  rw [rtspRecvHandler, client_set_rbuf, live]
  dsimp only [Option.map_some]
  rw [if_neg (Nat.not_lt_of_le small), set_rbuf_twice, set_rbuf_held d conn fresh, drained]

theorem overflow_closes (w : World) (conn : ConnId) (d : Device) (cli : RtspClient) (received more : Bytes)
    (live : d.client? conn = some cli) (long : rbufLimit < (received ++ more).length) :
    (rtspRecvHandler w (d.setRbuf conn received) conn more).1.client? conn = none := by
  have named := (find_client d conn cli live).2
  rw [rtspRecvHandler, client_set_rbuf, live]
  dsimp only [Option.map_some]
  rw [if_pos long, Device.client?, List.find?_eq_none]
  intro other member
  have away : other.tc ≠ cli.tc := by simpa [Device.free] using (List.mem_filter.mp member).2
  rw [named] at away
  simpa using away

theorem closed_stays (w : World) (conn : ConnId) (d : Device) (chunks : List Bytes) (closed : d.client? conn = none) :
    (receiveAll w conn d chunks).1.client? conn = none := by
  induction chunks generalizing d with
  | nil => exact closed
  | cons chunk rest ih =>
      rw [receiveAll]
      apply ih
      rw [rtspRecvHandler, closed]
      exact closed

def longApp : Config := { host := text "h", path := List.replicate 8095 97 }

def longText : Bytes :=
  (ascii "GET_PARAMETER rtsp://h:8555" ++ List.replicate 8095 97) ++
    ascii " RTSP/1.0\r\nCSeq: 1\r\nUser-Agent: SmartLockIntercom/1.0\r\nSession: null\r\n\r\n"

def longClient : Client := { talkUpstream.client with cseq := 1 }

theorem long_keepalive : keepaliveText sampleWorld longApp longClient = longText := by
  have uri : fullUri longApp longApp.path = text "rtsp://h:8555" ++ longApp.path := rfl
  have path : toAscii longApp.path = List.replicate 8095 97 := by
    rw [toAscii, longApp, List.map_replicate]
    rfl
  have none : buildAuthHeader sampleWorld longApp longClient (text "GET_PARAMETER") (text "rtsp://h:8555" ++ longApp.path) = none := rfl
  have front : toAscii (text "GET_PARAMETER" ++ text " " ++ text "rtsp://h:8555") = ascii "GET_PARAMETER rtsp://h:8555" := by decide
  have back : toAscii (text " RTSP/1.0\r\n" ++ text "CSeq: " ++ ofChars (decimal longClient.cseq) ++
      text "\r\nUser-Agent: SmartLockIntercom/1.0\r\n" ++ [] ++ sessionHeader longClient ++ text "\r\n") =
        ascii " RTSP/1.0\r\nCSeq: 1\r\nUser-Agent: SmartLockIntercom/1.0\r\nSession: null\r\n\r\n" := by decide
  have parts : requestText sampleWorld longApp longClient (text "GET_PARAMETER") longApp.path (sessionHeader longClient) =
      (text "GET_PARAMETER" ++ text " " ++ text "rtsp://h:8555") ++ longApp.path ++ (text " RTSP/1.0\r\n" ++ text "CSeq: " ++
        ofChars (decimal longClient.cseq) ++ text "\r\nUser-Agent: SmartLockIntercom/1.0\r\n" ++ [] ++ sessionHeader longClient ++
        text "\r\n") := by
    rw [requestText, uri, none]
    simp only [Option.getD_none, List.append_assoc]
  rw [keepaliveText, parts, to_ascii_append, to_ascii_append, front, path, back, longText]

theorem long_text_length : longText.length = 8194 := by
  have front : (ascii "GET_PARAMETER rtsp://h:8555").length = 27 := by decide
  have back : (ascii " RTSP/1.0\r\nCSeq: 1\r\nUser-Agent: SmartLockIntercom/1.0\r\nSession: null\r\n\r\n").length = 72 := by decide
  rw [longText, List.length_append, List.length_append, List.length_replicate, front, back]

theorem long_is_text : IsText longText := by
  have unbroken : 13 ∉ ascii "GET_PARAMETER rtsp://h:8555" ++ List.replicate 8095 97 := by
    intro member
    rcases List.mem_append.mp member with front | path
    · exact absurd front (by decide)
    · exact absurd (List.eq_of_mem_replicate path) (by decide)
  refine ⟨⟨?_, (ascii "GET_PARAMETER rtsp://h:8555" ++ List.replicate 8095 97) ++
    ascii " RTSP/1.0\r\nCSeq: 1\r\nUser-Agent: SmartLockIntercom/1.0\r\nSession: null", ?_, ?_⟩, ?_⟩
  · intro member
    rcases List.mem_append.mp member with rest | back
    · rcases List.mem_append.mp rest with front | path
      · exact absurd front (by decide)
      · exact absurd (List.eq_of_mem_replicate path) (by decide)
    · exact absurd back (by decide)
  · have ending : ascii " RTSP/1.0\r\nCSeq: 1\r\nUser-Agent: SmartLockIntercom/1.0\r\nSession: null\r\n\r\n" =
        ascii " RTSP/1.0\r\nCSeq: 1\r\nUser-Agent: SmartLockIntercom/1.0\r\nSession: null" ++ (crlf ++ crlf) := rfl
    rw [longText, ending]
    simp only [List.append_assoc]
  · have back : findSub (crlf ++ crlf)
        (ascii " RTSP/1.0\r\nCSeq: 1\r\nUser-Agent: SmartLockIntercom/1.0\r\nSession: null\r\n\r\n") = some 68 := by decide +kernel
    have width : (ascii " RTSP/1.0\r\nCSeq: 1\r\nUser-Agent: SmartLockIntercom/1.0\r\nSession: null").length = 68 := by decide
    have skipped := find_sub_skip [10, 13, 10] 13 _
      (ascii " RTSP/1.0\r\nCSeq: 1\r\nUser-Agent: SmartLockIntercom/1.0\r\nSession: null\r\n\r\n") unbroken
    rw [longText, List.length_append, width]
    change findSub [13, 10, 13, 10] _ = _
    rw [skipped]
    change (findSub (crlf ++ crlf) _).map _ = _
    rw [back, Option.map_some, Nat.add_comm]
  · intro dollar
    exact absurd (Option.some.inj dollar) (by decide)

def longCalls : List UpCall := [.keepalive, .audio (List.replicate 8176 0) 0 8176]

def longFrame : Bytes := backchannelFrame { talkUpstream with client := longClient } (List.replicate 8176 0) 0 8176

theorem long_messages : upstreamMessages sampleWorld longApp talkUpstream longCalls = [longText, longFrame] := by
  have first : sendKeepalive sampleWorld longApp talkUpstream =
      ({ talkUpstream with client := longClient }, keepaliveText sampleWorld longApp longClient) := rfl
  have second : (sendBackchannelAudio { talkUpstream with client := longClient } (List.replicate 8176 0) 0 8176).2 = longFrame := rfl
  rw [longCalls, upstreamMessages, upstreamStep, first, long_keepalive, upstreamMessages, upstreamStep, second, upstreamMessages]

theorem long_frame_length : longFrame.length = 8192 := by
  have payload : (((List.replicate 8176 (0 : UInt8)).drop 0).take 8176).length = 8176 := by
    rw [List.length_take, List.length_drop, List.length_replicate]
    rfl
  rw [longFrame, backchannelFrame, List.length_append, payload]
  rfl

-- Cuts that leave all of a request but its last byte in the buffer when a full chunk arrives.
def lateCuts (message behind : Bytes) : List Bytes :=
  [message.take 8192, (message.drop 8192).take 1, message.drop 8193 ++ behind.take 8191, behind.drop 8191]

theorem byte_between (message : Bytes) (count : Nat) :
    message.take count ++ (message.drop count).take 1 ++ message.drop (count + 1) = message := by
  rw [List.append_assoc, ← List.drop_drop, List.take_append_drop, List.take_append_drop]

theorem late_cuts_flatten (message behind : Bytes) : (lateCuts message behind).flatten = message ++ behind := by
  have whole := byte_between message 8192
  have rest := List.take_append_drop 8191 behind
  calc (lateCuts message behind).flatten
      = message.take 8192 ++ (message.drop 8192).take 1 ++ message.drop 8193 ++ (behind.take 8191 ++ behind.drop 8191) := by
        simp only [lateCuts, List.flatten_cons, List.flatten_nil, List.append_nil, List.append_assoc]
    _ = message ++ behind := by rw [whole, rest]

theorem late_cuts_small (message behind : Bytes) (size : message.length = 8194) (more : behind.length = 8192) :
    ∀ chunk ∈ lateCuts message behind, chunk.length ≤ rxSize := by
  intro chunk member
  simp only [lateCuts, List.mem_cons, List.not_mem_nil, or_false] at member
  simp only [rxSize]
  rcases member with rfl | rfl | rfl | rfl
  · rw [List.length_take]
    omega
  · rw [List.length_take, List.length_drop]
    omega
  · rw [List.length_append, List.length_take, List.length_drop]
    omega
  · rw [List.length_drop]
    omega

theorem late_cuts_close (w : World) (conn : ConnId) (d : Device) (cli : RtspClient) (live : d.client? conn = some cli)
    (fresh : Held conn d) (message behind : Bytes) (isText : IsText message) (size : message.length = 8194) (more : behind.length = 8192) :
    (receiveAll w conn d (lateCuts message behind)).1.client? conn = none := by
  have taken : (message.take 8192).length = 8192 := by
    rw [List.length_take]
    omega
  have middle : ((message.drop 8192).take 1).length = 1 := by
    rw [List.length_take, List.length_drop]
    omega
  have last : (message.drop 8193).length = 1 := by
    rw [List.length_drop]
    omega
  have fill : (behind.take 8191).length = 8191 := by
    rw [List.length_take]
    omega
  have left : message.drop 8192 ≠ [] := by
    intro none
    rw [none] at middle
    cases middle
  have leftLast : message.drop 8193 ≠ [] := by
    intro none
    rw [none] at last
    cases last
  have first := piece_waits w conn d cli message [] (message.take 8192) (message.drop 8192) live fresh isText
    (List.take_append_drop 8192 message).symm left (by rw [List.nil_append, taken, rbufLimit]; omega)
  have second := piece_waits w conn d cli message (message.take 8192) ((message.drop 8192).take 1) (message.drop 8193) live fresh isText
    (byte_between message 8192).symm leftLast (by rw [List.length_append, taken, middle, rbufLimit]; omega)
  have third := overflow_closes w conn d cli (message.take 8192 ++ (message.drop 8192).take 1) (message.drop 8193 ++ behind.take 8191)
    live (by rw [List.length_append, List.length_append, List.length_append, taken, middle, last, fill, rbufLimit]; omega)
  rw [set_rbuf_held d conn fresh, List.nil_append] at first
  rw [lateCuts, receiveAll, first, receiveAll, second, receiveAll]
  exact closed_stays w conn _ _ third

def nulApp : Config := { host := text "h", path := [47, 0] }

def blankApp : Config := { host := text "h", path := text "/\r\n\r\n$abc" }

def shortCalls : List UpCall := [.keepalive, .audio [1] 0 1]

-- Three keepalives of a client that is talking: one byte too long, with a NUL, with a blank line. Each keeps audio from
-- being played, although every payload and every chunk is within its bounds.
theorem keepalive_keeps_audio_back :
    Talking 0 talkDevice talkRecord talkUpstream 4294967290 ∧
    ((lateCuts longText longFrame).flatten = (upstreamMessages sampleWorld longApp talkUpstream longCalls).flatten ∧
      (∀ chunk ∈ lateCuts longText longFrame, chunk.length ≤ rxSize) ∧
      ¬ Arrives sampleWorld 0 talkDevice talkRecord (lateCuts longText longFrame) 4294967290 (-2) (payloadsOf longCalls)) ∧
    ¬ Arrives sampleWorld 0 talkDevice talkRecord (upstreamMessages sampleWorld nulApp talkUpstream shortCalls) 4294967290 (-2)
      (payloadsOf shortCalls) ∧
    ¬ Arrives sampleWorld 0 talkDevice talkRecord (upstreamMessages sampleWorld blankApp talkUpstream shortCalls) 4294967290 (-2)
      (payloadsOf shortCalls) := by
  have nul : payloadsPlayed (receiveAll sampleWorld 0 talkDevice (upstreamMessages sampleWorld nulApp talkUpstream shortCalls)).2 ≠
      payloadsOf shortCalls := by decide +kernel
  have blank : payloadsPlayed (receiveAll sampleWorld 0 talkDevice (upstreamMessages sampleWorld blankApp talkUpstream shortCalls)).2 ≠
      payloadsOf shortCalls := by decide +kernel
  refine ⟨talk_starts, ⟨?_, late_cuts_small _ _ long_text_length long_frame_length, ?_⟩, fun arrives => nul arrives.played,
    fun arrives => blank arrives.played⟩
  · rw [late_cuts_flatten, long_messages, List.flatten_cons, List.flatten_cons, List.flatten_nil, List.append_nil]
  · intro arrives
    have closed := late_cuts_close sampleWorld 0 talkDevice talkRecord rfl talk_starts.fresh longText longFrame long_is_text
      long_text_length long_frame_length
    have alive := arrives.alive
    rw [closed] at alive
    cases alive

end Intercom.Android
