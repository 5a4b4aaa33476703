import Intercom.Lib.Lines
import Intercom.Rtsp.Tracks

set_option autoImplicit false

/- The two numbers of a Transport header, from the parameter that names them to the fields of the client and the reply.
   parse_interleaved and parse_client_port are one function at two widths: strstr for the name, atoi behind it, strchr for
   a dash in all that follows. -/
namespace Intercom

open ByteText

structure DecimalText where
  digits : Bytes
  filled : digits ≠ []
  all : ∀ byte ∈ digits, isDigit byte = true

def DecimalText.value (numeral : DecimalText) : Nat := digitsValue numeral.digits

def NumberKind.key : NumberKind → Bytes
  | .interleaved => ascii "interleaved="
  | .clientPort => ascii "client_port="

def NumberKind.size : NumberKind → Nat
  | .interleaved => 256
  | .clientPort => 65536

structure TransportParams where
  kind : NumberKind
  before : List Bytes
  first : DecimalText
  second : Option DecimalText
  behind : List Bytes
  apart : ∀ param ∈ before ++ behind, (59 : UInt8) ∉ param

namespace TransportParams

variable (params : TransportParams)

def values : Bytes :=
  params.first.digits ++
    match params.second with
    | some numeral => 45 :: numeral.digits
    | none => []

def own : Bytes := params.kind.key ++ params.values

def text : Bytes := [59].intercalate (params.before ++ params.own :: params.behind)

def rtp : Nat := params.first.value

def rtcp : Nat :=
  match params.second with
  | some numeral => numeral.value
  | none => params.first.value + 1

end TransportParams

-- What is written into the record of the track. Of the client's UDP ports the record has only the first.
def Stores (cli : RtspClient) (rtp rtcp : Nat) : Track → Transport → Prop
  | .video, .tcp .. => cli.video.interleaved.toNat = rtp ∧ cli.video.interleavedRtcp.toNat = rtcp
  | .audio, .tcp .. => cli.audio.interleaved.toNat = rtp ∧ cli.audio.interleavedRtcp.toNat = rtcp
  | .backchannel, .tcp .. => cli.backchannelInterleaved.toNat = rtp ∧ cli.backchannelInterleavedRtcp.toNat = rtcp
  | .video, .udp .. => cli.video.dest.port.toNat = rtp
  | .audio, .udp .. => cli.audio.dest.port.toNat = rtp
  | .backchannel, .udp .. => False

-- A SETUP answered 200 stores and echoes the numbers of the parameter as they are, whatever their size.
def Honours (params : TransportParams) (after : RtspClient) (outs : List Out) : Prop :=
  ∀ conn answer, Out.reply conn answer ∈ outs → answer.code = 200 →
    ∃ track transport, answer.extra = .setup track transport ∧ transport.numbers = (params.kind, params.rtp, params.rtcp) ∧
      Stores after params.rtp params.rtcp track transport

-- atoi finds the first number behind the name, and the second behind the first dash or, without a dash, one further.
def ReadsPair (size : Nat) (rest : Bytes) (rtp rtcp : Nat) : Prop :=
  atoi rest % size = rtp ∧
    ((∃ front dashed, rest = front ++ 45 :: dashed ∧ (45 : UInt8) ∉ front ∧ atoi dashed % size = rtcp) ∨
      ((45 : UInt8) ∉ rest ∧ (rtp + 1) % size = rtcp))

namespace TransportParams

variable (params : TransportParams)

def tail (others : List Bytes) : Bytes := others.flatMap (59 :: ·)

-- No earlier parameter holds the name, and no later one a dash where the second number is left out.
def Undisturbed : Prop :=
  (∀ param ∈ params.before, ¬params.kind.key <:+: param) ∧ (params.second = none → ∀ param ∈ params.behind, (45 : UInt8) ∉ param)

-- The dash of a later parameter is followed by the number that was left out.
def LuckyDash : Prop :=
  (∀ param ∈ params.before, ¬params.kind.key <:+: param) ∧ params.second = none ∧
    ∃ front dashed, tail params.behind = front ++ 45 :: dashed ∧ (45 : UInt8) ∉ front ∧ atoi dashed % params.kind.size = params.rtcp

-- An earlier parameter holds the name, and behind it stand the same numbers up to multiples of the size.
def LuckyName : Prop :=
  ∃ early param others front value, params.before = early ++ param :: others ∧ (∀ other ∈ early, ¬params.kind.key <:+: other) ∧
    param = front ++ params.kind.key ++ value ∧
    (∀ other behind, param = other ++ params.kind.key ++ behind → front.length ≤ other.length) ∧
    ReadsPair params.kind.size (value ++ tail (others ++ params.own :: params.behind)) params.rtp params.rtcp

end TransportParams

-- What strstr, atoi and strchr make of the text behind the name.
def channelNumbers (key : Bytes) (size : Nat) (transport : Bytes) : Option (Int × Int) :=
  (after key transport).map fun rest =>
    (atoi rest % size,
      match memchr 45 rest with
      | some dash => atoi (rest.drop (dash + 1)) % size
      | none => (atoi rest % size + 1) % size)

theorem to_u8_value (value : Int) : ((toU8 value).toNat : Int) = value % 256 := by
  rw [toU8, UInt8.toNat_ofNat']
  omega

theorem to_u16_value (value : Int) : ((toU16 value).toNat : Int) = value % 65536 := by
  rw [toU16, UInt16.toNat_ofNat']
  omega

theorem narrowed_numbers {Width : Type} (key : Bytes) (size : Nat) (narrow : Int → Width) (next : Width → Width) (value : Width → Int)
    (narrowed : ∀ number, value (narrow number) = number % size) (follows : ∀ narrow, value (next narrow) = (value narrow + 1) % size)
    (length : key.length = 12) (transport : Bytes) :
    ((findSub key transport).map fun found =>
      let rest := transport.drop (found + 12)
      match memchr 45 rest with
      | some dash => (narrow (atoi rest), narrow (atoi (rest.drop (dash + 1))))
      | none => (narrow (atoi rest), next (narrow (atoi rest)))).map (fun pair => (value pair.1, value pair.2)) =
      channelNumbers key size transport := by
  rw [channelNumbers, after, Option.map_map, Option.map_map]
  refine congrFun (congrArg Option.map (funext fun found => ?_)) _
  simp only [Function.comp, length]
  cases memchr 45 (transport.drop (found + 12)) with
  | some dash => simp only [narrowed]
  | none => simp only [follows, narrowed]

theorem interleaved_numbers (transport : Bytes) :
    (parseInterleaved transport).map (fun pair => ((pair.1.toNat : Int), (pair.2.toNat : Int))) =
      channelNumbers NumberKind.interleaved.key 256 transport := by
  refine narrowed_numbers _ 256 toU8 (· + 1) (fun byte => (byte.toNat : Int)) to_u8_value (fun byte => ?_) (by decide) transport
  rw [UInt8.toNat_add]
  simp

theorem client_port_numbers (transport : Bytes) :
    (parseClientPort transport).map (fun pair => ((pair.1.toNat : Int), (pair.2.toNat : Int))) =
      channelNumbers NumberKind.clientPort.key 65536 transport := by
  refine narrowed_numbers _ 65536 toU16 (· + 1) (fun word => (word.toNat : Int)) to_u16_value (fun word => ?_) (by decide) transport
  rw [UInt16.toNat_add]
  simp

def Out.setupNumbers? : Out → Option (NumberKind × Nat × Nat)
  | .reply _ answer =>
      match answer.extra with
      | .setup _ transport => if answer.code = 200 then some transport.numbers else none
      | _ => none
  | _ => none

theorem setup_done_stores (cli after : RtspClient) (track : Track) (transport : Transport) (done : SetupDone cli track transport after) :
    Stores after transport.numbers.2.1 transport.numbers.2.2 track transport := by
  cases done with
  | tcpVideo => exact ⟨rfl, rfl⟩
  | tcpAudio => exact ⟨rfl, rfl⟩
  | tcpBackchannel => exact ⟨rfl, rfl⟩
  | udpVideo => rfl
  | udpAudio => rfl

theorem honours_numbers (w : World) (d : Device) (cli : RtspClient) (req : RtspReq) (params : TransportParams) :
    Honours params (handleSetup w d cli req).2.1 (handleSetup w d cli req).2.2 ↔
      (setupAccepted w d cli req = true → setupNumbers cli req = (params.kind, params.rtp, params.rtcp)) := by
  rcases handle_setup_answer w d cli req with ⟨refused, silent⟩ | ⟨accepted, track, transport, after, done, _, echoed, result⟩
  · refine ⟨fun _ accepted => absurd (refused.symm.trans accepted) Bool.false_ne_true, fun _ conn answer member ok => ?_⟩
    exact absurd ok (silent conn answer member)
  · have stores := setup_done_stores cli after track transport done
    rw [result]
    refine ⟨fun honours _ => ?_, fun same conn answer member ok => ?_⟩
    · obtain ⟨_, _, named, asked, _⟩ := honours _ _ (List.mem_singleton.mpr rfl) rfl
      cases named
      rw [← echoed]
      exact asked
    · cases List.mem_singleton.mp member
      have asked := echoed.trans (same accepted)
      rw [asked] at stores
      exact ⟨track, transport, rfl, asked, stores⟩

theorem channel_numbers_iff (key : Bytes) (size : Nat) (transport : Bytes) (rtp rtcp : Nat) :
    channelNumbers key size transport = some ((rtp : Int), (rtcp : Int)) ↔
      ∃ rest, after key transport = some rest ∧ ReadsPair size rest rtp rtcp := by
  rw [channelNumbers, Option.map_eq_some_iff]
  refine exists_congr fun rest => and_congr_right fun _ => ?_
  rw [Prod.mk.injEq, ReadsPair]
  refine and_congr_right fun first => ?_
  by_cases dash : (45 : UInt8) ∈ rest
  · obtain ⟨front, dashed, rfl, clean⟩ := List.eq_append_cons_of_mem dash
    have behind : (front ++ 45 :: dashed).drop (front.length + 1) = dashed := by
      rw [← List.drop_drop, List.drop_left, List.drop_one, List.tail_cons]
    rw [memchr_first 45 front dashed clean]
    dsimp only
    rw [behind]
    refine ⟨fun second => Or.inl ⟨front, dashed, rfl, clean, second⟩, ?_⟩
    rintro (⟨other, behind, same, apart, second⟩ | ⟨none, _⟩)
    · have place := memchr_first 45 other behind apart
      rw [← same, memchr_first 45 front dashed clean] at place
      obtain ⟨_, tail⟩ := List.append_inj same (Option.some.inj place)
      cases tail
      exact second
    · exact absurd dash none
  · rw [memchr_clean 45 rest dash, first]
    dsimp only
    refine ⟨fun second => Or.inr ⟨dash, ?_⟩, ?_⟩
    · exact_mod_cast second
    · rintro (⟨front, dashed, rfl, _, _⟩ | ⟨_, second⟩)
      · exact absurd (List.mem_append_right front List.mem_cons_self) dash
      · exact_mod_cast second

namespace NumberKind

variable (kind : NumberKind)

theorem key_filled : kind.key ≠ [] := by
  cases kind <;> decide

theorem key_clear : (59 : UInt8) ∉ kind.key := by
  cases kind <;> decide

theorem size_bounds : 0 < kind.size ∧ kind.size ≤ 65536 := by
  cases kind <;> decide

end NumberKind

namespace TransportParams

variable (params : TransportParams)

theorem intercalate_tail (param : Bytes) (others : List Bytes) : [59].intercalate (param :: others) = param ++ tail others := by
  induction others generalizing param with
  | nil => simp [tail]
  | cons next more ih =>
      rw [List.intercalate_cons_cons, ih next, tail, tail, List.flatMap_cons]
      simp

theorem after_tail (kind : NumberKind) (param value : Bytes) (others : List Bytes) (here : after kind.key param = some value) :
    after kind.key (param ++ tail others) = some (value ++ tail others) := by
  cases others with
  | nil => simpa [tail] using here
  | cons next more =>
      change after kind.key (param ++ 59 :: (next ++ tail more)) = some (value ++ 59 :: (next ++ tail more))
      rw [after_beside 59 kind.key param _ kind.key_filled kind.key_clear, here]

-- The search passes by the parameters that do not hold the name.
theorem after_passes (kind : NumberKind) (early : List Bytes) (param : Bytes) (others : List Bytes)
    (clean : ∀ other ∈ early, ¬kind.key <:+: other) :
    after kind.key ([59].intercalate (early ++ param :: others)) = after kind.key (param ++ tail others) := by
  induction early with
  | nil => rw [List.nil_append, intercalate_tail]
  | cons first more ih =>
      obtain ⟨here, later⟩ := List.forall_mem_cons.mp clean
      have shape : [59].intercalate (first :: more ++ param :: others) = first ++ 59 :: [59].intercalate (more ++ param :: others) := by
        cases more with
        | nil => simp [List.intercalate_cons_cons]
        | cons next rest => simp [List.intercalate_cons_cons]
      rw [shape, after_beside 59 kind.key first _ kind.key_filled kind.key_clear, (after_none kind.key first).mpr here]
      exact ih later

theorem first_holding (key : Bytes) (list : List Bytes) :
    (∀ param ∈ list, ¬key <:+: param) ∨
      ∃ early param others, list = early ++ param :: others ∧ (∀ other ∈ early, ¬key <:+: other) ∧ key <:+: param := by
  induction list with
  | nil => exact Or.inl fun _ member => absurd member List.not_mem_nil
  | cons first rest ih =>
      by_cases here : key <:+: first
      · exact Or.inr ⟨[], first, rest, rfl, fun _ member => absurd member List.not_mem_nil, here⟩
      · rcases ih with clean | ⟨early, param, others, rfl, clean, holds⟩
        · exact Or.inl (List.forall_mem_cons.mpr ⟨here, clean⟩)
        · exact Or.inr ⟨first :: early, param, others, rfl, List.forall_mem_cons.mpr ⟨here, clean⟩, holds⟩

theorem after_own (clean : ∀ param ∈ params.before, ¬params.kind.key <:+: param) :
    after params.kind.key params.text = some (params.values ++ tail params.behind) := by
  rw [text, after_passes params.kind params.before params.own params.behind clean]
  exact after_tail params.kind params.own params.values params.behind (after_here params.kind.key params.values)

theorem after_early (early : List Bytes) (param : Bytes) (others : List Bytes) (value : Bytes)
    (split : params.before = early ++ param :: others) (clean : ∀ other ∈ early, ¬params.kind.key <:+: other)
    (here : after params.kind.key param = some value) :
    after params.kind.key params.text = some (value ++ tail (others ++ params.own :: params.behind)) := by
  rw [text, split, List.append_assoc, List.cons_append, after_passes params.kind early param _ clean]
  exact after_tail params.kind param value _ here

theorem digits_dashless (numeral : DecimalText) : (45 : UInt8) ∉ numeral.digits := fun member => absurd (numeral.all 45 member) (by decide)

-- A numeral is read as it is when it fits; read modulo the size it is never itself otherwise.
theorem numeral_read (kind : NumberKind) (numeral : DecimalText) (behind : Bytes)
    (stops : ∀ byte, behind.head? = some byte → isDigit byte = false) :
    atoi (numeral.digits ++ behind) % kind.size = (numeral.value : Int) ↔ numeral.value < kind.size := by
  obtain ⟨positive, small⟩ := kind.size_bounds
  rw [atoi_numeral numeral.digits behind numeral.filled numeral.all stops, DecimalText.value, ← Int.natCast_emod, Int.natCast_inj]
  refine ⟨fun same => ?_, fun fits => ?_⟩
  · rw [← same]
    exact Nat.mod_lt _ positive
  · rw [Nat.min_eq_right (by omega), Nat.mod_eq_of_lt fits]

theorem tail_stops (others : List Bytes) (byte : UInt8) (first : (tail others).head? = some byte) : isDigit byte = false := by
  cases others with
  | nil => cases first
  | cons next more =>
      cases first
      rfl

theorem tail_dashless (others : List Bytes) : (45 : UInt8) ∉ tail others ↔ ∀ param ∈ others, (45 : UInt8) ∉ param := by
  rw [tail, List.mem_flatMap]
  refine ⟨fun none param member dash => none ⟨param, member, List.mem_cons_of_mem _ dash⟩, ?_⟩
  rintro clean ⟨param, member, dash⟩
  rcases List.mem_cons.mp dash with separator | inside
  · exact absurd separator (by decide)
  · exact clean param member inside

theorem reads_fit (kind : NumberKind) (rest : Bytes) (rtp rtcp : Nat) (reads : ReadsPair kind.size rest rtp rtcp) :
    rtp < kind.size ∧ rtcp < kind.size := by
  have positive := kind.size_bounds.1
  have bound (value : Int) : value % kind.size < kind.size := Int.emod_lt_of_pos value (by omega)
  obtain ⟨first, ⟨_, dashed, _, _, second⟩ | ⟨_, second⟩⟩ := reads
  · have one := bound (atoi rest)
    have two := bound (atoi dashed)
    omega
  · have one := bound (atoi rest)
    have two := Nat.mod_lt (rtp + 1) positive
    omega

theorem reads_both (second : DecimalText) (given : params.second = some second) :
    ReadsPair params.kind.size (params.values ++ tail params.behind) params.rtp params.rtcp ↔
      params.rtp < params.kind.size ∧ params.rtcp < params.kind.size := by
  have shape : params.values ++ tail params.behind = params.first.digits ++ 45 :: (second.digits ++ tail params.behind) := by
    rw [values, given]
    simp
  have asked : params.rtcp = second.value := by rw [rtcp, given]
  have one := numeral_read params.kind params.first (45 :: (second.digits ++ tail params.behind)) fun byte head => by cases head; rfl
  have two := numeral_read params.kind second (tail params.behind) (tail_stops params.behind)
  refine ⟨reads_fit params.kind _ _ _, ?_⟩
  rintro ⟨firstFits, secondFits⟩
  rw [asked] at secondFits ⊢
  rw [shape]
  exact ⟨one.mpr firstFits, Or.inl ⟨_, _, rfl, digits_dashless params.first, two.mpr secondFits⟩⟩

theorem reads_one (left : params.second = none) :
    ReadsPair params.kind.size (params.values ++ tail params.behind) params.rtp params.rtcp ↔
      params.rtp < params.kind.size ∧ params.rtcp < params.kind.size ∧
        ((∀ param ∈ params.behind, (45 : UInt8) ∉ param) ∨
          ∃ front dashed, tail params.behind = front ++ 45 :: dashed ∧ (45 : UInt8) ∉ front ∧ atoi dashed % params.kind.size = params.rtcp) := by
  have shape : params.values ++ tail params.behind = params.first.digits ++ tail params.behind := by
    rw [values, left]
    simp
  have asked : params.rtcp = params.rtp + 1 := by
    rw [rtcp, left]
    rfl
  have dashless := digits_dashless params.first
  have one := numeral_read params.kind params.first (tail params.behind) (tail_stops params.behind)
  rw [shape]
  refine ⟨fun reads => ?_, ?_⟩
  · obtain ⟨firstFits, secondFits⟩ := reads_fit params.kind _ _ _ reads
    refine ⟨firstFits, secondFits, ?_⟩
    obtain ⟨_, ⟨front, dashed, split, clean, second⟩ | ⟨none, _⟩⟩ := reads
    · right
      rcases List.append_eq_append_iff.mp split with ⟨more, rfl, behind⟩ | ⟨more, digits, behind⟩
      · exact ⟨more, dashed, behind, fun dash => clean (List.mem_append_right _ dash), second⟩
      · -- The dash would stand inside the numeral or right behind it.
        cases more with
        | nil => exact ⟨[], dashed, behind.symm, List.not_mem_nil, second⟩
        | cons byte rest =>
            cases behind
            exact absurd (by rw [digits]; simp) dashless
    · exact Or.inl ((tail_dashless params.behind).mp fun dash => none (List.mem_append_right _ dash))
  · rintro ⟨firstFits, secondFits, clean | ⟨front, dashed, split, clean, second⟩⟩
    · have none : (45 : UInt8) ∉ params.first.digits ++ tail params.behind := fun dash =>
        (List.mem_append.mp dash).elim dashless ((tail_dashless params.behind).mpr clean)
      refine ⟨one.mpr firstFits, Or.inr ⟨none, ?_⟩⟩
      rw [asked] at secondFits ⊢
      exact Nat.mod_eq_of_lt secondFits
    · refine ⟨one.mpr firstFits, Or.inl ⟨params.first.digits ++ front, dashed, ?_, ?_, second⟩⟩
      · rw [split, List.append_assoc]
      · exact fun dash => (List.mem_append.mp dash).elim dashless clean

theorem numbers_iff :
    channelNumbers params.kind.key params.kind.size params.text = some ((params.rtp : Int), (params.rtcp : Int)) ↔
      params.rtp < params.kind.size ∧ params.rtcp < params.kind.size ∧ (params.Undisturbed ∨ params.LuckyDash ∨ params.LuckyName) := by
  rw [channel_numbers_iff]
  refine ⟨?_, ?_⟩
  · rintro ⟨rest, found, reads⟩
    obtain ⟨firstFits, secondFits⟩ := reads_fit params.kind _ _ _ reads
    refine ⟨firstFits, secondFits, ?_⟩
    rcases first_holding params.kind.key params.before with clean | ⟨early, param, others, split, clean, holds⟩
    · have own := (params.after_own clean).symm.trans found
      cases own
      cases given : params.second with
      | some second => exact Or.inl ⟨clean, fun none => (by rw [given] at none; cases none)⟩
      | none =>
          obtain ⟨_, _, dashless | lucky⟩ := (params.reads_one given).mp reads
          · exact Or.inl ⟨clean, fun _ => dashless⟩
          · exact Or.inr (Or.inl ⟨clean, given, lucky⟩)
    · obtain ⟨value, here⟩ := Option.ne_none_iff_exists'.mp fun none => (after_none params.kind.key param).mp none holds
      cases (params.after_early early param others value split clean here).symm.trans found
      obtain ⟨front, shape, first⟩ := (after_some params.kind.key param value).mp here
      exact Or.inr (Or.inr ⟨early, param, others, front, value, split, clean, shape, first, reads⟩)
  · rintro ⟨firstFits, secondFits, ⟨clean, dashless⟩ | ⟨clean, left, lucky⟩ | ⟨early, param, others, front, value, split, clean, shape, first, reads⟩⟩
    · refine ⟨_, params.after_own clean, ?_⟩
      cases given : params.second with
      | some second => exact (params.reads_both second given).mpr ⟨firstFits, secondFits⟩
      | none => exact (params.reads_one given).mpr ⟨firstFits, secondFits, Or.inl (dashless given)⟩
    · exact ⟨_, params.after_own clean, (params.reads_one left).mpr ⟨firstFits, secondFits, Or.inr lucky⟩⟩
    · have here := (after_some params.kind.key param value).mpr ⟨front, shape, first⟩
      exact ⟨_, params.after_early early param others value split clean here, reads⟩

end TransportParams

theorem text_named (params : TransportParams) : (findSub params.kind.key params.text).isSome = true := by
  have holds : ∃ rest, after params.kind.key params.text = some rest := by
    rcases TransportParams.first_holding params.kind.key params.before with clean | ⟨early, param, others, split, clean, holds⟩
    · exact ⟨_, params.after_own clean⟩
    · obtain ⟨value, here⟩ := Option.ne_none_iff_exists'.mp fun none => (after_none params.kind.key param).mp none holds
      exact ⟨_, params.after_early early param others value split clean here⟩
  obtain ⟨rest, found⟩ := holds
  obtain ⟨index, hit, _⟩ := Option.map_eq_some_iff.mp found
  rw [hit]
  rfl

theorem setup_numbers_iff (cli : RtspClient) (req : RtspReq) (params : TransportParams) (header : req.transport = params.text) :
    setupNumbers cli req = (params.kind, params.rtp, params.rtcp) ↔
      (params.kind = .clientPort → isTcpTransport req.transport = false) ∧
        channelNumbers params.kind.key params.kind.size params.text = some ((params.rtp : Int), (params.rtcp : Int)) := by
  have named := text_named params
  rw [setupNumbers]
  cases kind : params.kind with
  | interleaved =>
      rw [kind, ← header] at named
      have tcp : isTcpTransport req.transport = true := by
        rw [isTcpTransport]
        exact Bool.or_eq_true_iff.mpr (Or.inr named)
      have parsed : ∃ channels, parseInterleaved req.transport = some channels := by
        rw [parseInterleaved]
        obtain ⟨found, hit⟩ := Option.isSome_iff_exists.mp named
        exact ⟨_, congrArg _ hit⟩
      obtain ⟨channels, found⟩ := parsed
      have numbers := interleaved_numbers req.transport
      rw [found, header] at numbers
      rw [if_pos tcp, found]
      change _ ↔ _ ∧ channelNumbers NumberKind.interleaved.key 256 params.text = _
      rw [← numbers]
      simp only [Option.getD_some, Option.map_some, Option.some.injEq, Prod.mk.injEq, Int.natCast_inj, true_and, reduceCtorEq,
        false_implies]
  | clientPort =>
      cases tcp : isTcpTransport req.transport with
      | true => simp
      | false =>
          rw [kind, ← header] at named
          have parsed : ∃ ports, parseClientPort req.transport = some ports := by
            rw [parseClientPort]
            obtain ⟨found, hit⟩ := Option.isSome_iff_exists.mp named
            exact ⟨_, congrArg _ hit⟩
          obtain ⟨ports, found⟩ := parsed
          have numbers := client_port_numbers req.transport
          rw [found, header] at numbers
          rw [found]
          change _ ↔ _ ∧ channelNumbers NumberKind.clientPort.key 65536 params.text = _
          rw [← numbers]
          simp only [Option.getD_some, Option.map_some, Option.some.injEq, Prod.mk.injEq, Int.natCast_inj, true_and, reduceCtorEq,
            implies_true, if_false]

theorem setup_honours_iff (w : World) (d : Device) (cli : RtspClient) (req : RtspReq) (params : TransportParams) :
    Honours params (handleSetup w d cli { req with transport := params.text }).2.1
        (handleSetup w d cli { req with transport := params.text }).2.2 ↔
      (setupAccepted w d cli { req with transport := params.text } = true →
        (params.kind = .clientPort → isTcpTransport params.text = false) ∧
          params.rtp < params.kind.size ∧ params.rtcp < params.kind.size ∧
          (params.Undisturbed ∨ params.LuckyDash ∨ params.LuckyName)) := by
  rw [honours_numbers, setup_numbers_iff cli { req with transport := params.text } params rfl, params.numbers_iff]

def wideChannels : TransportParams where
  kind := .interleaved
  before := [ascii "RTP/AVP/TCP", ascii "unicast"]
  first := ⟨ascii "256", by decide, List.all_eq_true.mp (by decide)⟩
  second := some ⟨ascii "257", by decide, List.all_eq_true.mp (by decide)⟩
  behind := []
  apart := by decide

def wideSetup : RtspReq := { method := ascii "SETUP", uri := ascii "rtsp://door/trackID=0", transport := wideChannels.text }

theorem wide_channels_wrap :
    (handleSetup sampleWorld {} freshClient wideSetup).2.2.filterMap Out.setupNumbers? = [(.interleaved, 0, 1)] ∧
      (handleSetup sampleWorld {} freshClient wideSetup).2.1.video.interleaved = 0 ∧
      ¬Honours wideChannels (handleSetup sampleWorld {} freshClient wideSetup).2.1
        (handleSetup sampleWorld {} freshClient wideSetup).2.2 := by
  refine ⟨by decide, by decide, fun honours => ?_⟩
  obtain ⟨track, transport, named, echoed, _⟩ := honours _ _ (List.mem_singleton.mpr rfl) rfl
  cases named
  revert echoed
  decide

end Intercom
