import Intercom.Media.Camera
import Intercom.Lib.Runs

set_option autoImplicit false

/- camera_get_frame once more, with the pointers it hands out and the error codes it returns: which slices of the
   encoder's buffers it finds, and which parameter sets it has kept since camera_open. -/
namespace Intercom

open ByteText

-- struct camera_nalu: data points into the buffer of a layer.
structure CameraNalu where
  buf : Bytes
  offset : Nat
  len : Nat
deriving DecidableEq, Repr

def CameraNalu.data (nalu : CameraNalu) : Bytes := (nalu.buf.drop nalu.offset).take nalu.len

def CameraNalu.Inside (nalu : CameraNalu) : Prop := nalu.offset + nalu.len ≤ nalu.buf.length

structure NaluFrame where
  nalus : List CameraNalu
  isKeyframe : Bool
deriving DecidableEq, Repr

inductive CameraError where
  | einval
  | eio
  | eagain
deriving DecidableEq, Repr

-- The inner loop, with buf as an offset into the layer.
def sliceLayer (buf : Bytes) : List Int → Nat → Camera × List CameraNalu → Camera × List CameraNalu
  | [], _, found => found
  | nalLen :: lengths, pos, (cam, nalus) =>
      if nalLen ≤ 0 ∨ maxNalus ≤ nalus.length then sliceLayer buf lengths pos (cam, nalus)
      else
        let skip := startCode nalLen ((buf.drop pos).take nalLen.toNat)
        let nalu : CameraNalu := ⟨buf, pos + skip, nalLen.toNat - skip⟩
        sliceLayer buf lengths (pos + nalLen.toNat) (cacheParams nalu.data cam, nalus ++ [nalu])

def sliceNalus (layers : List (Bytes × List Int)) (found : Camera × List CameraNalu) : Camera × List CameraNalu :=
  layers.foldl (fun found layer => sliceLayer layer.1 layer.2 0 found) found

def cameraGetFrameSlices (output : EncoderOutput) (cam : Camera) : Camera × Except CameraError NaluFrame :=
  if cam.opened then
    let cam := { cam with forceIdr := false }
    if output.failed then (cam, .error .eio)
    else if output.skipped then (cam, .error .eagain)
    else
      let found := sliceNalus output.layers (cam, [])
      if found.2 = [] then (found.1, .error .eagain)
      else ({ found.1 with frameIdx := found.1.frameIdx + 1 }, .ok ⟨found.2, output.idr⟩)
  else (cam, .error .einval)

def NaluFrame.copied (frame : NaluFrame) : CameraFrame := ⟨frame.nalus.map CameraNalu.data, frame.isKeyframe⟩

theorem slice_layer_copied (buf : Bytes) (lengths : List Int) (pos : Nat) (cam : Camera) (nalus : List CameraNalu) :
    extractLayer (buf.drop pos) lengths (cam, nalus.map CameraNalu.data) =
      ((sliceLayer buf lengths pos (cam, nalus)).1, (sliceLayer buf lengths pos (cam, nalus)).2.map CameraNalu.data) := by
  induction lengths generalizing pos cam nalus with
  | nil => rfl
  | cons nalLen lengths ih =>
      by_cases passed : nalLen ≤ 0 ∨ maxNalus ≤ nalus.length
      · rw [extractLayer, List.length_map, if_pos passed, sliceLayer, if_pos passed]
        exact ih pos cam nalus
      · rw [extractLayer, List.length_map, if_neg passed, sliceLayer, if_neg passed]
        dsimp only
        rw [← ih, List.map_append, List.map_singleton, CameraNalu.data, List.drop_take, List.drop_drop, List.drop_drop]

theorem slice_nalus_copied (layers : List (Bytes × List Int)) (cam : Camera) (nalus : List CameraNalu) :
    layers.foldl (fun found layer => extractLayer layer.1 layer.2 found) (cam, nalus.map CameraNalu.data) =
      ((sliceNalus layers (cam, nalus)).1, (sliceNalus layers (cam, nalus)).2.map CameraNalu.data) := by
  induction layers generalizing cam nalus with
  | nil => rfl
  | cons layer rest ih =>
      have first := slice_layer_copied layer.1 layer.2 0 cam nalus
      rw [List.drop_zero] at first
      rw [List.foldl_cons, first, ih]
      rfl

-- The frame the rest of the program copies is the one these slices show.
theorem camera_get_frame_copies (output : EncoderOutput) (cam : Camera) :
    cameraGetFrame output cam =
      ((cameraGetFrameSlices output cam).1, (cameraGetFrameSlices output cam).2.toOption.map NaluFrame.copied) := by
  have found := slice_nalus_copied output.layers { cam with forceIdr := false } []
  rw [List.map_nil] at found
  unfold cameraGetFrame cameraGetFrameSlices
  by_cases live : cam.opened
  · rw [if_pos live, if_pos live]
    dsimp only
    cases output.failed with
    | true => rfl
    | false =>
        cases output.skipped with
        | true => rfl
        | false =>
            rw [extractNalus, found]
            by_cases none : (sliceNalus output.layers ({ cam with forceIdr := false }, [])).2 = []
            · simp [none, Except.toOption]
            · simp [none, Except.toOption, NaluFrame.copied]
  · rw [if_neg live, if_neg live]
    rfl

def positiveLengths (lengths : List Int) : List Nat := (lengths.filter fun nalLen => 0 < nalLen).map Int.toNat

-- Each segment begins where the ones before it end.
def tiles (buf : Bytes) (start : Nat) (lengths : List Nat) : List CameraNalu :=
  lengths.mapIdx fun index len => ⟨buf, start + (lengths.take index).sum, len⟩

def segments (layers : List (Bytes × List Int)) : List CameraNalu :=
  layers.flatMap fun layer => tiles layer.1 0 (positiveLengths layer.2)

def leadingCode : Bytes → Nat
  | 0 :: 0 :: 0 :: 1 :: _ => 4
  | 0 :: 0 :: 1 :: _ => 3
  | _ => 0

def CameraNalu.stripped (segment : CameraNalu) : CameraNalu :=
  ⟨segment.buf, segment.offset + leadingCode segment.data, segment.len - leadingCode segment.data⟩

def LayerFits (layer : Bytes × List Int) : Prop := (positiveLengths layer.2).sum ≤ layer.1.length

theorem tiles_nil (buf : Bytes) (start : Nat) : tiles buf start [] = [] := rfl

theorem tiles_cons (buf : Bytes) (start len : Nat) (lengths : List Nat) :
    tiles buf start (len :: lengths) = ⟨buf, start, len⟩ :: tiles buf (start + len) lengths := by
  simp [tiles, List.mapIdx_cons, Nat.add_assoc]

theorem tiles_inside (buf : Bytes) (start : Nat) (lengths : List Nat) (fits : start + lengths.sum ≤ buf.length) :
    ∀ segment ∈ tiles buf start lengths, segment.buf = buf ∧ segment.Inside := by
  induction lengths generalizing start with
  | nil => exact fun _ member => absurd member List.not_mem_nil
  | cons len lengths ih =>
      intro segment member
      rw [List.sum_cons] at fits
      rw [tiles_cons] at member
      cases List.mem_cons.mp member with
      | inl first =>
          rw [first]
          refine ⟨rfl, ?_⟩
          dsimp only [CameraNalu.Inside]
          omega
      | inr later => exact ih (start + len) (by omega) segment later

theorem leading_code_length (bytes : Bytes) : leadingCode bytes ≤ bytes.length := by
  unfold leadingCode
  split <;> simp

theorem data_length (segment : CameraNalu) : segment.data.length ≤ segment.len := List.length_take_le _ _

theorem stripped_inside (segment : CameraNalu) (inside : segment.Inside) : segment.stripped.Inside := by
  have short := Nat.le_trans (leading_code_length segment.data) (data_length segment)
  dsimp only [CameraNalu.Inside, CameraNalu.stripped] at inside ⊢
  omega

theorem stripped_data (segment : CameraNalu) : segment.stripped.data = segment.data.drop (leadingCode segment.data) := by
  dsimp only [CameraNalu.stripped, CameraNalu.data]
  rw [List.drop_take, List.drop_drop]

-- The length tests of the source hold by themselves where the bytes are there.
theorem start_code_leading (nalLen : Int) (segment : Bytes) (bounded : (segment.length : Int) ≤ nalLen) :
    startCode nalLen segment = leadingCode segment := by
  unfold leadingCode
  split
  · rw [startCode, if_pos]
    simp only [List.length_cons] at bounded
    exact ⟨by omega, rfl⟩
  · rename_i other
    rw [startCode, if_neg, if_pos]
    · simp only [List.length_cons] at bounded
      exact ⟨by omega, rfl⟩
    · simp
  · rename_i four three
    rw [startCode, if_neg, if_neg]
    · rintro ⟨_, code⟩
      exact three (segment.drop 3) (by rw [← List.take_append_drop 3 segment, code]; rfl)
    · rintro ⟨_, code⟩
      exact four (segment.drop 4) (by rw [← List.take_append_drop 4 segment, code]; rfl)

theorem slice_layer_full (buf : Bytes) (lengths : List Int) (pos : Nat) (found : Camera × List CameraNalu)
    (full : maxNalus ≤ found.2.length) : sliceLayer buf lengths pos found = found := by
  induction lengths with
  | nil => rfl
  | cons nalLen lengths ih =>
      obtain ⟨cam, nalus⟩ := found
      rw [sliceLayer, if_pos (Or.inr full)]
      exact ih

def cacheAll (nalus : List CameraNalu) (cam : Camera) : Camera := nalus.foldl (fun cam nalu => cacheParams nalu.data cam) cam

-- What a loop adds to found: as many of the segments as the table has room for, each looked at for parameters.
def takeIn (nalus : List CameraNalu) (found : Camera × List CameraNalu) : Camera × List CameraNalu :=
  (cacheAll (nalus.take (maxNalus - found.2.length)) found.1, found.2 ++ nalus.take (maxNalus - found.2.length))

theorem positive_cons (nalLen : Int) (lengths : List Int) (positive : 0 < nalLen) :
    positiveLengths (nalLen :: lengths) = nalLen.toNat :: positiveLengths lengths := by
  simp [positiveLengths, positive]

theorem positive_skip (nalLen : Int) (lengths : List Int) (empty : nalLen ≤ 0) :
    positiveLengths (nalLen :: lengths) = positiveLengths lengths := by
  simp [positiveLengths, Int.not_lt.mpr empty]

theorem take_in_full (nalus : List CameraNalu) (found : Camera × List CameraNalu) (full : maxNalus ≤ found.2.length) :
    takeIn nalus found = found := by
  rw [takeIn, Nat.sub_eq_zero_of_le full, List.take_zero, List.append_nil]
  rfl

theorem take_in_cons (nalu : CameraNalu) (rest : List CameraNalu) (cam : Camera) (nalus : List CameraNalu)
    (room : nalus.length < maxNalus) :
    takeIn (nalu :: rest) (cam, nalus) = takeIn rest (cacheParams nalu.data cam, nalus ++ [nalu]) := by
  have count : maxNalus - nalus.length = (maxNalus - (nalus ++ [nalu]).length) + 1 := by
    rw [List.length_append, List.length_singleton]
    omega
  simp only [takeIn, count, List.take_succ_cons, cacheAll, List.foldl_cons, List.append_assoc, List.singleton_append]

theorem take_in_append (first second : List CameraNalu) (found : Camera × List CameraNalu) :
    takeIn (first ++ second) found = takeIn second (takeIn first found) := by
  induction first generalizing found with
  | nil => simp [takeIn, cacheAll]
  | cons nalu rest ih =>
      by_cases full : maxNalus ≤ found.2.length
      · rw [take_in_full _ found full, take_in_full _ found full, take_in_full _ found full]
      · obtain ⟨cam, nalus⟩ := found
        rw [List.cons_append, take_in_cons _ _ _ _ (Nat.lt_of_not_le full), take_in_cons _ _ _ _ (Nat.lt_of_not_le full)]
        exact ih _

theorem slice_layer_takes (buf : Bytes) (lengths : List Int) (pos : Nat) (found : Camera × List CameraNalu) :
    sliceLayer buf lengths pos found = takeIn ((tiles buf pos (positiveLengths lengths)).map CameraNalu.stripped) found := by
  induction lengths generalizing pos found with
  | nil => simp [sliceLayer, positiveLengths, tiles_nil, takeIn, cacheAll]
  | cons nalLen lengths ih =>
      by_cases full : maxNalus ≤ found.2.length
      · rw [slice_layer_full _ _ _ _ full, take_in_full _ _ full]
      · obtain ⟨cam, nalus⟩ := found
        by_cases empty : nalLen ≤ 0
        · rw [sliceLayer, if_pos (.inl empty), positive_skip nalLen lengths empty]
          exact ih pos (cam, nalus)
        · have code : startCode nalLen ((buf.drop pos).take nalLen.toNat) = leadingCode ((buf.drop pos).take nalLen.toNat) := by
            apply start_code_leading
            have bound := List.length_take_le nalLen.toNat (buf.drop pos)
            omega
          rw [sliceLayer, if_neg (not_or.mpr ⟨empty, full⟩), positive_cons nalLen lengths (Int.lt_of_not_ge empty), tiles_cons,
            List.map_cons, take_in_cons _ _ _ _ (Nat.lt_of_not_le full), ← ih]
          dsimp only
          rw [code]
          rfl

theorem slice_nalus_takes (layers : List (Bytes × List Int)) (found : Camera × List CameraNalu) :
    sliceNalus layers found = takeIn ((segments layers).map CameraNalu.stripped) found := by
  induction layers generalizing found with
  | nil => simp [sliceNalus, segments, takeIn, cacheAll]
  | cons layer rest ih =>
      rw [segments, List.flatMap_cons, List.map_append, take_in_append, ← slice_layer_takes, ← segments, ← ih]
      rfl

def emitted (output : EncoderOutput) : List CameraNalu := (segments output.layers).map CameraNalu.stripped

-- The first 32 segments, without their start codes.
def grabbed (output : EncoderOutput) : List CameraNalu := (emitted output).take maxNalus

theorem camera_get_frame_slices (output : EncoderOutput) (cam : Camera) (opened : cam.opened = true) (success : output.failed = false)
    (coded : output.skipped = false) :
    (cameraGetFrameSlices output cam).2 =
      if segments output.layers = [] then .error .eagain else .ok ⟨grabbed output, output.idr⟩ := by
  have found : (sliceNalus output.layers ({ cam with forceIdr := false }, [])).2 = grabbed output := by
    rw [slice_nalus_takes]
    rfl
  have none : grabbed output = [] ↔ segments output.layers = [] := by
    simp [grabbed, emitted, maxNalus]
  rw [cameraGetFrameSlices, if_pos opened, success, coded]
  dsimp only
  rw [if_neg Bool.false_ne_true, if_neg Bool.false_ne_true, found]
  by_cases empty : segments output.layers = []
  · rw [if_pos (none.mpr empty), if_pos empty]
  · rw [if_neg (fun still => empty (none.mp still)), if_neg empty]

theorem grabbed_inside (output : EncoderOutput) (fits : ∀ layer ∈ output.layers, LayerFits layer) :
    ∀ nalu ∈ grabbed output, nalu.Inside ∧ ∃ layer ∈ output.layers, nalu.buf = layer.1 := by
  intro nalu member
  obtain ⟨segment, listed, rfl⟩ := List.mem_map.mp (List.mem_of_mem_take member)
  obtain ⟨layer, present, inLayer⟩ := List.mem_flatMap.mp listed
  have small : 0 + (positiveLengths layer.2).sum ≤ layer.1.length := by
    rw [Nat.zero_add]
    exact fits layer present
  obtain ⟨same, inside⟩ := tiles_inside layer.1 0 _ small segment inLayer
  exact ⟨stripped_inside segment inside, layer, present, same⟩

inductive CameraCall where
  | opening (encoderReady : Bool)
  | closing
  | getFrame (output : EncoderOutput)
  | requestKeyframe
  | getSpsPps
deriving DecidableEq, Repr

def cameraCall (cam : Camera) : CameraCall → Camera
  | .opening encoderReady => (cameraOpen encoderReady cam).1
  | .closing => cameraClose cam
  | .getFrame output => (cameraGetFrameSlices output cam).1
  | .requestKeyframe => cameraRequestKeyframe cam
  | .getSpsPps => cam

def Emitted (calls : List CameraCall) (nalu : Bytes) : Prop :=
  ∃ output, .getFrame output ∈ calls ∧ output.failed = false ∧ output.skipped = false ∧
    ∃ unit ∈ emitted output, unit.data = nalu

structure ParameterSet (calls : List CameraCall) (nalType : UInt8) (set : Bytes) : Prop where
  emitted : Emitted calls set
  type : ∃ header rest, set = header :: rest ∧ header &&& 0x1F = nalType
  size : 1 ≤ set.length ∧ set.length ≤ 64

structure Cached (calls : List CameraCall) (cam : Camera) : Prop where
  opened : cam.opened = true
  sps : cam.sps ≠ [] → ParameterSet calls 7 cam.sps
  pps : cam.pps ≠ [] → ParameterSet calls 8 cam.pps
  both : cam.hasParams = true → cam.sps ≠ [] ∧ cam.pps ≠ []

theorem cache_params_fixed (nalu : Bytes) (cam : Camera) (fixed : cam.hasParams = true) : cacheParams nalu cam = cam := by
  cases nalu with
  | nil => rfl
  | cons header rest => simp only [cacheParams, if_pos fixed]

theorem cache_all_fixed (nalus : List CameraNalu) (cam : Camera) (fixed : cam.hasParams = true) : cacheAll nalus cam = cam := by
  induction nalus with
  | nil => rfl
  | cons nalu rest ih =>
      rw [cacheAll, List.foldl_cons, cache_params_fixed nalu.data cam fixed]
      exact ih

theorem cached_completed (calls : List CameraCall) (cam : Camera) (cached : Cached calls cam) :
    Cached calls (if cam.sps ≠ [] ∧ cam.pps ≠ [] then { cam with hasParams := true } else cam) := by
  split
  · rename_i filled
    exact ⟨cached.opened, cached.sps, cached.pps, fun _ => filled⟩
  · exact cached

theorem cache_params_cached (calls : List CameraCall) (nalu : Bytes) (cam : Camera) (unit : Emitted calls nalu)
    (cached : Cached calls cam) : Cached calls (cacheParams nalu cam) := by
  cases nalu with
  | nil => exact cached
  | cons header rest =>
      by_cases fixed : cam.hasParams = true
      · rw [cache_params_fixed _ cam fixed]
        exact cached
      · rw [cacheParams, if_neg fixed]
        apply cached_completed
        split
        · rename_i sps
          exact ⟨cached.opened, fun _ => ⟨unit, ⟨header, rest, rfl, sps.1⟩, by simp, sps.2⟩, cached.pps, fun set => absurd set fixed⟩
        · split
          · rename_i pps
            exact ⟨cached.opened, cached.sps, fun _ => ⟨unit, ⟨header, rest, rfl, pps.1⟩, by simp, pps.2⟩, fun set => absurd set fixed⟩
          · exact cached

theorem cache_all_cached (calls : List CameraCall) (nalus : List CameraNalu) (cam : Camera)
    (units : ∀ nalu ∈ nalus, Emitted calls nalu.data) (cached : Cached calls cam) : Cached calls (cacheAll nalus cam) := by
  induction nalus generalizing cam with
  | nil => exact cached
  | cons nalu rest ih =>
      apply ih (cacheParams nalu.data cam) (fun other member => units other (List.mem_cons_of_mem nalu member))
      exact cache_params_cached calls nalu.data cam (units nalu List.mem_cons_self) cached

-- What camera_get_frame leaves behind: it has looked at the units it returned, if there was a frame at all.
theorem camera_get_frame_camera (output : EncoderOutput) (cam : Camera) (opened : cam.opened = true) :
    ∃ nalus frames, (cameraGetFrameSlices output cam).1 = { cacheAll nalus { cam with forceIdr := false } with frameIdx := frames } ∧
      (nalus = [] ∨ output.failed = false ∧ output.skipped = false ∧ nalus = grabbed output) := by
  rw [cameraGetFrameSlices, if_pos opened]
  dsimp only
  split
  · exact ⟨[], cam.frameIdx, rfl, .inl rfl⟩
  · rename_i success
    split
    · exact ⟨[], cam.frameIdx, rfl, .inl rfl⟩
    · rename_i coded
      have done : output.failed = false ∧ output.skipped = false := ⟨by simpa using success, by simpa using coded⟩
      rw [slice_nalus_takes]
      split
      · exact ⟨grabbed output, _, rfl, .inr ⟨done.1, done.2, rfl⟩⟩
      · exact ⟨grabbed output, _, rfl, .inr ⟨done.1, done.2, rfl⟩⟩

theorem camera_call_cached (calls : List CameraCall) (cam : Camera) (call : CameraCall) (unclosed : call ≠ .closing)
    (member : call ∈ calls) (cached : Cached calls cam) : Cached calls (cameraCall cam call) := by
  cases call with
  | opening encoderReady =>
      rw [cameraCall, cameraOpen, if_pos cached.opened]
      exact cached
  | closing => exact absurd rfl unclosed
  | getFrame output =>
      obtain ⟨nalus, frames, after, units⟩ := camera_get_frame_camera output cam cached.opened
      have looked : Cached calls (cacheAll nalus { cam with forceIdr := false }) := by
        apply cache_all_cached calls nalus { cam with forceIdr := false } _ ⟨cached.opened, cached.sps, cached.pps, cached.both⟩
        intro nalu listed
        cases units with
        | inl none =>
            rw [none] at listed
            exact absurd listed List.not_mem_nil
        | inr frame =>
            rw [frame.2.2] at listed
            exact ⟨output, member, frame.1, frame.2.1, nalu, List.mem_of_mem_take listed, rfl⟩
      rw [cameraCall, after]
      exact ⟨looked.opened, looked.sps, looked.pps, looked.both⟩
  | requestKeyframe => exact ⟨cached.opened, cached.sps, cached.pps, cached.both⟩
  | getSpsPps => exact cached

structure Settled (sps pps : Bytes) (cam : Camera) : Prop where
  opened : cam.opened = true
  hasParams : cam.hasParams = true
  sps : cam.sps = sps
  pps : cam.pps = pps

theorem camera_call_settled (sps pps : Bytes) (cam : Camera) (call : CameraCall) (unclosed : call ≠ .closing)
    (settled : Settled sps pps cam) : Settled sps pps (cameraCall cam call) := by
  cases call with
  | opening encoderReady =>
      rw [cameraCall, cameraOpen, if_pos settled.opened]
      exact settled
  | closing => exact absurd rfl unclosed
  | getFrame output =>
      obtain ⟨nalus, frames, after, _⟩ := camera_get_frame_camera output cam settled.opened
      rw [cache_all_fixed nalus { cam with forceIdr := false } settled.hasParams] at after
      rw [cameraCall, after]
      exact ⟨settled.opened, settled.hasParams, settled.sps, settled.pps⟩
  | requestKeyframe => exact ⟨settled.opened, settled.hasParams, settled.sps, settled.pps⟩
  | getSpsPps => exact settled

theorem camera_open_camera (encoderReady : Bool) (before : Camera) (opening : (cameraOpen encoderReady before).2 = .opened) :
    (cameraOpen encoderReady before).1 = { opened := true } := by
  unfold cameraOpen at opening ⊢
  split at opening
  · cases opening
  · rename_i closed
    split at opening
    · rename_i ready
      rw [if_neg closed, if_pos ready]
    · cases opening

theorem camera_run_cached (encoderReady : Bool) (before : Camera) (opening : (cameraOpen encoderReady before).2 = .opened)
    (calls : List CameraCall) (unclosed : .closing ∉ calls) :
    Cached calls (Runs.run cameraCall (cameraOpen encoderReady before).1 calls) := by
  apply Runs.run_kept
  · intro cam call member cached
    exact camera_call_cached calls cam call (fun closing => unclosed (closing ▸ member)) member cached
  · rw [camera_open_camera encoderReady before opening]
    exact ⟨rfl, fun none => absurd rfl none, fun none => absurd rfl none, fun none => absurd none Bool.false_ne_true⟩

theorem camera_run_settled (cam : Camera) (calls : List CameraCall) (opened : cam.opened = true) (hasParams : cam.hasParams = true)
    (unclosed : .closing ∉ calls) : Settled cam.sps cam.pps (Runs.run cameraCall cam calls) := by
  apply Runs.run_kept
  · intro current call member settled
    exact camera_call_settled cam.sps cam.pps current call (fun closing => unclosed (closing ▸ member)) settled
  · exact ⟨opened, hasParams, rfl, rfl⟩

theorem nal_extraction (encoderReady : Bool) (before : Camera) (opening : (cameraOpen encoderReady before).2 = .opened)
    (calls : List CameraCall) (unclosed : .closing ∉ calls) :
    let cam := Runs.run cameraCall (cameraOpen encoderReady before).1 calls
    (∀ output : EncoderOutput, output.failed = false → output.skipped = false → (∀ layer ∈ output.layers, LayerFits layer) →
      (cameraGetFrameSlices output cam).2 =
          (if segments output.layers = [] then .error .eagain else .ok ⟨grabbed output, output.idr⟩) ∧
        ∀ nalu ∈ grabbed output, nalu.Inside ∧ ∃ layer ∈ output.layers, nalu.buf = layer.1) ∧
      (cam.hasParams = true → ParameterSet calls 7 cam.sps ∧ ParameterSet calls 8 cam.pps) ∧
      ∀ later, .closing ∉ later → cam.hasParams = true → Settled cam.sps cam.pps (Runs.run cameraCall cam later) := by
  have cached := camera_run_cached encoderReady before opening calls unclosed
  refine ⟨?_, ?_, ?_⟩
  · intro output success coded fits
    exact ⟨camera_get_frame_slices output _ cached.opened success coded, grabbed_inside output fits⟩
  · intro hasParams
    obtain ⟨sps, pps⟩ := cached.both hasParams
    exact ⟨cached.sps sps, cached.pps pps⟩
  · intro later open_ hasParams
    exact camera_run_settled _ later cached.opened hasParams open_

def firstFrame : EncoderOutput :=
  { idr := true, layers := [([0, 0, 0, 1, 0x67, 0x42, 0, 0, 1, 0x68, 0xCE, 0, 0, 0, 1, 0x65, 0x88], [6, 0, -1, 5, 6]), ([], [0])] }

theorem first_frame_extracted :
    (cameraGetFrameSlices firstFrame { opened := true }).2 = .ok ⟨grabbed firstFrame, true⟩ ∧
      (grabbed firstFrame).map CameraNalu.data = [[0x67, 0x42], [0x68, 0xCE], [0x65, 0x88]] ∧
      ParameterSet [.getFrame firstFrame] 7 [0x67, 0x42] ∧ ParameterSet [.getFrame firstFrame] 8 [0x68, 0xCE] := by
  have fits : ∀ layer ∈ firstFrame.layers, LayerFits layer := by
    intro layer member
    simp only [firstFrame, List.mem_cons, List.not_mem_nil, or_false] at member
    rcases member with rfl | rfl
    · exact Nat.le_refl 17
    · exact Nat.le_refl 0
  obtain ⟨frame, _, _⟩ := nal_extraction true {} rfl [] List.not_mem_nil
  obtain ⟨_, params, _⟩ := nal_extraction true {} rfl [.getFrame firstFrame] (by decide)
  obtain ⟨sps, pps⟩ := params (by decide)
  exact ⟨(frame firstFrame rfl rfl fits).1, by decide, sps, pps⟩

end Intercom
