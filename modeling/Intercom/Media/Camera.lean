import Intercom.Lib.Bytes

set_option autoImplicit false

/- camera_win.c: the encoder behind camera_open, camera_get_frame and camera_get_sps_pps. OpenH264 itself is
   outside the repository; each call of it is answered by the environment. -/
namespace Intercom

open ByteText

structure EncoderOutput where
  failed : Bool := false
  skipped : Bool := false
  idr : Bool := false
  layers : List (Bytes × List Int) := []
deriving DecidableEq, Repr

structure CameraFrame where
  nalus : List Bytes
  isKeyframe : Bool
deriving DecidableEq, Repr

structure Camera where
  opened : Bool := false
  sps : Bytes := []
  pps : Bytes := []
  hasParams : Bool := false
  frameIdx : UInt32 := 0
  forceIdr : Bool := false
deriving DecidableEq, Repr

inductive Opening where
  | opened
  | already
  | failed
deriving DecidableEq, Repr

def maxNalus : Nat := 32

-- encoderReady: creating and initialising the encoder and allocating the picture all succeed.
def cameraOpen (encoderReady : Bool) (cam : Camera) : Camera × Opening :=
  if cam.opened then (cam, .already)
  else if encoderReady then ({ opened := true }, .opened)
  else ({}, .failed)

def cameraClose (cam : Camera) : Camera := if cam.opened then {} else cam

def startCode (nalLen : Int) (segment : Bytes) : Nat :=
  if 4 ≤ nalLen ∧ segment.take 4 = [0, 0, 0, 1] then 4
  else if 3 ≤ nalLen ∧ segment.take 3 = [0, 0, 1] then 3
  else 0

def cacheParams (nalu : Bytes) (cam : Camera) : Camera :=
  match nalu with
  | [] => cam
  | header :: _ =>
      if cam.hasParams then cam
      else
        let nalType := header &&& 0x1F
        let cam :=
          if nalType = 7 ∧ nalu.length ≤ 64 then { cam with sps := nalu }
          else if nalType = 8 ∧ nalu.length ≤ 64 then { cam with pps := nalu }
          else cam
        if cam.sps ≠ [] ∧ cam.pps ≠ [] then { cam with hasParams := true } else cam

-- The buffer pointer moves only past entries that were taken.
def extractLayer (buf : Bytes) : List Int → Camera × List Bytes → Camera × List Bytes
  | [], found => found
  | nalLen :: lengths, (cam, nalus) =>
      if nalLen ≤ 0 ∨ maxNalus ≤ nalus.length then extractLayer buf lengths (cam, nalus)
      else
        let segment := buf.take nalLen.toNat
        let nalu := segment.drop (startCode nalLen segment)
        extractLayer (buf.drop nalLen.toNat) lengths (cacheParams nalu cam, nalus ++ [nalu])

def extractNalus (layers : List (Bytes × List Int)) (cam : Camera) : Camera × List Bytes :=
  layers.foldl (fun found layer => extractLayer layer.1 layer.2 found) (cam, [])

def cameraGetFrame (output : EncoderOutput) (cam : Camera) : Camera × Option CameraFrame :=
  if cam.opened then
    let cam := { cam with forceIdr := false }
    if output.failed ∨ output.skipped then (cam, none)
    else
      let found := extractNalus output.layers cam
      if found.2 = [] then (found.1, none)
      else ({ found.1 with frameIdx := found.1.frameIdx + 1 }, some ⟨found.2, output.idr⟩)
  else (cam, none)

def cameraRequestKeyframe (cam : Camera) : Camera := { cam with forceIdr := true }

def cameraGetSpsPps (cam : Camera) : Option (Bytes × Bytes) :=
  if cam.hasParams then some (cam.sps, cam.pps) else none

@[simp] theorem camera_close_opened (cam : Camera) : (cameraClose cam).opened = false := by
  unfold cameraClose
  split
  · rfl
  · simpa using ‹¬ cam.opened = true›

@[simp] theorem request_keyframe_opened (cam : Camera) : (cameraRequestKeyframe cam).opened = cam.opened := rfl

theorem camera_open_opened (ready : Bool) (cam : Camera) :
    (cameraOpen ready cam).1.opened = (cam.opened || ready) := by
  unfold cameraOpen
  by_cases live : cam.opened
  · simp [live]
  · cases ready <;> simp [live]

theorem camera_open_result (ready : Bool) (cam : Camera) :
    (cameraOpen ready cam).2 = if cam.opened then .already else if ready then .opened else .failed := by
  unfold cameraOpen
  split
  · rfl
  · split <;> rfl

theorem cache_params_opened (nalu : Bytes) (cam : Camera) : (cacheParams nalu cam).opened = cam.opened := by
  unfold cacheParams
  cases nalu with
  | nil => rfl
  | cons header rest =>
      dsimp only
      split
      · rfl
      · split <;> split <;> (try split) <;> rfl

theorem extract_layer_opened (buf : Bytes) (lengths : List Int) (found : Camera × List Bytes) :
    (extractLayer buf lengths found).1.opened = found.1.opened := by
  induction lengths generalizing buf found with
  | nil => rfl
  | cons nalLen lengths ih =>
      obtain ⟨cam, nalus⟩ := found
      by_cases passed : nalLen ≤ 0 ∨ maxNalus ≤ nalus.length
      · simp only [extractLayer, if_pos passed]
        exact ih buf (cam, nalus)
      · simp only [extractLayer, if_neg passed]
        exact (ih _ _).trans (cache_params_opened _ cam)

theorem extract_nalus_opened (layers : List (Bytes × List Int)) (cam : Camera) :
    (extractNalus layers cam).1.opened = cam.opened := by
  suffices every : ∀ found : Camera × List Bytes,
      (layers.foldl (fun found layer => extractLayer layer.1 layer.2 found) found).1.opened = found.1.opened from every (cam, [])
  induction layers with
  | nil => exact fun _ => rfl
  | cons layer rest ih => exact fun found => (ih _).trans (extract_layer_opened layer.1 layer.2 found)

@[simp] theorem camera_get_frame_opened (output : EncoderOutput) (cam : Camera) :
    (cameraGetFrame output cam).1.opened = cam.opened := by
  unfold cameraGetFrame
  split
  · dsimp only
    split
    · rfl
    · have same := extract_nalus_opened output.layers { cam with forceIdr := false }
      split
      · exact same
      · exact same
  · rfl

-- A layer as the encoder documents it: NAL units one behind the other, each a start code and at least a header byte.
def IsLayer (layer : Bytes × List Int) : Prop :=
  ∃ units : List (Bytes × Bytes),
    (∀ unit ∈ units, (unit.1 = [0, 0, 1] ∨ unit.1 = [0, 0, 0, 1]) ∧ unit.2 ≠ []) ∧
      layer = (units.flatMap fun unit => unit.1 ++ unit.2, units.map fun unit => ((unit.1 ++ unit.2).length : Int))

theorem start_code_unit (code payload : Bytes) (isCode : code = [0, 0, 1] ∨ code = [0, 0, 0, 1]) (some : payload ≠ []) :
    startCode ((code ++ payload).length : Int) (code ++ payload) = code.length := by
  rcases isCode with rfl | rfl
  · cases payload with
    | nil => exact absurd rfl some
    | cons byte rest =>
        have short : ¬ ([0, 0, 1] ++ byte :: rest : Bytes).take 4 = [0, 0, 0, 1] := by
          simp
        rw [startCode, if_neg (fun both => short both.2), if_pos]
        · rfl
        · exact ⟨by simp; omega, rfl⟩
  · rw [startCode, if_pos]
    · rfl
    · exact ⟨by simp; omega, rfl⟩

-- Once the table of NAL units is full nothing is added.
theorem extract_layer_full (buf : Bytes) (lengths : List Int) (found : Camera × List Bytes) (full : maxNalus ≤ found.2.length) :
    extractLayer buf lengths found = found := by
  induction lengths with
  | nil => rfl
  | cons nalLen lengths ih =>
      obtain ⟨cam, nalus⟩ := found
      rw [extractLayer, if_pos (Or.inr full)]
      exact ih

theorem extract_layer_units (units : List (Bytes × Bytes)) (found : Camera × List Bytes)
    (wellFormed : ∀ unit ∈ units, (unit.1 = [0, 0, 1] ∨ unit.1 = [0, 0, 0, 1]) ∧ unit.2 ≠ []) (filled : ∀ nalu ∈ found.2, nalu ≠ []) :
    ∀ nalu ∈ (extractLayer (units.flatMap fun unit => unit.1 ++ unit.2)
      (units.map fun unit => ((unit.1 ++ unit.2).length : Int)) found).2, nalu ≠ [] := by
  induction units generalizing found with
  | nil => exact filled
  | cons unit rest ih =>
      obtain ⟨cam, nalus⟩ := found
      obtain ⟨isCode, some⟩ := wellFormed unit List.mem_cons_self
      by_cases full : maxNalus ≤ nalus.length
      · rw [extract_layer_full _ _ _ full]
        exact filled
      · have taken : ((unit.1 ++ unit.2).length : Int).toNat = (unit.1 ++ unit.2).length := Int.toNat_natCast _
        have positive : ¬ (((unit.1 ++ unit.2).length : Int) ≤ 0 ∨ maxNalus ≤ nalus.length) := by
          rintro (none | many)
          · have size : 0 < (unit.1 ++ unit.2).length := List.length_pos_iff.mpr (by simp [some])
            omega
          · exact full many
        rw [List.map_cons, List.flatMap_cons, extractLayer, if_neg positive]
        dsimp only
        rw [taken, List.take_left, List.drop_left, start_code_unit unit.1 unit.2 isCode some, List.drop_left]
        refine ih _ (fun other member => wellFormed other (List.mem_cons_of_mem unit member)) ?_
        intro nalu member
        rcases List.mem_append.mp member with old | new
        · exact filled nalu old
        · rw [List.mem_singleton.mp new]
          exact some

theorem extract_nalus_units (layers : List (Bytes × List Int)) (cam : Camera) (wellFormed : ∀ layer ∈ layers, IsLayer layer) :
    ∀ nalu ∈ (extractNalus layers cam).2, nalu ≠ [] := by
  suffices every : ∀ found : Camera × List Bytes, (∀ nalu ∈ found.2, nalu ≠ []) →
      ∀ nalu ∈ (layers.foldl (fun found layer => extractLayer layer.1 layer.2 found) found).2, nalu ≠ [] from
    every (cam, []) fun _ member => absurd member List.not_mem_nil
  induction layers with
  | nil => exact fun _ filled => filled
  | cons layer rest ih =>
      intro found filled
      obtain ⟨units, each, same⟩ := wellFormed layer List.mem_cons_self
      refine ih (fun other member => wellFormed other (List.mem_cons_of_mem layer member)) _ ?_
      rw [same]
      exact extract_layer_units units found each filled

theorem camera_frame_units (output : EncoderOutput) (cam : Camera) (frame : CameraFrame)
    (wellFormed : ∀ layer ∈ output.layers, IsLayer layer) (got : (cameraGetFrame output cam).2 = some frame) :
    frame.nalus ≠ [] ∧ ∀ nalu ∈ frame.nalus, nalu ≠ [] := by
  have units := extract_nalus_units output.layers { cam with forceIdr := false } wellFormed
  rw [cameraGetFrame] at got
  split at got
  · dsimp only at got
    split at got
    · cases got
    · split at got
      · cases got
      · rename_i some
        cases got
        exact ⟨some, units⟩
  · cases got

end Intercom
