import Intercom.Lib.Bytes

set_option autoImplicit false

/- The RFC 6184 packetiser that rtsp_server.c and session.c both contain: the payload and the marker of each
   packet of one NAL unit, in the order in which the send loop builds them. -/
namespace Intercom

open ByteText

def rtpMtu : Nat := 1200

def fuHeader (nalType : UInt8) (first lastFrag : Bool) : UInt8 :=
  (nalType &&& 0x1F) ||| (if first then 0x80 else 0) ||| (if lastFrag then 0x40 else 0)

def fuLoop (indicator nalType : UInt8) (isLastNalu : Bool) : Nat → Bool → Bytes → List (Bool × Bytes)
  | 0, _, _ => []
  | fuel + 1, first, payload =>
      if payload = [] then []
      else
        let lastFrag := decide (payload.length ≤ rtpMtu - 2)
        (lastFrag && isLastNalu, indicator :: fuHeader nalType first lastFrag :: payload.take (rtpMtu - 2)) ::
          fuLoop indicator nalType isLastNalu fuel false (payload.drop (rtpMtu - 2))

def packetise (nalu : Bytes) (isLastNalu : Bool) : List (Bool × Bytes) :=
  match nalu with
  | [] => []
  | header :: payload =>
      if nalu.length ≤ rtpMtu then [(isLastNalu, nalu)]
      else fuLoop ((header &&& 0xE0) ||| 28) (header &&& 0x1F) isLastNalu payload.length true payload

def packetiseFrame : List Bytes → List (Bool × Bytes)
  | [] => []
  | nalu :: rest => packetise nalu rest.isEmpty ++ packetiseFrame rest

theorem fu_loop_sizes (indicator nalType : UInt8) (isLastNalu : Bool) (fuel : Nat) (first : Bool) (payload : Bytes) :
    ∀ part ∈ fuLoop indicator nalType isLastNalu fuel first payload, 0 < part.2.length ∧ part.2.length ≤ rtpMtu := by
  induction fuel generalizing first payload with
  | zero => exact fun _ member => absurd member List.not_mem_nil
  | succ fuel ih =>
      intro part member
      by_cases done : payload = []
      · rw [fuLoop, if_pos done] at member
        exact absurd member List.not_mem_nil
      · rw [fuLoop, if_neg done] at member
        cases List.mem_cons.mp member with
        | inl now =>
            rw [now]
            simp only [List.length_cons, List.length_take, rtpMtu]
            omega
        | inr later => exact ih _ _ part later

theorem packetise_sizes (nalu : Bytes) (isLastNalu : Bool) :
    ∀ part ∈ packetise nalu isLastNalu, 0 < part.2.length ∧ part.2.length ≤ rtpMtu := by
  cases nalu with
  | nil => exact fun _ member => absurd member List.not_mem_nil
  | cons header payload =>
      intro part member
      by_cases small : (header :: payload).length ≤ rtpMtu
      · rw [packetise, if_pos small] at member
        rw [List.mem_singleton.mp member]
        exact ⟨by simp, small⟩
      · rw [packetise, if_neg small] at member
        exact fu_loop_sizes _ _ _ _ _ _ part member

theorem packetise_frame_sizes (nalus : List Bytes) :
    ∀ part ∈ packetiseFrame nalus, 0 < part.2.length ∧ part.2.length ≤ rtpMtu := by
  induction nalus with
  | nil => exact fun _ member => absurd member List.not_mem_nil
  | cons nalu rest ih =>
      intro part member
      cases List.mem_append.mp member with
      | inl now => exact packetise_sizes nalu _ part now
      | inr later => exact ih part later

theorem packetise_some (nalu : Bytes) (isLastNalu : Bool) (some : nalu ≠ []) : packetise nalu isLastNalu ≠ [] := by
  cases nalu with
  | nil => exact absurd rfl some
  | cons header payload =>
      by_cases small : (header :: payload).length ≤ rtpMtu
      · rw [packetise, if_pos small]
        exact List.cons_ne_nil _ _
      · rw [packetise, if_neg small]
        cases payload with
        | nil => exact absurd (by simp [rtpMtu]) small
        | cons byte rest =>
            rw [List.length_cons, fuLoop, if_neg (List.cons_ne_nil _ _)]
            exact List.cons_ne_nil _ _

theorem packetise_frame_some (nalus : List Bytes) (some : nalus ≠ []) (filled : ∀ nalu ∈ nalus, nalu ≠ []) :
    packetiseFrame nalus ≠ [] := by
  cases nalus with
  | nil => exact absurd rfl some
  | cons nalu rest =>
      rw [packetiseFrame]
      exact List.append_ne_nil_of_left_ne_nil (packetise_some nalu _ (filled nalu List.mem_cons_self)) _

end Intercom
