import Mathlib.Algebra.Ring.Nat
import Mathlib.Data.List.Infix

set_option autoImplicit false

/- A reader takes messages off the front of a growing buffer. Its step must be decided by the bytes of the
   message alone: what stands behind it may change only what `view` forgets of the outputs. Then the cuts
   between received chunks cannot be observed. -/
namespace Chunked

structure Reader (State Output Item View : Type) where
  step : State → List Item → Option (State × List Output × List Item)
  view : Output → View
  shrinks : ∀ state buffer next outs rest, step state buffer = some (next, outs, rest) → rest.length < buffer.length
  stable : ∀ state buffer next outs rest, step state buffer = some (next, outs, rest) → ∀ behind,
    ∃ others, step state (buffer ++ behind) = some (next, others, rest ++ behind) ∧ others.map view = outs.map view

variable {State Output Item View : Type}

def drainLoop (step : State → List Item → Option (State × List Output × List Item)) :
    Nat → State → List Item → State × List Output × List Item
  | 0, state, buffer => (state, [], buffer)
  | fuel + 1, state, buffer =>
      match step state buffer with
      | none => (state, [], buffer)
      | some (next, outs, rest) =>
          let result := drainLoop step fuel next rest
          (result.1, outs ++ result.2.1, result.2.2)

def drain (step : State → List Item → Option (State × List Output × List Item)) (state : State) (buffer : List Item) :
    State × List Output × List Item :=
  drainLoop step buffer.length state buffer

def feed (step : State → List Item → Option (State × List Output × List Item))
    (reached : State × List Output × List Item) (chunk : List Item) : State × List Output × List Item :=
  let result := drain step reached.1 (reached.2.2 ++ chunk)
  (result.1, reached.2.1 ++ result.2.1, result.2.2)

def Same (reader : Reader State Output Item View) (left right : State × List Output × List Item) : Prop :=
  left.1 = right.1 ∧ left.2.1.map reader.view = right.2.1.map reader.view ∧ left.2.2 = right.2.2

variable (reader : Reader State Output Item View)

theorem same_refl (result : State × List Output × List Item) : Same reader result result := ⟨rfl, rfl, rfl⟩

theorem same_symm (left right : State × List Output × List Item) (same : Same reader left right) :
    Same reader right left :=
  ⟨same.1.symm, same.2.1.symm, same.2.2.symm⟩

theorem same_trans (a b c : State × List Output × List Item) (first : Same reader a b) (second : Same reader b c) :
    Same reader a c :=
  ⟨first.1.trans second.1, first.2.1.trans second.2.1, first.2.2.trans second.2.2⟩

theorem drain_loop_fuel (fuel : Nat) (state : State) (buffer : List Item) (enough : buffer.length ≤ fuel) :
    drainLoop reader.step fuel state buffer = drain reader.step state buffer := by
  induction fuel using Nat.strongRecOn generalizing state buffer with
  | ind fuel ih =>
      cases fuel with
      | zero =>
          have empty : buffer.length = 0 := by omega
          rw [drain, empty]
      | succ fuel =>
          unfold drain
          cases size : buffer.length with
          | zero =>
              cases taken : reader.step state buffer with
              | none => simp [drainLoop, taken]
              | some result =>
                  have shorter := reader.shrinks state buffer result.1 result.2.1 result.2.2 taken
                  omega
          | succ length =>
              cases taken : reader.step state buffer with
              | none => simp [drainLoop, taken]
              | some result =>
                  have shorter := reader.shrinks state buffer result.1 result.2.1 result.2.2 taken
                  have long := ih fuel (by omega) result.1 result.2.2 (by omega)
                  have short := ih length (by omega) result.1 result.2.2 (by omega)
                  simp only [drainLoop, taken, long, short]

theorem drain_stuck (state : State) (buffer : List Item) (stuck : reader.step state buffer = none) :
    drain reader.step state buffer = (state, [], buffer) := by
  unfold drain
  cases buffer.length with
  | zero => rfl
  | succ length => simp [drainLoop, stuck]

theorem drain_message (state next : State) (buffer rest : List Item) (outs : List Output)
    (taken : reader.step state buffer = some (next, outs, rest)) :
    drain reader.step state buffer =
      ((drain reader.step next rest).1, outs ++ (drain reader.step next rest).2.1, (drain reader.step next rest).2.2) := by
  have shorter := reader.shrinks state buffer next outs rest taken
  have enough := drain_loop_fuel reader (buffer.length - 1) next rest (by omega)
  have unfolded : drain reader.step state buffer = drainLoop reader.step ((buffer.length - 1) + 1) state buffer := by
    rw [drain, Nat.sub_add_cancel (by omega)]
  rw [unfolded]
  simp only [drainLoop, taken, enough]

-- Strong induction on the buffer, one message at a time.
theorem drain_rest_stuck (state : State) (buffer : List Item) :
    reader.step (drain reader.step state buffer).1 (drain reader.step state buffer).2.2 = none := by
  induction size : buffer.length using Nat.strongRecOn generalizing state buffer with
  | ind length ih =>
      cases taken : reader.step state buffer with
      | none =>
          rw [drain_stuck reader state buffer taken]
          exact taken
      | some result =>
          have shorter := reader.shrinks state buffer result.1 result.2.1 result.2.2 taken
          rw [drain_message reader state result.1 buffer result.2.2 result.2.1 taken]
          exact ih result.2.2.length (by omega) result.1 result.2.2 rfl

theorem drain_append (state : State) (buffer chunk : List Item) :
    Same reader (drain reader.step state (buffer ++ chunk)) (feed reader.step (drain reader.step state buffer) chunk) := by
  induction size : buffer.length using Nat.strongRecOn generalizing state buffer with
  | ind length ih =>
      cases taken : reader.step state buffer with
      | none =>
          rw [drain_stuck reader state buffer taken]
          exact same_refl reader _
      | some result =>
          have shorter := reader.shrinks state buffer result.1 result.2.1 result.2.2 taken
          obtain ⟨others, again, sameOuts⟩ := reader.stable state buffer result.1 result.2.1 result.2.2 taken chunk
          have rest := ih result.2.2.length (by omega) result.1 result.2.2 rfl
          rw [drain_message reader state result.1 (buffer ++ chunk) (result.2.2 ++ chunk) others again,
            drain_message reader state result.1 buffer result.2.2 result.2.1 taken]
          refine ⟨rest.1, ?_, rest.2.2⟩
          have outs := rest.2.1
          simp only [feed, List.map_append] at outs ⊢
          rw [outs, sameOuts, List.append_assoc]

theorem feed_flatten (reached : State × List Output × List Item) (chunks : List (List Item))
    (stuck : reader.step reached.1 reached.2.2 = none) :
    Same reader (chunks.foldl (feed reader.step) reached) (feed reader.step reached chunks.flatten) := by
  induction chunks generalizing reached with
  | nil =>
      simp only [List.foldl_nil, feed, List.flatten_nil, List.append_nil, drain_stuck reader _ _ stuck]
      exact same_refl reader _
  | cons chunk tail ih =>
      have later := ih (feed reader.step reached chunk) (drain_rest_stuck reader _ _)
      have joined := drain_append reader reached.1 (reached.2.2 ++ chunk) tail.flatten
      refine same_trans reader _ _ _ later ?_
      refine ⟨?_, ?_, ?_⟩
      · simpa [feed] using joined.1.symm
      · have outs := joined.2.1.symm
        simp only [feed, List.map_append, List.flatten_cons, List.append_assoc] at outs ⊢
        rw [outs]
      · simpa [feed] using joined.2.2.symm

theorem chunking_unobservable (reached : State × List Output × List Item) (left right : List (List Item))
    (stuck : reader.step reached.1 reached.2.2 = none) (sameStream : left.flatten = right.flatten) :
    Same reader (left.foldl (feed reader.step) reached) (right.foldl (feed reader.step) reached) := by
  have first := feed_flatten reader reached left stuck
  have second := feed_flatten reader reached right stuck
  rw [sameStream] at first
  exact same_trans reader _ _ _ first (same_symm reader _ _ second)

-- A whole message: taken exactly while the reader is alive, and not before its last item has arrived.
structure Message (alive : State → Prop) (message : List Item) : Prop where
  taken : ∀ state behind, alive state → ∃ next outs, reader.step state (message ++ behind) = some (next, outs, behind)
  waits : ∀ state received missing, message = received ++ missing → missing ≠ [] → reader.step state received = none

-- A stream of whole messages and one that has not ended yet. What may have to wait of one of them is within the bound: all
-- of the last one, and all but the final item of a whole one.
structure Sequence (alive : State → Prop) (bound : Nat) (messages : List (List Item)) (tail : List Item) : Prop where
  whole : ∀ message ∈ messages, Message reader alive message ∧ message.length ≤ bound + 1
  last : tail.length ≤ bound

theorem drain_length (state : State) (buffer : List Item) : (drain reader.step state buffer).2.2.length ≤ buffer.length := by
  induction size : buffer.length using Nat.strongRecOn generalizing state buffer with
  | ind length ih =>
      cases taken : reader.step state buffer with
      | none =>
          rw [drain_stuck reader state buffer taken]
          exact Nat.le_of_eq size
      | some result =>
          have shorter := reader.shrinks state buffer result.1 result.2.1 result.2.2 taken
          have rest := ih result.2.2.length (by omega) result.1 result.2.2 rfl
          rw [drain_message reader state result.1 buffer result.2.2 result.2.1 taken]
          exact Nat.le_trans rest (by omega)

theorem drain_sequence (alive : State → Prop) (dead : ∀ state buffer, ¬ alive state → reader.step state buffer = none)
    (bound : Nat) (messages : List (List Item)) (tail : List Item) (inv : Sequence reader alive bound messages tail)
    (state : State) (buffer later : List Item) (stream : buffer ++ later = messages.flatten ++ tail) :
    ¬ alive (drain reader.step state buffer).1 ∨
      (drain reader.step state buffer).2.2.length ≤ bound ∧
        ∃ remaining rest, Sequence reader alive bound remaining rest ∧
          (drain reader.step state buffer).2.2 ++ later = remaining.flatten ++ rest := by
  induction messages generalizing state buffer with
  | nil =>
      have shorter := drain_length reader state buffer
      have size : buffer.length + later.length = tail.length := by
        rw [← List.length_append, stream]
        simp
      have fits := inv.last
      have left : ((drain reader.step state buffer).2.2 ++ later).length ≤ bound := by
        rw [List.length_append]
        omega
      exact Or.inr ⟨by omega, [], _, ⟨by simp, left⟩, rfl⟩
  | cons message rest ih =>
      obtain ⟨first, fits⟩ := inv.whole message (by simp)
      have inner : Sequence reader alive bound rest tail :=
        ⟨fun other member => inv.whole other (by simp [member]), inv.last⟩
      by_cases live : alive state
      · rw [List.flatten_cons, List.append_assoc] at stream
        -- Either the message is still incomplete, or it is taken and the rest of the stream is left.
        have cases : (∃ missing, missing ≠ [] ∧ message = buffer ++ missing) ∨
            ∃ behind, buffer = message ++ behind ∧ behind ++ later = rest.flatten ++ tail := by
          rcases List.append_eq_append_iff.mp stream with ⟨missing, split, after⟩ | ⟨behind, split, after⟩
          · by_cases complete : missing = []
            · subst complete
              exact Or.inr ⟨[], by simpa using split.symm, by simpa using after⟩
            · exact Or.inl ⟨missing, complete, split⟩
          · exact Or.inr ⟨behind, split, after.symm⟩
        rcases cases with ⟨missing, nonempty, split⟩ | ⟨behind, split, after⟩
        · have stuck := first.waits state buffer missing split nonempty
          have some : 0 < missing.length := List.length_pos_iff.mpr nonempty
          have size : message.length = buffer.length + missing.length := by rw [split, List.length_append]
          rw [drain_stuck reader state buffer stuck]
          refine Or.inr ⟨show buffer.length ≤ bound by omega, message :: rest, tail, inv, ?_⟩
          rw [List.flatten_cons, List.append_assoc]
          exact stream
        · obtain ⟨next, outs, took⟩ := first.taken state behind live
          rw [← split] at took
          rw [drain_message reader state next buffer behind outs took]
          exact ih inner next behind after
      · rw [drain_stuck reader state buffer (dead state buffer live)]
        exact Or.inl live

end Chunked
