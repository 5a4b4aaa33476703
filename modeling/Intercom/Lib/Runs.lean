import Mathlib.Data.List.Basic

set_option autoImplicit false

/- Runs of a system whose labels resolve every choice of its environment. -/
namespace Runs

variable {State Label Output : Type}

-- The history of outputs is carried beside the state; no step reads it.
def record (step : State → Label → State × List Output) (reached : State × List Output) (label : Label) :
    State × List Output :=
  ((step reached.1 label).1, reached.2 ++ (step reached.1 label).2)

def run (next : State → Label → State) (state : State) (labels : List Label) : State := labels.foldl next state

def EachStep (next : State → Label → State) (holds : State → Label → Prop) : State → List Label → Prop
  | _, [] => True
  | state, label :: tail => holds state label ∧ EachStep next holds (next state label) tail

def EachState (next : State → Label → State) (holds : State → Prop) : State → List Label → Prop
  | state, [] => holds state
  | state, label :: tail => holds state ∧ EachState next holds (next state label) tail

theorem record_outputs (step : State → Label → State × List Output) (state : State) (sent : List Output) (labels : List Label) :
    (run (record step) (state, sent) labels).2 = sent ++ (run (record step) (state, []) labels).2 := by
  induction labels generalizing state sent with
  | nil => simp [run]
  | cons label tail ih =>
      have whole := ih (step state label).1 (sent ++ (step state label).2)
      have alone := ih (step state label).1 (step state label).2
      simp only [run, List.foldl_cons, record, List.nil_append] at whole alone ⊢
      rw [whole, alone, List.append_assoc]

theorem record_state (step : State → Label → State × List Output) (state : State) (sent : List Output) (labels : List Label) :
    (run (record step) (state, sent) labels).1 = (run (record step) (state, []) labels).1 := by
  induction labels generalizing state sent with
  | nil => rfl
  | cons label tail ih =>
      have whole := ih (step state label).1 (sent ++ (step state label).2)
      have alone := ih (step state label).1 (step state label).2
      simp only [run, List.foldl_cons, record, List.nil_append] at whole alone ⊢
      rw [whole, alone]

theorem record_simulates {Abstract : Type} (step : State → Label → State × List Output)
    (spec : Abstract → Label → Abstract × List Output) (related : State → Abstract → Prop)
    (kept : ∀ state abstract label, related state abstract →
      related (step state label).1 (spec abstract label).1 ∧ (step state label).2 = (spec abstract label).2)
    (state : State) (abstract : Abstract) (labels : List Label) (initial : related state abstract) :
    related (run (record step) (state, []) labels).1 (run (record spec) (abstract, []) labels).1 ∧
      (run (record step) (state, []) labels).2 = (run (record spec) (abstract, []) labels).2 := by
  induction labels generalizing state abstract with
  | nil => exact ⟨initial, rfl⟩
  | cons label tail ih =>
      obtain ⟨after, same⟩ := kept state abstract label initial
      obtain ⟨last, equal⟩ := ih _ _ after
      have concrete := record_state step (step state label).1 (step state label).2 tail
      have abstracted := record_state spec (spec abstract label).1 (spec abstract label).2 tail
      have sent := record_outputs step (step state label).1 (step state label).2 tail
      have expected := record_outputs spec (spec abstract label).1 (spec abstract label).2 tail
      simp only [run, List.foldl_cons, record, List.nil_append] at concrete abstracted sent expected last equal ⊢
      rw [concrete, abstracted, sent, expected, equal, same]
      exact ⟨last, rfl⟩

variable (next : State → Label → State)

theorem run_append (state : State) (early late : List Label) :
    run next state (early ++ late) = run next (run next state early) late := by
  simp [run]

theorem run_kept (inv : State → Prop) (state : State) (labels : List Label)
    (kept : ∀ current, ∀ label ∈ labels, inv current → inv (next current label)) (initial : inv state) :
    inv (run next state labels) := by
  induction labels generalizing state with
  | nil => exact initial
  | cons label tail ih =>
      apply ih (next state label) (fun current later member => kept current later (List.mem_cons_of_mem label member))
      exact kept state label List.mem_cons_self initial

theorem run_invariant (inv : State → Prop) (state : State) (labels : List Label)
    (kept : ∀ current label, inv current → inv (next current label)) (initial : inv state) :
    inv (run next state labels) :=
  run_kept next inv state labels (fun current label _ => kept current label) initial

instance decidableEachStep (holds : State → Label → Prop) [each : ∀ state label, Decidable (holds state label)] :
    ∀ (state : State) (labels : List Label), Decidable (EachStep next holds state labels)
  | _, [] => isTrue trivial
  | state, label :: tail =>
      have : Decidable (EachStep next holds (next state label) tail) := decidableEachStep holds (next state label) tail
      inferInstanceAs (Decidable (holds state label ∧ EachStep next holds (next state label) tail))

theorem each_state_kept (inv : State → Prop) (state : State) (labels : List Label)
    (kept : ∀ current label, inv current → inv (next current label)) (initial : inv state) :
    EachState next inv state labels := by
  induction labels generalizing state with
  | nil => exact initial
  | cons label tail ih => exact ⟨initial, ih (next state label) (kept state label initial)⟩

theorem each_state_mono (weak strong : State → Prop) (state : State) (labels : List Label)
    (implies : ∀ current, strong current → weak current) (every : EachState next strong state labels) :
    EachState next weak state labels := by
  induction labels generalizing state with
  | nil => exact implies state every
  | cons label tail ih => exact ⟨implies state every.1, ih (next state label) every.2⟩

theorem each_state_last (holds : State → Prop) (state : State) (labels : List Label)
    (every : EachState next holds state labels) : holds (run next state labels) := by
  induction labels generalizing state with
  | nil => exact every
  | cons label tail ih => exact ih (next state label) every.2

theorem each_step_append (holds : State → Label → Prop) (state : State) (early late : List Label) :
    EachStep next holds state (early ++ late) ↔
      EachStep next holds state early ∧ EachStep next holds (run next state early) late := by
  induction early generalizing state with
  | nil => exact ⟨fun every => ⟨trivial, every⟩, fun every => every.2⟩
  | cons label tail ih =>
      have rest := ih (next state label)
      exact ⟨fun every => ⟨⟨every.1, (rest.mp every.2).1⟩, (rest.mp every.2).2⟩,
        fun every => ⟨every.1.1, rest.mpr ⟨every.1.2, every.2⟩⟩⟩

theorem each_step_at (holds : State → Label → Prop) (state : State) (early late : List Label) (label : Label)
    (every : EachStep next holds state (early ++ label :: late)) : holds (run next state early) label := by
  induction early generalizing state with
  | nil => exact every.1
  | cons head tail ih => exact ih (next state head) every.2

-- Two conditions that agree wherever the invariant holds agree along a run, when the second keeps the invariant.
theorem each_step_guarded (inv : State → Prop) (first second : State → Label → Prop) (state : State) (labels : List Label)
    (kept : ∀ current label, inv current → second current label → inv (next current label))
    (agree : ∀ current label, inv current → (first current label ↔ second current label)) (initial : inv state) :
    EachStep next first state labels ↔ EachStep next second state labels := by
  induction labels generalizing state with
  | nil => exact Iff.rfl
  | cons label tail ih =>
      have here := agree state label initial
      constructor
      · intro every
        have met := here.mp every.1
        exact ⟨met, (ih (next state label) (kept state label initial met)).mp every.2⟩
      · intro every
        exact ⟨here.mpr every.1, (ih (next state label) (kept state label initial every.1)).mpr every.2⟩

theorem each_step_congr (side : State → Prop) (first second : State → Label → Prop) (state : State) (labels : List Label)
    (kept : ∀ current label, side current → side (next current label))
    (agree : ∀ current label, side current → (first current label ↔ second current label)) (always : side state) :
    EachStep next first state labels ↔ EachStep next second state labels :=
  each_step_guarded next side first second state labels (fun current label before _ => kept current label before) agree always

-- Where the condition of a step decides whether the property survives it, the conditions along a run decide
-- whether the property holds all along it.
theorem each_state_iff_steps (inv side : State → Prop) (holds : State → Label → Prop) (state : State) (labels : List Label)
    (kept : ∀ current label, side current → side (next current label))
    (decides : ∀ current label, side current → inv current → (inv (next current label) ↔ holds current label))
    (always : side state) (initial : inv state) :
    EachState next inv state labels ↔ EachStep next holds state labels := by
  induction labels generalizing state with
  | nil => exact ⟨fun _ => trivial, fun _ => initial⟩
  | cons label tail ih =>
      have first := decides state label always initial
      constructor
      · intro every
        have after : inv (next state label) := by
          cases tail with
          | nil => exact every.2
          | cons => exact every.2.1
        exact ⟨first.mp after, (ih (next state label) (kept state label always) after).mp every.2⟩
      · intro every
        have after := first.mpr every.1
        exact ⟨initial, (ih (next state label) (kept state label always) after).mpr every.2⟩

theorem each_state_of_steps (inv : State → Prop) (holds : State → Label → Prop) (state : State) (labels : List Label)
    (kept : ∀ current label, inv current → holds current label → inv (next current label))
    (initial : inv state) (every : EachStep next holds state labels) : EachState next inv state labels := by
  induction labels generalizing state with
  | nil => exact initial
  | cons label tail ih =>
      exact ⟨initial, ih (next state label) (kept state label initial every.1) every.2⟩

theorem each_step_of_states (inv : State → Prop) (holds : State → Label → Prop) (state : State) (labels : List Label)
    (implies : ∀ current label, inv current → holds current label) (every : EachState next inv state labels) :
    EachStep next holds state labels := by
  induction labels generalizing state with
  | nil => trivial
  | cons label tail ih => exact ⟨implies state label every.1, ih (next state label) every.2⟩

end Runs
