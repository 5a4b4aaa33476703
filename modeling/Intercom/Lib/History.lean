import Mathlib.Data.List.Induction

set_option autoImplicit false

/- Logs of what happened, read from their newest entry: a flag that some entries raise and others lower, and the
   newest entry of a kind. -/
namespace History

variable {Entry : Type}

def raised (sets clears : Entry → Bool) (log : List Entry) : Bool :=
  log.foldl (fun flag entry => if sets entry then true else if clears entry then false else flag) false

def latest (marked : Entry → Bool) (log : List Entry) : Option Entry :=
  log.foldl (fun last entry => if marked entry then some entry else last) none

@[simp] theorem raised_nil (sets clears : Entry → Bool) : raised sets clears [] = false := rfl

@[simp] theorem latest_nil (marked : Entry → Bool) : latest marked [] = none := rfl

theorem raised_snoc (sets clears : Entry → Bool) (log : List Entry) (entry : Entry) :
    raised sets clears (log ++ [entry]) =
      if sets entry then true else if clears entry then false else raised sets clears log := by
  simp [raised]

theorem latest_snoc (marked : Entry → Bool) (log : List Entry) (entry : Entry) :
    latest marked (log ++ [entry]) = if marked entry then some entry else latest marked log := by
  simp [latest]

-- The entry that raised the flag is found by going back over entries that lower nothing.
theorem raised_iff (sets clears : Entry → Bool) (log : List Entry) :
    raised sets clears log = true ↔
      ∃ before mark between, log = before ++ mark :: between ∧ sets mark = true ∧ ∀ entry ∈ between, clears entry = false := by
  induction log using List.reverseRecOn with
  | nil =>
      constructor
      · intro up
        cases up
      · rintro ⟨before, mark, between, split, -⟩
        simp at split
  | append_singleton log entry ih =>
      rw [raised_snoc]
      by_cases set : sets entry = true
      · simp only [set, if_true, true_iff]
        exact ⟨log, entry, [], rfl, set, by simp⟩
      · rw [if_neg set]
        constructor
        · intro up
          by_cases clear : clears entry = true
          · simp [clear] at up
          · rw [if_neg clear] at up
            obtain ⟨before, mark, between, split, marked, quiet⟩ := ih.mp up
            refine ⟨before, mark, between ++ [entry], by simp [split], marked, ?_⟩
            intro later member
            rcases List.mem_append.mp member with inside | last
            · exact quiet later inside
            · rw [List.mem_singleton.mp last]
              exact Bool.eq_false_iff.mpr clear
        · rintro ⟨before, mark, between, split, marked, quiet⟩
          rcases List.eq_nil_or_concat between with rfl | ⟨inner, last, rfl⟩
          · have same := List.append_inj' split rfl
            rw [List.singleton_inj.mp same.2] at set
            exact absurd marked set
          · rw [List.concat_eq_append, ← List.cons_append, ← List.append_assoc] at split
            have same := List.append_inj' split rfl
            rw [List.singleton_inj.mp same.2, quiet last (by simp)]
            exact ih.mpr ⟨before, mark, inner, same.1, marked, fun later member => quiet later (by simp [member])⟩

theorem latest_none (marked : Entry → Bool) (log : List Entry) :
    latest marked log = none ↔ ∀ entry ∈ log, marked entry = false := by
  induction log using List.reverseRecOn with
  | nil => simp
  | append_singleton log entry ih =>
      rw [latest_snoc]
      by_cases hit : marked entry = true
      · simp [hit]
      · rw [if_neg hit, ih, List.forall_mem_append]
        simp [Bool.eq_false_iff.mpr hit]

theorem latest_some (marked : Entry → Bool) (log : List Entry) (entry : Entry) (found : latest marked log = some entry) :
    marked entry = true ∧ ∃ before between, log = before ++ entry :: between ∧ ∀ later ∈ between, marked later = false := by
  induction log using List.reverseRecOn with
  | nil => cases found
  | append_singleton log last ih =>
      rw [latest_snoc] at found
      by_cases hit : marked last = true
      · rw [if_pos hit] at found
        cases found
        exact ⟨hit, log, [], rfl, by simp⟩
      · rw [if_neg hit] at found
        obtain ⟨kept, before, between, split, quiet⟩ := ih found
        refine ⟨kept, before, between ++ [last], by simp [split], ?_⟩
        intro later member
        rcases List.mem_append.mp member with inside | same
        · exact quiet later inside
        · rw [List.mem_singleton.mp same]
          exact Bool.eq_false_iff.mpr hit

end History
