import Mathlib.Data.List.Infix

set_option autoImplicit false

/- Relative paths: a text cut at its separators, and the walk from a directory along its components. A component
   is empty, names the place itself, names the place above, or names something below. -/
namespace Paths

variable {Item : Type} [DecidableEq Item]

-- here and up are the names of the two special components.
def enter (here up : List Item) (place : List (List Item)) (component : List Item) : List (List Item) :=
  if component = [] ∨ component = here then place
  else if component = up then place.dropLast
  else place ++ [component]

def walk (here up : List Item) (place : List (List Item)) (route : List (List Item)) : List (List Item) :=
  route.foldl (enter here up) place

def Stays (here up : List Item) (base route : List (List Item)) : Prop := ∀ front, front <+: route → base <+: walk here up base front

theorem walk_below (here up : List Item) (base place route : List (List Item)) (below : base <+: place) (down : up ∉ route) :
    base <+: walk here up place route := by
  induction route generalizing place with
  | nil => exact below
  | cons component rest ih =>
      have other : component ≠ up := fun same => down (same ▸ List.mem_cons_self)
      apply ih (enter here up place component)
      · by_cases still : component = [] ∨ component = here
        · rw [enter, if_pos still]
          exact below
        · rw [enter, if_neg still, if_neg other]
          exact below.trans (List.prefix_append place [component])
      · exact fun member => down (List.mem_cons_of_mem component member)

theorem stays_below (here up : List Item) (base route : List (List Item)) (down : up ∉ route) : Stays here up base route := by
  intro front ahead
  exact walk_below here up base base front List.prefix_rfl fun member => down (ahead.subset member)

omit [DecidableEq Item] in
-- Induction on the text; its first component is carried along as a front of it.
theorem components_inside (separator : Item → Bool) (path : List Item) :
    ∃ first rest, path.splitOnP separator = first :: rest ∧ first <+: path ∧ ∀ component ∈ rest, component <:+: path := by
  induction path with
  | nil => exact ⟨[], [], List.splitOnP_nil, List.prefix_rfl, fun _ member => absurd member List.not_mem_nil⟩
  | cons item path ih =>
      obtain ⟨first, rest, cut, front, inside⟩ := ih
      have wider : ∀ component, component <:+: path → component <:+: item :: path :=
        fun component within => within.trans (List.suffix_cons item path).isInfix
      rw [List.splitOnP_cons_eq_if_modifyHead, cut]
      by_cases stop : separator item = true
      · refine ⟨[], first :: rest, by rw [if_pos stop], List.nil_prefix, ?_⟩
        intro component member
        cases List.mem_cons.mp member with
        | inl head => exact wider component (head ▸ front.isInfix)
        | inr later => exact wider component (inside component later)
      · refine ⟨item :: first, rest, by rw [if_neg stop]; rfl, List.cons_prefix_cons.mpr ⟨rfl, front⟩, ?_⟩
        exact fun component member => wider component (inside component member)

omit [DecidableEq Item] in
theorem component_within (separator : Item → Bool) (path component : List Item) (member : component ∈ path.splitOnP separator) :
    component <:+: path := by
  obtain ⟨first, rest, cut, front, inside⟩ := components_inside separator path
  rw [cut] at member
  cases List.mem_cons.mp member with
  | inl head => exact head ▸ front.isInfix
  | inr later => exact inside component later

theorem stays_of_text (separator : Item → Bool) (here up : List Item) (base : List (List Item)) (path : List Item)
    (absent : ¬ up <:+: path) : Stays here up base (path.splitOnP separator) :=
  stays_below here up base _ fun member => absent (component_within separator path up member)

end Paths
