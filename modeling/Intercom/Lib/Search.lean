import Intercom.Lib.Bytes

set_option autoImplicit false

/- strstr and strchr as statements about positions: a hit is the first place where the pattern stands, no hit means
   that it stands nowhere. -/
namespace ByteText

theorem find_sub_hit (pattern text : Bytes) (index : Nat) (found : findSub pattern text = some index) :
    pattern <+: text.drop index := by
  obtain ⟨tail, split, bound⟩ := find_sub_split pattern text index found
  have size : (text.take index).length = index := by
    rw [List.length_take]
    omega
  refine ⟨tail, ?_⟩
  conv => rhs; rw [split, List.append_assoc]
  rw [List.drop_append_of_le_length (by omega), List.drop_of_length_le (by omega), List.nil_append]

theorem find_sub_before (pattern text : Bytes) (index : Nat) (found : findSub pattern text = some index) (early : Nat)
    (before : early < index) : ¬pattern <+: text.drop early := by
  induction text generalizing index early with
  | nil =>
      rw [findSub] at found
      split at found
      · cases found
        omega
      · cases found
  | cons byte rest ih =>
      rw [findSub] at found
      split at found
      · cases found
        omega
      · rename_i here
        obtain ⟨later, foundRest, rfl⟩ := Option.map_eq_some_iff.mp found
        cases early with
        | zero => exact fun hit => here (List.isPrefixOf_iff_prefix.mpr hit)
        | succ early => exact ih later foundRest early (by omega)

theorem find_sub_miss (pattern text : Bytes) (missing : findSub pattern text = none) (index : Nat) : ¬pattern <+: text.drop index := by
  rintro ⟨tail, split⟩
  obtain ⟨place, _, found⟩ := find_sub_infix pattern (text.take index) tail
  rw [List.append_assoc, split, List.take_append_drop, missing] at found
  cases found

-- The first place of a pattern, known from the outside.
theorem find_sub_at (pattern text : Bytes) (index : Nat) (hit : pattern <+: text.drop index)
    (first : ∀ early < index, ¬pattern <+: text.drop early) : findSub pattern text = some index := by
  cases found : findSub pattern text with
  | none => exact absurd hit (find_sub_miss pattern text found index)
  | some place =>
      rcases Nat.lt_trichotomy place index with under | same | beyond
      · exact absurd (find_sub_hit pattern text place found) (first place under)
      · rw [same]
      · exact absurd hit (find_sub_before pattern text place found index beyond)

theorem find_sub_none (pattern text : Bytes) (nowhere : ∀ index, ¬pattern <+: text.drop index) : findSub pattern text = none := by
  cases found : findSub pattern text with
  | none => rfl
  | some place => exact absurd (find_sub_hit pattern text place found) (nowhere place)

theorem prefix_snoc (pattern text : Bytes) (byte : UInt8) :
    pattern ++ [byte] <+: text ↔ pattern <+: text ∧ text[pattern.length]? = some byte := by
  refine ⟨?_, ?_⟩
  · rintro ⟨tail, rfl⟩
    refine ⟨⟨byte :: tail, by simp⟩, ?_⟩
    rw [List.append_assoc, List.getElem?_append_right (Nat.le_refl _), Nat.sub_self]
    rfl
  · rintro ⟨⟨tail, rfl⟩, next⟩
    rw [List.getElem?_append_right (Nat.le_refl _), Nat.sub_self] at next
    cases tail with
    | nil => cases next
    | cons head rest =>
        cases next
        exact ⟨rest, by simp⟩

-- What follows the first place of a pattern.
def after (pattern text : Bytes) : Option Bytes := (findSub pattern text).map fun found => text.drop (found + pattern.length)

theorem after_cons (pattern : Bytes) (byte : UInt8) (rest : Bytes) :
    after pattern (byte :: rest) =
      if pattern.isPrefixOf (byte :: rest) then some ((byte :: rest).drop pattern.length) else after pattern rest := by
  rw [after, findSub]
  split
  · rw [Option.map_some, Nat.zero_add]
  · rw [after, Option.map_map]
    refine congrFun (congrArg Option.map (funext fun found => ?_)) _
    change (byte :: rest).drop (found + 1 + pattern.length) = rest.drop (found + pattern.length)
    rw [Nat.add_right_comm]
    rfl

theorem after_none (pattern text : Bytes) : after pattern text = none ↔ ¬pattern <:+: text := by
  rw [after, Option.map_eq_none_iff]
  refine ⟨?_, fun nowhere => find_sub_none pattern text fun index hit => nowhere (hit.isInfix.trans (List.drop_suffix _ _).isInfix)⟩
  rintro missing ⟨front, rest, rfl⟩
  apply find_sub_miss pattern _ missing front.length
  rw [List.append_assoc, List.drop_left]
  exact List.prefix_append _ _

theorem after_here (pattern rest : Bytes) : after pattern (pattern ++ rest) = some rest := by
  have found : findSub pattern (pattern ++ rest) = some 0 :=
    find_sub_at pattern _ 0 (List.prefix_append _ _) fun early before => absurd before (Nat.not_lt_zero early)
  rw [after, found, Option.map_some, Nat.zero_add, List.drop_left]

theorem after_some (pattern text rest : Bytes) :
    after pattern text = some rest ↔
      ∃ front, text = front ++ pattern ++ rest ∧ ∀ other behind, text = other ++ pattern ++ behind → front.length ≤ other.length := by
  refine ⟨fun found => ?_, ?_⟩
  · obtain ⟨index, hit, rfl⟩ := Option.map_eq_some_iff.mp found
    obtain ⟨tail, split, bound⟩ := find_sub_split pattern text index hit
    have size : (text.take index).length = index := by
      rw [List.length_take]
      omega
    have same : text.drop (index + pattern.length) = tail := by
      conv => lhs; rw [split]
      rw [← List.drop_drop, List.append_assoc, List.drop_append_of_le_length (Nat.le_of_eq size.symm),
        List.drop_of_length_le (Nat.le_of_eq size), List.nil_append, List.drop_left]
    refine ⟨text.take index, by rw [same]; exact split, fun other behind whole => ?_⟩
    rw [size]
    refine Nat.le_of_not_lt fun before => find_sub_before pattern text index hit other.length before ?_
    rw [whole, List.append_assoc, List.drop_left]
    exact List.prefix_append _ _
  · rintro ⟨front, rfl, first⟩
    have found : findSub pattern (front ++ pattern ++ rest) = some front.length := by
      apply find_sub_at
      · rw [List.append_assoc, List.drop_left]
        exact List.prefix_append _ _
      · rintro early before ⟨behind, split⟩
        have whole : front ++ pattern ++ rest = (front ++ pattern ++ rest).take early ++ pattern ++ behind := by
          rw [List.append_assoc _ pattern behind, split, List.take_append_drop]
        have least := first _ _ whole
        rw [List.length_take] at least
        omega
    rw [after, found, Option.map_some, ← List.length_append, List.drop_left]

section Sides

-- A word that does not hold an item lies wholly before it or wholly behind it.
variable {Item : Type} (stop : Item) (word : List Item)

theorem prefix_before (front rest : List Item) (clear : stop ∉ word) : word <+: front ++ stop :: rest ↔ word <+: front := by
  refine ⟨fun hit => ?_, fun hit => hit.trans (List.prefix_append _ _)⟩
  by_cases fits : word.length ≤ front.length
  · exact List.prefix_of_prefix_length_le hit (List.prefix_append _ _) fits
  · have inside := hit.getElem (by omega : front.length < word.length)
    rw [List.getElem_append_right (Nat.le_refl _)] at inside
    simp only [Nat.sub_self, List.getElem_cons_zero] at inside
    exact absurd (List.mem_of_getElem inside) clear

theorem suffix_behind (front rest : List Item) (clear : stop ∉ word) : word <:+ front ++ stop :: rest ↔ word <:+ rest := by
  have mirrored := prefix_before stop word.reverse rest.reverse front.reverse fun member => clear (List.mem_reverse.mp member)
  rw [← List.reverse_prefix, List.reverse_append, List.reverse_cons, List.append_assoc, List.singleton_append, mirrored,
    List.reverse_prefix]

theorem infix_delimited (front rest : List Item) (clear : stop ∉ word) :
    word <:+: front ++ stop :: rest ↔ word <:+: front ∨ word <:+: rest := by
  induction front with
  | nil =>
      have here := prefix_before stop word [] rest clear
      rw [List.nil_append] at here ⊢
      rw [List.infix_cons_iff, here, List.prefix_nil, List.infix_nil]
  | cons byte tail ih =>
      have here := prefix_before stop word (byte :: tail) rest clear
      rw [List.cons_append] at here ⊢
      rw [List.infix_cons_iff, here, ih, List.infix_cons_iff, or_assoc]

theorem infix_ahead (head : Item) (tail front rest : List Item) (absent : head ∉ front) :
    head :: tail <:+: front ++ rest ↔ head :: tail <:+: rest := by
  induction front with
  | nil => rfl
  | cons item more ih =>
      have other : ¬head :: tail <+: item :: (more ++ rest) := fun hit =>
        absent (by rw [(List.cons_prefix_cons.mp hit).1]; exact List.mem_cons_self)
      rw [List.cons_append, List.infix_cons_iff, ih fun member => absent (List.mem_cons_of_mem _ member)]
      exact or_iff_right other

theorem infix_before_last (last : Item) (init front rest : List Item) (absent : last ∉ rest) :
    init ++ [last] <:+: front ++ rest ↔ init ++ [last] <:+: front := by
  have mirrored := infix_ahead last init.reverse rest.reverse front.reverse fun member => absent (List.mem_reverse.mp member)
  rw [← List.reverse_infix, List.reverse_append, List.reverse_append, List.reverse_singleton, List.singleton_append, mirrored,
    ← List.reverse_infix, List.reverse_cons, List.reverse_reverse, List.reverse_reverse]

end Sides

section Delimited

-- A word that cannot hold the delimiter, searched for together with the delimiter behind it.
variable (stop : UInt8) (word : Bytes)

theorem prefix_delimited (front rest : Bytes) (clear : stop ∉ word) (clean : stop ∉ front) :
    word ++ [stop] <+: front ++ stop :: rest ↔ word = front := by
  induction word generalizing front with
  | nil =>
      cases front with
      | nil => exact ⟨fun _ => rfl, fun _ => ⟨rest, rfl⟩⟩
      | cons byte tail =>
          refine ⟨fun hit => ?_, fun same => (by cases same)⟩
          exact absurd (List.cons_prefix_cons.mp hit).1 fun same => clean (by rw [same]; exact List.mem_cons_self)
  | cons letter more ih =>
      cases front with
      | nil =>
          refine ⟨fun hit => ?_, fun same => (by cases same)⟩
          exact absurd (List.cons_prefix_cons.mp hit).1 fun same => clear (by rw [same]; exact List.mem_cons_self)
      | cons byte tail =>
          have later := ih tail (fun member => clear (List.mem_cons_of_mem _ member)) fun member => clean (List.mem_cons_of_mem _ member)
          rw [List.cons_append, List.cons_append, List.cons_prefix_cons, later, List.cons.injEq]

theorem after_delimited (front rest : Bytes) (clear : stop ∉ word) (clean : stop ∉ front) :
    after (word ++ [stop]) (front ++ stop :: rest) = if word <:+ front then some rest else after (word ++ [stop]) rest := by
  induction front with
  | nil =>
      have here := prefix_delimited stop word [] rest clear clean
      rw [List.nil_append] at here ⊢
      rw [after_cons]
      by_cases none : word = []
      · rw [none]
        simp
      · have miss : ¬(word ++ [stop]).isPrefixOf (stop :: rest) = true := fun hit => none (here.mp (List.isPrefixOf_iff_prefix.mp hit))
        rw [if_neg miss, if_neg (fun suffix => none (List.suffix_nil.mp suffix))]
  | cons byte tail ih =>
      have here := prefix_delimited stop word (byte :: tail) rest clear clean
      have later := ih fun member => clean (List.mem_cons_of_mem _ member)
      rw [List.cons_append] at here ⊢
      rw [after_cons, later]
      by_cases same : word = byte :: tail
      · have hit := List.isPrefixOf_iff_prefix.mpr (here.mpr same)
        rw [if_pos hit, if_pos (by rw [same])]
        simp [same]
      · have miss : ¬(word ++ [stop]).isPrefixOf (byte :: (tail ++ stop :: rest)) = true := fun hit =>
          same (here.mp (List.isPrefixOf_iff_prefix.mp hit))
        rw [if_neg miss]
        refine if_congr ?_ rfl rfl
        rw [List.suffix_cons_iff]
        exact ⟨Or.inr, fun either => either.resolve_left same⟩

-- A word that does not hold the delimiter stands on one side of it or on the other.
theorem after_beside (front rest : Bytes) (filled : word ≠ []) (clear : stop ∉ word) :
    after word (front ++ stop :: rest) =
      match after word front with
      | some behind => some (behind ++ stop :: rest)
      | none => after word rest := by
  induction front with
  | nil =>
      have miss : ¬word.isPrefixOf (stop :: rest) = true := fun hit =>
        filled (List.prefix_nil.mp ((prefix_before stop word [] rest clear).mp (List.isPrefixOf_iff_prefix.mp hit)))
      have none : after word [] = none := (after_none word []).mpr fun inside => filled (List.infix_nil.mp inside)
      rw [List.nil_append, after_cons, if_neg miss, none]
  | cons byte tail ih =>
      have here : word.isPrefixOf (byte :: (tail ++ stop :: rest)) = true ↔ word.isPrefixOf (byte :: tail) = true := by
        rw [List.isPrefixOf_iff_prefix, List.isPrefixOf_iff_prefix]
        exact prefix_before stop word (byte :: tail) rest clear
      rw [List.cons_append, after_cons, after_cons, ih]
      by_cases hit : word.isPrefixOf (byte :: tail) = true
      · have fits := (List.isPrefixOf_iff_prefix.mp hit).length_le
        rw [if_pos (here.mpr hit), if_pos hit, ← List.cons_append, List.drop_append_of_le_length fits]
      · rw [if_neg fun other => hit (here.mp other), if_neg hit]

end Delimited

end ByteText
