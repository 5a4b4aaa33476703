import Intercom.Lib.Search
import Intercom.Rtsp.Digest

set_option autoImplicit false

/- Which value parse_digest_field finds in a header of quoted fields. The name is searched for as a text, so the end of
   a longer name, or the end of a value, can stand in for the field. -/
namespace Intercom

open ByteText

def isAlnum (byte : UInt8) : Bool := isDigit byte || (65 ≤ byte && byte ≤ 90) || (97 ≤ byte && byte ≤ 122)

structure DigestPair where
  name : Bytes
  value : Bytes
deriving DecidableEq, Repr

structure DigestPairs where
  pairs : List DigestPair
  named : ∀ pair ∈ pairs, ∀ byte ∈ pair.name, isAlnum byte = true
  distinct : (pairs.map DigestPair.name).Nodup
  quoted : ∀ pair ∈ pairs, (34 : UInt8) ∉ pair.value

inductive AuthField where
  | username
  | realm
  | nonce
  | uri
  | response
deriving DecidableEq, Repr

def AuthField.name : AuthField → Bytes
  | .username => ascii "username"
  | .realm => ascii "realm"
  | .nonce => ascii "nonce"
  | .uri => ascii "uri"
  | .response => ascii "response"

def pairText (pair : DigestPair) : Bytes := pair.name ++ ascii "=\"" ++ pair.value ++ ascii "\""

def authorization (pairs : List DigestPair) : Bytes := ascii "Digest " ++ (ascii ", ").intercalate (pairs.map pairText)

def FieldExact (field : Bytes) (room : Nat) (pairs : List DigestPair) (result : Option Bytes) : Prop :=
  (∀ value, ⟨field, value⟩ ∈ pairs → result = some (value.take room)) ∧
    (field ∉ pairs.map DigestPair.name → result = none)

-- The search can stop at this pair: at its opening quote or at its closing one.
def Spells (field : Bytes) (pair : DigestPair) : Prop := field <:+ pair.name ∨ field ++ ascii "=" <:+ pair.value

-- What stands between the quotes is the value, or the piece of the header up to the next pair's opening quote.
def ReadAs (field : Bytes) (room : Nat) (pairs : List DigestPair) (value : Bytes) : Prop :=
  ∃ before pair rest, pairs = before ++ pair :: rest ∧ (∀ early ∈ before, ¬Spells field early) ∧
    ((field <:+ pair.name ∧ pair.value.take room = value.take room) ∨
      (¬field <:+ pair.name ∧ field ++ ascii "=" <:+ pair.value ∧
        ∃ next, rest.head? = some next ∧ (ascii ", " ++ next.name ++ ascii "=").take room = value.take room))

def NotRead (field : Bytes) (pairs : List DigestPair) : Prop :=
  (∀ pair ∈ pairs, ¬field <:+ pair.name) ∧
    ((∀ pair ∈ pairs, ¬field ++ ascii "=" <:+: pair.value) ∨
      ∃ before last, pairs = before ++ [last] ∧ field ++ ascii "=" <:+ last.value ∧
        ∀ early ∈ before, ¬field ++ ascii "=" <:+ early.value)

theorem field_alnum (field : AuthField) : ∀ byte ∈ field.name, isAlnum byte = true := by
  cases field <;> exact List.all_eq_true.mp (by decide)

def tailText (pairs : List DigestPair) : Bytes := pairs.flatMap fun pair => ascii ", " ++ pairText pair

theorem authorization_cons (pair : DigestPair) (rest : List DigestPair) :
    authorization (pair :: rest) = ascii "Digest " ++ (pairText pair ++ tailText rest) := by
  rw [authorization]
  refine congrArg (ascii "Digest " ++ ·) ?_
  induction rest generalizing pair with
  | nil =>
      rw [tailText, List.flatMap_nil, List.append_nil]
      exact List.intercalate_singleton
  | cons next more ih =>
      rw [List.map_cons, List.map_cons, List.intercalate_cons_cons, ← List.map_cons, ih next, tailText, tailText, List.flatMap_cons,
        List.append_assoc, List.append_assoc]

theorem parse_digest_after (hdr field : Bytes) (room : Nat) :
    parseDigestField hdr field (room + 1) =
      match after (field ++ [61] ++ [34]) hdr with
      | some start => (memchr 34 start).map fun stop => (start.take stop).take room
      | none => (after (field ++ [61]) hdr).map fun start =>
          (start.takeWhile fun byte => byte != 44 && byte != 32 && byte != 13).take room := by
  have quoted : field ++ ascii "=\"" = field ++ [61] ++ [34] := by
    rw [List.append_assoc]
    rfl
  have bare : field ++ ascii "=" = field ++ [61] := rfl
  rw [parseDigestField, quoted, bare, after, after]
  cases findSub (field ++ [61] ++ [34]) hdr with
  | some found => simp [Nat.add_assoc]
  | none =>
      cases findSub (field ++ [61]) hdr with
      | some found => simp [Nat.add_assoc]
      | none => rfl

def quotedText (start : Bytes) : Option Bytes := (memchr 34 start).map start.take

theorem quoted_text_first (value behind : Bytes) (quoted : (34 : UInt8) ∉ value) : quotedText (value ++ 34 :: behind) = some value := by
  rw [quotedText, memchr_first 34 value behind quoted, Option.map_some, List.take_left]

-- Where the search for a quoted field stops: nothing outside when it does not, nothing inside when no quote follows.
def quotedIn (field : Bytes) : List DigestPair → Option (Option Bytes)
  | [] => none
  | pair :: rest =>
      if field <:+ pair.name then some (some pair.value)
      else if field ++ [61] <:+ pair.value then some (rest.head?.map fun next => ascii ", " ++ next.name ++ [61])
      else quotedIn field rest

theorem pair_text_eq (pair : DigestPair) : pairText pair = pair.name ++ 61 :: 34 :: (pair.value ++ [34]) := by
  have opening : ascii "=\"" = [61, 34] := rfl
  have closing : ascii "\"" = [34] := rfl
  rw [pairText, opening, closing]
  simp

theorem tail_cons (pair : DigestPair) (rest : List DigestPair) : tailText (pair :: rest) = [44] ++ 32 :: pairText pair ++ tailText rest :=
  rfl

section Search

variable (field : Bytes) (alnum : ∀ byte ∈ field, isAlnum byte = true)

include alnum

theorem field_clear (byte : UInt8) (other : isAlnum byte = false) : byte ∉ field := by
  intro member
  rw [alnum byte member] at other
  cases other

theorem named_clear (stop : UInt8) (other : isAlnum stop = false) (apart : stop ≠ 61) : stop ∉ field ++ [61] := by
  intro member
  rcases List.mem_append.mp member with inside | last
  · exact field_clear field alnum stop other inside
  · exact apart (List.mem_singleton.mp last)

-- Before a name stands a blank, which no field name holds.
theorem spelled_opening (lead name : Bytes) : field ++ [61] <:+ lead ++ 32 :: name ++ [61] ↔ field <:+ name := by
  rw [List.suffix_append_inj_of_length_eq rfl, suffix_behind 32 field lead name (field_clear field alnum 32 rfl)]
  exact and_iff_left rfl

theorem quoted_pair (lead behind : Bytes) (pair : DigestPair) (outside : (34 : UInt8) ∉ lead)
    (named : ∀ byte ∈ pair.name, isAlnum byte = true) (quoted : (34 : UInt8) ∉ pair.value) :
    (after (field ++ [61] ++ [34]) (lead ++ 32 :: pairText pair ++ behind)).map quotedText =
      if field <:+ pair.name then some (some pair.value)
      else if field ++ [61] <:+ pair.value then some (quotedText behind)
      else (after (field ++ [61] ++ [34]) behind).map quotedText := by
  have clear : (34 : UInt8) ∉ field ++ [61] := named_clear field alnum 34 rfl (by decide)
  have opening : (34 : UInt8) ∉ lead ++ 32 :: pair.name ++ [61] := by
    have name := field_clear pair.name named 34 rfl
    simp [outside, name]
  have shape : lead ++ 32 :: pairText pair ++ behind = (lead ++ 32 :: pair.name ++ [61]) ++ 34 :: (pair.value ++ 34 :: behind) := by
    simp [pair_text_eq]
  rw [shape, after_delimited 34 (field ++ [61]) _ _ clear opening, after_delimited 34 (field ++ [61]) _ _ clear quoted]
  by_cases opens : field <:+ pair.name
  · rw [if_pos opens, if_pos ((spelled_opening field alnum lead pair.name).mpr opens), Option.map_some,
      quoted_text_first pair.value behind quoted]
  · rw [if_neg opens, if_neg (fun hit => opens ((spelled_opening field alnum lead pair.name).mp hit))]
    split
    · rfl
    · rfl

omit alnum in
theorem quoted_tail (pairs : List DigestPair) (named : ∀ pair ∈ pairs, ∀ byte ∈ pair.name, isAlnum byte = true) :
    quotedText (tailText pairs) = pairs.head?.map fun next => ascii ", " ++ next.name ++ [61] := by
  cases pairs with
  | nil => rfl
  | cons next more =>
      have name := field_clear next.name (named next List.mem_cons_self) 34 rfl
      have comma : (34 : UInt8) ∉ ascii ", " := by decide
      have shape : tailText (next :: more) = (ascii ", " ++ next.name ++ [61]) ++ 34 :: (next.value ++ 34 :: tailText more) := by
        simp [tailText, pair_text_eq]
      rw [shape, quoted_text_first _ _ (by simp [comma, name])]
      rfl

-- By induction on the pairs that follow: the blank before a name is that of Digest, then those of the separators.
theorem quoted_pairs (lead : Bytes) (pair : DigestPair) (rest : List DigestPair) (outside : (34 : UInt8) ∉ lead)
    (named : ∀ each ∈ pair :: rest, ∀ byte ∈ each.name, isAlnum byte = true) (quoted : ∀ each ∈ pair :: rest, (34 : UInt8) ∉ each.value) :
    (after (field ++ [61] ++ [34]) (lead ++ 32 :: pairText pair ++ tailText rest)).map quotedText = quotedIn field (pair :: rest) := by
  induction rest generalizing lead pair with
  | nil =>
      have absent : after (field ++ [61] ++ [34]) (tailText []) = none := by
        apply (after_none _ _).mpr
        intro inside
        have nil := List.infix_nil.mp inside
        simp at nil
      rw [quoted_pair field alnum lead _ pair outside (named pair List.mem_cons_self) (quoted pair List.mem_cons_self), absent, quotedIn]
      rfl
  | cons next more ih =>
      obtain ⟨name, names⟩ := List.forall_mem_cons.mp named
      obtain ⟨value, values⟩ := List.forall_mem_cons.mp quoted
      have later := ih [44] next (by decide) names values
      rw [quoted_pair field alnum lead _ pair outside name value, quoted_tail (next :: more) names, tail_cons, later]
      rfl

theorem infix_opening (lead name : Bytes) (outside : (61 : UInt8) ∉ lead) (named : ∀ byte ∈ name, isAlnum byte = true) :
    field ++ [61] <:+: lead ++ 32 :: name ++ [61] ↔ field <:+ name := by
  rw [List.infix_concat_iff, spelled_opening field alnum lead name]
  refine or_iff_left fun inside => ?_
  have member := inside.subset (List.mem_append_right field (List.mem_singleton_self 61))
  have clear := field_clear name named 61 rfl
  simp [outside, clear] at member

theorem infix_pairs (lead : Bytes) (pair : DigestPair) (rest : List DigestPair) (outside : (61 : UInt8) ∉ lead)
    (named : ∀ each ∈ pair :: rest, ∀ byte ∈ each.name, isAlnum byte = true) :
    field ++ [61] <:+: lead ++ 32 :: pairText pair ++ tailText rest ↔
      ∃ each ∈ pair :: rest, field <:+ each.name ∨ field ++ [61] <:+: each.value := by
  have clear : (34 : UInt8) ∉ field ++ [61] := named_clear field alnum 34 rfl (by decide)
  induction rest generalizing lead pair with
  | nil =>
      have shape : lead ++ 32 :: pairText pair ++ tailText [] = (lead ++ 32 :: pair.name ++ [61]) ++ 34 :: (pair.value ++ 34 :: []) := by
        simp [pair_text_eq, tailText]
      rw [shape, infix_delimited 34 _ _ _ clear, infix_delimited 34 _ _ _ clear,
        infix_opening field alnum lead pair.name outside (named pair List.mem_cons_self)]
      simp
  | cons next more ih =>
      obtain ⟨name, names⟩ := List.forall_mem_cons.mp named
      have later := ih [44] next (by decide) names
      have shape : lead ++ 32 :: pairText pair ++ tailText (next :: more) =
          (lead ++ 32 :: pair.name ++ [61]) ++ 34 :: (pair.value ++ 34 :: tailText (next :: more)) := by
        simp [pair_text_eq]
      rw [shape, infix_delimited 34 _ _ _ clear, infix_delimited 34 _ _ _ clear, infix_opening field alnum lead pair.name outside name,
        List.exists_mem_cons_iff, or_assoc]
      exact or_congr_right (or_congr_right later)

end Search

theorem quoted_in_none (field : Bytes) (pairs : List DigestPair) :
    quotedIn field pairs = none ↔ ∀ pair ∈ pairs, ¬Spells field pair := by
  induction pairs with
  | nil => simp [quotedIn]
  | cons pair rest ih =>
      rw [quotedIn, List.forall_mem_cons, ← ih]
      by_cases opens : field <:+ pair.name
      · rw [if_pos opens]
        exact ⟨fun none => (by cases none), fun both => absurd (Or.inl opens) both.1⟩
      · rw [if_neg opens]
        by_cases closes : field ++ [61] <:+ pair.value
        · rw [if_pos closes]
          exact ⟨fun none => (by cases none), fun both => absurd (Or.inr closes) both.1⟩
        · rw [if_neg closes]
          exact ⟨fun none => ⟨fun spelled => spelled.elim opens closes, none⟩, And.right⟩

theorem quoted_in_some (field : Bytes) (pairs : List DigestPair) (text : Option Bytes) :
    quotedIn field pairs = some text ↔
      ∃ before pair rest, pairs = before ++ pair :: rest ∧ (∀ early ∈ before, ¬Spells field early) ∧
        ((field <:+ pair.name ∧ some pair.value = text) ∨
          (¬field <:+ pair.name ∧ field ++ [61] <:+ pair.value ∧
            (rest.head?.map fun next => ascii ", " ++ next.name ++ [61]) = text)) := by
  refine ⟨fun found => ?_, ?_⟩
  · induction pairs with
    | nil => cases found
    | cons pair rest ih =>
        rw [quotedIn] at found
        by_cases opens : field <:+ pair.name
        · rw [if_pos opens] at found
          exact ⟨[], pair, rest, rfl, fun _ member => absurd member List.not_mem_nil, Or.inl ⟨opens, Option.some.inj found⟩⟩
        · rw [if_neg opens] at found
          by_cases closes : field ++ [61] <:+ pair.value
          · rw [if_pos closes] at found
            exact ⟨[], pair, rest, rfl, fun _ member => absurd member List.not_mem_nil, Or.inr ⟨opens, closes, Option.some.inj found⟩⟩
          · rw [if_neg closes] at found
            obtain ⟨before, hit, behind, rfl, passed, read⟩ := ih found
            have here : ¬Spells field pair := fun spelled => spelled.elim opens closes
            exact ⟨pair :: before, hit, behind, rfl, List.forall_mem_cons.mpr ⟨here, passed⟩, read⟩
  · rintro ⟨before, pair, rest, rfl, passed, read⟩
    induction before with
    | nil =>
        rw [List.nil_append, quotedIn]
        rcases read with ⟨opens, rfl⟩ | ⟨inside, closes, rfl⟩
        · exact if_pos opens
        · rw [if_neg inside, if_pos closes]
    | cons early before ih =>
        obtain ⟨here, later⟩ := List.forall_mem_cons.mp passed
        have opens : ¬field <:+ early.name := fun opens => here (Or.inl opens)
        have closes : ¬field ++ [61] <:+ early.value := fun closes => here (Or.inr closes)
        rw [List.cons_append, quotedIn, if_neg opens, if_neg closes]
        exact ih later

-- The quoted search decides; only where it finds nothing is the field looked for without quotes.
theorem parse_pairs (field : Bytes) (alnum : ∀ byte ∈ field, isAlnum byte = true) (fields : DigestPairs) (room : Nat) :
    (∀ text, quotedIn field fields.pairs = some text →
      parseDigestField (authorization fields.pairs) field (room + 1) = text.map (List.take room)) ∧
    (quotedIn field fields.pairs = none →
      (parseDigestField (authorization fields.pairs) field (room + 1) = none ↔ ∀ pair ∈ fields.pairs, ¬field ++ [61] <:+: pair.value)) := by
  obtain ⟨pairs, named, distinct, quoted⟩ := fields
  dsimp only
  rw [parse_digest_after]
  cases pairs with
  | nil =>
      have bare : authorization [] = ascii "Digest " := rfl
      have missing : (61 : UInt8) ∉ ascii "Digest " := by decide
      have absent : after (field ++ [61]) (authorization []) = none := by
        rw [bare, after_none]
        exact fun inside => missing (inside.subset (List.mem_append_right field (List.mem_singleton_self 61)))
      have unquoted : after (field ++ [61] ++ [34]) (authorization []) = none := by
        rw [bare, after_none]
        exact fun inside => missing (inside.subset (by simp))
      rw [absent, unquoted]
      exact ⟨fun text found => (by cases found), fun _ => ⟨fun _ _ member => absurd member List.not_mem_nil, fun _ => rfl⟩⟩
  | cons pair rest =>
      have shape : authorization (pair :: rest) = ascii "Digest" ++ 32 :: pairText pair ++ tailText rest := by
        rw [authorization_cons]
        rfl
      have search := quoted_pairs field alnum (ascii "Digest") pair rest (by decide) named quoted
      have bare := infix_pairs field alnum (ascii "Digest") pair rest (by decide) named
      rw [← shape] at search bare
      refine ⟨fun text found => ?_, fun none => ?_⟩
      · obtain ⟨start, hit, rfl⟩ := Option.map_eq_some_iff.mp (search.trans found)
        rw [hit, quotedText, Option.map_map]
        rfl
      · have silent := (quoted_in_none field (pair :: rest)).mp none
        rw [Option.map_eq_none_iff.mp (search.trans none)]
        dsimp only
        rw [Option.map_eq_none_iff, after_none, bare]
        refine ⟨fun nowhere each member inside => nowhere ⟨each, member, Or.inr inside⟩, ?_⟩
        rintro clear ⟨each, member, opens | inside⟩
        · exact silent each member (Or.inl opens)
        · exact clear each member inside

theorem read_as_quoted (field : Bytes) (room : Nat) (pairs : List DigestPair) (value : Bytes) :
    ReadAs field room pairs value ↔ ∃ text, quotedIn field pairs = some (some text) ∧ text.take room = value.take room := by
  refine ⟨?_, ?_⟩
  · rintro ⟨before, pair, rest, split, passed, ⟨opens, same⟩ | ⟨inside, closes, next, first, same⟩⟩
    · exact ⟨pair.value, (quoted_in_some field pairs _).mpr ⟨before, pair, rest, split, passed, Or.inl ⟨opens, rfl⟩⟩, same⟩
    · refine ⟨ascii ", " ++ next.name ++ [61], (quoted_in_some field pairs _).mpr ?_, same⟩
      exact ⟨before, pair, rest, split, passed, Or.inr ⟨inside, closes, by rw [first]; rfl⟩⟩
  · rintro ⟨text, found, same⟩
    obtain ⟨before, pair, rest, split, passed, ⟨opens, read⟩ | ⟨inside, closes, read⟩⟩ := (quoted_in_some field pairs _).mp found
    · cases read
      exact ⟨before, pair, rest, split, passed, Or.inl ⟨opens, same⟩⟩
    · obtain ⟨next, first, rfl⟩ := Option.map_eq_some_iff.mp read
      exact ⟨before, pair, rest, split, passed, Or.inr ⟨inside, closes, next, first, same⟩⟩

-- A field that no name ends in: the search fails, or it stops at the very last quote.
theorem not_read_quoted (field : Bytes) (pairs : List DigestPair) :
    NotRead field pairs ↔
      (quotedIn field pairs = none ∧ ∀ pair ∈ pairs, ¬field ++ [61] <:+: pair.value) ∨ quotedIn field pairs = some none := by
  refine ⟨?_, ?_⟩
  · rintro ⟨unnamed, clear | ⟨before, last, rfl, closes, passed⟩⟩
    · left
      refine ⟨(quoted_in_none field pairs).mpr fun pair member spelled => ?_, clear⟩
      rcases spelled with opens | closes
      · exact unnamed pair member opens
      · exact clear pair member closes.isInfix
    · right
      have own := unnamed last (List.mem_append_right _ (List.mem_singleton_self _))
      refine (quoted_in_some field _ _).mpr ⟨before, last, [], rfl, fun early member spelled => ?_, Or.inr ⟨own, closes, rfl⟩⟩
      rcases spelled with opens | closes
      · exact unnamed early (List.mem_append_left _ member) opens
      · exact passed early member closes
  · rintro (⟨missing, clear⟩ | found)
    · have silent := (quoted_in_none field pairs).mp missing
      exact ⟨fun pair member opens => silent pair member (Or.inl opens), Or.inl clear⟩
    · obtain ⟨before, last, rest, rfl, passed, ⟨_, read⟩ | ⟨inside, closes, read⟩⟩ := (quoted_in_some field pairs _).mp found
      · cases read
      · cases rest with
        | cons next more => cases read
        | nil =>
            refine ⟨?_, Or.inr ⟨before, last, rfl, closes, fun early member closes => passed early member (Or.inr closes)⟩⟩
            intro pair member opens
            rcases List.mem_append.mp member with early | same
            · exact passed pair early (Or.inl opens)
            · rw [List.mem_singleton.mp same] at opens
              exact inside opens

theorem digest_field_exact_iff (fields : DigestPairs) (field : AuthField) (room : Nat) :
    FieldExact field.name room fields.pairs (parseDigestField (authorization fields.pairs) field.name (room + 1)) ↔
      (∀ value, ⟨field.name, value⟩ ∈ fields.pairs → ReadAs field.name room fields.pairs value) ∧
        (field.name ∉ fields.pairs.map DigestPair.name → NotRead field.name fields.pairs) := by
  obtain ⟨quoted, bare⟩ := parse_pairs field.name (field_alnum field) fields room
  refine and_congr (forall_congr' fun value => forall_congr' fun member => ?_) (forall_congr' fun _ => ?_)
  · rw [read_as_quoted]
    cases found : quotedIn field.name fields.pairs with
    | none => exact absurd (Or.inl (List.suffix_refl _)) ((quoted_in_none _ _).mp found _ member)
    | some text =>
        rw [quoted text found]
        cases text with
        | none => simp
        | some text => simp
  · rw [not_read_quoted]
    cases found : quotedIn field.name fields.pairs with
    | none => simpa using bare found
    | some text =>
        rw [quoted text found]
        simp

def clientNonce : DigestPairs where
  pairs := [⟨ascii "cnonce", ascii "0a4f"⟩, ⟨ascii "nonce", ascii "84e0"⟩]
  named := by
    intro pair member
    rcases List.mem_cons.mp member with rfl | last
    · exact List.all_eq_true.mp (by decide)
    · rw [List.mem_singleton.mp last]
      exact List.all_eq_true.mp (by decide)
  distinct := by decide
  quoted := by decide

theorem cnonce_read_for_nonce :
    parseDigestField (authorization clientNonce.pairs) AuthField.nonce.name 64 = some (ascii "0a4f") ∧
      ¬FieldExact AuthField.nonce.name 63 clientNonce.pairs (parseDigestField (authorization clientNonce.pairs) AuthField.nonce.name 64) := by
  have read : parseDigestField (authorization clientNonce.pairs) AuthField.nonce.name 64 = some (ascii "0a4f") := by decide
  refine ⟨read, ?_⟩
  rintro ⟨exact, _⟩
  have named := exact (ascii "84e0") (by decide)
  rw [read] at named
  exact absurd named (by decide)

end Intercom
