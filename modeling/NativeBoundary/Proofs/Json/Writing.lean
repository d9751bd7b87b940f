import NativeBoundary.Proofs.Json.Alike
import NativeBoundary.Proofs.Json.Grammar

/-!
# Writing a value

Every value without decimals, lone halves and repeated names has a text: each character has a
spelling, and each part can be written in front of whatever does not run into it.
-/

namespace NativeBoundary.Json

open Text Surrogate

theorem unit?_of_control : ∀ value : Fin 32,
    unit? '0' '0' (hexDigit (value / 16)) (hexDigit (value % 16)) = some value.val := by
  decide

theorem exists_spelling (c : Char) : ∃ spelling, Spelling c spelling := by
  by_cases visible : 32 ≤ c.toNat
  · by_cases quote : c = '"'
    · subst quote
      exact ⟨_, .short (rfl : simpleEscape? '"' = some '"')⟩
    · by_cases backslash : c = '\\'
      · subst backslash
        exact ⟨_, .short (rfl : simpleEscape? '\\' = some '\\')⟩
      · exact ⟨_, .plain visible quote backslash⟩
  · have digits := unit?_of_control ⟨c.toNat, Nat.lt_of_not_le visible⟩
    have spells := Spelling.unit digits (not_isHalf_toNat c)
    rw [Char.ofNat_toNat] at spells
    exact ⟨_, spells⟩

theorem exists_spelled (points rest : List Char) : ∃ text, Spelled points text rest := by
  induction points with
  | nil => exact ⟨_, .close⟩
  | cons c others ih =>
      obtain ⟨spelling, spells⟩ := exists_spelling c
      obtain ⟨text, spelled⟩ := ih
      exact ⟨_, .char spells spelled⟩

theorem numberEnds_cons {c : Char} (stops : c ∈ [',', ']', '}']) (rest : List Char) :
    NumberEnds (c :: rest) := by
  rintro other ⟨⟩
  simp only [List.mem_cons, List.not_mem_nil, or_false] at stops
  obtain rfl | rfl | rfl := stops <;> decide

theorem numberEnds_nil : NumberEnds [] := nofun

/-- The value can be written in front of any text that no number runs into. -/
def Writable (value : Json) : Prop :=
  ∀ rest, NumberEnds rest → ∃ text, Written (.value value) text rest

theorem exists_items {items : List Json} (each : ∀ item ∈ items, item.Writable)
    (some : items ≠ []) (rest : List Char) : ∃ text, Written (.items items) text rest := by
  induction items with
  | nil => exact absurd rfl some
  | cons item others ih =>
      obtain ⟨first, eachOther⟩ := List.forall_mem_cons.mp each
      cases others with
      | nil =>
          obtain ⟨text, written⟩ := first (']' :: rest) (numberEnds_cons (by simp) rest)
          exact ⟨text, .lastItem written (.refl _)⟩
      | cons second behind =>
          obtain ⟨next, remaining⟩ := ih eachOther (List.cons_ne_nil _ _)
          obtain ⟨text, written⟩ := first (',' :: next) (numberEnds_cons (by simp) next)
          exact ⟨text, .item written (.refl _) (.refl _) remaining⟩

theorem exists_member {name : String} {value : Json} (named : ∃ text, name = keptText text)
    (writable : value.Writable) {rest : List Char} (ends : NumberEnds rest) :
    ∃ text, Written (.member name value) text rest := by
  obtain ⟨points, rfl⟩ := named
  obtain ⟨inner, inside⟩ := writable rest ends
  obtain ⟨text, spelled⟩ := exists_spelled points.toList (':' :: inner)
  exact ⟨_, .member spelled (.refl _) (.refl _) inside⟩

theorem exists_members {members : List (String × Json)}
    (names : ∀ member ∈ members, ∃ text, member.1 = keptText text)
    (values : ∀ member ∈ members, member.2.Writable) (some : members ≠ []) (rest : List Char) :
    ∃ text, Written (.members members) text rest := by
  induction members with
  | nil => exact absurd rfl some
  | cons member others ih =>
      obtain ⟨name, namesOther⟩ := List.forall_mem_cons.mp names
      obtain ⟨value, valuesOther⟩ := List.forall_mem_cons.mp values
      cases others with
      | nil =>
          obtain ⟨text, written⟩ :=
            exists_member name value (numberEnds_cons (c := '}') (by simp) rest)
          exact ⟨text, .lastMember written (.refl _)⟩
      | cons second behind =>
          obtain ⟨next, remaining⟩ := ih namesOther valuesOther (List.cons_ne_nil _ _)
          obtain ⟨text, written⟩ :=
            exists_member name value (numberEnds_cons (c := ',') (by simp) next)
          exact ⟨text, .moreMembers written (.refl _) (.refl _) remaining⟩

theorem Scalar.writable {value : Json} (scalar : value.Scalar) (keyed : value.Keyed) :
    value.Writable := by
  induction scalar with
  | null => exact fun rest _ => ⟨_, .null⟩
  | bool value =>
      cases value with
      | true => exact fun rest _ => ⟨_, .yes⟩
      | false => exact fun rest _ => ⟨_, .no⟩
  | integer value => exact fun rest ends => ⟨_, .integer ends⟩
  | string text =>
      intro rest _
      obtain ⟨written, spelled⟩ := exists_spelled text.toList rest
      exact ⟨_, .string spelled⟩
  | @array items each ih =>
      intro rest _
      cases items with
      | nil => exact ⟨_, .noItems (.refl _)⟩
      | cons first others =>
          have each item inside := ih item inside (keyed_array.mp keyed item inside)
          obtain ⟨inner, inside⟩ := exists_items each (List.cons_ne_nil _ _) rest
          exact ⟨_, .array (.refl _) inside⟩
  | @object members names values ih =>
      intro rest _
      obtain ⟨distinct, keyedValues⟩ := keyed_object.mp keyed
      cases members with
      | nil => exact ⟨_, .noMembers (.refl _)⟩
      | cons first others =>
          have each member inside := ih member inside (keyedValues member inside)
          obtain ⟨inner, inside⟩ := exists_members names each (List.cons_ne_nil _ _) rest
          exact ⟨_, .object distinct (.refl _) inside⟩

/-- A value without decimals, lone halves and repeated names can be written. -/
theorem exists_writtenAs {value : Json} (scalar : value.Scalar) (keyed : value.Keyed) :
    ∃ text, value.WrittenAs text := by
  obtain ⟨text, written⟩ := scalar.writable keyed [] numberEnds_nil
  refine ⟨String.ofList text, text, [], ?_, written, .refl _⟩
  rw [String.toList_ofList]
  exact .refl text

end NativeBoundary.Json
