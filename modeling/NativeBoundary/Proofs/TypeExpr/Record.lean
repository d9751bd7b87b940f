import NativeBoundary.Proofs.Schema.Codec
import NativeBoundary.TypeExpr.Basic

/-!
# Type expressions read back

The reader of type expressions and their record form belong together at every depth.  The reader
goes as deep as the record form is high, and each part of an expression is less high than the whole.
-/

namespace NativeBoundary

open Schema (Codec Reading string_codec integer_codec boolean_codec word_codec)

theorem Location.codec : Codec Location.read Location.toJson 0 where
  roundTrip := Location.read_toJson
  keyed location := by simp [toJson]
  present _ := nofun
  confined := by
    intro room json given _ within found
    simp only [read, Schema.record_eq_value, Reading.seq_eq_value, Reading.map_eq_value] at found
    obtain ⟨members, rfl, _, column, ⟨_, line, ⟨file, foundFile, rfl⟩, foundLine, rfl⟩,
      foundColumn, rfl⟩ := found
    obtain ⟨left, rfl, parts⟩ := Schema.exists_left within (Schema.ne_nil_of_required foundFile)
    have low := Nat.zero_le left
    simp only [toJson, Json.within_object_cons, Json.within_noMembers, and_true]
    exact ⟨Json.within_string _ _, integer_codec.required_within low parts foundLine,
      integer_codec.required_within low parts foundColumn⟩

theorem Shape.codec : Codec (Schema.word Shape.ofName?) (fun shape => .string shape.name) 0 :=
  word_codec fun shape => by cases shape <;> rfl

namespace TypeExpr

variable {bound room : Nat} {json : Json} {expr : TypeExpr}

theorem toJsonOption_eq (expr : Option TypeExpr) : toJsonOption expr = Json.option toJson expr := by
  cases expr <;> rfl

mutual

theorem keyed_toJson : (expr : TypeExpr) → expr.toJson.Keyed
  | ⟨shape, name, element, key, value, nullable, location⟩ => by
      simp [toJson, string_codec.keyed_option, Location.codec.keyed_option,
        keyed_toJsonOption element, keyed_toJsonOption key, keyed_toJsonOption value]

theorem keyed_toJsonOption (expr : Option TypeExpr) : (toJsonOption expr).Keyed := by
  cases expr with
  | none => exact .null
  | some expr => exact keyed_toJson expr

end

theorem toJson_ne_null (expr : TypeExpr) : expr.toJson ≠ .null := by
  cases expr
  nofun

theorem readWithin_toJson (low : expr.toJson.height ≤ bound) :
    readWithin bound expr.toJson = .value expr := by
  induction bound generalizing expr with
  | zero => exact absurd low (Nat.not_le_of_lt (Json.height_pos _))
  | succ bound ih =>
      obtain ⟨shape, name, element, key, value, nullable, location⟩ := expr
      have part {name : String} {members : Schema.Members} {given : Option TypeExpr}
          (less : Json.heightMembers members ≤ bound)
          (found : members.lookup name = some (toJsonOption given)) :
          Schema.optional name (readWithin bound) members = .value given := by
        rw [toJsonOption_eq] at found
        refine Schema.optional_eq_of_lookup (fun inner inside => ?_) found
        cases inside
        exact ⟨inner.toJson_ne_null,
          ih (Nat.le_trans (Json.height_le_of_lookup found) less)⟩
      have less := Nat.le_of_succ_le_succ low
      exact Reading.seq_of_eq (Reading.seq_of_eq (Reading.seq_of_eq (Reading.seq_of_eq
        (Reading.seq_of_eq (Reading.seq_of_eq (Reading.map_of_eq (Shape.codec.required_eq rfl))
          (string_codec.optional_eq rfl)) (part less rfl)) (part less rfl)) (part less rfl))
        (boolean_codec.defaulted_eq rfl)) (Location.codec.optional_eq rfl)

theorem within_of_readWithin (within : json.Within room)
    (found : readWithin bound json = .value expr) : expr.toJson.Within room := by
  induction bound generalizing room json expr with
  | zero => cases found
  | succ bound ih =>
      simp only [readWithin, Schema.record_eq_value, Reading.seq_eq_value,
        Reading.map_eq_value] at found
      obtain ⟨members, rfl, _, location, ⟨_, nullable, ⟨_, value, ⟨_, key, ⟨_, element, ⟨_, name,
        ⟨shape, foundShape, rfl⟩, foundName, rfl⟩, foundElement, rfl⟩, foundKey, rfl⟩, foundValue,
        rfl⟩, -, rfl⟩, foundLocation, rfl⟩ := found
      obtain ⟨left, rfl, parts⟩ := Schema.exists_left within (Schema.ne_nil_of_required foundShape)
      have low := Nat.zero_le left
      simp only [toJson, toJsonOption_eq, Json.within_object_cons, Json.within_noMembers, and_true]
      exact ⟨Json.within_string _ _, string_codec.optional_within low parts foundName,
        Schema.within_of_optional ih parts foundElement,
        Schema.within_of_optional ih parts foundKey,
        Schema.within_of_optional ih parts foundValue, Json.within_bool _ _,
        Location.codec.optional_within low parts foundLocation⟩

theorem codec : Codec read toJson 0 where
  roundTrip _ := readWithin_toJson (Nat.le_refl _)
  keyed := keyed_toJson
  present := toJson_ne_null
  confined _ within found := within_of_readWithin within found

end TypeExpr

end NativeBoundary
