import Mathlib.Data.List.Forall2
import NativeBoundary.Proofs.Schema.Codec

/-!
# Shapes of JSON

Which JSON stands for which value, told without a reader: texts, truth values, lists, and the
members of records.  A reader is exact for a shape if it finds a value just where the shape has one.
What it refuses it gives a reason for, and in a list every reason is found at an item that has not
the shape.
-/

namespace NativeBoundary.Schema

open List (Forall₂)

variable {α β : Type}

/-- What a value looks like as JSON. -/
abbrev Shape (α : Type) := Json → α → Prop

/-! ## Members -/

section Members

variable (shape : Shape α) (name : String) (members : Members)

/-- The member is there and stands for the value. -/
def Has (found : α) : Prop :=
  ∃ item, members.lookup name = some item ∧ shape item found

/-- The member stands for the value, or it is absent and the value is the default. -/
def HasOr (default : α) (found : α) : Prop :=
  (members.lookup name = none ∧ found = default) ∨ Has shape name members found

/-- The member stands for the value, if there is one, and else is absent or null. -/
def MayHave : Option α → Prop
  | none => members.lookup name = none ∨ members.lookup name = some .null
  | some found => ∃ item, members.lookup name = some item ∧ item ≠ .null ∧ shape item found

end Members

/-! ## Shapes -/

def IsText : Shape String := fun json text => json = .string text

/-- A truth value as such, as zero or one, or as one of a few words in letters of either case. -/
inductive Truth : Shape Bool where
  | bool (value : Bool) : Truth (.bool value) value
  | zero : Truth (.integer 0) false
  | one : Truth (.integer 1) true
  | decimalZero {number : Binary64} (whole : number.whole? = some 0) :
      Truth (.decimal number) false
  | decimalOne {number : Binary64} (whole : number.whole? = some 1) : Truth (.decimal number) true
  | no {text : String} (word : text.map Char.toLower ∈ falseWords) : Truth (.string text) false
  | yes {text : String} (word : text.map Char.toLower ∈ trueWords) : Truth (.string text) true

/-- An array whose items stand for the values, one for one. -/
def ListOf (shape : Shape α) : Shape (List α) := fun json found =>
  ∃ items, json = .array items ∧ Forall₂ shape items found

/-- An object whose members are as told. -/
def RecordOf (fits : Members → α → Prop) : Shape α := fun json found =>
  ∃ members, json = .object members ∧ fits members found

/-! ## Exact readers -/

/-- The reader finds a value in the JSON that stands for it, and in no other. -/
structure Exact (read : Json → Reading α) (shape : Shape α) : Prop where
  value_iff : ∀ {json found}, read json = .value found ↔ shape json found

theorem exact_string : Exact string IsText where
  value_iff {json found} := by cases json <;> simp [string, refuse, IsText]

theorem word?_eq_some {number : Binary64} {whole : Int} :
    word? number = some whole ↔ number.whole? = some whole ∧
      -Int.pow 2 63 < whole ∧ whole < Int.pow 2 63 := by
  simp [word?, Option.filter_eq_some_iff]

theorem truthOf_eq_value {number : Int} {found : Bool} :
    truthOf number = .value found ↔
      (number = 0 ∧ found = false) ∨ (number = 1 ∧ found = true) := by
  unfold truthOf
  split
  · next zero => simp [zero, eq_comm]
  · next notZero =>
    split
    · next one => simp [one, eq_comm]
    · next notOne => simp [notZero, notOne, refuse]

theorem truth_of_boolean {json : Json} {found : Bool} (given : boolean json = .value found) :
    Truth json found := by
  cases json with
  | bool truth =>
      cases given
      exact .bool _
  | integer number =>
      rcases truthOf_eq_value.mp given with ⟨rfl, rfl⟩ | ⟨rfl, rfl⟩
      · exact .zero
      · exact .one
  | decimal number =>
      simp only [boolean] at given
      split at given
      · next whole word =>
        have same := (word?_eq_some.mp word).1
        rcases truthOf_eq_value.mp given with ⟨rfl, rfl⟩ | ⟨rfl, rfl⟩
        · exact .decimalZero same
        · exact .decimalOne same
      · cases given
  | string text =>
      simp only [boolean] at given
      split at given
      · next word =>
        cases given
        exact .yes (List.contains_iff_mem.mp word)
      · split at given
        · next word =>
          cases given
          exact .no (List.contains_iff_mem.mp word)
        · cases given
  | _ => cases given

theorem boolean_of_truth {json : Json} {found : Bool} (truth : Truth json found) :
    boolean json = .value found := by
  cases truth with
  | bool => rfl
  | zero => rfl
  | one => rfl
  | decimalZero whole =>
      have word := word?_eq_some.mpr ⟨whole, by decide, by decide⟩
      simp only [boolean, word, truthOf_eq_value, and_self, true_or]
  | decimalOne whole =>
      have word := word?_eq_some.mpr ⟨whole, by decide, by decide⟩
      simp only [boolean, word, truthOf_eq_value, and_self, or_true]
  | no word =>
      -- The words for true are asked first, and none of them is one for false.
      have apart : ∀ word ∈ falseWords, trueWords.contains word = false := by decide
      simp only [boolean, apart _ word, List.contains_iff_mem.mpr word, if_true,
        Bool.false_eq_true, if_false]
  | yes word => simp only [boolean, List.contains_iff_mem.mpr word, if_true]

theorem exact_boolean : Exact boolean Truth := ⟨⟨truth_of_boolean, boolean_of_truth⟩⟩

section Parts

variable {read : Json → Reading α} {shape : Shape α}

theorem items_eq_value (exact : Exact read shape) (position : Nat) {values : List Json}
    {found : List α} : items read position values = .value found ↔ Forall₂ shape values found := by
  induction values generalizing position found with
  | nil =>
      rw [List.forall₂_nil_left_iff]
      exact ⟨fun same => (Reading.value.inj same).symm, fun same => same ▸ rfl⟩
  | cons value rest ih =>
      rw [List.forall₂_cons_left_iff, items, Reading.seq_eq_value]
      constructor
      · rintro ⟨_, others, first, foundOthers, rfl⟩
        obtain ⟨item, foundFirst, rfl⟩ := Reading.map_eq_value.mp first
        exact ⟨item, others, exact.value_iff.mp (Reading.under_eq_value.mp foundFirst),
          (ih _).mp foundOthers, rfl⟩
      · rintro ⟨item, others, shaped, shapedOthers, rfl⟩
        have foundFirst : (read value).under (.index position) = .value item :=
          Reading.under_eq_value.mpr (exact.value_iff.mpr shaped)
        exact ⟨_, others, Reading.map_of_eq foundFirst, (ih _).mpr shapedOthers, rfl⟩

theorem exact_list (exact : Exact read shape) : Exact (list read) (ListOf shape) where
  value_iff {json found} := by
    cases json with
    | array values => simp [list, items_eq_value exact 0, ListOf]
    | _ => simp [list, refuse, ListOf]

theorem exact_record {read : Members → Reading α} {fits : Members → α → Prop}
    (exact : ∀ {members found}, read members = .value found ↔ fits members found) :
    Exact (record read) (RecordOf fits) where
  value_iff := by simp only [record_eq_value, exact, RecordOf, implies_true]

variable {name : String} {members : Members}

theorem required_iff (exact : Exact read shape) {found : α} :
    required name read members = .value found ↔ Has shape name members found := by
  simp only [required_eq_value, Has, exact.value_iff]

theorem defaulted_iff (exact : Exact read shape) {default found : α} :
    defaulted name default read members = .value found ↔
      HasOr shape name members default found := by
  simp only [defaulted_eq_value, HasOr, Has, exact.value_iff]

theorem optional_iff (exact : Exact read shape) {given : Option α} :
    Schema.optional name read members = .value given ↔ MayHave shape name members given := by
  rw [optional_eq_value]
  cases given with
  | none => simp [MayHave]
  | some found => simp [MayHave, exact.value_iff]

end Parts

section Scalars

variable {name : String} {members : Members}

@[simp] theorem required_string_eq_value {text : String} :
    required name string members = .value text ↔ Has IsText name members text :=
  required_iff exact_string

@[simp] theorem defaulted_string_eq_value {default text : String} :
    defaulted name default string members = .value text ↔
      HasOr IsText name members default text :=
  defaulted_iff exact_string

@[simp] theorem optional_string_eq_value {given : Option String} :
    Schema.optional name string members = .value given ↔ MayHave IsText name members given :=
  optional_iff exact_string

@[simp] theorem defaulted_boolean_eq_value {default truth : Bool} :
    defaulted name default boolean members = .value truth ↔
      HasOr Truth name members default truth :=
  defaulted_iff exact_boolean

end Scalars

/-! ## Reasons of a refusal -/

namespace Reading

def issues : Reading α → List Issue
  | .value _ => []
  | .refused issues => issues

/-- Whatever is refused is refused for a reason. -/
def Reasoned (reading : Reading α) : Prop := reading ≠ .refused []

theorem reasoned_value (found : α) : Reasoned (.value found) := nofun

theorem Reasoned.map {change : α → β} {reading : Reading α} (reasoned : reading.Reasoned) :
    (change <$> reading).Reasoned := by
  cases reading with
  | value given => exact reasoned_value _
  | refused issues => exact fun same => reasoned (by cases same; rfl)

theorem Reasoned.seq {first : Reading (α → β)} {second : Reading α} (reasoned : first.Reasoned)
    (reasonedNext : second.Reasoned) : (first <*> second).Reasoned := by
  cases first with
  | value change =>
      have applied : (change <$> second).Reasoned := reasonedNext.map
      cases second <;> exact applied
  | refused issues =>
      cases second with
      | value given => exact fun same => reasoned (by cases same; rfl)
      | refused others =>
          intro same
          have none : issues ++ others = [] := Reading.refused.inj same
          exact reasoned (by rw [(List.append_eq_nil_iff.mp none).1])

theorem Reasoned.under {step : Step} {reading : Reading α} (reasoned : reading.Reasoned) :
    (reading.under step).Reasoned := by
  cases reading with
  | value given => exact reasoned_value _
  | refused issues =>
      intro same
      have none := List.map_eq_nil_iff.mp (Reading.refused.inj same)
      exact reasoned (by rw [none])

theorem seq_issues (first : Reading (α → β)) (second : Reading α) :
    (first <*> second).issues = first.issues ++ second.issues := by
  cases first <;> cases second <;> first | rfl | exact (List.append_nil _).symm

theorem map_issues (change : α → β) (reading : Reading α) :
    (change <$> reading).issues = reading.issues := by
  cases reading <;> rfl

theorem under_issues (step : Step) (reading : Reading α) :
    (reading.under step).issues =
      reading.issues.map fun issue => { issue with path := step :: issue.path } := by
  cases reading <;> rfl

end Reading

open Reading

theorem reasoned_refuse (mismatch : Mismatch) : Reasoned (refuse mismatch : Reading α) := nofun

theorem reasoned_string (json : Json) : (string json).Reasoned := by
  cases json with
  | string text => exact reasoned_value text
  | _ => exact reasoned_refuse _

theorem reasoned_truthOf (number : Int) : (truthOf number).Reasoned := by
  unfold truthOf
  split
  · exact reasoned_value _
  · split
    · exact reasoned_value _
    · exact reasoned_refuse _

theorem reasoned_boolean (json : Json) : (boolean json).Reasoned := by
  cases json with
  | bool value => exact reasoned_value value
  | integer number => exact reasoned_truthOf number
  | decimal number =>
      simp only [boolean]
      split
      · exact reasoned_truthOf _
      · exact reasoned_refuse _
  | string text =>
      simp only [boolean]
      split
      · exact reasoned_value _
      · split
        · exact reasoned_value _
        · exact reasoned_refuse _
  | _ => exact reasoned_refuse _

section Parts

variable {read : Json → Reading α} (reasoned : ∀ json, (read json).Reasoned)

include reasoned

theorem reasoned_required (name : String) (members : Members) :
    (required name read members).Reasoned := by
  unfold required
  cases members.lookup name with
  | none => exact (reasoned_refuse _).under
  | some item => exact (reasoned item).under

theorem reasoned_defaulted (name : String) (default : α) (members : Members) :
    (defaulted name default read members).Reasoned := by
  unfold defaulted
  cases members.lookup name with
  | none => exact reasoned_value default
  | some item => exact (reasoned item).under

theorem reasoned_optional (name : String) (members : Members) :
    (Schema.optional name read members).Reasoned := by
  unfold Schema.optional
  split
  · exact reasoned_value _
  · exact reasoned_value _
  · exact (reasoned _).under.map

theorem reasoned_items (position : Nat) (values : List Json) :
    (items read position values).Reasoned := by
  induction values generalizing position with
  | nil => exact reasoned_value []
  | cons value rest ih => exact (reasoned value).under.map.seq (ih (position + 1))

theorem reasoned_list (json : Json) : (list read json).Reasoned := by
  cases json with
  | array values => exact reasoned_items reasoned 0 values
  | _ => exact reasoned_refuse _

end Parts

section Scalars

variable (name : String) (members : Members)

theorem reasoned_text : (required name string members).Reasoned :=
  reasoned_required reasoned_string name members

theorem reasoned_textOr (default : String) : (defaulted name default string members).Reasoned :=
  reasoned_defaulted reasoned_string name default members

theorem reasoned_maybeText : (Schema.optional name string members).Reasoned :=
  reasoned_optional reasoned_string name members

end Scalars

theorem reasoned_record {read : Members → Reading α}
    (reasoned : ∀ members, (read members).Reasoned) (json : Json) :
    (record read json).Reasoned := by
  cases json with
  | object members => exact reasoned members
  | _ => exact reasoned_refuse _

theorem reasoned_tagged {notObject : Mismatch} {shape? : String → Option (Members → Reading α)}
    (reasoned : ∀ {tag read}, shape? tag = some read → ∀ members, (read members).Reasoned)
    (json : Json) : (tagged notObject shape? json).Reasoned := by
  unfold tagged
  split
  · split
    · exact reasoned_refuse _
    · split
      · exact reasoned_refuse _
      · next known => exact (reasoned known _).under
    · exact reasoned_refuse _
  · exact reasoned_refuse _

/-! ## Reasons in a list -/

/-- The reasons of a list are those of its items, each under the place of its item. -/
theorem items_issues (read : Json → Reading α) (position : Nat) (values : List Json) :
    (items read position values).issues = (values.zipIdx position).flatMap fun place =>
      ((read place.1).under (.index place.2)).issues := by
  induction values generalizing position with
  | nil => rfl
  | cons value rest ih =>
      rw [items, seq_issues, map_issues, ih, List.zipIdx_cons, List.flatMap_cons]

/-- Reasons are found at just those places whose item does not have the shape. -/
theorem issue_at_iff {read : Json → Reading α} {shape : Shape α} (exact : Exact read shape)
    (reasoned : ∀ json, (read json).Reasoned) {values : List Json} {place : Nat} :
    (∃ issue ∈ (items read 0 values).issues, issue.path.head? = some (.index place)) ↔
      ∃ value, values[place]? = some value ∧ ∀ found, ¬ shape value found := by
  have refuses {value : Json} : (read value).issues ≠ [] ↔ ∀ found, ¬ shape value found := by
    simp only [← exact.value_iff]
    cases given : read value with
    | value found => simp [Reading.issues]
    | refused issues =>
        have some : issues ≠ [] := fun none => reasoned value (by rw [given, none])
        simp [Reading.issues, some]
  simp only [items_issues, List.mem_flatMap, under_issues, List.mem_map, ← refuses]
  constructor
  · rintro ⟨_, ⟨⟨value, index⟩, listed, issue, found, rfl⟩, atPlace⟩
    cases atPlace
    exact ⟨value, List.mem_zipIdx_iff_getElem?.mp listed, List.ne_nil_of_mem found⟩
  · rintro ⟨value, listed, some⟩
    obtain ⟨issue, found⟩ := List.exists_mem_of_ne_nil _ some
    exact ⟨_, ⟨(value, place), List.mem_zipIdx_iff_getElem?.mpr listed, issue, found, rfl⟩, rfl⟩

end NativeBoundary.Schema
