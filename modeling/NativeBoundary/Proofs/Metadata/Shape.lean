import Mathlib.Tactic.MkIffOfInductiveProp
import NativeBoundary.Metadata.Record
import NativeBoundary.Proofs.Schema.Shape

/-!
# Which JSON is metadata

The shapes of the seven kinds of items, told without their readers, and what becomes of any JSON at
all.  An array is read exactly if each of its items has a shape; otherwise it is refused with a
reason for each item that has none.  An object and a text are taken for arrays of texts, so they are
read if they are empty.  Anything else is not a collection, and no reason is given for that.
-/

namespace NativeBoundary.Metadata

open Schema
open List (Forall₂)

/-! ## Parts of items -/

@[mk_iff]
structure Slot.Fits (members : Members) (slot : Slot) : Prop where
  name : Has IsText "name" members slot.name
  type : Has IsText "ty" members slot.type

abbrev Slot.shape : Shape Slot := RecordOf Slot.Fits

theorem Slot.exact : Exact read shape := by
  refine exact_record fun {members slot} => ?_
  obtain ⟨name, type⟩ := slot
  simp [fits_iff, Reading.seq_eq_value, Reading.map_eq_value]

@[simp] theorem slots_eq_value {name : String} {members : Members} {slots : List Slot} :
    defaulted name [] (list Slot.read) members = .value slots ↔
      HasOr (ListOf Slot.shape) name members [] slots :=
  defaulted_iff (exact_list Slot.exact)

theorem Slot.reasoned (json : Json) : (read json).Reasoned :=
  reasoned_record (fun members => (reasoned_text "name" members).map.seq
    (reasoned_text "ty" members)) json

theorem reasoned_slots (name : String) (members : Members) :
    (defaulted name [] (list Slot.read) members).Reasoned :=
  reasoned_defaulted (reasoned_list Slot.reasoned) name [] members

@[mk_iff]
structure Variant.Fits (members : Members) (variant : Variant) : Prop where
  name : Has IsText "name" members variant.name
  fields : HasOr (ListOf Slot.shape) "fields" members [] variant.fields

abbrev Variant.shape : Shape Variant := RecordOf Variant.Fits

theorem Variant.exact : Exact read shape := by
  refine exact_record fun {members variant} => ?_
  obtain ⟨name, fields⟩ := variant
  simp [fits_iff, Reading.seq_eq_value, Reading.map_eq_value]

@[simp] theorem variants_eq_value {name : String} {members : Members} {variants : List Variant} :
    defaulted name [] (list Variant.read) members = .value variants ↔
      HasOr (ListOf Variant.shape) name members [] variants :=
  defaulted_iff (exact_list Variant.exact)

theorem Variant.reasoned (json : Json) : (read json).Reasoned :=
  reasoned_record (fun members => (reasoned_text "name" members).map.seq
    (reasoned_slots "fields" members)) json

theorem reasoned_variants (name : String) (members : Members) :
    (defaulted name [] (list Variant.read) members).Reasoned :=
  reasoned_defaulted (reasoned_list Variant.reasoned) name [] members

/-! ## Items of a kind -/

@[mk_iff]
structure Function.Fits (members : Members) (item : Function) : Prop where
  crateModule : Has IsText "module" members item.crateModule
  name : Has IsText "name" members item.name
  inputs : HasOr (ListOf Slot.shape) "inputs" members [] item.inputs
  output : MayHave IsText "output" members item.output
  throws : MayHave IsText "throws" members item.throws

@[mk_iff]
structure Method.Fits (members : Members) (item : Method) : Prop where
  crateModule : Has IsText "module" members item.crateModule
  owner : Has IsText "self_name" members item.owner
  name : Has IsText "name" members item.name
  inputs : HasOr (ListOf Slot.shape) "inputs" members [] item.inputs
  output : MayHave IsText "output" members item.output
  throws : MayHave IsText "throws" members item.throws

@[mk_iff]
structure Constructor.Fits (members : Members) (item : Constructor) : Prop where
  crateModule : Has IsText "module" members item.crateModule
  owner : Has IsText "self_name" members item.owner
  name : HasOr IsText "name" members "new" item.name
  inputs : HasOr (ListOf Slot.shape) "inputs" members [] item.inputs
  throws : MayHave IsText "throws" members item.throws

@[mk_iff]
structure Record.Fits (members : Members) (item : Record) : Prop where
  crateModule : Has IsText "module" members item.crateModule
  name : Has IsText "name" members item.name
  fields : HasOr (ListOf Slot.shape) "fields" members [] item.fields

@[mk_iff]
structure Enum.Fits (members : Members) (item : Enum) : Prop where
  crateModule : Has IsText "module" members item.crateModule
  name : Has IsText "name" members item.name
  variants : HasOr (ListOf Variant.shape) "variants" members [] item.variants

@[mk_iff]
structure Error.Fits (members : Members) (item : Error) : Prop where
  crateModule : Has IsText "module" members item.crateModule
  name : Has IsText "name" members item.name
  variants : HasOr (ListOf Variant.shape) "variants" members [] item.variants
  flat : HasOr Truth "flat" members true item.flat

@[mk_iff]
structure Object.Fits (members : Members) (item : Object) : Prop where
  crateModule : Has IsText "module" members item.crateModule
  name : Has IsText "name" members item.name

section Kinds

variable {members : Members}

theorem Function.read_eq_value {item : Function} :
    read members = .value item ↔ Fits members item := by
  obtain ⟨crateModule, name, inputs, output, throws⟩ := item
  simp [read, fits_iff, Reading.seq_eq_value, Reading.map_eq_value, and_assoc]

theorem Function.reasoned : (read members).Reasoned :=
  ((((reasoned_text _ _).map.seq (reasoned_text _ _)).seq (reasoned_slots _ _)).seq
    (reasoned_maybeText _ _)).seq (reasoned_maybeText _ _)

theorem Method.read_eq_value {item : Method} :
    read members = .value item ↔ Fits members item := by
  obtain ⟨crateModule, owner, name, inputs, output, throws⟩ := item
  simp [read, fits_iff, Reading.seq_eq_value, Reading.map_eq_value, and_assoc]

theorem Method.reasoned : (read members).Reasoned :=
  (((((reasoned_text _ _).map.seq (reasoned_text _ _)).seq (reasoned_text _ _)).seq
    (reasoned_slots _ _)).seq (reasoned_maybeText _ _)).seq (reasoned_maybeText _ _)

theorem Constructor.read_eq_value {item : Constructor} :
    read members = .value item ↔ Fits members item := by
  obtain ⟨crateModule, owner, name, inputs, throws⟩ := item
  simp [read, fits_iff, Reading.seq_eq_value, Reading.map_eq_value, Model.primaryName, and_assoc]

theorem Constructor.reasoned : (read members).Reasoned :=
  ((((reasoned_text _ _).map.seq (reasoned_text _ _)).seq (reasoned_textOr _ _ _)).seq
    (reasoned_slots _ _)).seq (reasoned_maybeText _ _)

theorem Record.read_eq_value {item : Record} :
    read members = .value item ↔ Fits members item := by
  obtain ⟨crateModule, name, fields⟩ := item
  simp [read, fits_iff, Reading.seq_eq_value, Reading.map_eq_value]

theorem Record.reasoned : (read members).Reasoned :=
  ((reasoned_text _ _).map.seq (reasoned_text _ _)).seq (reasoned_slots _ _)

theorem Enum.read_eq_value {item : Enum} : read members = .value item ↔ Fits members item := by
  obtain ⟨crateModule, name, variants⟩ := item
  simp [read, fits_iff, Reading.seq_eq_value, Reading.map_eq_value]

theorem Enum.reasoned : (read members).Reasoned :=
  ((reasoned_text _ _).map.seq (reasoned_text _ _)).seq (reasoned_variants _ _)

theorem Error.read_eq_value {item : Error} : read members = .value item ↔ Fits members item := by
  obtain ⟨crateModule, name, variants, flat⟩ := item
  cases flat <;> simp [read, fits_iff, Reading.seq_eq_value, Reading.map_eq_value, and_assoc]

theorem Error.reasoned : (read members).Reasoned :=
  (((reasoned_text _ _).map.seq (reasoned_text _ _)).seq (reasoned_variants _ _)).seq
    (reasoned_defaulted reasoned_boolean _ _ members)

theorem Object.read_eq_value {item : Object} :
    read members = .value item ↔ Fits members item := by
  obtain ⟨crateModule, name⟩ := item
  simp [read, fits_iff, Reading.seq_eq_value, Reading.map_eq_value]

theorem Object.reasoned : (read members).Reasoned :=
  (reasoned_text _ _).map.seq (reasoned_text _ _)

end Kinds

/-! ## Items -/

/-- The other members are those of the kind that the members tell. -/
inductive Item.Fits (members : Members) : Item → Prop where
  | function {item : Function} (kind : members.lookup "kind" = some (.string "fn"))
      (fits : item.Fits members) : Fits members (.function item)
  | method {item : Method} (kind : members.lookup "kind" = some (.string "method"))
      (fits : item.Fits members) : Fits members (.method item)
  | constructor {item : Constructor} (kind : members.lookup "kind" = some (.string "constructor"))
      (fits : item.Fits members) : Fits members (.constructor item)
  | record {item : Record} (kind : members.lookup "kind" = some (.string "record"))
      (fits : item.Fits members) : Fits members (.record item)
  | enum {item : Enum} (kind : members.lookup "kind" = some (.string "enum"))
      (fits : item.Fits members) : Fits members (.enum item)
  | error {item : Error} (kind : members.lookup "kind" = some (.string "error"))
      (fits : item.Fits members) : Fits members (.error item)
  | object {item : Object} (kind : members.lookup "kind" = some (.string "object"))
      (fits : item.Fits members) : Fits members (.object item)

namespace Item

abbrev shape : Shape Item := RecordOf Fits

theorem fits_of_reader {members : Members} {tag : String} {reader : Members → Reading Item}
    {item : Item} (kind : members.lookup "kind" = some (.string tag))
    (known : reader? tag = some reader) (found : reader members = .value item) :
    Fits members item := by
  unfold reader? at known
  split at known <;> cases known <;> obtain ⟨given, readGiven, rfl⟩ := Reading.map_eq_value.mp found
  · exact .function kind (Function.read_eq_value.mp readGiven)
  · exact .method kind (Method.read_eq_value.mp readGiven)
  · exact .constructor kind (Constructor.read_eq_value.mp readGiven)
  · exact .record kind (Record.read_eq_value.mp readGiven)
  · exact .enum kind (Enum.read_eq_value.mp readGiven)
  · exact .error kind (Error.read_eq_value.mp readGiven)
  · exact .object kind (Object.read_eq_value.mp readGiven)

theorem exists_reader_of_fits {members : Members} {item : Item} (fits : Fits members item) :
    ∃ tag reader, members.lookup "kind" = some (.string tag) ∧ reader? tag = some reader ∧
      reader members = .value item := by
  cases fits with
  | function kind fits =>
      exact ⟨_, _, kind, rfl, Reading.map_of_eq (Function.read_eq_value.mpr fits)⟩
  | method kind fits => exact ⟨_, _, kind, rfl, Reading.map_of_eq (Method.read_eq_value.mpr fits)⟩
  | constructor kind fits =>
      exact ⟨_, _, kind, rfl, Reading.map_of_eq (Constructor.read_eq_value.mpr fits)⟩
  | record kind fits => exact ⟨_, _, kind, rfl, Reading.map_of_eq (Record.read_eq_value.mpr fits)⟩
  | enum kind fits => exact ⟨_, _, kind, rfl, Reading.map_of_eq (Enum.read_eq_value.mpr fits)⟩
  | error kind fits => exact ⟨_, _, kind, rfl, Reading.map_of_eq (Error.read_eq_value.mpr fits)⟩
  | object kind fits => exact ⟨_, _, kind, rfl, Reading.map_of_eq (Object.read_eq_value.mpr fits)⟩

/-- What is read as an item has the shape of its kind, and whatever has one is read. -/
theorem exact : Exact read shape where
  value_iff {json item} := by
    unfold read
    rw [tagged_eq_value]
    constructor
    · rintro ⟨members, tag, reader, rfl, kind, known, found⟩
      exact ⟨members, rfl, fits_of_reader kind known found⟩
    · rintro ⟨members, rfl, fits⟩
      obtain ⟨tag, reader, kind, known, found⟩ := exists_reader_of_fits fits
      exact ⟨members, tag, reader, rfl, kind, known, found⟩

theorem reasoned_reader {tag : String} {reader : Members → Reading Item}
    (known : reader? tag = some reader) (members : Members) : (reader members).Reasoned := by
  unfold reader? at known
  split at known <;> cases known
  · exact Function.reasoned.map
  · exact Method.reasoned.map
  · exact Constructor.reasoned.map
  · exact Record.reasoned.map
  · exact Enum.reasoned.map
  · exact Error.reasoned.map
  · exact Object.reasoned.map

theorem reasoned (json : Json) : (read json).Reasoned := reasoned_tagged reasoned_reader json

end Item

/-! ## Collections -/

/-- The value has no parts: it is null, a truth value or a number. -/
def IsSolid : Json → Prop
  | .array _ | .object _ | .string _ => False
  | _ => True

theorem parts?_eq_none {json : Json} : parts? json = none ↔ IsSolid json := by
  cases json <;> simp [parts?, IsSolid]

/-- Parts that all have a shape are the items of an array, unless there are none. -/
theorem shaped_parts_iff {json : Json} {items : List Item} :
    (∃ parts, parts? json = some parts ∧ Forall₂ Item.shape parts items) ↔
      (∃ values, json = .array values ∧ Forall₂ Item.shape values items) ∨
        (json = .object [] ∨ json = .string "") ∧ items = [] := by
  -- A text is no object, so texts have a shape only if there are none.
  have texts {α : Type} {given : List α} {textOf : α → String} :
      Forall₂ Item.shape (given.map fun part => .string (textOf part)) items ↔
        given = [] ∧ items = [] := by
    cases given with
    | nil => simp
    | cons first rest => simp [List.forall₂_cons_left_iff, RecordOf]
  cases json with
  | array values => simp [parts?]
  | object members => simp [parts?, texts]
  | string text => simp [parts?, texts, String.toList_eq_nil_iff]
  | _ => simp [parts?]

section Results

variable {json : Json}

theorem readItems_eq_ok {items : List Item} :
    readItems json = .ok items ↔
      ∃ parts, parts? json = some parts ∧ Forall₂ Item.shape parts items := by
  simp only [← items_eq_value Item.exact 0]
  cases taken : parts? json with
  | none => simp [readItems, taken]
  | some parts =>
      cases found : Schema.items Item.read 0 parts <;> simp [readItems, taken, found]

theorem readItems_eq_issues {issues : List Issue} :
    readItems json = .error (.issues issues) ↔
      ∃ parts, parts? json = some parts ∧ Schema.items Item.read 0 parts = .refused issues := by
  cases taken : parts? json with
  | none => simp [readItems, taken]
  | some parts =>
      cases found : Schema.items Item.read 0 parts <;> simp [readItems, taken, found]

theorem readItems_eq_notCollection : readItems json = .error .notCollection ↔ IsSolid json := by
  rw [← parts?_eq_none]
  cases taken : parts? json with
  | none => simp [readItems, taken]
  | some parts =>
      cases found : Schema.items Item.read 0 parts <;> simp [readItems, taken, found]

end Results

/-- Items are read from an array exactly if each of its values has the shape of one, and then these
are the items in their order.  From other values nothing is read, except no items from an empty
object and an empty text.  What is refused is refused for reasons, at just the places whose part has
no shape.  Only a value without parts is turned down without a reason. -/
theorem readItems_verdict (json : Json) :
    (∀ items, readItems json = .ok items ↔
      (∃ values, json = .array values ∧ Forall₂ Item.shape values items) ∨
        (json = .object [] ∨ json = .string "") ∧ items = []) ∧
    (readItems json = .error .notCollection ↔ IsSolid json) ∧
    ∀ issues, readItems json = .error (.issues issues) →
      issues ≠ [] ∧ ∃ parts, parts? json = some parts ∧
        ∀ place, (∃ issue ∈ issues, issue.path.head? = some (.index place)) ↔
          ∃ part, parts[place]? = some part ∧ ∀ item, ¬ Item.shape part item := by
  refine ⟨fun items => readItems_eq_ok.trans shaped_parts_iff, readItems_eq_notCollection, ?_⟩
  intro issues refused
  obtain ⟨parts, taken, found⟩ := readItems_eq_issues.mp refused
  have same : (Schema.items Item.read 0 parts).issues = issues := by rw [found]; rfl
  refine ⟨?_, parts, taken, fun place => same ▸ issue_at_iff Item.exact Item.reasoned⟩
  rintro rfl
  exact reasoned_items Item.reasoned 0 parts found

/-- A number is turned down without a reason, and an object is accepted. -/
theorem readItems_unreasoned :
    readItems (.integer 5) = .error .notCollection ∧ readItems (.object []) = .ok [] ∧
      ¬ ∀ json, (∃ values items, json = .array values ∧ Forall₂ Item.shape values items ∧
          readItems json = .ok items) ∨
        ∃ issues, readItems json = .error (.issues issues) := by
  refine ⟨rfl, rfl, fun either => ?_⟩
  rcases either (.integer 5) with ⟨_, _, same, -⟩ | ⟨_, refused⟩
  · cases same
  · cases refused

end NativeBoundary.Metadata
