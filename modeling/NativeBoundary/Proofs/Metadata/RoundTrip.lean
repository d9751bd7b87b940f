import NativeBoundary.Metadata.Record
import NativeBoundary.Proofs.Schema.Codec

/-!
# Metadata read back

Each of the seven kinds of items is read back from its record form, whatever it holds, and a list of
items from the list of their record forms, in its order.
-/

namespace NativeBoundary.Metadata

open Schema

variable {members : Members}

theorem Slot.read_toJson (slot : Slot) : read slot.toJson = .value slot := rfl

theorem readSlots_toJson (slots : List Slot) :
    list Slot.read (Json.list Slot.toJson slots) = .value slots :=
  items_map_eq_value slots (fun slot _ => slot.read_toJson) 0

theorem defaulted_slots {name : String} {slots : List Slot}
    (found : members.lookup name = some (Json.list Slot.toJson slots)) :
    defaulted name [] (list Slot.read) members = .value slots :=
  defaulted_eq_value.mpr (.inr ⟨_, found, readSlots_toJson slots⟩)

theorem Variant.read_toJson (variant : Variant) : read variant.toJson = .value variant := by
  obtain ⟨name, fields⟩ := variant
  refine Reading.seq_of_eq ?_ (defaulted_slots rfl)
  exact Reading.map_of_eq (string_codec.required_eq rfl)

theorem defaulted_variants {name : String} {variants : List Variant}
    (found : members.lookup name = some (Json.list Variant.toJson variants)) :
    defaulted name [] (list Variant.read) members = .value variants :=
  defaulted_eq_value.mpr
    (.inr ⟨_, found, items_map_eq_value variants (fun variant _ => variant.read_toJson) 0⟩)

theorem Function.read_members {item : Function} (form : item.toJson = .object members) :
    read members = .value item := by
  obtain ⟨crateModule, name, inputs, output, throws⟩ := item
  cases form
  refine Reading.seq_of_eq ?_ (string_codec.optional_eq rfl)
  refine Reading.seq_of_eq ?_ (string_codec.optional_eq rfl)
  refine Reading.seq_of_eq ?_ (defaulted_slots rfl)
  refine Reading.seq_of_eq ?_ (string_codec.required_eq rfl)
  exact Reading.map_of_eq (string_codec.required_eq rfl)

theorem Method.read_members {item : Method} (form : item.toJson = .object members) :
    read members = .value item := by
  obtain ⟨crateModule, owner, name, inputs, output, throws⟩ := item
  cases form
  refine Reading.seq_of_eq ?_ (string_codec.optional_eq rfl)
  refine Reading.seq_of_eq ?_ (string_codec.optional_eq rfl)
  refine Reading.seq_of_eq ?_ (defaulted_slots rfl)
  refine Reading.seq_of_eq ?_ (string_codec.required_eq rfl)
  refine Reading.seq_of_eq ?_ (string_codec.required_eq rfl)
  exact Reading.map_of_eq (string_codec.required_eq rfl)

theorem Constructor.read_members {item : Constructor} (form : item.toJson = .object members) :
    read members = .value item := by
  obtain ⟨crateModule, owner, name, inputs, throws⟩ := item
  cases form
  refine Reading.seq_of_eq ?_ (string_codec.optional_eq rfl)
  refine Reading.seq_of_eq ?_ (defaulted_slots rfl)
  refine Reading.seq_of_eq ?_ (string_codec.defaulted_eq rfl)
  refine Reading.seq_of_eq ?_ (string_codec.required_eq rfl)
  exact Reading.map_of_eq (string_codec.required_eq rfl)

theorem Record.read_members {item : Record} (form : item.toJson = .object members) :
    read members = .value item := by
  obtain ⟨crateModule, name, fields⟩ := item
  cases form
  refine Reading.seq_of_eq ?_ (defaulted_slots rfl)
  refine Reading.seq_of_eq ?_ (string_codec.required_eq rfl)
  exact Reading.map_of_eq (string_codec.required_eq rfl)

theorem Enum.read_members {item : Enum} (form : item.toJson = .object members) :
    read members = .value item := by
  obtain ⟨crateModule, name, variants⟩ := item
  cases form
  refine Reading.seq_of_eq ?_ (defaulted_variants rfl)
  refine Reading.seq_of_eq ?_ (string_codec.required_eq rfl)
  exact Reading.map_of_eq (string_codec.required_eq rfl)

theorem Error.read_members {item : Error} (form : item.toJson = .object members) :
    read members = .value item := by
  obtain ⟨crateModule, name, variants, flat⟩ := item
  cases form
  refine Reading.seq_of_eq ?_ (boolean_codec.defaulted_eq rfl)
  refine Reading.seq_of_eq ?_ (defaulted_variants rfl)
  refine Reading.seq_of_eq ?_ (string_codec.required_eq rfl)
  exact Reading.map_of_eq (string_codec.required_eq rfl)

theorem Object.read_members {item : Object} (form : item.toJson = .object members) :
    read members = .value item := by
  cases form
  rfl

/-- The kind of a record form leads to the reader of the item that it is the form of. -/
theorem Item.read_toJson (item : Item) : read item.toJson = .value item := by
  apply tagged_eq_value.mpr
  cases item with
  | function item => exact ⟨_, _, _, rfl, rfl, rfl, Reading.map_of_eq (item.read_members rfl)⟩
  | method item => exact ⟨_, _, _, rfl, rfl, rfl, Reading.map_of_eq (item.read_members rfl)⟩
  | constructor item => exact ⟨_, _, _, rfl, rfl, rfl, Reading.map_of_eq (item.read_members rfl)⟩
  | record item => exact ⟨_, _, _, rfl, rfl, rfl, Reading.map_of_eq (item.read_members rfl)⟩
  | enum item => exact ⟨_, _, _, rfl, rfl, rfl, Reading.map_of_eq (item.read_members rfl)⟩
  | error item => exact ⟨_, _, _, rfl, rfl, rfl, Reading.map_of_eq (item.read_members rfl)⟩
  | object item => exact ⟨_, _, _, rfl, rfl, rfl, Reading.map_of_eq (item.read_members rfl)⟩

theorem readItems_list (items : List Item) :
    readItems (Json.list Item.toJson items) = .ok items := by
  have reads := items_map_eq_value items (fun item _ => item.read_toJson) 0
  simp only [readItems, Json.list, parts?, reads]

end NativeBoundary.Metadata
