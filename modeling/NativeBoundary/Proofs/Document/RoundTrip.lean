import NativeBoundary.Document.Record
import NativeBoundary.Proofs.Json.Writing
import NativeBoundary.Proofs.Metadata.RoundTrip
import NativeBoundary.Proofs.TypeExpr.Record

/-!
# Documents read back

The reader of each node of a document belongs together with its record form.  So a document is read
back from every text of its record form, unless that breaks the limits on documents; and what was
loaded keeps to the limits, also with the members filled in that the text lacked.
-/

namespace NativeBoundary

open Schema

theorem AttributeNode.codec : Codec AttributeNode.read AttributeNode.toJson 0 where
  roundTrip := AttributeNode.read_toJson
  keyed node := by
    simp [toJson, string_codec.keyed_option, Location.codec.keyed_option]
  present _ := nofun
  confined := by
    intro room json given _ within found
    obtain ⟨members, rfl, found⟩ := record_eq_value.mp found
    obtain ⟨_, location, valued, foundLocation, rfl⟩ := Reading.seq_eq_value.mp found
    obtain ⟨_, value, keyed, foundValue, rfl⟩ := Reading.seq_eq_value.mp valued
    obtain ⟨key, foundKey, rfl⟩ := Reading.map_eq_value.mp keyed
    obtain ⟨left, rfl, parts⟩ := exists_left within (ne_nil_of_required foundKey)
    have low := Nat.zero_le left
    simp only [toJson, Json.within_object_cons, Json.within_noMembers, and_true]
    exact ⟨Json.within_string _ _, string_codec.optional_within low parts foundValue,
      Location.codec.optional_within low parts foundLocation⟩

theorem DefaultNode.codec : Codec DefaultNode.read DefaultNode.toJson 0 where
  roundTrip := DefaultNode.read_toJson
  keyed node := by
    simp [toJson, Location.codec.keyed_option]
  present _ := nofun
  confined := by
    intro room json given _ within found
    obtain ⟨members, rfl, found⟩ := record_eq_value.mp found
    obtain ⟨_, location, worded, foundLocation, rfl⟩ := Reading.seq_eq_value.mp found
    obtain ⟨_, text, kinded, -, rfl⟩ := Reading.seq_eq_value.mp worded
    obtain ⟨kind, foundKind, rfl⟩ := Reading.map_eq_value.mp kinded
    obtain ⟨left, rfl, parts⟩ := exists_left within (ne_nil_of_required foundKind)
    simp only [toJson, Json.within_object_cons, Json.within_noMembers, and_true]
    exact ⟨Json.within_string _ _, Json.within_string _ _,
      Location.codec.optional_within (Nat.zero_le left) parts foundLocation⟩

namespace Document

theorem attributes_codec : Codec (list AttributeNode.read) (Json.list AttributeNode.toJson) 0 :=
  list_codec AttributeNode.codec (by decide)

theorem keyed_attributesJson (attributes : Option (List AttributeNode)) :
    (attributesJson attributes).Keyed :=
  attributes_codec.keyed_option attributes

theorem keyed_locationJson (location : Option Location) : (locationJson location).Keyed :=
  Location.codec.keyed_option location

/-! ## What all nodes carry -/

section Site

variable {α : Type} {members : Members} {attributes : Option (List AttributeNode)}
  {location : Option Location} {head : Reading (Option (List AttributeNode) → Option Location → α)}
  {make : Option (List AttributeNode) → Option Location → α}

/-- A node whose own members are read is read with its attributes and its location. -/
theorem site_of_eq (own : head = .value make)
    (writtenAttributes : members.lookup "attributes" = some (attributesJson attributes))
    (writtenLocation : members.lookup "location" = some (locationJson location)) :
    head <*> readAttributes members <*> readLocation members =
      .value (make attributes location) := by
  have attributed : head <*> readAttributes members = .value (make attributes) :=
    Reading.seq_of_eq own (attributes_codec.optional_eq writtenAttributes)
  exact Reading.seq_of_eq attributed (Location.codec.optional_eq writtenLocation)

theorem exists_site {given : α}
    (found : head <*> readAttributes members <*> readLocation members = .value given) :
    ∃ make attributes location, head = .value make ∧ readAttributes members = .value attributes ∧
      readLocation members = .value location ∧ make attributes location = given := by
  obtain ⟨_, location, attributed, foundLocation, rfl⟩ := Reading.seq_eq_value.mp found
  obtain ⟨make, attributes, own, foundAttributes, rfl⟩ := Reading.seq_eq_value.mp attributed
  exact ⟨make, attributes, location, own, foundAttributes, foundLocation, rfl⟩

theorem site_within {left : Nat}
    (parts : ∀ name item, members.lookup name = some item → item.Within left)
    (foundAttributes : readAttributes members = .value attributes)
    (foundLocation : readLocation members = .value location) :
    (attributesJson attributes).Within left ∧ (locationJson location).Within left :=
  ⟨attributes_codec.optional_within (Nat.zero_le left) parts foundAttributes,
    Location.codec.optional_within (Nat.zero_le left) parts foundLocation⟩

end Site

/-! ## Arguments and members -/

section Slot

variable {α : Type} {flag : String} {members : Members}
  {make : String → TypeExpr → Bool → Option DefaultNode → Option (List AttributeNode) →
    Option Location → α}

/-- Arguments and members are read alike, but for the name of the flag that they have. -/
def readSlot (make : String → TypeExpr → Bool → Option DefaultNode → Option (List AttributeNode) →
    Option Location → α) (flag : String) (members : Members) : Reading α :=
  make <$> required "name" string members
    <*> required "type" TypeExpr.read members
    <*> defaulted flag false boolean members
    <*> Schema.optional "default" DefaultNode.read members
    <*> readAttributes members
    <*> readLocation members

def slotJson (flag name : String) (type : TypeExpr) (isSet : Bool) (default : Option DefaultNode)
    (attributes : Option (List AttributeNode)) (location : Option Location) : Json :=
  .object [("name", .string name), ("type", type.toJson), (flag, .bool isSet),
    ("default", Json.option DefaultNode.toJson default), ("attributes", attributesJson attributes),
    ("location", locationJson location)]

variable {name : String} {type : TypeExpr} {isSet : Bool} {default : Option DefaultNode}
  {attributes : Option (List AttributeNode)} {location : Option Location}

theorem readSlot_of_lookup (writtenName : members.lookup "name" = some (.string name))
    (writtenType : members.lookup "type" = some type.toJson)
    (writtenFlag : members.lookup flag = some (.bool isSet))
    (writtenDefault : members.lookup "default" = some (Json.option DefaultNode.toJson default))
    (writtenAttributes : members.lookup "attributes" = some (attributesJson attributes))
    (writtenLocation : members.lookup "location" = some (locationJson location)) :
    readSlot make flag members = .value (make name type isSet default attributes location) := by
  refine site_of_eq ?_ writtenAttributes writtenLocation
  refine Reading.seq_of_eq ?_ (DefaultNode.codec.optional_eq writtenDefault)
  refine Reading.seq_of_eq ?_ (boolean_codec.defaulted_eq writtenFlag)
  refine Reading.seq_of_eq ?_ (TypeExpr.codec.required_eq writtenType)
  exact Reading.map_of_eq (string_codec.required_eq writtenName)

theorem keyed_slotJson (fresh : flag ∉ ["name", "type", "default", "attributes", "location"]) :
    (slotJson flag name type isSet default attributes location).Keyed := by
  simp only [List.mem_cons, List.not_mem_nil, or_false, not_or] at fresh
  simp [slotJson, TypeExpr.codec.keyed, DefaultNode.codec.keyed_option, keyed_attributesJson,
    keyed_locationJson, fresh, Ne.symm]

theorem slot_confined {room : Nat} {given : α} (within : (Json.object members).Within room)
    (found : readSlot make flag members = .value given) :
    ∃ name type isSet default attributes location,
      make name type isSet default attributes location = given ∧
        (slotJson flag name type isSet default attributes location).Within room := by
  obtain ⟨_, attributes, location, own, foundAttributes, foundLocation, rfl⟩ := exists_site found
  obtain ⟨_, default, flagged, foundDefault, rfl⟩ := Reading.seq_eq_value.mp own
  obtain ⟨_, isSet, typed, -, rfl⟩ := Reading.seq_eq_value.mp flagged
  obtain ⟨_, type, named, foundType, rfl⟩ := Reading.seq_eq_value.mp typed
  obtain ⟨name, foundName, rfl⟩ := Reading.map_eq_value.mp named
  obtain ⟨left, rfl, parts⟩ := exists_left within (ne_nil_of_required foundName)
  have low := Nat.zero_le left
  refine ⟨name, type, isSet, default, attributes, location, rfl, ?_⟩
  simp only [slotJson, Json.within_object_cons, Json.within_noMembers, and_true]
  exact ⟨Json.within_string _ _, TypeExpr.codec.required_within low parts foundType,
    Json.within_bool _ _, DefaultNode.codec.optional_within low parts foundDefault,
    site_within parts foundAttributes foundLocation⟩

end Slot

theorem Argument.codec : Codec Argument.read Argument.toJson 0 where
  roundTrip argument := by
    obtain ⟨name, type, isOptional, default, attributes, location⟩ := argument
    exact readSlot_of_lookup rfl rfl rfl rfl rfl rfl
  keyed _ := keyed_slotJson (by decide)
  present _ := nofun
  confined := by
    intro room json given _ within found
    obtain ⟨members, rfl, found⟩ := record_eq_value.mp found
    obtain ⟨_, _, _, _, _, _, rfl, confined⟩ := slot_confined within found
    exact confined

theorem Member.codec : Codec Member.read Member.toJson 0 where
  roundTrip member := by
    obtain ⟨name, type, isRequired, default, attributes, location⟩ := member
    exact readSlot_of_lookup rfl rfl rfl rfl rfl rfl
  keyed _ := keyed_slotJson (by decide)
  present _ := nofun
  confined := by
    intro room json given _ within found
    obtain ⟨members, rfl, found⟩ := record_eq_value.mp found
    obtain ⟨_, _, _, _, _, _, rfl, confined⟩ := slot_confined within found
    exact confined

/-! ## Operations and constructors -/

theorem arguments_codec : Codec (list Argument.read) (Json.list Argument.toJson) 0 :=
  list_codec Argument.codec (by decide)

theorem Operation.codec : Codec Operation.read Operation.toJson 0 where
  roundTrip operation := by
    obtain ⟨name, arguments, result, attributes, location⟩ := operation
    refine site_of_eq ?_ rfl rfl
    refine Reading.seq_of_eq ?_ (TypeExpr.codec.optional_eq rfl)
    refine Reading.seq_of_eq ?_ (arguments_codec.defaulted_eq rfl)
    exact Reading.map_of_eq (string_codec.required_eq rfl)
  keyed operation := by
    simp [toJson, arguments_codec.keyed, TypeExpr.codec.keyed_option, keyed_attributesJson,
      keyed_locationJson]
  present _ := nofun
  confined := by
    intro room json given _ within found
    obtain ⟨members, rfl, found⟩ := record_eq_value.mp found
    obtain ⟨_, attributes, location, own, foundAttributes, foundLocation, rfl⟩ := exists_site found
    obtain ⟨_, result, taking, foundResult, rfl⟩ := Reading.seq_eq_value.mp own
    obtain ⟨_, arguments, named, foundArguments, rfl⟩ := Reading.seq_eq_value.mp taking
    obtain ⟨name, foundName, rfl⟩ := Reading.map_eq_value.mp named
    obtain ⟨left, rfl, parts⟩ := exists_left within (ne_nil_of_required foundName)
    have low := Nat.zero_le left
    simp only [toJson, Json.within_object_cons, Json.within_noMembers, and_true]
    exact ⟨Json.within_string _ _,
      arguments_codec.defaulted_within low (within_list_nil left) parts foundArguments,
      TypeExpr.codec.optional_within low parts foundResult,
      site_within parts foundAttributes foundLocation⟩

/-- A constructor may be read from an object without members, which takes no room. -/
theorem Constructor.codec : Codec Constructor.read Constructor.toJson 1 where
  roundTrip constructor := by
    obtain ⟨arguments, attributes, location⟩ := constructor
    refine site_of_eq ?_ rfl rfl
    exact Reading.map_of_eq (arguments_codec.defaulted_eq rfl)
  keyed constructor := by
    simp [toJson, arguments_codec.keyed, keyed_attributesJson, keyed_locationJson]
  present _ := nofun
  confined := by
    intro room json given enough within found
    obtain ⟨members, rfl, found⟩ := record_eq_value.mp found
    obtain ⟨_, attributes, location, own, foundAttributes, foundLocation, rfl⟩ := exists_site found
    obtain ⟨arguments, foundArguments, rfl⟩ := Reading.map_eq_value.mp own
    obtain ⟨left, rfl, parts⟩ := exists_left_of_pos within enough
    simp only [toJson, Json.within_object_cons, Json.within_noMembers, and_true]
    exact ⟨arguments_codec.defaulted_within (Nat.zero_le left) (within_list_nil left) parts
      foundArguments, site_within parts foundAttributes foundLocation⟩

/-! ## Declarations -/

theorem operations_codec : Codec (list Operation.read) (Json.list Operation.toJson) 0 :=
  list_codec Operation.codec (by decide)

theorem constructors_codec : Codec (list Constructor.read) (Json.list Constructor.toJson) 2 :=
  list_codec Constructor.codec (by decide)

theorem members_codec : Codec (list Member.read) (Json.list Member.toJson) 0 :=
  list_codec Member.codec (by decide)

theorem values_codec : Codec (list string) (Json.list .string) 0 :=
  list_codec string_codec (by decide)

namespace Declaration

/-- The kind tells the reader of the body, which finds the members of the body among all others. -/
theorem exists_reader {declaration : Declaration} {members : Members}
    (form : declaration.toJson = .object members) :
    ∃ read, Body.reader? declaration.body.kindName = some read ∧
      read members = .value declaration.body := by
  obtain ⟨name, body, attributes, location⟩ := declaration
  cases form
  cases body with
  | space functions => exact ⟨_, rfl, Reading.map_of_eq (operations_codec.defaulted_eq rfl)⟩
  | dictionary parts => exact ⟨_, rfl, Reading.map_of_eq (members_codec.defaulted_eq rfl)⟩
  | enum values => exact ⟨_, rfl, Reading.map_of_eq (values_codec.defaulted_eq rfl)⟩
  | interface constructors operations =>
      exact ⟨_, rfl, Reading.seq_of_eq (Reading.map_of_eq (constructors_codec.defaulted_eq rfl))
        (operations_codec.defaulted_eq rfl)⟩
  | callbackInterface operations =>
      exact ⟨_, rfl, Reading.map_of_eq (operations_codec.defaulted_eq rfl)⟩
  | typedef typeName => exact ⟨_, rfl, Reading.map_of_eq (string_codec.defaulted_eq rfl)⟩

theorem lookup_of_toJson {declaration : Declaration} {members : Members}
    (form : declaration.toJson = .object members) :
    members.lookup "kind" = some (.string declaration.body.kindName) ∧
      members.lookup "name" = some (.string declaration.name) ∧
      members.lookup "attributes" = some (attributesJson declaration.attributes) ∧
      members.lookup "location" = some (locationJson declaration.location) := by
  obtain ⟨name, body, attributes, location⟩ := declaration
  cases form
  cases body <;> exact ⟨rfl, rfl, rfl, rfl⟩

theorem read_toJson (declaration : Declaration) : read declaration.toJson = .value declaration := by
  obtain ⟨members, form⟩ : ∃ members, declaration.toJson = .object members := ⟨_, rfl⟩
  obtain ⟨readBody, reader, body⟩ := exists_reader form
  obtain ⟨kind, name, attributes, location⟩ := lookup_of_toJson form
  rw [form]
  refine tagged_eq_value.mpr ⟨members, _, _, rfl, kind, by rw [reader]; rfl, ?_⟩
  have head : Declaration.mk <$> required "name" string members <*> readBody members =
      .value (Declaration.mk declaration.name declaration.body) :=
    Reading.seq_of_eq (Reading.map_of_eq (string_codec.required_eq name)) body
  exact site_of_eq head attributes location

theorem keyed_toJson (declaration : Declaration) : declaration.toJson.Keyed := by
  obtain ⟨name, body, attributes, location⟩ := declaration
  cases body <;> simp [toJson, Body.membersJson, operations_codec.keyed, members_codec.keyed,
    values_codec.keyed, constructors_codec.keyed, keyed_attributesJson, keyed_locationJson]

theorem within_membersJson {tag : String} {readBody : Members → Reading Body} {members : Members}
    {body : Body} {left : Nat} (enough : 2 ≤ left)
    (parts : ∀ name item, members.lookup name = some item → item.Within left)
    (reader : Body.reader? tag = some readBody) (found : readBody members = .value body) :
    ∀ member ∈ body.membersJson, member.2.Within left := by
  have low := Nat.zero_le left
  unfold Body.reader? at reader
  split at reader
  · cases reader
    obtain ⟨functions, foundFunctions, rfl⟩ := Reading.map_eq_value.mp found
    refine List.forall_mem_singleton.mpr ?_
    exact operations_codec.defaulted_within low (within_list_nil left) parts foundFunctions
  · cases reader
    obtain ⟨inner, foundMembers, rfl⟩ := Reading.map_eq_value.mp found
    refine List.forall_mem_singleton.mpr ?_
    exact members_codec.defaulted_within low (within_list_nil left) parts foundMembers
  · cases reader
    obtain ⟨values, foundValues, rfl⟩ := Reading.map_eq_value.mp found
    refine List.forall_mem_singleton.mpr ?_
    exact values_codec.defaulted_within low (within_list_nil left) parts foundValues
  · cases reader
    simp only [Reading.seq_eq_value, Reading.map_eq_value] at found
    obtain ⟨_, operations, ⟨constructors, foundConstructors, rfl⟩, foundOperations, rfl⟩ := found
    refine List.forall_mem_cons.mpr ⟨?_, List.forall_mem_singleton.mpr ?_⟩
    · exact constructors_codec.defaulted_within enough (within_list_nil left) parts
        foundConstructors
    · exact operations_codec.defaulted_within low (within_list_nil left) parts foundOperations
  · cases reader
    obtain ⟨operations, foundOperations, rfl⟩ := Reading.map_eq_value.mp found
    refine List.forall_mem_singleton.mpr ?_
    exact operations_codec.defaulted_within low (within_list_nil left) parts foundOperations
  · cases reader
    obtain ⟨typeName, -, rfl⟩ := Reading.map_eq_value.mp found
    exact List.forall_mem_singleton.mpr (Json.within_string _ _)
  · cases reader

theorem codec : Codec read toJson 3 where
  roundTrip := read_toJson
  keyed := keyed_toJson
  present _ := nofun
  confined := by
    intro room json given enough within found
    obtain ⟨members, tag, readMembers, rfl, -, shape, found⟩ := tagged_eq_value.mp found
    obtain ⟨readBody, reader, rfl⟩ := Option.map_eq_some_iff.mp shape
    obtain ⟨_, attributes, location, own, foundAttributes, foundLocation, rfl⟩ := exists_site found
    obtain ⟨_, body, named, foundBody, rfl⟩ := Reading.seq_eq_value.mp own
    obtain ⟨name, -, rfl⟩ := Reading.map_eq_value.mp named
    obtain ⟨left, rfl, parts⟩ := exists_left_of_pos within (Nat.zero_lt_of_lt enough)
    obtain ⟨confinedAttributes, confinedLocation⟩ := site_within parts foundAttributes foundLocation
    refine Json.within_object_succ.mpr (List.forall_mem_append.mpr
      ⟨List.forall_mem_append.mpr ⟨?_, ?_⟩, ?_⟩)
    · exact List.forall_mem_cons.mpr
        ⟨Json.within_string _ _, List.forall_mem_singleton.mpr (Json.within_string _ _)⟩
    · exact within_membersJson (Nat.le_of_succ_le_succ enough) parts reader foundBody
    · exact List.forall_mem_cons.mpr
        ⟨confinedAttributes, List.forall_mem_singleton.mpr confinedLocation⟩

end Declaration

theorem declarations_codec : Codec (list Declaration.read) (Json.list Declaration.toJson) 4 :=
  list_codec Declaration.codec (by decide)

theorem codec : Codec read toJson 5 where
  roundTrip document := by
    obtain ⟨file, definitions⟩ := document
    refine Reading.seq_of_eq ?_ (declarations_codec.defaulted_eq rfl)
    exact Reading.map_of_eq (string_codec.optional_eq rfl)
  keyed document := by
    simp [toJson, string_codec.keyed_option, declarations_codec.keyed]
  present _ := nofun
  confined := by
    intro room json given enough within found
    obtain ⟨members, rfl, found⟩ := record_eq_value.mp found
    obtain ⟨_, definitions, filed, foundDefinitions, rfl⟩ := Reading.seq_eq_value.mp found
    obtain ⟨file, foundFile, rfl⟩ := Reading.map_eq_value.mp filed
    obtain ⟨left, rfl, parts⟩ := exists_left_of_pos within (Nat.zero_lt_of_lt enough)
    have low := Nat.zero_le left
    simp only [toJson, Json.within_object_cons, Json.within_noMembers, and_true]
    exact ⟨string_codec.optional_within low parts foundFile,
      declarations_codec.defaulted_within (Nat.le_of_succ_le_succ enough) (within_list_nil left)
        parts foundDefinitions⟩

/-! ## Documents and texts -/

variable {document found : Document} {text : String}

theorem load_eq_ok : load text = .ok found ↔
    ∃ json, Json.read .document text = .ok json ∧ read json = .value found := by
  unfold load
  cases Json.read .document text with
  | error fault => simp
  | ok json =>
      simp only [Except.ok.injEq, exists_eq_left']
      cases read json with
      | value given => simp [Reading.toExcept]
      | refused issues => simp [Reading.toExcept]

/-- A text of a document is refused exactly if the document breaks the limits. -/
theorem load_of_writtenAs (written : document.toJson.WrittenAs text) :
    load text = if document.toJson.Within Json.Limits.document.nesting then .ok document
      else .error [⟨.invalidText, []⟩] := by
  have reads := Json.read_of_writtenAs written
  unfold load
  split
  · next fault refused =>
    rw [refused] at reads
    split at reads
    · cases reads
    · next breaks => rw [if_neg breaks]
  · next json given =>
    rw [given] at reads
    split at reads
    · next within =>
      cases reads
      rw [if_pos within, codec.roundTrip]
      rfl
    · cases reads

theorem within_of_load (loaded : load text = .ok found) :
    found.toJson.Within Json.Limits.document.nesting := by
  obtain ⟨json, given, readJson⟩ := load_eq_ok.mp loaded
  exact codec.confined (by decide) (Json.within_of_read given) readJson

/-! ## Towers of types -/

/-- A sequence of sequences, so many times, down to a byte. -/
def tower : Nat → TypeExpr
  | 0 => .named "u8"
  | height + 1 => .sequenceOf (tower height)

/-- A record with one field whose type is a tower. -/
def towerDocument (height : Nat) : Document :=
  { definitions := [{ name := "Tall", body := .dictionary [{ name := "top", type := tower height }] }] }

theorem within_tower {height room : Nat} : (tower height).toJson.Within room ↔ height < room := by
  induction height generalizing room with
  | zero =>
      cases room with
      | zero => exact iff_of_false (Json.not_within_object_zero (List.cons_ne_nil _ _)) nofun
      | succ left =>
          refine iff_of_true ?_ (Nat.succ_pos left)
          simp [tower, TypeExpr.named, TypeExpr.toJson, TypeExpr.toJsonOption, Json.option,
            Json.within_object_cons, Json.within_string, Json.within_bool, Json.within_null]
  | succ height ih =>
      cases room with
      | zero => exact iff_of_false (Json.not_within_object_zero (List.cons_ne_nil _ _)) nofun
      | succ left =>
          simp [tower, TypeExpr.sequenceOf, TypeExpr.toJson, TypeExpr.toJsonOption, Json.option,
            Json.within_object_cons, Json.within_string, Json.within_bool, Json.within_null, ih]

theorem within_towerDocument {height : Nat} :
    (towerDocument height).toJson.Within Json.Limits.document.nesting ↔ height < 195 := by
  show (towerDocument height).toJson.Within (195 + 5) ↔ _
  simp [towerDocument, toJson, Declaration.toJson, Body.membersJson, Member.toJson, Json.list,
    Json.within_array_succ, attributesJson, locationJson, Json.option,
    Json.within_object_cons, Json.within_string, Json.within_bool, Json.within_null, within_tower]

theorem isOrdinary_tower (height : Nat) : (tower height).toJson.isOrdinary = true := by
  induction height with
  | zero => decide
  | succ height ih =>
      simp only [tower, TypeExpr.sequenceOf, TypeExpr.toJson, TypeExpr.toJsonOption,
        Json.isOrdinary, Json.areOrdinaryMembers, ih]
      decide

/-! ## Both formats -/

/-- Both formats read what they write: every text of a document that keeps to the limits, and the
record forms of any metadata.  So what was loaded is the same after it is dumped and loaded again. -/
theorem formats_read_back (document : Document) (items : List Metadata.Item) :
    (∀ text, document.toJson.WrittenAs text →
      load text = if document.toJson.Within Json.Limits.document.nesting then .ok document
        else .error [⟨.invalidText, []⟩]) ∧
      (document.toJson.Scalar → ∃ text, document.toJson.WrittenAs text) ∧
      Metadata.readItems (Json.list Metadata.Item.toJson items) = .ok items ∧
      ∀ text found dumped, load text = .ok found → found.toJson.WrittenAs dumped →
        load dumped = .ok found := by
  refine ⟨fun text written => load_of_writtenAs written, fun scalar => ?_,
    Metadata.readItems_list items, fun text found dumped loaded written => ?_⟩
  · exact Json.exists_writtenAs scalar (codec.keyed document)
  · rw [load_of_writtenAs written, if_pos (within_of_load loaded)]

/-- The dump of a document may be nested too deeply to be loaded. -/
theorem formats_read_back_tower : ∃ text, (towerDocument 195).toJson.WrittenAs text ∧
    load text = .error [⟨.invalidText, []⟩] := by
  have scalar : (towerDocument 195).toJson.Scalar := by
    apply Json.scalar_of_isOrdinary
    simp only [towerDocument, toJson, Declaration.toJson, Body.membersJson, Member.toJson,
      Json.list, List.map_cons, List.map_nil, List.cons_append, List.nil_append, Json.isOrdinary,
      Json.areOrdinary, Json.areOrdinaryMembers, isOrdinary_tower]
    decide
  have deep : ¬(towerDocument 195).toJson.Within Json.Limits.document.nesting :=
    mt within_towerDocument.mp (Nat.lt_irrefl 195)
  obtain ⟨text, written⟩ := Json.exists_writtenAs scalar (codec.keyed _)
  exact ⟨text, written, by rw [load_of_writtenAs written, if_neg deep]⟩

end Document

end NativeBoundary
