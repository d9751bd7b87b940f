import NativeBoundary.Proofs.Build.Reading

/-!
# Names of members

Fields of a record, variants of a union and fields of a variant each have names of their own.  An
interface that is built has those of its document and of its metadata and no others.  A build
refuses names that are repeated in a dictionary or among the variants of a declaration.  It does not
look at the fields of a variant, nor at any members in metadata: these are distinct exactly if they
were written so.
-/

namespace NativeBoundary

/-- The names of the fields of a record, of the variants of a union, or of the fields of the given
variant of a union. -/
structure MemberNames where
  owner : String
  variant : Option String := none
  names : List String
  deriving DecidableEq

/-- The names in a union whose variants have these names and fields. -/
def MemberNames.ofVariants (owner : String) (variants : List (String × List String)) :
    List MemberNames :=
  ⟨owner, none, variants.map Prod.fst⟩ ::
    variants.map fun variant => ⟨owner, some variant.1, variant.2⟩

theorem MemberNames.nodup_of_ofVariants {owner : String} {variants : List (String × List String)}
    (distinct : (variants.map Prod.fst).Nodup) :
    ∀ entry ∈ ofVariants owner variants, entry.variant = none → entry.names.Nodup :=
  List.forall_mem_cons.mpr
    ⟨fun _ => distinct, List.forall_mem_map.mpr fun _ _ => (nomatch ·)⟩

/-! ## Names in an interface and in its sources -/

namespace Model

def Record.memberNames (record : Record) : List MemberNames :=
  [⟨record.name, none, record.fields.map Field.name⟩]

def Variant.labels (variant : Variant) : String × List String :=
  (variant.name, variant.fields.map Field.name)

def Union.memberNames (union : Union) : List MemberNames :=
  MemberNames.ofVariants union.name (union.variants.map Variant.labels)

end Model

def Interface.memberNames (interface : Interface) : List MemberNames :=
  interface.records.flatMap Model.Record.memberNames ++
    (interface.enums ++ interface.errors).flatMap Model.Union.memberNames

namespace Document

def Operation.labels (operation : Operation) : String × List String :=
  (operation.name, operation.arguments.map Argument.name)

def Declaration.memberNames (declaration : Declaration) : List MemberNames :=
  match declaration.body with
  | .dictionary members => [⟨declaration.name, none, members.map Member.name⟩]
  | .enum values => MemberNames.ofVariants declaration.name (values.map (·, []))
  | .interface _ operations =>
      if declaration.isObject then []
      else MemberNames.ofVariants declaration.name (operations.map Operation.labels)
  | .space _ | .callbackInterface _ | .typedef _ => []

end Document

def Document.memberNames (document : Document) : List MemberNames :=
  document.definitions.flatMap Document.Declaration.memberNames

namespace Metadata

def Record.memberNames (item : Record) : List MemberNames :=
  [⟨item.name, none, item.fields.map Slot.name⟩]

def Variant.labels (variant : Variant) : String × List String :=
  (variant.name, variant.fields.map Slot.name)

def Enum.memberNames (item : Enum) : List MemberNames :=
  MemberNames.ofVariants item.name (item.variants.map Variant.labels)

/-- The variants of a flat error have no fields, whatever is written. -/
def Error.memberNames (item : Error) : List MemberNames :=
  MemberNames.ofVariants item.name <|
    if item.flat then item.variants.map fun variant => (variant.name, [])
    else item.variants.map Variant.labels

def Item.memberNames : Item → List MemberNames
  | .record item => item.memberNames
  | .enum item => item.memberNames
  | .error item => item.memberNames
  | .function _ | .constructor _ | .method _ | .object _ => []

def Group.memberNames (group : Group) : List MemberNames :=
  group.records.flatMap Record.memberNames ++
    (group.enums.flatMap Enum.memberNames ++ group.errors.flatMap Error.memberNames)

section Kinds

variable {item : Item}

theorem Item.record?_eq_some {record : Record} :
    item.record? = some record ↔ item = .record record := by
  cases item <;> simp [record?]

theorem Item.enum?_eq_some {union : Enum} : item.enum? = some union ↔ item = .enum union := by
  cases item <;> simp [enum?]

theorem Item.error?_eq_some {union : Error} : item.error? = some union ↔ item = .error union := by
  cases item <;> simp [error?]

end Kinds

/-- Sorting changes no names. -/
theorem Group.mem_memberNames_of_ofItems {items : List Item} {group : Group}
    (grouped : ofItems items = .ok group) {entry : MemberNames} :
    entry ∈ group.memberNames ↔ entry ∈ items.flatMap Item.memberNames := by
  have sorts := sorts_of_ofItems grouped
  simp only [memberNames, List.mem_append, List.mem_flatMap, sorts.records.perm.mem_iff,
    sorts.enums.perm.mem_iff, sorts.errors.perm.mem_iff, List.mem_filterMap]
  simp only [Item.record?_eq_some, Item.enum?_eq_some, Item.error?_eq_some, exists_eq_right]
  constructor
  · rintro (⟨item, member, named⟩ | ⟨item, member, named⟩ | ⟨item, member, named⟩)
    · exact ⟨.record item, member, named⟩
    · exact ⟨.enum item, member, named⟩
    · exact ⟨.error item, member, named⟩
  · rintro ⟨item, member, named⟩
    cases item with
    | record item => exact .inl ⟨item, member, named⟩
    | enum item => exact .inr (.inl ⟨item, member, named⟩)
    | error item => exact .inr (.inr ⟨item, member, named⟩)
    | function _ | constructor _ | method _ | object _ => cases named

end Metadata

/-! ## Names in what was read -/

namespace Document

variable {names : Names}

theorem Operation.labels_of_denoteVariant {operation : Operation} {owner : String}
    {variant : Model.Variant} (given : operation.denoteVariant owner names = .ok variant) :
    variant.labels = operation.labels := by
  obtain ⟨-, _, -, fields, read, rfl⟩ := denoteVariant_eq_ok.mp given
  refine Prod.ext rfl (Results.keys_of_map_ok (fun denoted => ?_) (Results.mapM_eq_ok.mp read))
  obtain ⟨type, -, rfl⟩ := denoteVariantField_eq_ok.mp denoted
  rfl

theorem Member.denote_name {member : Member} {field : Model.Field}
    (given : member.denote names = .ok field) : field.name = member.name := by
  obtain ⟨_, -, type, -, default, -, rfl⟩ := denote_eq_ok.mp given
  rfl

end Document

namespace Metadata

variable {names : Names}

theorem Slot.denoteField_name {slot : Slot} {field : Model.Field}
    (given : slot.denoteField names = .ok field) : field.name = slot.name := by
  obtain ⟨type, -, rfl⟩ := denoteField_eq_ok.mp given
  rfl

theorem Record.memberNames_of_denote {item : Record} {record : Model.Record}
    (given : item.denote names = .ok record) : record.memberNames = item.memberNames := by
  obtain ⟨fields, read, rfl⟩ := denote_eq_ok.mp given
  have same := Results.keys_of_map_ok Slot.denoteField_name (Results.mapM_eq_ok.mp read)
  rw [Model.Record.memberNames, same]
  rfl

theorem Variant.labels_of_denote {item : Variant} {variant : Model.Variant}
    (given : item.denote names = .ok variant) : variant.labels = item.labels := by
  obtain ⟨fields, read, rfl⟩ := denote_eq_ok.mp given
  exact Prod.ext rfl (Results.keys_of_map_ok Slot.denoteField_name (Results.mapM_eq_ok.mp read))

theorem Enum.memberNames_of_denote {item : Enum} {union : Model.Union}
    (given : item.denote names = .ok union) : union.memberNames = item.memberNames := by
  obtain ⟨variants, read, rfl⟩ := denote_eq_ok.mp given
  have same := Results.keys_of_map_ok Variant.labels_of_denote (Results.mapM_eq_ok.mp read)
  rw [Model.Union.memberNames, same]
  rfl

theorem Error.memberNames_of_denote {item : Error} {union : Model.Union}
    (given : item.denote names = .ok union) : union.memberNames = item.memberNames := by
  rw [memberNames, Model.Union.memberNames]
  rcases denote_eq_ok.mp given with ⟨flat, rfl⟩ | ⟨full, variants, read, rfl⟩
  · rw [if_pos flat, List.map_map]
    rfl
  · have same := Results.keys_of_map_ok Variant.labels_of_denote (Results.mapM_eq_ok.mp read)
    rw [full, if_neg Bool.false_ne_true, same]

end Metadata

/-- The names in what was read, of whatever source. -/
def Results.named {α : Type} (view : α → List MemberNames) : Except Problem α → List MemberNames
  | .ok value => view value
  | .error _ => []

theorem Results.flatMap_named {α β : Type} {view : β → List MemberNames}
    {own : α → List MemberNames} {read : α → Except Problem β}
    (keeps : ∀ {item value}, read item = .ok value → view value = own item) {items : List α}
    (readable : ∀ item ∈ items, ∃ value, read item = .ok value) :
    (items.map read).flatMap (named view) = items.flatMap own := by
  rw [List.flatMap_map]
  refine List.flatMap_congr fun item member => ?_
  obtain ⟨value, given⟩ := readable item member
  rw [given, ← keeps given]
  rfl

def Contents.memberNames (contents : Contents) : List MemberNames :=
  contents.records.flatMap (Results.named Model.Record.memberNames) ++
    (contents.enums ++ contents.errors).flatMap (Results.named Model.Union.memberNames)

namespace Contents

theorem mem_memberNames_append {first second : Contents} {entry : MemberNames} :
    entry ∈ (first ++ second).memberNames ↔
      entry ∈ first.memberNames ∨ entry ∈ second.memberNames := by
  simp only [memberNames, append_eq, append, List.flatMap_append, List.mem_append]
  tauto

theorem mem_memberNames_sum {α : Type} {items : List α} {view : α → Contents}
    {entry : MemberNames} :
    entry ∈ (sum (items.map view)).memberNames ↔
      ∃ item ∈ items, entry ∈ (view item).memberNames := by
  induction items with
  | nil => simp [sum, memberNames]
  | cons first rest ih =>
      rw [List.map_cons, sum, mem_memberNames_append, ih, List.exists_mem_cons_iff]

end Contents

theorem Interface.memberNames_contents (interface : Interface) :
    interface.contents.memberNames = interface.memberNames := by
  simp only [Contents.memberNames, contents, ← List.map_append, List.flatMap_map]
  rfl

theorem Interface.memberNames_declared (interface : Interface) :
    interface.declared.memberNames = interface.memberNames := rfl

namespace Document.Declaration

variable {declaration : Declaration} {names : Names} {contents : Contents}

theorem memberNames_of_denoteUnion {constructors : List Constructor} {operations : List Operation}
    {union : Model.Union}
    (given : declaration.denoteUnion constructors operations names = .ok union) :
    union.memberNames =
      MemberNames.ofVariants declaration.name (operations.map Operation.labels) := by
  obtain ⟨-, -, variants, read, rfl⟩ := denoteUnion_parts given
  rw [Model.Union.memberNames,
    Results.keys_of_map_ok Operation.labels_of_denoteVariant (Results.mapM_eq_ok.mp read)]

/-- What was read of a declaration has the names that the declaration has. -/
theorem memberNames_of_reading (reading : declaration.Reading names contents) :
    contents.memberNames = declaration.memberNames := by
  cases reading with
  | record shape given =>
      obtain ⟨_, -, -, fields, read, rfl⟩ := denoteRecord_eq_ok.mp given
      have same := Results.keys_of_map_ok Member.denote_name (Results.mapM_eq_ok.mp read)
      simp [Contents.memberNames, Results.named, Model.Record.memberNames, memberNames, shape, same]
  | words shape given listed =>
      obtain ⟨_, -, _, -, rfl⟩ := denoteWords_eq_ok.mp given
      rcases listed with rfl | rfl <;>
        simp [Contents.memberNames, Results.named, Model.Union.memberNames, Model.Variant.labels,
          memberNames, shape, Function.comp_def]
  | union shape isOther given listed =>
      have same := memberNames_of_denoteUnion given
      rcases listed with rfl | rfl <;>
        simp [Contents.memberNames, Results.named, memberNames, shape, isOther, same]
  | object shape isObject given => simp [Contents.memberNames, memberNames, shape, isObject]
  | space shape given | callback shape given | typedef shape =>
      simp [Contents.memberNames, memberNames, shape]

/-- A declaration that was read has no name twice, unless within one variant. -/
theorem nodup_of_reading (reading : declaration.Reading names contents) :
    ∀ entry ∈ declaration.memberNames, entry.variant = none → entry.names.Nodup := by
  cases reading with
  | record shape given =>
      obtain ⟨_, -, distinct, -⟩ := denoteRecord_eq_ok.mp given
      simp only [memberNames, shape]
      exact List.forall_mem_singleton.mpr fun _ => nodup_of_ensureDistinct distinct
  | words shape given listed =>
      obtain ⟨_, -, _, distinct, -⟩ := denoteWords_eq_ok.mp given
      simp only [memberNames, shape]
      refine MemberNames.nodup_of_ofVariants ?_
      rw [List.map_map, Function.comp_def, List.map_id']
      exact nodup_of_ensureDistinct distinct
  | union shape isOther given listed =>
      obtain ⟨-, distinct, -⟩ := denoteUnion_parts given
      simp only [memberNames, shape, isOther, Bool.false_eq_true, if_false]
      refine MemberNames.nodup_of_ofVariants ?_
      rw [List.map_map]
      exact nodup_of_ensureDistinct distinct
  | object shape isObject given => simp [memberNames, shape, isObject]
  | space shape given | callback shape given | typedef shape => simp [memberNames, shape]

end Document.Declaration

namespace Interface

open Document (Declaration)
open Metadata (Group Item)

theorem memberNames_standing {objects : List String} {group : Group} {names : Names}
    (readable : group.Readable names) :
    (standing objects group names).memberNames = group.memberNames := by
  simp only [Contents.memberNames, standing, List.flatMap_append, Group.memberNames]
  rw [Results.flatMap_named Metadata.Record.memberNames_of_denote readable.records,
    Results.flatMap_named Metadata.Enum.memberNames_of_denote readable.enums,
    Results.flatMap_named Metadata.Error.memberNames_of_denote readable.errors]

/-- A plain interface has the names of its sources. -/
theorem Plain.mem_memberNames {declarations : List Declaration} {group : Group} {plain : Interface}
    (stage : Plain declarations group plain) (compatible : Compatible declarations group)
    {entry : MemberNames} :
    entry ∈ plain.memberNames ↔
      entry ∈ declarations.flatMap Declaration.memberNames ∨ entry ∈ group.memberNames := by
  have readable := compatible.metadata
  rw [← stage.names_eq] at readable
  rw [← memberNames_contents, stage.contents, outline_eq]
  change entry ∈ Contents.memberNames (_ ++ _) ↔ _
  rw [Contents.mem_memberNames_append, Contents.mem_memberNames_sum, memberNames_standing readable,
    List.mem_flatMap]
  refine or_congr_left (exists_congr fun declaration => and_congr_right fun member => ?_)
  have whole := (compatible.document declaration member).whole
  rw [← stage.names_eq] at whole
  rw [Declaration.memberNames_of_reading (Declaration.reading_of_whole whole)]

/-- A built interface has the names of its document and of its metadata. -/
theorem mem_memberNames_of_build {document : Option Document} {items : List Item}
    {settings : Settings} {interface : Interface}
    (built : build document items settings = .ok interface) (entry : MemberNames) :
    entry ∈ interface.memberNames ↔ entry ∈ (document.map Document.memberNames).getD [] ∨
      entry ∈ items.flatMap Item.memberNames := by
  obtain ⟨group, plain, grouped, stage, compatible, -, same⟩ := Plain.of_build built
  rw [← memberNames_declared, same]
  change entry ∈ plain.memberNames ↔ _
  rw [stage.mem_memberNames compatible, Group.mem_memberNames_of_ofItems grouped]
  cases document <;> rfl

theorem nodup_of_build {document : Option Document} {items : List Item} {settings : Settings}
    {interface : Interface} (built : build document items settings = .ok interface) :
    ∀ entry ∈ (document.map Document.memberNames).getD [],
      entry.variant = none → entry.names.Nodup := by
  obtain ⟨group, plain, -, stage, compatible, -, -⟩ := Plain.of_build built
  intro entry member
  cases document with
  | none => cases member
  | some document =>
      obtain ⟨declaration, inside, named⟩ := List.mem_flatMap.mp member
      obtain ⟨contents, reading, -⟩ := stage.reading compatible inside
      exact Declaration.nodup_of_reading reading entry named

/-- The names of members in a built interface are those of its sources.  In the document the fields
of a record and the variants of a union have distinct names.  All members do exactly if the fields
of each variant in the document and all members in the metadata do. -/
theorem memberNames_of_build {document : Option Document} {items : List Item} {settings : Settings}
    {interface : Interface} (built : build document items settings = .ok interface) :
    (∀ entry, entry ∈ interface.memberNames ↔
      entry ∈ (document.map Document.memberNames).getD [] ∨
        entry ∈ items.flatMap Item.memberNames) ∧
    (∀ entry ∈ (document.map Document.memberNames).getD [],
      entry.variant = none → entry.names.Nodup) ∧
    ((∀ entry ∈ interface.memberNames, entry.names.Nodup) ↔
      (∀ entry ∈ (document.map Document.memberNames).getD [],
        entry.variant ≠ none → entry.names.Nodup) ∧
      ∀ entry ∈ items.flatMap Item.memberNames, entry.names.Nodup) := by
  have sources := mem_memberNames_of_build built
  have checked := nodup_of_build built
  refine ⟨sources, checked, ?_, ?_⟩
  · intro distinct
    exact ⟨fun entry member _ => distinct entry ((sources entry).mpr (.inl member)),
      fun entry member => distinct entry ((sources entry).mpr (.inr member))⟩
  · rintro ⟨written, listed⟩ entry member
    rcases (sources entry).mp member with ofDocument | ofMetadata
    · by_cases ofFields : entry.variant = none
      · exact checked entry ofDocument ofFields
      · exact written entry ofDocument ofFields
    · exact listed entry ofMetadata

/-- A variant with the given fields. -/
def mapDocument (fields : List String) : Document where
  definitions := [
    { name := "map", body := .space [] },
    { name := "Point", body := .dictionary [
      { name := "x", type := .named "f64" }, { name := "y", type := .named "f64" }] },
    { name := "Shape"
      body := .interface [] [
        { name := "Dot" },
        { name := "Box", arguments := fields.map fun name => { name, type := .named "Point" } }]
      attributes := some [{ key := "Enum" }] }]

/-- A record with the given fields. -/
def sizeItem (fields : List String) : Item :=
  .record ⟨"map", "Size", fields.map fun name => ⟨name, "u32"⟩⟩

theorem memberNames_of_build_map :
    ∃ interface, build (some (mapDocument ["low", "high"])) [sizeItem ["w", "h"]] {} =
        .ok interface ∧
      ∀ entry ∈ interface.memberNames, entry.names.Nodup := by
  have built := build_ok_of_result (by decide +kernel :
    (buildOutcome (some (mapDocument ["low", "high"])) [sizeItem ["w", "h"]] {}).result = .ok ())
  exact ⟨_, built, (memberNames_of_build built).2.2.mpr (by decide)⟩

/-- A record of metadata and a variant of the document are built with two fields of a name. -/
theorem memberNames_repeated :
    (∃ interface, build (some (mapDocument ["low", "high"])) [sizeItem ["w", "w"]] {} =
        .ok interface ∧
      ∃ entry ∈ interface.memberNames, ¬ entry.names.Nodup) ∧
    ∃ interface, build (some (mapDocument ["low", "low"])) [sizeItem ["w", "h"]] {} =
        .ok interface ∧
      ∃ entry ∈ interface.memberNames, ¬ entry.names.Nodup := by
  have builtRecord := build_ok_of_result (by decide +kernel :
    (buildOutcome (some (mapDocument ["low", "high"])) [sizeItem ["w", "w"]] {}).result = .ok ())
  have builtVariant := build_ok_of_result (by decide +kernel :
    (buildOutcome (some (mapDocument ["low", "low"])) [sizeItem ["w", "h"]] {}).result = .ok ())
  exact ⟨⟨_, builtRecord, ⟨"Size", none, ["w", "w"]⟩,
      (mem_memberNames_of_build builtRecord _).mpr (.inr (by decide)), by decide⟩,
    ⟨_, builtVariant, ⟨"Shape", some "Box", ["low", "low"]⟩,
      (mem_memberNames_of_build builtVariant _).mpr (.inl (by decide)), by decide⟩⟩

end Interface

end NativeBoundary
