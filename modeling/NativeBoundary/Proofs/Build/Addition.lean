import NativeBoundary.Proofs.Attribute.Checked
import NativeBoundary.Proofs.Build.Outline
import NativeBoundary.Proofs.Interface.Growth

/-!
# Contents that updates add

Every declaration of a document and every item of a metadata group that stands on its own adds its
contents behind those that are there, read in the names that the interface binds, and leaves all
bindings as they are.  `Adds` says this of one completed update, and it adds up over a list.
-/

namespace NativeBoundary

namespace Contents

def append (first second : Contents) : Contents where
  records := first.records ++ second.records
  enums := first.enums ++ second.enums
  errors := first.errors ++ second.errors
  callbacks := first.callbacks ++ second.callbacks
  functions := first.functions ++ second.functions
  objects := first.objects ++ second.objects

instance : Append Contents := ⟨append⟩

theorem append_eq (first second : Contents) : first ++ second = append first second := rfl

@[simp] theorem append_empty (contents : Contents) : contents ++ ({} : Contents) = contents := by
  simp [append_eq, append]

@[simp] theorem empty_append (contents : Contents) : ({} : Contents) ++ contents = contents := by
  simp [append_eq, append]

theorem append_assoc (first second third : Contents) :
    first ++ second ++ third = first ++ (second ++ third) := by
  simp [append_eq, append]

/-- All contents of a list, in its order. -/
def sum : List Contents → Contents
  | [] => {}
  | first :: rest => first ++ sum rest

theorem sum_eq (parts : List Contents) :
    sum parts = {
      records := parts.flatMap records
      enums := parts.flatMap enums
      errors := parts.flatMap errors
      callbacks := parts.flatMap callbacks
      functions := parts.flatMap functions
      objects := parts.flatMap objects } := by
  induction parts with
  | nil => rfl
  | cons first rest ih => simp [sum, ih, append_eq, append]

/-- The contents in which every object went through a reading. -/
def through (contents : Contents) (read : Model.Object → Except Problem Model.Object) : Contents :=
  { contents with objects := contents.objects.map (· >>= read) }

theorem through_pure (contents : Contents) : contents.through pure = contents := by
  simp [through]

theorem through_through (contents : Contents)
    (first second : Model.Object → Except Problem Model.Object) :
    (contents.through first).through second =
      contents.through fun object => first object >>= second := by
  simp [through]

theorem through_congr {contents : Contents}
    {first second : Model.Object → Except Problem Model.Object}
    (same : ∀ result ∈ contents.objects, result >>= first = result >>= second) :
    contents.through first = contents.through second := by
  unfold through
  rw [List.map_congr_left same]

end Contents

namespace Interface

open NativeBoundary.Action Metadata Document

variable {before middle after : Interface} {value : Unit}

/-- An interface whose bound names are the given ones gets the listed contents behind its own; its
bindings stay as they are. -/
structure Adds (contents : Contents) (before after : Interface) : Prop where
  bindings : after.registry.bindings = before.registry.bindings
  contents_eq : after.contents = before.contents ++ contents

namespace Adds

theorem names_eq {contents : Contents} (adds : Adds contents before after) :
    after.names = before.names :=
  Registry.names_eq_of_bindings adds.bindings

theorem refl (interface : Interface) : Adds {} interface interface :=
  ⟨rfl, (Contents.append_empty _).symm⟩

theorem trans {first second : Contents} (left : Adds first before middle)
    (right : Adds second middle after) : Adds (first ++ second) before after where
  bindings := right.bindings.trans left.bindings
  contents_eq := by
    rw [right.contents_eq, left.contents_eq, Contents.append_assoc]

end Adds

theorem SameBindings.adds (same : SameBindings before after) : Adds {} before after := by
  obtain ⟨registry, bindings, rfl⟩ := same
  exact ⟨bindings, (Contents.append_empty _).symm⟩

/-- What the steps over a list add comes together in the order of the list. -/
theorem adds_of_forAll {α : Type} {action : α → Action Interface Unit}
    (contents : α → Names → Contents)
    (step : ∀ {item first result second}, (action item).Yields first result second →
      Adds (contents item first.names) first second)
    {items : List α} (ran : (forAll action items).Yields before value after) :
    Adds (Contents.sum (items.map (contents · before.names))) before after := by
  induction items generalizing before with
  | nil =>
      rw [yields_forAll_nil] at ran
      rw [ran]
      exact Adds.refl before
  | cons item rest ih =>
      rw [yields_forAll_cons] at ran
      obtain ⟨middle, first, others⟩ := ran
      have addsFirst := step first
      have addsRest := ih others
      rw [addsFirst.names_eq] at addsRest
      exact addsFirst.trans addsRest

/-- A reading on the registry and the addition of what was read. -/
theorem adds_of_reading {α : Type} {action : Action Registry α}
    {denoted : Names → Except Problem α} {add : α → Action Interface Unit}
    (contents : Except Problem α → Contents) (reads : Registry.Reads action denoted)
    (adds : ∀ {item first second result}, (add item).Yields first result second →
      Adds (contents (.ok item)) first second)
    (ran : (onRegistry action >>= add).Yields before value after) :
    Adds (contents (denoted before.names)) before after := by
  obtain ⟨item, middle, read, added⟩ := yields_bind.mp ran
  obtain ⟨succeeded, same⟩ := onRegistry_yields_of_reads reads read
  rw [succeeded]
  have both := same.adds.trans (adds added)
  rwa [Contents.empty_append] at both

/-- Reading the items of a list one by one fills one of the six lists. -/
theorem adds_of_readings {α β : Type} {action : α → Action Registry β}
    {denoted : α → Names → Except Problem β} {add : α → β → Action Interface Unit}
    (embed : List (Except Problem β) → Contents) (embed_nil : embed [] = {})
    (embed_cons : ∀ first rest, embed [first] ++ embed rest = embed (first :: rest))
    (reads : ∀ item, Registry.Reads (action item) (denoted item))
    (adds : ∀ {item read first result second}, (add item read).Yields first result second →
      Adds (embed [.ok read]) first second)
    {items : List α}
    (ran : (forAll (fun item => onRegistry (action item) >>= add item) items).Yields
      before value after) :
    Adds (embed (items.map (denoted · before.names))) before after := by
  induction items generalizing before with
  | nil =>
      rw [yields_forAll_nil] at ran
      rw [ran, List.map_nil, embed_nil]
      exact Adds.refl before
  | cons item rest ih =>
      rw [yields_forAll_cons] at ran
      obtain ⟨middle, first, others⟩ := ran
      have addsFirst := adds_of_reading (fun read => embed [read]) (reads item) adds first
      have addsRest := ih others
      rw [addsFirst.names_eq] at addsRest
      have both := addsFirst.trans addsRest
      rwa [embed_cons] at both

/-- An addition to one of the lists of declarations adds what it puts there. -/
theorem adds_of_addTo {α : Type} {kind : DeclarationKind} {nameOf : α → String}
    {declared : Interface → List α} {update : List α → Interface → Interface} {item : α}
    {contents : Contents}
    (puts : ∀ interface, Adds contents interface (update (declared interface ++ [item]) interface))
    (ran : (addTo kind nameOf declared update item).Yields before value after) :
    Adds contents before after := by
  obtain ⟨-, -, rfl⟩ := addTo_yields.mp ran
  exact puts before

theorem adds_of_addRecord {record : Model.Record} :
    (addRecord record).Yields before value after → Adds { records := [.ok record] } before after :=
  adds_of_addTo fun _ => ⟨rfl, by simp [contents, Contents.append_eq, Contents.append]⟩

theorem adds_of_addEnum {union : Model.Union} :
    (addEnum union).Yields before value after → Adds { enums := [.ok union] } before after :=
  adds_of_addTo fun _ => ⟨rfl, by simp [contents, Contents.append_eq, Contents.append]⟩

theorem adds_of_addError {union : Model.Union} :
    (addError union).Yields before value after → Adds { errors := [.ok union] } before after :=
  adds_of_addTo fun _ => ⟨rfl, by simp [contents, Contents.append_eq, Contents.append]⟩

theorem adds_of_addCallback {callback : Model.CallbackInterface} :
    (addCallback callback).Yields before value after →
      Adds { callbacks := [.ok callback] } before after :=
  adds_of_addTo fun _ => ⟨rfl, by simp [contents, Contents.append_eq, Contents.append]⟩

theorem adds_of_addObject {object : Model.Object} :
    (addObject object).Yields before value after → Adds { objects := [.ok object] } before after :=
  adds_of_addTo fun _ => ⟨rfl, by simp [contents, Contents.append_eq, Contents.append]⟩

theorem adds_of_addFunction {function : Model.Function} {location : Option Location}
    (ran : (addFunction function location).Yields before value after) :
    Adds { functions := [.ok function] } before after := by
  obtain ⟨-, -, -, rfl⟩ := addFunction_yields.mp ran
  exact ⟨rfl, by simp [contents, Contents.append_eq, Contents.append]⟩

theorem adds_of_addSpace {name : Tag} {location : Option Location}
    (ran : (addSpace name location).Yields before value after) : Adds {} before after := by
  obtain ⟨-, -, rfl⟩ := addSpace_yields.mp ran
  exact ⟨rfl, (Contents.append_empty _).symm⟩

/-! ## Declarations of a document -/

theorem adds_of_addOperations {operations : List Operation}
    (ran : (forAll addOperation operations).Yields before value after) :
    Adds { functions := operations.map (Operation.denoteFunction · before.names) } before after :=
  adds_of_readings (fun functions => { functions }) rfl (fun _ _ => rfl)
    Operation.toFunction_reads adds_of_addFunction ran

theorem has_of_checkAttributes {declaration : Declaration} {site : Site}
    {attributes : List Attribute} (kind : AttributeKind)
    (checked : declaration.checkAttributes site = .ok attributes) :
    Attribute.has kind attributes = declaration.marked kind :=
  Site.has_of_checkNodes kind checked

theorem adds_of_words {declaration : Declaration} {values : List String}
    {attributes : List Attribute}
    (checked : declaration.checkAttributes .enum = .ok attributes) {found : Unit}
    (distinct : declaration.ensureDistinct .enumVariant values = .ok found)
    (shape : declaration.body = .enum values)
    (added : (if Attribute.has .error attributes then
        addError ⟨declaration.name, values.map fun value => { name := value }⟩
      else addEnum ⟨declaration.name, values.map fun value => { name := value }⟩).Yields
        before value after) :
    Adds (declaration.contents before.names) before after := by
  have read : declaration.denoteWords values =
      .ok ⟨declaration.name, values.map fun value => { name := value }⟩ := by
    simp only [Declaration.denoteWords, checked, distinct]
    rfl
  rw [has_of_checkAttributes .error checked] at added
  simp only [Declaration.contents, shape, read]
  cases isError : declaration.marked .error with
  | true =>
      rw [isError] at added
      exact adds_of_addError added
  | false =>
      rw [isError] at added
      exact adds_of_addEnum added

theorem denoteUnion_of_checked {declaration : Declaration} {attributes : List Attribute}
    (checked : declaration.checkAttributes .interface = .ok attributes)
    (constructors : List Document.Constructor) (operations : List Operation) (names : Names) :
    declaration.denoteUnion constructors operations names =
      (fun variants => ⟨declaration.name, variants⟩) <$>
        declaration.denoteVariants constructors operations names := by
  simp only [Declaration.denoteUnion, checked]
  rfl

theorem denotePlain_of_checked {declaration : Declaration} {attributes : List Attribute}
    (checked : declaration.checkAttributes .interface = .ok attributes)
    (constructors : List Document.Constructor) (operations : List Operation) (names : Names) :
    declaration.denotePlain constructors operations names =
      declaration.denoteObject attributes constructors operations names := by
  simp only [Declaration.denotePlain, checked]
  rfl

theorem adds_of_declareOne {declaration : Declaration}
    (ran : (declareOne declaration).Yields before value after) :
    Adds (declaration.contents before.names) before after := by
  unfold declareOne at ran
  cases shape : declaration.body with
  | space functions =>
      simp only [shape, yields_lift_bind, yields_bind_unit] at ran
      simp only [Declaration.contents, shape]
      obtain ⟨_, -, middle, spaced, added⟩ := ran
      have addsSpace := adds_of_addSpace spaced
      have addsFunctions := adds_of_addOperations added
      rw [addsSpace.names_eq] at addsFunctions
      simpa using addsSpace.trans addsFunctions
  | dictionary members =>
      simp only [shape] at ran
      simp only [Declaration.contents, shape]
      exact adds_of_reading (fun record => { records := [record] })
        (declaration.toRecord_reads members) adds_of_addRecord ran
  | enum values =>
      simp only [shape, yields_lift_bind] at ran
      obtain ⟨attributes, checked, _, distinct, added⟩ := ran
      exact adds_of_words checked distinct shape added
  | interface constructors operations =>
      simp only [shape, yields_lift_bind] at ran
      obtain ⟨attributes, checked, added⟩ := ran
      rw [has_of_checkAttributes .enum checked, has_of_checkAttributes .error checked] at added
      simp only [Declaration.contents, shape, denoteUnion_of_checked checked,
        denotePlain_of_checked checked]
      have readsVariants := declaration.toVariants_reads constructors operations
      cases isEnum : declaration.marked .enum with
      | true =>
          rw [isEnum] at added
          exact adds_of_reading
            (fun variants => { enums := [Model.Union.mk declaration.name <$> variants] })
            readsVariants adds_of_addEnum added
      | false =>
          rw [isEnum] at added
          cases isError : declaration.marked .error with
          | true =>
              rw [isError] at added
              exact adds_of_reading
                (fun variants =>
                  { errors := [Model.Union.mk declaration.name <$> variants] })
                readsVariants adds_of_addError added
          | false =>
              rw [isError] at added
              exact adds_of_reading (fun object => { objects := [object] })
                (declaration.toObject_reads attributes constructors operations)
                adds_of_addObject added
  | callbackInterface operations =>
      simp only [shape] at ran
      simp only [Declaration.contents, shape]
      exact adds_of_reading (fun callback => { callbacks := [callback] })
        (declaration.toCallback_reads operations) adds_of_addCallback ran
  | typedef typeName =>
      simp only [shape] at ran
      simp only [Declaration.contents, shape]
      obtain ⟨-, rfl⟩ := yields_pure.mp ran
      exact Adds.refl after

theorem adds_of_declare {declarations : List Declaration}
    (ran : (declare declarations).Yields before value after) :
    Adds (Contents.sum (declarations.map (Declaration.contents · before.names))) before after :=
  adds_of_forAll Declaration.contents adds_of_declareOne ran

/-! ## Items of a metadata group -/

theorem adds_of_mergeRecords {items : List Metadata.Record}
    (ran : (forAll mergeRecord items).Yields before value after) :
    Adds { records := items.map (Metadata.Record.denote · before.names) } before after :=
  adds_of_readings (fun records => { records }) rfl (fun _ _ => rfl)
    Metadata.Record.convert_reads adds_of_addRecord ran

theorem adds_of_mergeEnums {items : List Metadata.Enum}
    (ran : (forAll mergeEnum items).Yields before value after) :
    Adds { enums := items.map (Metadata.Enum.denote · before.names) } before after :=
  adds_of_readings (fun enums => { enums }) rfl (fun _ _ => rfl)
    Metadata.Enum.convert_reads adds_of_addEnum ran

theorem adds_of_mergeErrors {items : List Metadata.Error}
    (ran : (forAll mergeError items).Yields before value after) :
    Adds { errors := items.map (Metadata.Error.denote · before.names) } before after :=
  adds_of_readings (fun errors => { errors }) rfl (fun _ _ => rfl)
    Metadata.Error.convert_reads adds_of_addError ran

theorem adds_of_mergeFunctions {items : List Metadata.Function}
    (ran : (forAll mergeFunction items).Yields before value after) :
    Adds { functions := items.map (Metadata.Function.denote · before.names) } before after :=
  adds_of_readings (fun functions => { functions }) rfl (fun _ _ => rfl)
    Metadata.Function.convert_reads adds_of_addFunction ran

theorem freshNames_cons_of_mem {name : String} {declared : List String} (rest : List String)
    (known : name ∈ declared) :
    Group.freshNames declared (name :: rest) = Group.freshNames declared rest := by
  simp [Group.freshNames, known]

theorem freshNames_cons_of_not_mem {name : String} {declared : List String} (rest : List String)
    (fresh : name ∉ declared) :
    Group.freshNames declared (name :: rest) =
      name :: Group.freshNames (declared ++ [name]) rest := by
  have together : (fun other => !(declared ++ [name]).contains other) =
      fun other => (!declared.contains other) && (other != name) := by
    funext other
    by_cases same : other = name <;> simp [same]
  unfold Group.freshNames
  rw [List.filter_cons_of_pos (by simpa using fresh), List.eraseDups_cons, List.filter_filter,
    together]
  simp only [Bool.and_comm]
  rfl

theorem object?_eq_none_iff {name : String} {interface : Interface} :
    interface.object? name = none ↔ name ∉ interface.objects.map Model.Object.name := by
  simp [object?, List.find?_eq_none]

theorem mergeObject_yields {item : Metadata.Object} :
    (mergeObject item).Yields before value after ↔
      item.name ∈ before.objects.map Model.Object.name ∧ after = before ∨
        item.name ∉ before.objects.map Model.Object.name ∧ before.finalized = false ∧
          after = { before with objects := before.objects ++ [{ name := item.name }] } := by
  simp only [mergeObject, yields_get_bind]
  by_cases known : item.name ∈ before.objects.map Model.Object.name
  · have found : (before.object? item.name).isNone = false := by
      rw [← Bool.not_eq_true, Option.isNone_iff_eq_none, object?_eq_none_iff]
      exact not_not_intro known
    simp [found, known]
  · have absent : (before.object? item.name).isNone = true := by
      rw [Option.isNone_iff_eq_none, object?_eq_none_iff]
      exact known
    simp only [absent, if_true, known, not_false_eq_true, true_and, false_and, false_or]
    rw [addObject, addTo_yields]
    simp [known]

/-- Objects that are not there yet are put behind the others, in the order of the items. -/
theorem mergeObjects_yields {items : List Metadata.Object}
    (ran : (forAll mergeObject items).Yields before value after) :
    after = { before with
      objects := before.objects ++ (Group.freshNames (before.objects.map Model.Object.name)
        (items.map Metadata.Object.name)).map fun name => { name } } := by
  induction items generalizing before with
  | nil =>
      rw [yields_forAll_nil] at ran
      rw [ran, List.map_nil]
      simp [Group.freshNames]
  | cons item rest ih =>
      rw [yields_forAll_cons] at ran
      obtain ⟨middle, first, others⟩ := ran
      rw [ih others, List.map_cons]
      rcases mergeObject_yields.mp first with ⟨known, rfl⟩ | ⟨fresh, -, rfl⟩
      · rw [freshNames_cons_of_mem _ known]
      · rw [freshNames_cons_of_not_mem _ fresh]
        simp

theorem adds_of_mergeObjects {items : List Metadata.Object}
    (ran : (forAll mergeObject items).Yields before value after) :
    Adds {
      objects := (Group.freshNames (before.objects.map Model.Object.name)
        (items.map Metadata.Object.name)).map fun name => .ok { name } } before after := by
  rw [mergeObjects_yields ran]
  exact ⟨rfl, by simp [contents, Contents.append_eq, Contents.append, Function.comp_def]⟩

/-- The part of populating that brings in whatever stands on its own. -/
def stand (group : Group) : Action Interface Unit := do
  forAll mergeRecord group.records
  forAll mergeEnum group.enums
  forAll mergeError group.errors
  forAll mergeObject group.objects
  forAll mergeFunction group.functions

theorem populate_yields {group : Group} :
    (populate group).Yields before value after ↔
      ∃ stood built, (stand group).Yields before () stood ∧
        (forAll mergeConstructor group.constructors).Yields stood () built ∧
        (forAll mergeMethod group.methods).Yields built () after := by
  have ending {last : Interface} :
      ((if !group.isEmpty then Action.note (.merged (group.crate.getD ""))
        else pure ()) : Action Interface Unit).Yields last value after ↔ last = after := by
    split <;> simp [eq_comm]
  simp only [populate, stand, yields_bind_unit, ending, exists_eq_right]
  constructor
  · rintro ⟨first, records, second, enums, third, errors, fourth, objects, stood, functions, built,
      constructors, methods⟩
    exact ⟨stood, built, ⟨first, records, second, enums, third, errors, fourth, objects, functions⟩,
      constructors, methods⟩
  · rintro ⟨stood, built, ⟨first, records, second, enums, third, errors, fourth, objects,
      functions⟩, constructors, methods⟩
    exact ⟨first, records, second, enums, third, errors, fourth, objects, stood, functions, built,
      constructors, methods⟩

/-- What a group puts behind the lists of an interface that has the given objects. -/
def standing (objects : List String) (group : Group) (names : Names) : Contents where
  records := group.records.map (·.denote names)
  enums := group.enums.map (·.denote names)
  errors := group.errors.map (·.denote names)
  functions := group.functions.map (·.denote names)
  objects := (Group.freshNames objects (group.objects.map Metadata.Object.name)).map
    fun name => .ok { name }

theorem Adds.objects_eq {contents : Contents} (adds : Adds contents before after)
    (none : contents.objects = []) : after.objects = before.objects := by
  have lists := congrArg Contents.objects adds.contents_eq
  change after.objects.map Except.ok = before.objects.map Except.ok ++ contents.objects at lists
  rw [none, List.append_nil] at lists
  exact Results.eq_of_map_ok lists

theorem adds_of_stand {group : Group} (ran : (stand group).Yields before value after) :
    Adds (standing (before.objects.map Model.Object.name) group before.names) before after := by
  simp only [stand, yields_bind_unit] at ran
  obtain ⟨first, records, second, enums, third, errors, fourth, objects, functions⟩ := ran
  have addsRecords := adds_of_mergeRecords records
  have addsEnums := adds_of_mergeEnums enums
  rw [addsRecords.names_eq] at addsEnums
  have addsTwo := addsRecords.trans addsEnums
  have addsErrors := adds_of_mergeErrors errors
  rw [addsTwo.names_eq] at addsErrors
  have addsThree := addsTwo.trans addsErrors
  have addsObjects := adds_of_mergeObjects objects
  rw [addsThree.objects_eq rfl] at addsObjects
  have addsFour := addsThree.trans addsObjects
  have addsFunctions := adds_of_mergeFunctions functions
  rw [addsFour.names_eq] at addsFunctions
  have addsAll := addsFour.trans addsFunctions
  simpa [standing, Contents.append_eq, Contents.append] using addsAll

end Interface

end NativeBoundary
