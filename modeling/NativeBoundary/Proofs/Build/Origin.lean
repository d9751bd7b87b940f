import NativeBoundary.Proofs.Build.Stages

/-!
# Traits of declarations

A trait says something of every kind of declaration.  What holds of everything that declarations
and metadata items denote holds of all contents that they outline, and so of every declaration of a
plain interface.  The first such trait is that nothing is derived yet.
-/

namespace NativeBoundary

structure Trait where
  record : Model.Record → Prop
  union : Model.Union → Prop
  callback : Model.CallbackInterface → Prop
  function : Model.Function → Prop
  object : Model.Object → Prop

/-- Whatever was read into these contents has a trait. -/
structure Contents.Satisfies (trait : Trait) (contents : Contents) : Prop where
  records : ∀ {record}, .ok record ∈ contents.records → trait.record record
  enums : ∀ {union}, .ok union ∈ contents.enums → trait.union union
  errors : ∀ {union}, .ok union ∈ contents.errors → trait.union union
  callbacks : ∀ {callback}, .ok callback ∈ contents.callbacks → trait.callback callback
  functions : ∀ {function}, .ok function ∈ contents.functions → trait.function function
  objects : ∀ {object}, .ok object ∈ contents.objects → trait.object object

open Document (Declaration Operation)
open Metadata (Group)

/-- Whatever is denoted where names have these types has a trait, and members that metadata gives to
an object leave it the trait. -/
structure Trait.Denoted (trait : Trait) (names : Names) : Prop where
  record : ∀ {declaration : Declaration} {members record},
    declaration.denoteRecord members names = .ok record → trait.record record
  words : ∀ {declaration : Declaration} {values union},
    declaration.denoteWords values = .ok union → trait.union union
  union : ∀ {declaration : Declaration} {constructors operations union},
    declaration.denoteUnion constructors operations names = .ok union → trait.union union
  callback : ∀ {declaration : Declaration} {operations callback},
    declaration.denoteCallback operations names = .ok callback → trait.callback callback
  function : ∀ {operation : Operation} {function},
    operation.denoteFunction names = .ok function → trait.function function
  object : ∀ {declaration : Declaration} {constructors operations object},
    declaration.denotePlain constructors operations names = .ok object → trait.object object
  itemRecord : ∀ {item : Metadata.Record} {record},
    item.denote names = .ok record → trait.record record
  itemEnum : ∀ {item : Metadata.Enum} {union}, item.denote names = .ok union → trait.union union
  itemError : ∀ {item : Metadata.Error} {union}, item.denote names = .ok union → trait.union union
  itemFunction : ∀ {item : Metadata.Function} {function},
    item.denote names = .ok function → trait.function function
  itemObject : ∀ name, trait.object { name }
  complete : ∀ {group : Group} {object completed}, trait.object object →
    group.complete names object = .ok completed → trait.object completed

namespace Contents

variable {trait : Trait} {names : Names}

theorem satisfies_empty : Satisfies trait {} := by
  constructor <;> intro _ member <;> cases member

theorem Satisfies.append {first second : Contents} (left : first.Satisfies trait)
    (right : second.Satisfies trait) : (first ++ second).Satisfies trait where
  records member := (List.mem_append.mp member).elim left.records right.records
  enums member := (List.mem_append.mp member).elim left.enums right.enums
  errors member := (List.mem_append.mp member).elim left.errors right.errors
  callbacks member := (List.mem_append.mp member).elim left.callbacks right.callbacks
  functions member := (List.mem_append.mp member).elim left.functions right.functions
  objects member := (List.mem_append.mp member).elim left.objects right.objects

theorem satisfies_sum {parts : List Contents} (each : ∀ part ∈ parts, part.Satisfies trait) :
    (sum parts).Satisfies trait := by
  induction parts with
  | nil => exact satisfies_empty
  | cons first rest ih =>
      have others := ih fun part member => each part (List.mem_cons_of_mem first member)
      exact (each first List.mem_cons_self).append others

theorem Satisfies.through {contents : Contents} (holds : contents.Satisfies trait)
    {read : Model.Object → Except Problem Model.Object}
    (keeps : ∀ {object result}, trait.object object → read object = .ok result →
      trait.object result) : (contents.through read).Satisfies trait := by
  refine { holds with objects := ?_ }
  intro result member
  obtain ⟨first, inside, succeeded⟩ := List.mem_map.mp member
  obtain ⟨object, rfl, finished⟩ := Results.bind_eq_ok.mp succeeded
  exact keeps (holds.objects inside) finished

theorem declaration_satisfies (denoted : trait.Denoted names) (declaration : Declaration) :
    (declaration.contents names).Satisfies trait := by
  cases shape : declaration.body with
  | space functions =>
      simp only [Declaration.contents, shape]
      refine { satisfies_empty with functions := ?_ }
      intro function member
      obtain ⟨operation, -, read⟩ := List.mem_map.mp member
      exact denoted.function read
  | dictionary members =>
      simp only [Declaration.contents, shape]
      refine { satisfies_empty with records := ?_ }
      intro record member
      exact denoted.record (List.mem_singleton.mp member).symm
  | enum values =>
      simp only [Declaration.contents, shape]
      split
      · refine { satisfies_empty with errors := ?_ }
        intro union member
        exact denoted.words (List.mem_singleton.mp member).symm
      · refine { satisfies_empty with enums := ?_ }
        intro union member
        exact denoted.words (List.mem_singleton.mp member).symm
  | interface constructors operations =>
      simp only [Declaration.contents, shape]
      split
      · refine { satisfies_empty with enums := ?_ }
        intro union member
        exact denoted.union (List.mem_singleton.mp member).symm
      · split
        · refine { satisfies_empty with errors := ?_ }
          intro union member
          exact denoted.union (List.mem_singleton.mp member).symm
        · refine { satisfies_empty with objects := ?_ }
          intro object member
          exact denoted.object (List.mem_singleton.mp member).symm
  | callbackInterface operations =>
      simp only [Declaration.contents, shape]
      refine { satisfies_empty with callbacks := ?_ }
      intro callback member
      exact denoted.callback (List.mem_singleton.mp member).symm
  | typedef typeName =>
      simp only [Declaration.contents, shape]
      exact satisfies_empty

theorem standing_satisfies (denoted : trait.Denoted names) (objects : List String)
    (group : Group) : (Interface.standing objects group names).Satisfies trait where
  records member := by
    obtain ⟨item, -, read⟩ := List.mem_map.mp member
    exact denoted.itemRecord read
  enums member := by
    obtain ⟨item, -, read⟩ := List.mem_map.mp member
    exact denoted.itemEnum read
  errors member := by
    obtain ⟨item, -, read⟩ := List.mem_map.mp member
    exact denoted.itemError read
  callbacks member := nomatch member
  functions member := by
    obtain ⟨item, -, read⟩ := List.mem_map.mp member
    exact denoted.itemFunction read
  objects member := by
    obtain ⟨name, -, same⟩ := List.mem_map.mp member
    cases same
    exact denoted.itemObject name

theorem outline_satisfies (denoted : trait.Denoted names) (declarations : List Declaration)
    (group : Group) : (Interface.outline declarations group names).Satisfies trait := by
  rw [Interface.outline_eq]
  refine Satisfies.through (Satisfies.append (satisfies_sum ?_) ?_) denoted.complete
  · intro part member
    obtain ⟨declaration, -, rfl⟩ := List.mem_map.mp member
    exact declaration_satisfies denoted declaration
  · exact standing_satisfies denoted _ group

end Contents

/-- All declarations of an interface have a trait. -/
structure Interface.Satisfies (trait : Trait) (interface : Interface) : Prop where
  records : ∀ record ∈ interface.records, trait.record record
  enums : ∀ union ∈ interface.enums, trait.union union
  errors : ∀ union ∈ interface.errors, trait.union union
  callbacks : ∀ callback ∈ interface.callbacks, trait.callback callback
  functions : ∀ function ∈ interface.functions, trait.function function
  objects : ∀ object ∈ interface.objects, trait.object object

/-- A plain interface has every trait of what its sources denote. -/
theorem Interface.Plain.satisfies {declarations : List Declaration} {group : Group}
    {plain : Interface} {trait : Trait} (stage : Plain declarations group plain)
    (denoted : trait.Denoted plain.names) : plain.Satisfies trait := by
  have holds : plain.contents.Satisfies trait := by
    rw [stage.contents]
    exact Contents.outline_satisfies denoted declarations group
  exact {
    records := fun _ member => holds.records (List.mem_map_of_mem member)
    enums := fun _ member => holds.enums (List.mem_map_of_mem member)
    errors := fun _ member => holds.errors (List.mem_map_of_mem member)
    callbacks := fun _ member => holds.callbacks (List.mem_map_of_mem member)
    functions := fun _ member => holds.functions (List.mem_map_of_mem member)
    objects := fun _ member => holds.objects (List.mem_map_of_mem member) }

/-! ## Nothing is derived yet -/

theorem Document.Operation.denoteFunction_declared {operation : Operation} {names : Names}
    {function : Model.Function} (denoted : operation.denoteFunction names = .ok function) :
    function.declared = function := by
  obtain ⟨_, -, _, -, _, -, rfl⟩ := denoteFunction_eq_ok.mp denoted
  rfl

theorem Document.Operation.denoteMethod_declared {operation : Operation} {owner : String}
    {names : Names} {method : Model.Method}
    (denoted : operation.denoteMethod owner names = .ok method) : method.declared = method := by
  obtain ⟨_, -, _, -, _, -, rfl⟩ := denoteMethod_eq_ok.mp denoted
  rfl

theorem Document.Constructor.denote_declared {constructor : Document.Constructor} {names : Names}
    {read : Model.Constructor} (denoted : constructor.denote names = .ok read) :
    read.declared = read := by
  obtain ⟨_, -, _, -, rfl⟩ := denote_eq_ok.mp denoted
  rfl

theorem Document.Declaration.denoteCallback_declared {declaration : Declaration}
    {operations : List Operation} {names : Names} {callback : Model.CallbackInterface}
    (denoted : declaration.denoteCallback operations names = .ok callback) :
    callback.declared = callback := by
  obtain ⟨methods, read, rfl⟩ := denoteCallback_parts denoted
  simp only [Model.CallbackInterface.declared,
    Results.map_eq_self_of_mapM Operation.denoteMethod_declared read]

theorem Document.Declaration.denotePlain_declared {declaration : Declaration}
    {constructors : List Document.Constructor} {operations : List Operation} {names : Names}
    {object : Model.Object}
    (denoted : declaration.denotePlain constructors operations names = .ok object) :
    object.declared = object := by
  obtain ⟨attributes, -, read⟩ := denotePlain_eq_ok.mp denoted
  obtain ⟨built, methods, readConstructors, -, readMethods, rfl⟩ := denoteObject_parts read
  simp only [Model.Object.declared,
    Results.map_eq_self_of_mapM Document.Constructor.denote_declared readConstructors,
    Results.map_eq_self_of_mapM Operation.denoteMethod_declared readMethods]

theorem Metadata.Function.denote_declared {item : Metadata.Function} {names : Names}
    {function : Model.Function} (denoted : item.denote names = .ok function) :
    function.declared = function := by
  obtain ⟨_, -, _, -, rfl⟩ := denote_eq_ok.mp denoted
  rfl

theorem Metadata.Constructor.denote_declared {item : Metadata.Constructor} {names : Names}
    {constructor : Model.Constructor} (denoted : item.denote names = .ok constructor) :
    constructor.declared = constructor := by
  obtain ⟨_, -, rfl⟩ := denote_eq_ok.mp denoted
  rfl

theorem Metadata.Method.denote_declared {item : Metadata.Method} {owner : String} {names : Names}
    {method : Model.Method} (denoted : item.denote owner names = .ok method) :
    method.declared = method := by
  obtain ⟨_, -, _, -, rfl⟩ := denote_eq_ok.mp denoted
  rfl

theorem Metadata.Group.complete_eq_ok {group : Group} {names : Names}
    {object completed : Model.Object} :
    group.complete names object = .ok completed ↔ ∃ constructors methods,
      (group.constructors.filter (·.owner = object.name)).mapM
        (Metadata.Constructor.denote · names) = .ok constructors ∧
      (group.methods.filter (·.owner = object.name)).mapM
        (Metadata.Method.denote object.name · names) = .ok methods ∧
      completed = Group.withMethods (Group.withConstructors object constructors) methods := by
  simp only [complete, Results.bind_eq_ok, Results.pure_eq_ok, exists_and_left]

theorem Metadata.Group.complete_declared {group : Group} {names : Names}
    {object completed : Model.Object} (plain : object.declared = object)
    (done : group.complete names object = .ok completed) : completed.declared = completed := by
  obtain ⟨constructors, methods, readConstructors, readMethods, rfl⟩ := complete_eq_ok.mp done
  have fixedConstructors := Results.map_eq_self_of_mapM
    Metadata.Constructor.denote_declared readConstructors
  have fixedMethods := Results.map_eq_self_of_mapM Metadata.Method.denote_declared readMethods
  obtain ⟨-, ownConstructors, ownMethods, -, released⟩ := Model.Object.mk.inj plain
  simp only [Model.Object.declared, withMethods, withConstructors, List.map_append,
    fixedConstructors, fixedMethods, ownConstructors, ownMethods, ← released]

/-- Nothing is derived from it. -/
def Trait.underived : Trait where
  record _ := True
  union _ := True
  callback callback := callback.declared = callback
  function function := function.declared = function
  object object := object.declared = object

theorem Trait.underived_denoted (names : Names) : underived.Denoted names where
  record _ := trivial
  words _ := trivial
  union _ := trivial
  callback := Document.Declaration.denoteCallback_declared
  function := Document.Operation.denoteFunction_declared
  object := Document.Declaration.denotePlain_declared
  itemRecord _ := trivial
  itemEnum _ := trivial
  itemError _ := trivial
  itemFunction := Metadata.Function.denote_declared
  itemObject _ := rfl
  complete := Metadata.Group.complete_declared

theorem Interface.Plain.declared_eq {declarations : List Declaration} {group : Group}
    {plain : Interface} (stage : Plain declarations group plain) : plain.declared = plain := by
  have holds := stage.satisfies (Trait.underived_denoted plain.names)
  have functions : plain.functions.map Model.Function.declared = plain.functions := by
    rw [List.map_congr_left holds.functions, List.map_id']
  have objects : plain.objects.map Model.Object.declared = plain.objects := by
    rw [List.map_congr_left holds.objects, List.map_id']
  have callbacks : plain.callbacks.map Model.CallbackInterface.declared = plain.callbacks := by
    rw [List.map_congr_left holds.callbacks, List.map_id']
  rw [declared, functions, objects, callbacks]

/-- Apart from its namespace and from what is derived, a finished interface is what both sources
were brought into. -/
theorem Interface.brought_of_build {document : Option Document} {items : List Metadata.Item}
    {settings : Settings} {interface : Interface}
    (built : build document items settings = .ok interface) :
    ∃ group brought, Group.ofItems items = .ok group ∧
      (bring ((document.map Document.definitions).getD []) group).Yields
        (empty settings.versionTag) () brought ∧
      interface.registry = brought.registry ∧
      interface.declared = { brought with space := interface.space, finalized := true } := by
  obtain ⟨group, brought, plain, derived, grouped, brings, spaced, -, derives, rfl⟩ :=
    assemble_yields.mp (build_eq_ok.mp built)
  have same := declared_of_derive derives
  rw [((plain_of_bring brings).fallBackSpace spaced).declared_eq] at same
  obtain ⟨space, rfl⟩ := fallBackSpace_yields spaced
  have sameSpace : derived.space = space := congrArg Interface.space same
  have sameRegistry : derived.declared.registry = _ := congrArg Interface.registry same
  refine ⟨group, brought, grouped, brings, sameRegistry, ?_⟩
  change { derived.declared with finalized := true } = _
  rw [same, sameSpace]

/-- A finished build has every name once in its list, and every callable once in its object. -/
theorem Interface.wellNamed_of_build {document : Option Document} {items : List Metadata.Item}
    {settings : Settings} {interface : Interface}
    (built : build document items settings = .ok interface) : WellNamed interface := by
  obtain ⟨group, brought, -, brings, -, same⟩ := brought_of_build built
  apply WellNamed.of_declared
  rw [same]
  exact { (plain_of_bring brings).named with }

/-- Before anything is derived, a finished build has every trait of what names denote in it. -/
theorem Interface.declared_satisfies_of_build {document : Option Document}
    {items : List Metadata.Item} {settings : Settings} {interface : Interface} {trait : Trait}
    (built : build document items settings = .ok interface)
    (denoted : trait.Denoted interface.names) : interface.declared.Satisfies trait := by
  obtain ⟨group, brought, -, brings, sameRegistry, same⟩ := brought_of_build built
  have sameNames : interface.names = brought.names :=
    Registry.names_eq_of_bindings (congrArg Registry.bindings sameRegistry)
  rw [sameNames] at denoted
  rw [same]
  exact { (plain_of_bring brings).satisfies denoted with }

end NativeBoundary
