import NativeBoundary.Proofs.Build.Naming
import NativeBoundary.Proofs.Interface.Derivation

/-!
# Stages of a build

A build that succeeds runs through two states worth a name: the plain interface, into which all
declarations of the document and of the metadata have been brought, and the one derived from it.
The plain interface binds what discovery introduces and has the contents that its sources outline.
-/

namespace NativeBoundary.Interface

open NativeBoundary.Action Document Metadata

variable {before middle after : Interface} {value : Unit}

/-! ## Objects of a document -/

theorem objects_of_isObject {declaration : Declaration} (isObject : declaration.isObject = true)
    (names : Names) : ∃ constructors operations, (declaration.contents names).objects =
      [declaration.denotePlain constructors operations names] := by
  unfold Declaration.isObject at isObject
  cases shape : declaration.body with
  | interface constructors operations =>
      simp only [shape, Bool.and_eq_true, Bool.not_eq_true'] at isObject
      obtain ⟨notEnum, notError⟩ := isObject
      refine ⟨constructors, operations, ?_⟩
      simp [Declaration.contents, shape, notEnum, notError]
  | _ => simp [shape] at isObject

theorem objects_of_not_isObject {declaration : Declaration}
    (isOther : declaration.isObject = false) (names : Names) :
    (declaration.contents names).objects = [] := by
  unfold Declaration.isObject at isOther
  unfold Declaration.contents
  cases shape : declaration.body with
  | interface constructors operations =>
      simp only [shape] at isOther
      cases isEnum : declaration.marked .enum with
      | true => simp
      | false =>
          cases isError : declaration.marked .error with
          | true => simp
          | false => simp [isEnum, isError] at isOther
  | enum values => cases isError : declaration.marked .error <;> simp
  | _ => rfl

theorem denotePlain_name {declaration : Declaration} {constructors : List Document.Constructor}
    {operations : List Operation} {names : Names} {object : Model.Object}
    (denoted : declaration.denotePlain constructors operations names = .ok object) :
    object.name = declaration.name := by
  obtain ⟨attributes, -, read⟩ := Declaration.denotePlain_eq_ok.mp denoted
  exact Declaration.denoteObject_name read

/-- The objects of a document are named like the declarations they come from. -/
theorem objectNames_of_document {declarations : List Declaration} (names : Names)
    {objects : List Model.Object}
    (same : declarations.flatMap (fun declaration => (declaration.contents names).objects) =
      objects.map .ok) :
    objects.map Model.Object.name =
      (declarations.filter Declaration.isObject).map Declaration.name := by
  induction declarations generalizing objects with
  | nil => rw [List.map_eq_nil_iff.mp same.symm]; rfl
  | cons declaration rest ih =>
      rw [List.flatMap_cons] at same
      cases isObject : declaration.isObject with
      | false =>
          rw [objects_of_not_isObject isObject, List.nil_append] at same
          rw [List.filter_cons_of_neg (by simp [isObject])]
          exact ih same
      | true =>
          obtain ⟨constructors, operations, read⟩ := objects_of_isObject isObject names
          rw [read] at same
          cases objects with
          | nil => cases same
          | cons object others =>
              obtain ⟨denoted, remaining⟩ := List.cons.inj same
              rw [List.filter_cons_of_pos isObject, List.map_cons, List.map_cons,
                denotePlain_name denoted, ih remaining]

/-! ## The plain interface -/

/-- An interface into which a document and a group have been brought. -/
structure Plain (declarations : List Declaration) (group : Group) (interface : Interface) :
    Prop where
  binds : Registry.Binds (introductions declarations group) {} interface.registry
  contents : interface.contents = outline declarations group interface.names
  named : WellNamed interface

theorem contents_populated {group : Group} (named : WellNamed before)
    (ran : (populate group).Yields before value after) :
    after.registry.bindings = before.registry.bindings ∧
      after.contents = Contents.through
        (before.contents ++ standing (before.objects.map Model.Object.name) group before.names)
        (group.complete before.names) := by
  obtain ⟨stood, built, stands, constructors, methods⟩ := populate_yields.mp ran
  have adds := adds_of_stand stands
  have carries := carries_of_mergeMembers (named.stand stands).objects constructors methods
  rw [adds.names_eq] at carries
  constructor
  · exact carries.bindings.trans adds.bindings
  · rw [carries.contents_eq, adds.contents_eq]

theorem outline_eq (declarations : List Declaration) (group : Group) (names : Names) :
    outline declarations group names =
      Contents.through
        (Contents.sum (declarations.map (Declaration.contents · names)) ++
          standing ((declarations.filter Declaration.isObject).map Declaration.name) group names)
        (group.complete names) := by
  simp only [outline, plainObjects, Contents.append_eq, Contents.append, Contents.through, standing,
    Contents.sum_eq, List.flatMap_map, List.append_nil]
  rfl

theorem contents_declared {declarations : List Declaration} {version : Option Tag}
    {registry : Registry}
    (ran : (declare declarations).Yields { empty version with registry } value after) :
    after.contents = Contents.sum (declarations.map (Declaration.contents · registry.names)) :=
  (adds_of_declare ran).contents_eq.trans (Contents.empty_append _)

theorem objects_declared {declarations : List Declaration} {version : Option Tag}
    {registry : Registry}
    (ran : (declare declarations).Yields { empty version with registry } value after) :
    after.objects.map .ok =
      declarations.flatMap fun declaration => (declaration.contents registry.names).objects := by
  have objects := congrArg Contents.objects (contents_declared ran)
  simp only [Contents.sum_eq, List.flatMap_map] at objects
  exact objects

/-- Bringing both sources into an interface whose names are bound already. -/
theorem contents_brought {declarations : List Declaration} {group : Group} {version : Option Tag}
    {registry : Registry} {brought : Interface}
    (declares : (declare declarations).Yields { empty version with registry } () middle)
    (populates : (populate group).Yields middle () brought) :
    brought.registry.bindings = registry.bindings ∧
      brought.contents = outline declarations group registry.names ∧ WellNamed brought := by
  have named : WellNamed { empty version with registry } := { wellNamed_empty version with }
  have adds := adds_of_declare declares
  obtain ⟨bindings, contents⟩ := contents_populated (named.declare declares) populates
  refine ⟨bindings.trans adds.bindings, ?_, (named.declare declares).populate populates⟩
  have objectNames : middle.objects.map Model.Object.name =
      (declarations.filter Declaration.isObject).map Declaration.name :=
    objectNames_of_document registry.names (objects_declared declares).symm
  rw [contents, contents_declared declares, objectNames, adds.names_eq, outline_eq]
  rfl

theorem fallBackSpace_yields {settings : Settings} {crate : Option String}
    (ran : (fallBackSpace settings crate).Yields before value after) :
    ∃ space, after = { before with space } := by
  simp only [fallBackSpace, yields_get_bind] at ran
  split at ran
  · split at ran
    · obtain ⟨-, rfl⟩ := yields_pure.mp ran
      exact ⟨after.space, rfl⟩
    · obtain ⟨-, -, rfl⟩ := addSpace_yields.mp ran
      exact ⟨_, rfl⟩
  · obtain ⟨-, rfl⟩ := yields_pure.mp ran
    exact ⟨after.space, rfl⟩

theorem build_eq_ok {document : Option Document} {items : List Item} {settings : Settings}
    {interface : Interface} :
    build document items settings = .ok interface ↔
      (assemble document items settings).Yields (empty settings.versionTag) () interface := by
  have same : (assemble document items settings).Yields (empty settings.versionTag) () interface ↔
      (buildOutcome document items settings).result = .ok () ∧
        (buildOutcome document items settings).state = interface := Iff.rfl
  rw [same]
  cases finished : (buildOutcome document items settings).result with
  | error problem => simp [build, finished]
  | ok value => simp [build, finished]

/-- The last steps of a build. -/
theorem finishing_yields {plain interface : Interface} :
    (do
      Action.lift plain.check
      derive
      let derived ← Action.get
      Action.note (.completed derived.symbolSpace derived.foreignFunctions.length)
      finalize : Action Interface Unit).Yields plain () interface ↔
      plain.check = .ok () ∧
        ∃ derived, derive.Yields plain () derived ∧
          interface = { derived with finalized := true } := by
  simp only [yields_lift_bind, yields_bind_unit, yields_get_bind, yields_note, finalize,
    yields_modify]
  constructor
  · rintro ⟨_, checked, _, derives, _, rfl, rfl⟩
    exact ⟨checked, _, derives, rfl⟩
  · rintro ⟨checked, derived, derives, rfl⟩
    exact ⟨(), checked, derived, derives, derived, rfl, rfl⟩

/-- The part of a build in which both sources are brought into an interface. -/
def bring (declarations : List Declaration) (group : Group) : Action Interface Unit := do
  onRegistry (Registry.discover declarations)
  onRegistry group.discover
  declare declarations
  populate group

/-- A build is completed if its sources can be brought in and the interface, given a namespace, is
consistent and can be derived from. -/
theorem assemble_yields {document : Option Document} {items : List Item} {settings : Settings}
    {interface : Interface} :
    (assemble document items settings).Yields before () interface ↔
      ∃ group brought plain derived, Group.ofItems items = .ok group ∧
        (bring ((document.map Document.definitions).getD []) group).Yields before () brought ∧
        (fallBackSpace settings group.crate).Yields brought () plain ∧
        plain.check = .ok () ∧ derive.Yields plain () derived ∧
        interface = { derived with finalized := true } := by
  have finishing {plain : Interface} : (do
      if plain.spaceTag.isWritten then Action.note (.resolved plain.summary)
      Action.lift plain.check
      derive
      let derived ← Action.get
      Action.note (.completed derived.symbolSpace derived.foreignFunctions.length)
      finalize : Action Interface Unit).Yields plain () interface ↔
      plain.check = .ok () ∧
        ∃ derived, derive.Yields plain () derived ∧
          interface = { derived with finalized := true } := by
    split
    · exact yields_note_bind.trans finishing_yields
    · exact finishing_yields
  simp only [assemble, bring, yields_lift_bind, yields_bind_unit, yields_get_bind, finishing]
  constructor
  · rintro ⟨group, grouped, first, discovers, second, introduces, declared, declares, brought,
      populates, plain, spaced, checked, derived, derives, finishes⟩
    exact ⟨group, brought, plain, derived, grouped,
      ⟨first, discovers, second, introduces, declared, declares, populates⟩, spaced, checked,
      derives, finishes⟩
  · rintro ⟨group, brought, plain, derived, grouped,
      ⟨first, discovers, second, introduces, declared, declares, populates⟩, spaced, checked,
      derives, finishes⟩
    exact ⟨group, grouped, first, discovers, second, introduces, declared, declares, brought,
      populates, plain, spaced, checked, derived, derives, finishes⟩

theorem bring_yields {declarations : List Declaration} {group : Group} {version : Option Tag}
    {brought : Interface} :
    (bring declarations group).Yields (empty version) () brought ↔
      ∃ first registry middle, (Registry.discover declarations).Yields {} () first ∧
        group.discover.Yields first () registry ∧
        (declare declarations).Yields { empty version with registry } () middle ∧
        (populate group).Yields middle () brought := by
  simp only [bring, yields_bind_unit, onRegistry_yields]
  constructor
  · rintro ⟨_, ⟨first, discovers, rfl⟩, _, ⟨registry, introduces, rfl⟩, middle, declares, populates⟩
    exact ⟨first, registry, middle, discovers, introduces, declares, populates⟩
  · rintro ⟨first, registry, middle, discovers, introduces, declares, populates⟩
    exact ⟨_, ⟨first, discovers, rfl⟩, _, ⟨registry, introduces, rfl⟩, middle, declares, populates⟩

/-- Both sources in an interface, apart from its namespace. -/
theorem plain_of_bring {declarations : List Declaration} {group : Group} {version : Option Tag}
    {brought : Interface} (ran : (bring declarations group).Yields (empty version) () brought) :
    Plain declarations group brought := by
  obtain ⟨first, registry, _, discovered, introduced, declares, populates⟩ := bring_yields.mp ran
  have binds := (Registry.binds_of_discover discovered).append
    (Registry.binds_of_defineAll introduced)
  obtain ⟨bindings, contents, named⟩ := contents_brought declares populates
  have names : brought.names = registry.names := Registry.names_eq_of_bindings bindings
  refine ⟨binds.congr bindings, ?_, named⟩
  rw [contents, names]

theorem Plain.fallBackSpace {declarations : List Declaration} {group : Group}
    {settings : Settings} {crate : Option String} (stage : Plain declarations group before)
    (ran : (fallBackSpace settings crate).Yields before value after) :
    Plain declarations group after := by
  obtain ⟨space, rfl⟩ := fallBackSpace_yields ran
  exact ⟨stage.binds, stage.contents, { stage.named with }⟩

/-- A finished build went through a plain interface, which was checked and derived from. -/
theorem build_stages {document : Option Document} {items : List Item} {settings : Settings}
    {interface : Interface} (built : build document items settings = .ok interface) :
    ∃ group plain derived, Group.ofItems items = .ok group ∧
      Plain ((document.map Document.definitions).getD []) group plain ∧
      plain.check = .ok () ∧ derive.Yields plain () derived ∧
      interface = { derived with finalized := true } := by
  obtain ⟨group, brought, plain, derived, grouped, brings, spaced, checked, derives, finishes⟩ :=
    assemble_yields.mp (build_eq_ok.mp built)
  exact ⟨group, plain, derived, grouped, (plain_of_bring brings).fallBackSpace spaced, checked,
    derives, finishes⟩

end NativeBoundary.Interface
