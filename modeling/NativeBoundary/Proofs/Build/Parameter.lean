import NativeBoundary.Proofs.Build.BareVariant
import NativeBoundary.Proofs.Build.Reading
import NativeBoundary.Proofs.Interface.EnumDefault

/-!
# Parameters that a build keeps

A parameter is a field or an argument: a name, a type and perhaps a default.  The parameters that a
document writes down stand in the same order in the interface that is built from it, each under its
name, with the type that its expression resolves to and with its default converted at that type.
The one exception is a default at an argument of a variant: it is not converted and not kept.
-/

namespace NativeBoundary

/-- What has parameters, by its name and the name of the declaration around it. -/
inductive Holder where
  | record (name : String)
  | variant (union name : String)
  | function (name : String)
  | constructor (object name : String)
  | method (object name : String)
  | callbackMethod (interface name : String)
  deriving DecidableEq

def Holder.isVariant : Holder → Bool
  | .variant .. => true
  | _ => false

/-! ## Parameters of a document -/

namespace Document

/-- A parameter as a document writes it. -/
structure Parameter where
  name : String
  type : TypeExpr
  default : Option DefaultNode
  deriving DecidableEq

def Argument.parameter (argument : Argument) : Parameter :=
  ⟨argument.name, argument.type, argument.default⟩

def Member.parameter (member : Member) : Parameter :=
  ⟨member.name, member.type, member.default⟩

def Operation.parameters (operation : Operation) : List Parameter :=
  operation.arguments.map Argument.parameter

def Constructor.parameters (constructor : Constructor) : List Parameter :=
  constructor.arguments.map Argument.parameter

/-- The name that its attributes give to a constructor, or else that of every first constructor. -/
def Constructor.statedName (constructor : Constructor) : String :=
  match Site.constructor.check none constructor.location constructor.attributes with
  | .ok attributes => ((Attribute.valueOf .name attributes).filter (· ≠ "")).getD Model.primaryName
  | .error _ => Model.primaryName

def Declaration.parameters (declaration : Declaration) : List (Holder × List Parameter) :=
  match declaration.body with
  | .space functions =>
      functions.map fun function => (.function function.name, function.parameters)
  | .dictionary members => [(.record declaration.name, members.map Member.parameter)]
  | .enum _ => []
  | .interface constructors operations =>
      if declaration.isObject then
        (constructors.map fun constructor =>
          (.constructor declaration.name constructor.statedName, constructor.parameters)) ++
        operations.map fun operation =>
          (.method declaration.name operation.name, operation.parameters)
      else operations.map fun operation =>
        (.variant declaration.name operation.name, operation.parameters)
  | .callbackInterface operations =>
      operations.map fun operation =>
        (.callbackMethod declaration.name operation.name, operation.parameters)
  | .typedef _ => []

end Document

def Document.parameters (document : Document) : List (Holder × List Document.Parameter) :=
  document.definitions.flatMap Document.Declaration.parameters

/-- Without its default, an argument of a variant is any other parameter. -/
theorem Document.Declaration.parameters_bareVariants {declaration : Document.Declaration}
    {constructors : List Document.Constructor} {operations : List Document.Operation}
    (shape : declaration.body = .interface constructors operations)
    (isOther : declaration.isObject = false) :
    declaration.bareVariants.parameters = operations.map fun operation =>
      (.variant declaration.name operation.name, operation.bare.parameters) := by
  simp only [parameters, bareVariants_of_isOther shape isOther, isObject_with shape, isOther,
    Bool.false_eq_true, if_false, List.map_map]
  rfl

/-! ## Parameters of an interface -/

namespace Model

/-- A parameter as an interface holds it. -/
structure Parameter where
  name : String
  type : Ty
  default : Option Literal
  deriving DecidableEq

def Field.parameter (field : Field) : Parameter := ⟨field.name, field.type, field.default⟩

def Argument.parameter (argument : Argument) : Parameter :=
  ⟨argument.name, argument.type, argument.default⟩

def Record.parameters (record : Record) : List (Holder × List Parameter) :=
  [(.record record.name, record.fields.map Field.parameter)]

def Union.parameters (union : Union) : List (Holder × List Parameter) :=
  union.variants.map fun variant =>
    (.variant union.name variant.name, variant.fields.map Field.parameter)

def Function.parameters (function : Function) : List (Holder × List Parameter) :=
  [(.function function.name, function.arguments.map Argument.parameter)]

def Object.parameters (object : Object) : List (Holder × List Parameter) :=
  (object.constructors.map fun constructor =>
    (.constructor object.name constructor.name, constructor.arguments.map Argument.parameter)) ++
  object.methods.map fun method =>
    (.method object.name method.name, method.arguments.map Argument.parameter)

def CallbackInterface.parameters (callback : CallbackInterface) :
    List (Holder × List Parameter) :=
  callback.methods.map fun method =>
    (.callbackMethod callback.name method.name, method.arguments.map Argument.parameter)

end Model

namespace Interface

open Model in
def parameters (interface : Interface) : List (Holder × List Parameter) :=
  interface.records.flatMap Record.parameters ++
    ((interface.enums ++ interface.errors).flatMap Union.parameters ++
      (interface.functions.flatMap Function.parameters ++
        (interface.objects.flatMap Object.parameters ++
          interface.callbacks.flatMap CallbackInterface.parameters)))

/-- A written parameter is held under its name, with its type resolved and its default converted. -/
structure Holds (interface : Interface) (written : Document.Parameter) (held : Model.Parameter) :
    Prop where
  name : held.name = written.name
  type : (Registry.resolve written.type interface.registry).result = .ok held.type
  default : Document.convertDefault held.type written.default = .ok held.default

/-- All parameters of one holder are held, in their order and without any others. -/
def HoldsAll (interface : Interface) (written : Holder × List Document.Parameter) : Prop :=
  ∃ held, (written.1, held) ∈ interface.parameters ∧ List.Forall₂ interface.Holds written.2 held

theorem parameters_declared (interface : Interface) :
    interface.declared.parameters = interface.parameters := by
  simp only [parameters, declared, List.flatMap_map, Model.Object.parameters,
    Model.Object.declared, Model.CallbackInterface.parameters, Model.CallbackInterface.declared,
    List.map_map]
  rfl

theorem mem_parameters_iff {interface : Interface} {entry : Holder × List Model.Parameter} :
    entry ∈ interface.parameters ↔
      (∃ record ∈ interface.records, entry ∈ record.parameters) ∨
      (∃ union, (union ∈ interface.enums ∨ union ∈ interface.errors) ∧
        entry ∈ union.parameters) ∨
      (∃ function ∈ interface.functions, entry ∈ function.parameters) ∨
      (∃ object ∈ interface.objects, entry ∈ object.parameters) ∨
      ∃ callback ∈ interface.callbacks, entry ∈ callback.parameters := by
  simp only [parameters, List.mem_append, List.mem_flatMap]

/-! ## Parameters that were read -/

section Read

open Document

variable {interface : Interface}

theorem holds_of_denote {argument : Argument} {read : Model.Argument}
    (given : argument.denote interface.names = .ok read) :
    interface.Holds argument.parameter read.parameter := by
  obtain ⟨_, -, type, typed, default, converted, rfl⟩ := Argument.denote_eq_ok.mp given
  exact ⟨rfl, ((Registry.resolve_reads argument.type).result _).trans typed, converted⟩

theorem holds_of_denote_member {member : Member} {field : Model.Field}
    (given : member.denote interface.names = .ok field) :
    interface.Holds member.parameter field.parameter := by
  obtain ⟨_, -, type, typed, default, converted, rfl⟩ := Member.denote_eq_ok.mp given
  exact ⟨rfl, ((Registry.resolve_reads member.type).result _).trans typed, converted⟩

/-- A field of a variant has no default, like a bare argument. -/
theorem holds_of_denoteVariantField {argument : Argument} {field : Model.Field}
    (given : Operation.denoteVariantField argument interface.names = .ok field) :
    interface.Holds argument.bare.parameter field.parameter := by
  obtain ⟨type, typed, rfl⟩ := Operation.denoteVariantField_eq_ok.mp given
  exact ⟨rfl, ((Registry.resolve_reads argument.type).result _).trans typed, rfl⟩

/-! ## Holders that were read -/

theorem holdsAll_of_function {operation : Operation} {function : Model.Function}
    (given : operation.denoteFunction interface.names = .ok function)
    (listed : function ∈ interface.functions) :
    interface.HoldsAll (.function operation.name, operation.parameters) := by
  obtain ⟨_, -, arguments, read, _, -, rfl⟩ := Operation.denoteFunction_eq_ok.mp given
  exact ⟨_, mem_parameters_iff.mpr (.inr (.inr (.inl ⟨_, listed, List.mem_cons_self⟩))),
    Results.forall₂_of_mapM holds_of_denote read⟩

theorem holdsAll_of_record {declaration : Declaration} {members : List Member}
    {record : Model.Record}
    (given : declaration.denoteRecord members interface.names = .ok record)
    (listed : record ∈ interface.records) :
    interface.HoldsAll (.record declaration.name, members.map Member.parameter) := by
  obtain ⟨_, -, -, fields, read, rfl⟩ := Declaration.denoteRecord_eq_ok.mp given
  exact ⟨_, mem_parameters_iff.mpr (.inl ⟨_, listed, List.mem_cons_self⟩),
    Results.forall₂_of_mapM holds_of_denote_member read⟩

theorem holdsAll_of_union {declaration : Declaration} {constructors : List Constructor}
    {operations : List Operation} {union : Model.Union}
    (given : declaration.denoteUnion constructors operations interface.names = .ok union)
    (listed : union ∈ interface.enums ∨ union ∈ interface.errors) {operation : Operation}
    (member : operation ∈ operations) :
    interface.HoldsAll (.variant declaration.name operation.name, operation.bare.parameters) := by
  obtain ⟨-, -, variants, readAll, rfl⟩ := Declaration.denoteUnion_parts given
  obtain ⟨variant, inside, read⟩ := Results.exists_value_of_mapM readAll member
  obtain ⟨-, _, -, fields, readFields, rfl⟩ := Operation.denoteVariant_eq_ok.mp read
  refine ⟨_, mem_parameters_iff.mpr
    (.inr (.inl ⟨_, listed, List.mem_map.mpr ⟨_, inside, rfl⟩⟩)), ?_⟩
  simp only [Operation.parameters, Operation.bare, List.map_map]
  exact Results.forall₂_of_mapM holds_of_denoteVariantField readFields

theorem holdsAll_of_callback {declaration : Declaration} {operations : List Operation}
    {callback : Model.CallbackInterface}
    (given : declaration.denoteCallback operations interface.names = .ok callback)
    (listed : callback ∈ interface.callbacks) {operation : Operation}
    (member : operation ∈ operations) :
    interface.HoldsAll
      (.callbackMethod declaration.name operation.name, operation.parameters) := by
  obtain ⟨methods, readAll, rfl⟩ := Declaration.denoteCallback_parts given
  obtain ⟨method, inside, read⟩ := Results.exists_value_of_mapM readAll member
  obtain ⟨_, -, arguments, readArguments, _, -, rfl⟩ := Operation.denoteMethod_eq_ok.mp read
  exact ⟨_, mem_parameters_iff.mpr
    (.inr (.inr (.inr (.inr ⟨_, listed, List.mem_map.mpr ⟨_, inside, rfl⟩⟩)))),
    Results.forall₂_of_mapM holds_of_denote readArguments⟩

/-- Members that metadata gives to an object stand behind its own. -/
theorem mem_parameters_of_complete {group : Metadata.Group} {names : Names}
    {object completed : Model.Object} {entry : Holder × List Model.Parameter}
    (done : group.complete names object = .ok completed) (listed : completed ∈ interface.objects)
    (member : entry ∈ object.parameters) : entry ∈ interface.parameters := by
  obtain ⟨constructors, methods, -, -, rfl⟩ := Metadata.Group.complete_eq_ok.mp done
  refine mem_parameters_iff.mpr (.inr (.inr (.inr (.inl ⟨_, listed, ?_⟩))))
  rcases List.mem_append.mp member with ofConstructor | ofMethod
  · refine List.mem_append_left _ ?_
    exact List.map_subset _ (List.subset_append_left object.constructors constructors) ofConstructor
  · refine List.mem_append_right _ ?_
    exact List.map_subset _ (List.subset_append_left object.methods methods) ofMethod

theorem holdsAll_of_object {group : Metadata.Group} {declaration : Declaration}
    {constructors : List Constructor} {operations : List Operation}
    {object completed : Model.Object}
    (given : declaration.denotePlain constructors operations interface.names = .ok object)
    (done : group.complete interface.names object = .ok completed)
    (listed : completed ∈ interface.objects) :
    (∀ constructor ∈ constructors, interface.HoldsAll
      (.constructor declaration.name constructor.statedName, constructor.parameters)) ∧
    ∀ operation ∈ operations, interface.HoldsAll
      (.method declaration.name operation.name, operation.parameters) := by
  obtain ⟨attributes, -, denoted⟩ := Declaration.denotePlain_eq_ok.mp given
  obtain ⟨built, methods, readConstructors, -, readMethods, rfl⟩ :=
    Declaration.denoteObject_parts denoted
  constructor
  · intro constructor member
    obtain ⟨made, inside, read⟩ := Results.exists_value_of_mapM readConstructors member
    obtain ⟨_, checked, arguments, readArguments, rfl⟩ := Constructor.denote_eq_ok.mp read
    simp only [Constructor.statedName, checked]
    exact ⟨_, mem_parameters_of_complete done listed
      (List.mem_append_left _ (List.mem_map.mpr ⟨_, inside, rfl⟩)),
      Results.forall₂_of_mapM holds_of_denote readArguments⟩
  · intro operation member
    obtain ⟨method, inside, read⟩ := Results.exists_value_of_mapM readMethods member
    obtain ⟨_, -, arguments, readArguments, _, -, rfl⟩ := Operation.denoteMethod_eq_ok.mp read
    exact ⟨_, mem_parameters_of_complete done listed
      (List.mem_append_right _ (List.mem_map.mpr ⟨_, inside, rfl⟩)),
      Results.forall₂_of_mapM holds_of_denote readArguments⟩

/-- All parameters of a declaration that was read are held, those of variants without defaults. -/
theorem holdsAll_of_reading {group : Metadata.Group} {declaration : Declaration}
    {contents : Contents} (reading : declaration.Reading interface.names contents)
    (shows : interface.Shows group contents) :
    ∀ written ∈ declaration.bareVariants.parameters, interface.HoldsAll written := by
  cases reading with
  | space shape given =>
      simp only [Declaration.bareVariants, Declaration.parameters, shape]
      refine List.forall_mem_map.mpr fun function member => ?_
      obtain ⟨read, inside, denoted⟩ := Results.exists_value_of_mapM given member
      exact holdsAll_of_function denoted (shows.functions (List.mem_map_of_mem inside))
  | record shape given =>
      simp only [Declaration.bareVariants, Declaration.parameters, shape]
      exact List.forall_mem_singleton.mpr
        (holdsAll_of_record given (shows.records List.mem_cons_self))
  | words shape given listed =>
      simp only [Declaration.bareVariants, Declaration.parameters, shape]
      exact List.forall_mem_nil _
  | union shape isOther given listed =>
      rw [Declaration.parameters_bareVariants shape isOther]
      exact List.forall_mem_map.mpr fun operation member =>
        holdsAll_of_union given (shows.union listed) member
  | object shape isObject given =>
      obtain ⟨completed, there, done⟩ := shows.objects List.mem_cons_self
      obtain ⟨constructors, methods⟩ := holdsAll_of_object given done there
      simp only [Declaration.bareVariants, Declaration.parameters, shape, isObject, if_true]
      exact List.forall_mem_append.mpr
        ⟨List.forall_mem_map.mpr constructors, List.forall_mem_map.mpr methods⟩
  | callback shape given =>
      simp only [Declaration.bareVariants, Declaration.parameters, shape]
      exact List.forall_mem_map.mpr fun operation member =>
        holdsAll_of_callback given (shows.callbacks List.mem_cons_self) member
  | typedef shape =>
      simp only [Declaration.bareVariants, Declaration.parameters, shape]
      exact List.forall_mem_nil _

end Read

/-! ## Parameters of a built interface -/

section Built

open Metadata (Item)

variable {document : Document} {items : List Item} {settings : Settings} {interface : Interface}

/-- Fields of variants have no default, whichever source they are from. -/
theorem default_of_variant
    (built : build (some document) items settings = .ok interface) {holder : Holder}
    (isVariant : holder.isVariant = true) {held : List Model.Parameter}
    (listed : (holder, held) ∈ interface.parameters) :
    ∀ parameter ∈ held, parameter.default = none := by
  have parts := Parts.satisfies_of_build built (Parts.defaults_denoted (closed_of_build built))
  rcases mem_parameters_iff.mp listed with ⟨record, -, member⟩ | ⟨union, inside, member⟩ |
    ⟨function, -, member⟩ | ⟨object, -, member⟩ | ⟨callback, -, member⟩
  · cases List.mem_singleton.mp member
    cases isVariant
  · obtain ⟨variant, there, same⟩ := List.mem_map.mp member
    cases same
    refine List.forall_mem_map.mpr ?_
    rcases inside with ofEnum | ofError
    · exact parts.enums union ofEnum variant there
    · exact parts.errors union ofError variant there
  · cases List.mem_singleton.mp member
    cases isVariant
  · rcases List.mem_append.mp member with ofConstructor | ofMethod
    · obtain ⟨constructor, -, same⟩ := List.mem_map.mp ofConstructor
      cases same
      cases isVariant
    · obtain ⟨method, -, same⟩ := List.mem_map.mp ofMethod
      cases same
      cases isVariant
  · obtain ⟨method, -, same⟩ := List.mem_map.mp member
    cases same
    cases isVariant

/-- A default that was written is held as one, so where none is held none was written. -/
theorem default_of_holds {written : List Document.Parameter} {held : List Model.Parameter}
    (holds : List.Forall₂ interface.Holds written held)
    (noneHeld : ∀ parameter ∈ held, parameter.default = none) :
    ∀ parameter ∈ written, parameter.default = none := by
  induction holds with
  | nil => exact List.forall_mem_nil _
  | @cons first read rest others firstHolds _ ih =>
      obtain ⟨noneFirst, noneRest⟩ := List.forall_mem_cons.mp noneHeld
      refine List.forall_mem_cons.mpr ⟨?_, ih noneRest⟩
      have converted := firstHolds.default
      rw [noneFirst] at converted
      exact Document.convertDefault_eq_none.mp converted

/-- A variant that is held with all that was written has no argument with a default. -/
theorem default_of_holdsAll
    (built : build (some document) items settings = .ok interface)
    {written : Holder × List Document.Parameter} (isVariant : written.1.isVariant = true)
    (holds : interface.HoldsAll written) : ∀ parameter ∈ written.2, parameter.default = none := by
  obtain ⟨held, listed, all⟩ := holds
  exact default_of_holds all (default_of_variant built isVariant listed)

/-- Every parameter of the document is held, but for the defaults at arguments of variants. -/
theorem holdsAll_of_build (built : build (some document) items settings = .ok interface) :
    ∀ written ∈ document.bareVariants.parameters, interface.HoldsAll written := by
  obtain ⟨group, plain, -, stage, compatible, registry, same⟩ := Plain.of_build built
  intro written member
  obtain ⟨_, inside, placed⟩ := List.mem_flatMap.mp member
  obtain ⟨declaration, declared, rfl⟩ := List.mem_map.mp inside
  obtain ⟨contents, reading, shows⟩ := stage.reading compatible declared
  obtain ⟨held, listed, holds⟩ := holdsAll_of_reading reading shows written placed
  refine ⟨held, ?_, holds.imp fun expr parameter held => ⟨held.name, ?_, held.default⟩⟩
  · rw [← parameters_declared, same]
    exact listed
  · rw [registry]
    exact held.type

/-- A parameter of the document whose default does not count is the same without it. -/
theorem mem_bareVariants_parameters {written : Holder × List Document.Parameter}
    (member : written ∈ document.parameters)
    (bare : written.1.isVariant = true → ∀ parameter ∈ written.2, parameter.default = none) :
    written ∈ document.bareVariants.parameters := by
  obtain ⟨declaration, inside, placed⟩ := List.mem_flatMap.mp member
  refine List.mem_flatMap.mpr ⟨_, List.mem_map_of_mem inside, ?_⟩
  rcases declaration.bareVariants_eq_self_or with same |
    ⟨constructors, operations, shape, isOther, -⟩
  · rw [same]
    exact placed
  · rw [Document.Declaration.parameters_bareVariants shape isOther]
    simp only [Document.Declaration.parameters, shape, isOther, Bool.false_eq_true, if_false]
      at placed
    obtain ⟨operation, there, rfl⟩ := List.mem_map.mp placed
    refine List.mem_map.mpr ⟨operation, there, Prod.ext rfl ?_⟩
    have without := List.forall_mem_map.mp (bare rfl)
    simp only [Document.Operation.parameters, Document.Operation.bare, List.map_map]
    refine List.map_congr_left fun argument listed => ?_
    have noneWritten : argument.default = none := without argument listed
    simp only [Function.comp_apply, Document.Argument.parameter, Document.Argument.bare,
      noneWritten]

end Built

/-- A build keeps all parameters of its document with their defaults, but drops the defaults at
arguments of variants without a look at them: exactly where there are none, nothing is lost. -/
theorem parameters_of_build {document : Document} {items : List Metadata.Item}
    {settings : Settings} {interface : Interface}
    (built : build (some document) items settings = .ok interface) :
    (∀ written ∈ document.bareVariants.parameters, interface.HoldsAll written) ∧
    ((∀ written ∈ document.parameters, interface.HoldsAll written) ↔
      ∀ written ∈ document.parameters, written.1.isVariant = true →
        ∀ parameter ∈ written.2, parameter.default = none) ∧
    build (some document.bareVariants) items settings = .ok interface := by
  have bareBuilt := (build_bareVariants document items settings).trans built
  refine ⟨holdsAll_of_build built, ⟨?_, ?_⟩, bareBuilt⟩
  · intro holds written member isVariant
    exact default_of_holdsAll built isVariant (holds written member)
  · intro bare written member
    exact holdsAll_of_build built written (mem_bareVariants_parameters member (bare written member))

/-- Defaults at a field and at arguments of each kind, of which the last is one of a variant. -/
def ovenDocument (atVariant : Option DefaultNode) : Document where
  definitions := [
    { name := "oven", body := .space [{
        name := "bake", arguments := [minutes (some ⟨.integer, "0x1E", none⟩)] }] },
    { name := "Plan", body := .dictionary [{
        name := "label", type := .named "string", default := some ⟨.string, "bread", none⟩ }] },
    { name := "Oven", body := .interface
        [{ arguments := [minutes (some ⟨.integer, "010", none⟩)] }]
        [{ name := "extend", arguments := [minutes (some ⟨.integer, "5", none⟩)] }] },
    { name := "Bell", body := .callbackInterface [{
        name := "ring", arguments := [minutes (some ⟨.integer, "1", none⟩)] }] },
    { name := "Stage", body := .interface [] [{
        name := "Rest", arguments := [minutes atVariant] }]
      attributes := some [{ key := "Enum" }] }]
where
  minutes (default : Option DefaultNode) : Document.Argument :=
    { name := "minutes", type := .named "u32", default := default }

theorem parameters_of_build_oven :
    ∃ interface, build (some (ovenDocument none)) [] {} = .ok interface ∧
      ∀ written ∈ (ovenDocument none).parameters, interface.HoldsAll written := by
  have built := build_ok_of_result
    (by decide +kernel : (buildOutcome (some (ovenDocument none)) [] {}).result = .ok ())
  exact ⟨_, built, (parameters_of_build built).2.1.mpr (by decide)⟩

/-- A text as the default of a number is built, and dropped, at the argument of a variant. -/
theorem parameters_dropped :
    let document := ovenDocument (some ⟨.string, "long", none⟩)
    ∃ interface, build (some document) [] {} = .ok interface ∧
      ∃ written ∈ document.parameters, ¬ interface.HoldsAll written := by
  have built := build_ok_of_result (by decide +kernel : (buildOutcome
    (some (ovenDocument (some ⟨.string, "long", none⟩))) [] {}).result = .ok ())
  refine ⟨_, built, (.variant "Stage" "Rest",
    [⟨"minutes", .named "u32", some ⟨.string, "long", none⟩⟩]), by decide, fun holds => ?_⟩
  cases default_of_holdsAll built rfl holds _ List.mem_cons_self

end Interface

end NativeBoundary
