import NativeBoundary.Proofs.Interface.Exports
import NativeBoundary.Proofs.Interface.Rearrangement

/-!
# Interfaces that differ in form

A document says that the fields of a variant are required, and writes the name of a constructor
into its attributes; metadata does neither.  Two interfaces that differ in nothing else are both
consistent or both not, and foreign functions can be derived from both or from neither.  The
foreign functions are then the same but for their symbol space, which digests the form as well.
-/

namespace NativeBoundary

namespace Model

/-- The fields of variants as a document has them: they are required. -/
def Variant.demanding (variant : Variant) : Variant :=
  { variant with fields := variant.fields.map fun field => { field with required := true } }

def Union.demanding (union : Union) : Union :=
  { union with variants := union.variants.map Variant.demanding }

/-- A name that is not that of the primary constructor is an attribute. -/
def labelsOf (name : String) : List Attribute :=
  if name = primaryName then [] else [{ kind := .name, value := some name }]

def Constructor.labelled (constructor : Constructor) : Constructor :=
  { constructor with attributes := labelsOf constructor.name ++ constructor.attributes }

def Object.labelled (object : Object) : Object :=
  { object with constructors := object.constructors.map Constructor.labelled }

/-! ## What the form does not touch -/

theorem Union.writtenTypes_demanding (union : Union) :
    union.demanding.writtenTypes = union.writtenTypes := by
  simp only [writtenTypes, demanding, Variant.demanding, List.flatMap_map]
  rfl

theorem Union.variant?_demanding (union : Union) (name : String) :
    union.demanding.variant? name = (union.variant? name).map Variant.demanding := by
  simp only [variant?, demanding, List.find?_map]
  rfl

theorem Union.variantNames_demanding (union : Union) :
    union.demanding.variants.map Variant.name = union.variants.map Variant.name := by
  simp only [demanding, List.map_map]
  rfl

theorem throwsOf_labelsOf (name : String) (attributes : List Attribute) :
    throwsOf (labelsOf name ++ attributes) = throwsOf attributes := by
  unfold labelsOf
  split <;> rfl

theorem Constructor.isSome_derive?_labelled (constructor : Constructor) (space owner : String) :
    (constructor.labelled.derive? space owner).isSome =
      (constructor.derive? space owner).isSome := by
  simp only [derive?, labelled]
  cases foreignArguments? constructor.arguments <;> rfl

namespace Object

theorem writtenTypes_labelled (object : Object) :
    object.labelled.writtenTypes = object.writtenTypes := by
  simp only [writtenTypes, labelled, List.flatMap_map]
  rfl

theorem isSome_derive?_iff {object : Object} {space : String} :
    (object.derive? space).isSome = true ↔
      (∀ constructor ∈ object.constructors,
        (constructor.derive? space object.name).isSome = true) ∧
      ∀ method ∈ object.methods, (method.derive? space object.name).isSome = true := by
  rw [← isSome_collect, ← isSome_collect]
  simp only [Option.isSome_iff_exists, derive_eq_some]
  constructor
  · rintro ⟨_, constructors, methods, built, equipped, -⟩
    exact ⟨⟨constructors, built⟩, methods, equipped⟩
  · rintro ⟨⟨constructors, built⟩, methods, equipped⟩
    exact ⟨_, constructors, methods, built, equipped, rfl⟩

theorem isSome_derive?_labelled (object : Object) (space : String) :
    (object.labelled.derive? space).isSome = (object.derive? space).isSome := by
  refine Bool.eq_iff_iff.mpr ?_
  simp only [isSome_derive?_iff, labelled, List.forall_mem_map,
    Constructor.isSome_derive?_labelled]

end Object

/-! ## Signatures of exports -/

theorem foreignArguments?_eq_some {arguments : List Argument} {foreign : List ForeignArgument} :
    foreignArguments? arguments = some foreign ↔ Lowers arguments foreign := by
  refine ⟨lowers_of_foreignArguments?, fun lowers => collect_iff_forall₂.mpr ?_⟩
  refine lowers.imp fun argument given lowered => ?_
  obtain ⟨name, type⟩ := lowered
  rw [foreignArgument?, type, ← name]
  rfl

theorem foreignResult?_eq_some {result : Option Ty} {foreign : Option ForeignType} :
    foreignResult? result = some foreign ↔ LowersResult result foreign := by
  refine ⟨lowersResult_of_foreignResult?, fun lowers => ?_⟩
  cases result with
  | none =>
      rw [Option.map_eq_none_iff.mp lowers.symm]
      rfl
  | some type =>
      obtain ⟨lowered, rfl, isForeign⟩ := Option.map_eq_some_iff.mp lowers.symm
      rw [foreignResult?, ← isForeign]
      rfl

namespace Exported

/-- The symbol of what is exported, and its arguments and its result across the boundary, as far as
its types have a foreign form. -/
def signature : Exported → Symbol × Option (List ForeignArgument) × Option (Option ForeignType)
  | .release object => (.release object.name, some [⟨"ptr", .objectHandle⟩], some none)
  | .constructor object member => (.member object.name member.name,
      foreignArguments? member.arguments, some (some .objectHandle))
  | .method object member => (.member object.name member.name,
      foreignArguments? member.fullArguments, foreignResult? member.result)
  | .register callback =>
      (.register callback.name, some [⟨"callback_stub", .foreignCallback⟩], some none)
  | .function callable => (.function callable.name,
      foreignArguments? callable.arguments, foreignResult? callable.result)
  | .buffer use => (.buffer use, some use.arguments, some use.result)

/-- A foreign function has the signature of what it is exported for. -/
theorem Is.signature_eq {space : String} {exported : Exported} {foreign : ForeignFunction}
    (is : exported.Is space foreign) :
    exported.signature = (exported.symbol, some foreign.arguments, some foreign.result) := by
  have signed := is.signed
  cases exported with
  | release object | register callback | buffer use =>
      obtain ⟨arguments, result⟩ := signed
      rw [arguments, result]
      rfl
  | constructor object member =>
      obtain ⟨arguments, result⟩ := signed
      rw [signature, foreignArguments?_eq_some.mpr arguments, result]
      rfl
  | method object member =>
      obtain ⟨arguments, result⟩ := signed
      rw [signature, foreignArguments?_eq_some.mpr arguments, foreignResult?_eq_some.mpr result]
      rfl
  | function callable =>
      obtain ⟨arguments, result⟩ := signed
      rw [signature, foreignArguments?_eq_some.mpr arguments, foreignResult?_eq_some.mpr result]
      rfl

end Exported

theorem Object.signatures_declared (object : Object) :
    object.declared.exported.map Exported.signature =
      object.exported.map Exported.signature := by
  simp only [exported, declared, List.map_append, List.map_cons, List.map_map]
  rfl

theorem Object.signatures_labelled (object : Object) :
    object.labelled.exported.map Exported.signature =
      object.exported.map Exported.signature := by
  simp only [exported, labelled, List.map_append, List.map_cons, List.map_map]
  rfl

end Model

/-- The foreign function of one symbol space, with the same signature in another one. -/
structure ForeignFunction.Respaced (space other : String) (first second : ForeignFunction) :
    Prop where
  symbol : ∃ symbol : Symbol, first.name = symbol.text space ∧ second.name = symbol.text other
  arguments : second.arguments = first.arguments
  result : second.result = first.result

namespace Interface

open NativeBoundary.Action Model

/-- The second interface is the first one in the form of a document. -/
structure Transcribes (first second : Interface) : Prop where
  version : second.version = first.version
  space : second.spaceTag = first.spaceTag
  names : second.names = first.names
  records : second.records = first.records
  enums : second.enums = first.enums.map Union.demanding
  errors : second.errors = first.errors.map Union.demanding
  callbacks : second.callbacks = first.callbacks
  functions : second.functions = first.functions
  objects : second.objects = first.objects.map Object.labelled

/-- What foreign functions can be derived from; the symbol space plays no part. -/
theorem derives_iff {before : Interface} (space : String) :
    (∃ after, derive.Yields before () after) ↔ before.breakdown? = none ∧
      (∀ function ∈ before.functions, (function.derive? space).isSome = true) ∧
      ∀ object ∈ before.objects, (object.derive? space).isSome = true := by
  have functions (function : Function) := Function.isSome_derive? space before.symbolSpace function
  have objects (object : Object) := Object.isSome_derive? space before.symbolSpace object
  simp only [functions, objects]
  rw [← isSome_collect, ← isSome_collect]
  simp only [Option.isSome_iff_exists, derive_yields]
  constructor
  · rintro ⟨_, writable, functions, objects, functionsDone, objectsDone, -⟩
    exact ⟨writable, ⟨functions, functionsDone⟩, objects, objectsDone⟩
  · rintro ⟨writable, ⟨functions, functionsDone⟩, objects, objectsDone⟩
    exact ⟨_, writable, functions, objects, functionsDone, objectsDone, rfl⟩

theorem signatures_declared (interface : Interface) :
    interface.declared.exported.map Exported.signature =
      interface.exported.map Exported.signature := by
  simp only [exported, declared, List.map_append, List.map_flatMap, List.flatMap_map,
    Object.signatures_declared, List.map_map]
  rfl

/-- Exports of the same signatures are the same foreign functions but for the symbol space. -/
theorem respaced_of_signatures {space other : String} {firsts seconds : List Exported}
    {foreign others : List ForeignFunction}
    (same : seconds.map Exported.signature = firsts.map Exported.signature)
    (first : List.Forall₂ (Exported.Is space) firsts foreign)
    (second : List.Forall₂ (Exported.Is other) seconds others) :
    List.Forall₂ (ForeignFunction.Respaced space other) foreign others := by
  induction first generalizing seconds others with
  | nil =>
      rw [List.map_nil, List.map_eq_nil_iff] at same
      subst same
      cases second
      exact List.Forall₂.nil
  | cons is _ ih =>
      cases second with
      | nil => cases same
      | cons isOther rest =>
          obtain ⟨alike, others⟩ := List.cons.inj same
          refine List.Forall₂.cons ?_ (ih others rest)
          rw [isOther.signature_eq, is.signature_eq] at alike
          simp only [Prod.mk.injEq, Option.some.injEq] at alike
          obtain ⟨symbol, arguments, result⟩ := alike
          exact ⟨⟨_, is.name, symbol ▸ isOther.name⟩, arguments, result⟩

namespace Transcribes

variable {first second derived derivedOther : Interface}

/-! ## Consistency -/

theorem variantNames_eq (same : Transcribes first second) :
    second.variantNames = first.variantNames := by
  simp only [variantNames, same.enums, List.flatMap_map, Union.variantNames_demanding]

theorem throwing_eq (same : Transcribes first second) : second.throwing = first.throwing := by
  have objects (object : Object) : objectThrows object.labelled = objectThrows object := by
    simp only [objectThrows, Object.labelled, List.flatMap_map, throwingOf,
      Constructor.labelled, throwsOf_labelsOf]
  simp only [throwing, same.functions, same.callbacks, same.objects, List.flatMap_map, objects]

theorem enumDefaults_eq (same : Transcribes first second) :
    second.enumDefaults = first.enumDefaults := by
  have objects (object : Object) : objectDefaults object.labelled = objectDefaults object := by
    simp only [objectDefaults, Object.labelled, List.flatMap_map]
    rfl
  simp only [enumDefaults, same.functions, same.records, same.objects, List.flatMap_map, objects]

theorem isVariant_eq (same : Transcribes first second) (literal : Literal) :
    second.isVariant literal = first.isVariant literal := by
  have enums (name : String) : second.enum? name = (first.enum? name).map Union.demanding := by
    simp only [enum?, same.enums, List.find?_map]
    rfl
  unfold isVariant
  cases literal.type with
  | none => rfl
  | some type =>
      simp only [enums]
      cases first.enum? (type.name.getD "") with
      | none => rfl
      | some declared => simp [Union.variant?_demanding]

theorem isSome_error?_eq (same : Transcribes first second) (name : String) :
    (second.error? name).isSome = (first.error? name).isSome := by
  simp only [error?, same.errors, List.find?_map, Option.isSome_map]
  rfl

theorem type?_eq (same : Transcribes first second) (name : String) :
    second.type? name = first.type? name :=
  congrFun same.names name

theorem check_iff (same : Transcribes first second) :
    first.check = .ok () ↔ second.check = .ok () := by
  rw [check_eq_ok, check_eq_ok, same.space, same.variantNames_eq, same.throwing_eq,
    same.enumDefaults_eq]
  simp only [same.type?_eq, same.isSome_error?_eq, same.isVariant_eq]

/-! ## Derivation -/

theorem writtenTypes_eq (same : Transcribes first second) :
    second.writtenTypes = first.writtenTypes := by
  simp only [writtenTypes, same.enums, same.records, same.functions, same.objects,
    same.callbacks, same.errors, List.flatMap_map, Union.writtenTypes_demanding,
    Object.writtenTypes_labelled]

theorem derives_iff (same : Transcribes first second) :
    (∃ after, derive.Yields first () after) ↔ ∃ after, derive.Yields second () after := by
  have writable : second.breakdown? = first.breakdown? := by
    rw [breakdown?, breakdown?, same.space, same.version, same.writtenTypes_eq]
  rw [Interface.derives_iff first.symbolSpace, Interface.derives_iff first.symbolSpace, writable,
    same.functions, same.objects]
  simp only [List.forall_mem_map, Object.isSome_derive?_labelled]

/-! ## Foreign functions -/

theorem signatures_eq (same : Transcribes first second) :
    second.exported.map Exported.signature = first.exported.map Exported.signature := by
  simp only [exported, same.objects, same.callbacks, same.functions, List.map_append,
    List.map_flatMap, List.flatMap_map, Object.signatures_labelled]

/-- The same foreign functions are derived, each under the symbol space of its interface. -/
theorem respaced (same : Transcribes first.declared second.declared)
    (derives : List.Forall₂ (Exported.Is first.symbolSpace) first.exported first.foreignFunctions)
    (derivesOther :
      List.Forall₂ (Exported.Is second.symbolSpace) second.exported second.foreignFunctions) :
    List.Forall₂ (ForeignFunction.Respaced first.symbolSpace second.symbolSpace)
      first.foreignFunctions second.foreignFunctions := by
  have signatures := same.signatures_eq
  rw [signatures_declared, signatures_declared] at signatures
  exact respaced_of_signatures signatures derives derivesOther

end Transcribes

end Interface

end NativeBoundary
