import NativeBoundary.Proofs.Interface.Derivation
import NativeBoundary.Proofs.Model.Determined

/-!
# What the checksum digests

The canonical text of the payload determines the version, the namespace and the six lists of
declarations without anything derived, and is determined by them.  So interfaces of one text are
derived alike: both derivations fail, or both succeed with the same foreign functions.
-/

namespace NativeBoundary.Interface

open NativeBoundary.Action Json Model

variable {first second : Interface}

/-- Both declare the same under the same version and namespace; what is derived may differ. -/
structure DeclaresAlike (first second : Interface) : Prop where
  version : first.version = second.version
  space : first.spaceTag = second.spaceTag
  enums : first.enums = second.enums
  records : first.records = second.records
  functions : first.functions.map Function.declared = second.functions.map Function.declared
  objects : first.objects.map Object.declared = second.objects.map Object.declared
  callbacks : first.callbacks.map CallbackInterface.declared =
    second.callbacks.map CallbackInterface.declared
  errors : first.errors = second.errors

/-- Version and namespace are texts, and all texts are sequences of scalar values. -/
structure Textual (interface : Interface) : Prop where
  version : ∃ text, interface.version = .text text
  space : ∃ text, interface.spaceTag = .text text
  scalar : interface.payload.Scalar

theorem list_map_declared {α : Type} {encode : α → Json} {declared : α → α}
    (same : ∀ item, encode (declared item) = encode item) (items : List α) :
    Json.list encode (items.map declared) = Json.list encode items := by
  simp only [Json.list, List.map_map, Function.comp_def, same]

theorem DeclaresAlike.payload_eq (alike : DeclaresAlike first second) :
    first.payload = second.payload := by
  unfold payload declarationsJson
  rw [alike.version, alike.space, alike.enums, alike.records, alike.errors,
    ← list_map_declared Function.toJson_declared, alike.functions,
    list_map_declared Function.toJson_declared,
    ← list_map_declared Object.toJson_declared, alike.objects,
    list_map_declared Object.toJson_declared,
    ← list_map_declared CallbackInterface.toJson_declared, alike.callbacks,
    list_map_declared CallbackInterface.toJson_declared]

theorem declaresAlike_of_payload (firstTextual : Textual first) (secondTextual : Textual second)
    (same : first.payload.canonical = second.payload.canonical) : DeclaresAlike first second := by
  have agree : Agree first.payload second.payload :=
    ⟨firstTextual.scalar, secondTextual.scalar, same⟩
  have parts := agree.object ["generator_version", "namespace", "enums", "records", "functions",
    "objects", "callback_interfaces", "errors"] (by decide) rfl rfl
  simp only [declarationsJson, List.map_cons, List.map_nil, List.cons_append,
    List.nil_append, List.forall₂_cons] at parts
  obtain ⟨version, space, enums, records, functions, objects, callbacks, errors, -⟩ := parts
  obtain ⟨versionText, versionIs⟩ := firstTextual.version
  obtain ⟨versionOther, versionOtherIs⟩ := secondTextual.version
  obtain ⟨spaceText, spaceIs⟩ := firstTextual.space
  obtain ⟨spaceOther, spaceOtherIs⟩ := secondTextual.space
  rw [versionIs, versionOtherIs] at version
  rw [spaceIs, spaceOtherIs] at space
  exact {
    version := by rw [versionIs, versionOtherIs, version.string_eq]
    space := by rw [spaceIs, spaceOtherIs, space.string_eq]
    enums := enums.list_eq Union.determined
    records := records.list_eq Record.determined
    functions := Function.determined.list _ _ functions
    objects := Object.determined.list _ _ objects
    callbacks := CallbackInterface.determined.list _ _ callbacks
    errors := errors.list_eq Union.determined }

/-! ## Deriving from what is declared -/

theorem DeclaresAlike.symbolSpace_eq (alike : DeclaresAlike first second) :
    first.symbolSpace = second.symbolSpace := by
  rw [symbolSpace, symbolSpace, checksum, checksum, alike.payload_eq, alike.space]

theorem flatMap_eq_of_declared {α β : Type} {view : α → List β} {declared : α → α}
    (same : ∀ item, view (declared item) = view item) {items others : List α}
    (alike : items.map declared = others.map declared) :
    items.flatMap view = others.flatMap view := by
  have lists := congrArg (List.flatMap view) alike
  simpa only [List.flatMap_map, same] using lists

theorem writtenTypes_function_declared (function : Function) :
    function.declared.writtenTypes = function.writtenTypes := rfl

theorem derive?_function_declared (space : String) (function : Function) :
    function.declared.derive? space = function.derive? space := rfl

theorem writtenTypes_object_declared (object : Object) :
    object.declared.writtenTypes = object.writtenTypes := by
  simp only [Object.writtenTypes, Object.declared, List.flatMap_map]
  rfl

theorem writtenTypes_callback_declared (callback : CallbackInterface) :
    callback.declared.writtenTypes = callback.writtenTypes := by
  simp only [CallbackInterface.writtenTypes, CallbackInterface.declared, List.flatMap_map]
  rfl

theorem DeclaresAlike.breakdown?_eq (alike : DeclaresAlike first second) :
    first.breakdown? = second.breakdown? := by
  have written : first.writtenTypes = second.writtenTypes := by
    have sameFunctions : first.functions.flatMap Function.writtenTypes =
        second.functions.flatMap Function.writtenTypes :=
      flatMap_eq_of_declared writtenTypes_function_declared alike.functions
    have sameObjects := flatMap_eq_of_declared writtenTypes_object_declared alike.objects
    have sameCallbacks := flatMap_eq_of_declared writtenTypes_callback_declared alike.callbacks
    rw [writtenTypes, writtenTypes, alike.enums, alike.records, alike.errors, sameFunctions,
      sameObjects, sameCallbacks]
  rw [breakdown?, breakdown?, written, alike.version, alike.space]

theorem collect_map {α β γ : Type} (derive? : β → Option γ) (change : α → β) (items : List α) :
    collect derive? (items.map change) = collect (fun item => derive? (change item)) items := by
  induction items with
  | nil => rfl
  | cons item rest ih => rw [List.map_cons, collect, collect, ih]

theorem collect_eq_of_declared {α β : Type} {derive? : α → Option β} {declared : α → α}
    (same : ∀ item, derive? (declared item) = derive? item) {items others : List α}
    (alike : items.map declared = others.map declared) :
    collect derive? items = collect derive? others := by
  have lists := congrArg (collect derive?) alike
  simpa only [collect_map, same] using lists

theorem derive?_object_declared (space : String) (object : Object) :
    object.declared.derive? space = object.derive? space := by
  have constructors : collect (Constructor.derive? space object.name)
      (object.constructors.map Constructor.declared) =
        collect (Constructor.derive? space object.name) object.constructors := by
    rw [collect_map]
    rfl
  have methods : collect (Method.derive? space object.name)
      (object.methods.map Method.declared) =
        collect (Method.derive? space object.name) object.methods := by
    rw [collect_map]
    rfl
  simp only [Object.derive?, Object.declared, constructors, methods]
  rfl

theorem declaresAlike_of_derive {before after : Interface} {value : Unit}
    (ran : derive.Yields before value after) : DeclaresAlike after before := by
  have same := declared_of_derive ran
  obtain ⟨-, functions, objects, -, -, rfl⟩ := derive_yields.mp ran
  exact {
    version := rfl
    space := rfl
    enums := rfl
    records := rfl
    functions := congrArg Interface.functions same
    objects := congrArg Interface.objects same
    callbacks := congrArg Interface.callbacks same
    errors := rfl }

theorem registers_of_derive (space : String) (callbacks : List CallbackInterface) :
    (callbacks.map (CallbackInterface.derive space)).filterMap CallbackInterface.register =
      callbacks.map (CallbackInterface.registerFunction space) := by
  rw [List.filterMap_map]
  exact congrFun (List.filterMap_eq_map (f := CallbackInterface.registerFunction space)) callbacks

/-- The functions and objects that the second interface is given are those of the first; its
callback interfaces keep all but their registration. -/
theorem DeclaresAlike.derives (alike : DeclaresAlike first second) {after : Interface}
    (ran : derive.Yields first () after) :
    derive.Yields second () { second with
      functions := after.functions
      objects := after.objects
      callbacks := second.callbacks.map (CallbackInterface.derive after.symbolSpace) } := by
  rw [(declaresAlike_of_derive ran).symbolSpace_eq]
  obtain ⟨writable, functions, objects, functionsDone, objectsDone, rfl⟩ :=
    Interface.derive_yields.mp ran
  have spaces := alike.symbolSpace_eq
  refine Interface.derive_yields.mpr
    ⟨alike.breakdown?_eq ▸ writable, functions, objects, ?_, ?_, by rw [spaces]⟩
  · rw [← spaces, ← functionsDone]
    exact (collect_eq_of_declared (derive?_function_declared _) alike.functions).symm
  · rw [← spaces, ← objectsDone]
    exact (collect_eq_of_declared (derive?_object_declared _) alike.objects).symm

/-- The second interface is derived like the first, with the same foreign functions. -/
theorem DeclaresAlike.derive_yields (alike : DeclaresAlike first second) {after : Interface}
    (ran : derive.Yields first () after) :
    ∃ other, derive.Yields second () other ∧ other.foreignFunctions = after.foreignFunctions := by
  have ranOther := alike.derives ran
  have spaceAfter := (declaresAlike_of_derive ran).symbolSpace_eq
  have spaceOther := (declaresAlike_of_derive ranOther).symbolSpace_eq
  obtain ⟨-, functions, objects, -, -, rfl⟩ := Interface.derive_yields.mp ran
  refine ⟨_, ranOther, ?_⟩
  have registers : second.callbacks.map (CallbackInterface.registerFunction first.symbolSpace) =
      first.callbacks.map (CallbackInterface.registerFunction first.symbolSpace) := by
    have lists := congrArg (List.map (CallbackInterface.registerFunction first.symbolSpace))
      alike.callbacks
    rw [List.map_map, List.map_map] at lists
    exact lists.symm
  unfold foreignFunctions derivedFunctions
  rw [spaceOther, spaceAfter, registers_of_derive, registers_of_derive, registers,
    alike.symbolSpace_eq]

/-- Derivations of what is declared alike end in one checksum and in the same foreign functions. -/
theorem DeclaresAlike.symbols_eq (alike : DeclaresAlike first second)
    {derived derivedSecond : Interface} (ran : derive.Yields first () derived)
    (ranSecond : derive.Yields second () derivedSecond) :
    derived.checksum = derivedSecond.checksum ∧
      derived.foreignFunctions = derivedSecond.foreignFunctions := by
  obtain ⟨other, ranOther, functions⟩ := alike.derive_yields ran
  obtain rfl : other = derivedSecond := ranOther.2.symm.trans ranSecond.2
  refine ⟨?_, functions.symm⟩
  rw [checksum, checksum, (declaresAlike_of_derive ran).payload_eq, alike.payload_eq,
    (declaresAlike_of_derive ranSecond).payload_eq]

/-- Equal texts are equal declarations, and equal declarations have equal foreign functions. -/
theorem payload_determines_declarations (firstTextual : Textual first)
    (secondTextual : Textual second) :
    (first.payload.canonical = second.payload.canonical ↔ DeclaresAlike first second) ∧
      (first.payload.canonical = second.payload.canonical → ∀ after,
        derive.Yields first () after → ∃ other, derive.Yields second () other ∧
          other.foreignFunctions = after.foreignFunctions) := by
  have determines := declaresAlike_of_payload firstTextual secondTextual
  refine ⟨⟨determines, fun alike => congrArg canonical alike.payload_eq⟩, ?_⟩
  intro same after ran
  exact (determines same).derive_yields ran

/-- One method that answers with a map over a name beyond the basic plane. -/
def atlas (foreign : Option ForeignFunction) : Interface where
  version := .text "0.3.0"
  space := some (.text "atlas")
  objects := [{
    name := "Map"
    methods := [{
      name := "find"
      owner := "Map"
      result := some (.map (.builtin .string) (.named .record "𝔐ark"))
      attributes := [{ kind := .throws, value := some "Lost" }]
      foreign }] }]

theorem payload_determines_declarations_atlas :
    ∃ first second : Interface, first ≠ second ∧
      first.payload.canonical = second.payload.canonical ∧ DeclaresAlike first second := by
  have textual (foreign : Option ForeignFunction) : Textual (atlas foreign) :=
    ⟨⟨_, rfl⟩, ⟨_, rfl⟩, scalar_of_isOrdinary (atlas none).payload (by decide +kernel)⟩
  have alike : DeclaresAlike (atlas none) (atlas (some ⟨"stale", [], none⟩)) :=
    ⟨rfl, rfl, rfl, rfl, rfl, rfl, rfl, rfl⟩
  have determines := payload_determines_declarations (textual none)
    (textual (some ⟨"stale", [], none⟩))
  exact ⟨_, _, by decide +kernel, determines.1.mpr alike, alike⟩

end NativeBoundary.Interface
