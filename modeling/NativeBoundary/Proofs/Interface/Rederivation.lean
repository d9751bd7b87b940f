import NativeBoundary.Proofs.Interface.Payload

/-!
# Deriving where something is derived already

A derivation reads what is declared and nothing else.  Whatever foreign functions an interface
carries, from the same declarations or from others, they leave no trace in the functions, the
objects and the registrations that a derivation gives, and a second derivation changes nothing.
The methods of a callback interface are not called across the boundary: no derivation touches them,
so what such a method carries stays.
-/

namespace NativeBoundary.Interface

open NativeBoundary.Action Model

/-- The same functions and objects with the same foreign functions, the same registrations, and the
same list of all foreign functions. -/
structure DerivedAlike (first second : Interface) : Prop where
  functions : first.functions = second.functions
  objects : first.objects = second.objects
  registers : first.callbacks.map CallbackInterface.register =
    second.callbacks.map CallbackInterface.register
  listed : first.foreignFunctions = second.foreignFunctions

/-- The methods of each callback interface, with what they carry. -/
def callbackMethods (interface : Interface) : List (List Method) :=
  interface.callbacks.map CallbackInterface.methods

variable {first second before after : Interface}

theorem declaresAlike_of_declared (same : first.declared = second.declared) :
    DeclaresAlike first second where
  version := (congrArg version same :)
  space := (congrArg spaceTag same :)
  enums := (congrArg enums same :)
  records := (congrArg records same :)
  functions := congrArg functions same
  objects := congrArg objects same
  callbacks := congrArg callbacks same
  errors := (congrArg errors same :)

/-! ## Callback interfaces -/

/-- What a callback interface is after a derivation depends on its name and its methods. -/
theorem map_derive_callbacks (space : String) {callbacks others : List CallbackInterface}
    (names : callbacks.map CallbackInterface.name = others.map CallbackInterface.name)
    (methods : callbacks.map CallbackInterface.methods = others.map CallbackInterface.methods) :
    callbacks.map (CallbackInterface.derive space) =
      others.map (CallbackInterface.derive space) := by
  induction callbacks generalizing others with
  | nil => rw [List.map_eq_nil_iff.mp names.symm]
  | cons callback rest ih =>
      cases others with
      | nil => cases names
      | cons other remaining =>
          obtain ⟨name, restNames⟩ := List.cons.inj names
          obtain ⟨owned, restMethods⟩ := List.cons.inj methods
          rw [List.map_cons, List.map_cons, ih restNames restMethods]
          simp only [CallbackInterface.derive, CallbackInterface.registerFunction, name, owned]

theorem map_name_of_declared {callbacks others : List CallbackInterface}
    (same : callbacks.map CallbackInterface.declared = others.map CallbackInterface.declared) :
    callbacks.map CallbackInterface.name = others.map CallbackInterface.name := by
  have names := congrArg (List.map CallbackInterface.name) same
  rw [List.map_map, List.map_map] at names
  exact names

/-! ## Derivations of one declared part -/

/-- Deriving what was derived gives the same once more. -/
theorem derive_again (ran : derive.Yields before () after) : derive.Yields after () after := by
  have again := (declaresAlike_of_declared (declared_of_derive ran).symm).derives ran
  rw [(declaresAlike_of_derive ran).symbolSpace_eq] at again
  obtain ⟨-, functions, objects, -, -, rfl⟩ := derive_yields.mp ran
  simp only [List.map_map] at again
  exact again

/-- What is declared decides what a derivation gives. -/
theorem derivedAlike_of_declared (same : second.declared = first.declared)
    (ran : derive.Yields first () after) :
    ∃ last, derive.Yields second () last ∧ DerivedAlike last after ∧
      last.callbackMethods = second.callbackMethods := by
  have alike := declaresAlike_of_declared same.symm
  have ranSecond := alike.derives ran
  have listed := (alike.symbols_eq ran ranSecond).2
  refine ⟨_, ranSecond, ⟨rfl, rfl, ?_, listed.symm⟩, ?_⟩
  · have names := map_name_of_declared alike.callbacks
    have registers := congrArg (List.map fun name =>
      some (CallbackInterface.registerFunction after.symbolSpace { name })) names
    rw [(declaresAlike_of_derive ran).symbolSpace_eq] at registers ⊢
    obtain ⟨-, functions, objects, -, -, rfl⟩ := derive_yields.mp ran
    simp only [List.map_map] at registers ⊢
    exact registers.symm
  · simp only [callbackMethods, List.map_map]
    rfl

/-- Where the methods of callback interfaces carry the same as well, one interface comes out. -/
theorem derive_unique (same : second.declared = first.declared)
    (methods : second.callbackMethods = first.callbackMethods)
    (ran : derive.Yields first () after) : derive.Yields second () after := by
  have alike := declaresAlike_of_declared same.symm
  have ranSecond := alike.derives ran
  have callbacks := map_derive_callbacks after.symbolSpace
    (map_name_of_declared alike.callbacks).symm methods
  have kept : after = { second with
      functions := after.functions
      objects := after.objects
      callbacks := second.callbacks.map (CallbackInterface.derive after.symbolSpace) } := by
    rw [callbacks, (declaresAlike_of_derive ran).symbolSpace_eq]
    obtain ⟨-, functions, objects, -, -, rfl⟩ := derive_yields.mp ran
    exact congrArg (fun interface : Interface => { interface with
      functions, objects,
      callbacks := first.callbacks.map (CallbackInterface.derive first.symbolSpace) }) same.symm
  rw [kept]
  exact ranSecond

/-- A derivation changes neither the checksum nor what is declared, and another one changes nothing.
From any interface of the same declarations, with whatever foreign functions it comes, a derivation
gives the same; only the methods of callback interfaces keep what they carry. -/
theorem derive_settles (ran : derive.Yields before () after) :
    after.checksum = before.checksum ∧ after.symbolSpace = before.symbolSpace ∧
      after.declared = before.declared ∧ derive.Yields after () after ∧
      ∀ other : Interface, other.declared = before.declared →
        ∃ last, derive.Yields other () last ∧ DerivedAlike last after ∧
          last.callbackMethods = other.callbackMethods ∧
          (other.callbackMethods = before.callbackMethods → last = after) := by
  have alike := declaresAlike_of_derive ran
  refine ⟨congrArg checksumOf alike.payload_eq, alike.symbolSpace_eq, declared_of_derive ran,
    derive_again ran, ?_⟩
  intro other same
  obtain ⟨last, ranOther, derivedAlike, methods⟩ := derivedAlike_of_declared same ran
  refine ⟨last, ranOther, derivedAlike, methods, fun sameMethods => ?_⟩
  exact ranOther.2.symm.trans (derive_unique same sameMethods ran).2

/-- One function and one object under a prefix of long ago. -/
def outdated : Interface where
  version := defaultVersion
  space := some (.text "lamp")
  functions := [{ name := "light", foreign := some ⟨"lamp_0000_light", [], none⟩ }]
  objects := [{
    name := "Lamp"
    methods := [{ name := "dim", owner := "Lamp", foreign := some ⟨"dim", [], none⟩ }]
    release := some ⟨"ffi_lamp_0000_Lamp_object_free", [], none⟩ }]

theorem derive_settles_outdated :
    ∃ after, derive.Yields outdated () after ∧ derive.Yields after () after ∧
      outdated.declared ≠ outdated ∧ derive.Yields outdated.declared () after := by
  obtain ⟨after, ran⟩ : ∃ after, derive.Yields outdated () after :=
    ⟨_, derive_yields.mpr ⟨by decide +kernel, _, _, rfl, rfl, rfl⟩⟩
  obtain ⟨-, -, -, again, others⟩ := derive_settles ran
  obtain ⟨last, ranLast, -, -, unique⟩ := others outdated.declared (by decide +kernel)
  rw [unique rfl] at ranLast
  exact ⟨after, ran, again, by decide +kernel, ranLast⟩

/-! ## What stays -/

def alarm : Method := { name := "alarm", owner := "Watcher" }

/-- A callback interface of one method. -/
def watching (method : Method) : Interface where
  version := defaultVersion
  space := some (.text "lamp")
  callbacks := [{ name := "Watcher", methods := [method] }]

/-- A foreign function that was derived for a method of a callback interface is there ever after. -/
theorem derive_keeps_alarm :
    ∃ method fresh stale, alarm.derive? "lamp_0000" "Watcher" = some method ∧
      (watching method).declared = (watching alarm).declared ∧
      derive.Yields (watching alarm) () fresh ∧ derive.Yields (watching method) () stale ∧
      fresh.callbackMethods = [[alarm]] ∧ stale.callbackMethods = [[method]] ∧
      method ≠ alarm := by
  refine ⟨_, _, _, rfl, by decide +kernel,
    derive_yields.mpr ⟨by decide +kernel, _, _, rfl, rfl, rfl⟩,
    derive_yields.mpr ⟨by decide +kernel, _, _, rfl, rfl, rfl⟩, rfl, rfl, by decide +kernel⟩

end NativeBoundary.Interface
