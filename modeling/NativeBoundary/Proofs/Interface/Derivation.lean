import NativeBoundary.Interface.Update
import NativeBoundary.Proofs.Action.Run
import NativeBoundary.Proofs.Model.Declared

/-!
# What derivation changes

Deriving gives every function, object and callback interface its foreign functions under one symbol
space.  Whatever was declared stays, so the payload of the checksum and with it the symbol space are
the same before and after, and a second derivation has the result of the first.
-/

namespace NativeBoundary

namespace Model

variable {α β γ : Type}

theorem collect_eq_some {derive? : α → Option β} {items : List α} {results : List β} :
    collect derive? items = some results ↔ items.map derive? = results.map some := by
  induction items generalizing results with
  | nil =>
      constructor
      · intro collected
        cases collected
        rfl
      · intro same
        rw [List.map_eq_nil_iff.mp same.symm]
        rfl
  | cons item rest ih =>
      constructor
      · intro collected
        obtain ⟨first, derived, remaining⟩ := Option.bind_eq_some_iff.mp collected
        obtain ⟨others, collectedRest, finished⟩ := Option.bind_eq_some_iff.mp remaining
        cases finished
        rw [List.map_cons, List.map_cons, derived, ih.mp collectedRest]
      · intro same
        cases results with
        | nil => cases same
        | cons first others =>
            obtain ⟨derived, derivedRest⟩ := List.cons.inj same
            simp [collect, derived, ih.mpr derivedRest]

/-- What every single derivation keeps, deriving a list keeps. -/
theorem collect_keeps {derive? : α → Option β} {key : α → γ} {keyOf : β → γ}
    (keeps : ∀ {item result}, derive? item = some result → keyOf result = key item)
    {items : List α} {results : List β} (collected : collect derive? items = some results) :
    results.map keyOf = items.map key := by
  have same := collect_eq_some.mp collected
  clear collected
  induction items generalizing results with
  | nil => rw [List.map_eq_nil_iff.mp same.symm, List.map_nil, List.map_nil]
  | cons item rest ih =>
      cases results with
      | nil => cases same
      | cons result others =>
          obtain ⟨derived, derivedRest⟩ := List.cons.inj same
          rw [List.map_cons, List.map_cons, keeps derived, ih derivedRest]

variable {space owner : String}

theorem Function.declared_of_derive {function derived : Function}
    (done : function.derive? space = some derived) : derived.declared = function.declared := by
  obtain ⟨_, -, rest⟩ := Option.bind_eq_some_iff.mp done
  obtain ⟨_, -, finished⟩ := Option.bind_eq_some_iff.mp rest
  cases finished
  rfl

theorem Constructor.declared_of_derive {constructor derived : Constructor}
    (done : constructor.derive? space owner = some derived) :
    derived.declared = constructor.declared := by
  obtain ⟨_, -, finished⟩ := Option.bind_eq_some_iff.mp done
  cases finished
  rfl

theorem Method.declared_of_derive {method derived : Method}
    (done : method.derive? space owner = some derived) : derived.declared = method.declared := by
  obtain ⟨_, -, rest⟩ := Option.bind_eq_some_iff.mp done
  obtain ⟨_, -, finished⟩ := Option.bind_eq_some_iff.mp rest
  cases finished
  rfl

theorem Object.derive_eq_some {object derived : Object} :
    object.derive? space = some derived ↔
      ∃ constructors methods,
        collect (Constructor.derive? space object.name) object.constructors = some constructors ∧
        collect (Method.derive? space object.name) object.methods = some methods ∧
        derived = { object with
          constructors, methods, release := some (object.releaseFunction space) } := by
  simp only [Object.derive?, Option.bind_eq_bind, Option.bind_eq_some_iff, Option.some.injEq]
  constructor
  · rintro ⟨constructors, built, methods, equipped, rfl⟩
    exact ⟨constructors, methods, built, equipped, rfl⟩
  · rintro ⟨constructors, methods, built, equipped, rfl⟩
    exact ⟨constructors, built, methods, equipped, rfl⟩

theorem Object.declared_of_derive {object derived : Object}
    (done : object.derive? space = some derived) : derived.declared = object.declared := by
  obtain ⟨constructors, methods, built, equipped, rfl⟩ := Object.derive_eq_some.mp done
  have sameConstructors := collect_keeps Constructor.declared_of_derive built
  have sameMethods := collect_keeps Method.declared_of_derive equipped
  simp only [Object.declared, sameConstructors, sameMethods]

theorem CallbackInterface.declared_derive (space : String) (callback : CallbackInterface) :
    (callback.derive space).declared = callback.declared := rfl

end Model

namespace Interface

open NativeBoundary.Action Model

variable {before after : Interface} {value : Unit}

theorem orIncomplete_bind_yields {α β : Type} {given : Option α} {next : α → Action Interface β}
    {result : β} :
    (orIncomplete given >>= next).Yields before result after ↔
      ∃ inner, given = some inner ∧ (next inner).Yields before result after := by
  cases given with
  | none => simp [orIncomplete]
  | some inner => simp [orIncomplete, yields_bind, and_assoc]

theorem ensureWritable_bind_yields {α : Type} {next : Unit → Action Interface α} {result : α} :
    (ensureWritable >>= next).Yields before result after ↔
      before.breakdown? = none ∧ (next ()).Yields before result after := by
  cases broken : before.breakdown? with
  | none => simp [ensureWritable, broken, yields_bind_unit]
  | some reason => simp [ensureWritable, broken, yields_bind_unit]

theorem derive_yields :
    derive.Yields before value after ↔
      before.breakdown? = none ∧ ∃ functions objects,
        collect (Function.derive? before.symbolSpace) before.functions = some functions ∧
        collect (Object.derive? before.symbolSpace) before.objects = some objects ∧
        after = { before with
          functions, objects,
          callbacks := before.callbacks.map (CallbackInterface.derive before.symbolSpace) } := by
  simp only [derive, ensureWritable_bind_yields, yields_get_bind, orIncomplete_bind_yields,
    yields_modify_bind, yields_note, exists_and_left]

/-- Nothing but the derived parts changes. -/
theorem declared_of_derive (ran : derive.Yields before value after) :
    after.declared = before.declared := by
  obtain ⟨-, functions, objects, derivedFunctions, derivedObjects, rfl⟩ := derive_yields.mp ran
  have sameFunctions := collect_keeps Function.declared_of_derive derivedFunctions
  have sameObjects := collect_keeps Object.declared_of_derive derivedObjects
  simp only [declared, sameFunctions, sameObjects, List.map_map, Function.comp_def,
    CallbackInterface.declared_derive]

end Interface

end NativeBoundary
