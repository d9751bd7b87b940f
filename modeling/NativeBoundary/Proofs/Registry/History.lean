import Mathlib.Data.List.Nodup
import NativeBoundary.Proofs.Registry.Extension
import NativeBoundary.Proofs.Registry.Recording

/-!
# Histories of a registry

Four things can be done to a registry, and three of them can fail after they did a part of their
work.  Whatever was done since it was empty, completed or not, its names are bound once and to known
types, no builtin spelling is among them, and all that comes later extends it.  So an expression
keeps its type from the first time that it can be resolved.
-/

namespace NativeBoundary.Registry

open NativeBoundary.Action

variable {before after : Registry}

/-! ## What is kept -/

/-- Names are bound once, to known types and never under a builtin spelling, and types are known
once. -/
structure Sound (registry : Registry) : Prop where
  names : (registry.bindings.map Prod.fst).Nodup
  unspelled : ∀ binding ∈ registry.bindings, Ty.builtin? binding.1 = none
  bound : ∀ binding ∈ registry.bindings, binding.2 ∈ registry.known
  known : registry.known.Nodup

theorem sound_empty : Sound {} := by
  constructor <;> simp

theorem Extends.meaning_eq (extended : before.Extends after) {name : String} {type : Ty}
    (meant : before.names.meaning name = some type) : after.names.meaning name = some type := by
  rcases Option.or_eq_some_iff.mp meant with spelled | ⟨free, bound⟩
  · exact Option.or_eq_some_iff.mpr (.inl spelled)
  · exact Option.or_eq_some_iff.mpr (.inr ⟨free, extended.type?_eq bound⟩)

/-- What can be resolved once is resolved to the same type ever after. -/
theorem Extends.resolve_eq (extended : before.Extends after) {expr : TypeExpr} {type : Ty}
    (resolved : (resolve expr before).result = .ok type) :
    (resolve expr after).result = .ok type :=
  resolve_eq_ok_iff.mpr ((resolve_eq_ok_iff.mp resolved).mono extended.meaning_eq)

/-- The second registry extends the first one and is as sound. -/
structure Evolves (before after : Registry) : Prop where
  extended : before.Extends after
  sound : Sound before → Sound after

instance : IsPreorder Registry Evolves where
  refl registry := ⟨Extends.refl registry, id⟩
  trans _ _ _ left right := ⟨left.extended.trans right.extended, right.sound ∘ left.sound⟩

theorem evolves_record (type : Ty) (registry : Registry) :
    registry.Evolves (registry.record type) := by
  have same := bindings_record type registry
  have known := known_prefix_record type registry
  refine ⟨Meets.extends ⟨same, known⟩, fun sound => ?_⟩
  exact {
    names := same ▸ sound.names
    unspelled := same ▸ sound.unspelled
    bound := fun binding member => known.subset (sound.bound binding (same ▸ member))
    known := known_nodup_record type sound.known }

theorem evolves_recordAll (types : List Ty) (registry : Registry) :
    registry.Evolves (recordAll types registry) := by
  induction types generalizing registry with
  | nil => exact refl_of Evolves registry
  | cons type rest ih =>
      exact trans_of Evolves (evolves_record type registry) (ih (registry.record type))

/-- A free name that no builtin type has can be bound. -/
theorem Sound.extend {registry : Registry} (sound : Sound registry) {name : String} (type : Ty)
    (unspelled : Ty.builtin? name = none) (free : registry.type? name = none) :
    Sound (registry.extend name type) := by
  have fresh : name ∉ registry.bindings.map Prod.fst := by
    rintro taken
    obtain ⟨binding, member, rfl⟩ := List.mem_map.mp taken
    simpa using List.lookup_eq_none_iff.mp free binding member
  have bindings : (registry.extend name type).bindings = registry.bindings ++ [(name, type)] :=
    bindings_record type _
  have known : ∀ other, other ∈ registry.known → other ∈ (registry.extend name type).known :=
    fun _ member => (known_prefix_record type _).subset member
  refine ⟨?_, ?_, ?_, known_nodup_record type sound.known⟩
  · rw [bindings, List.map_append, List.map_singleton, ← List.concat_eq_append, List.nodup_concat]
    exact ⟨fresh, sound.names⟩
  · rw [bindings]
    exact List.forall_mem_append.mpr ⟨sound.unspelled, List.forall_mem_singleton.mpr unspelled⟩
  · rw [bindings]
    exact List.forall_mem_append.mpr ⟨fun binding member => known _ (sound.bound binding member),
      List.forall_mem_singleton.mpr (known_record type _)⟩

theorem define_evolves (name : String) (type : Ty) (location : Option Location) :
    Leads Evolves (define name type location) := by
  intro registry
  refine ⟨define_leads name type location registry, fun sound => ?_⟩
  rw [define_state]
  split
  · next free => exact sound.extend type free.1 free.2
  · exact sound

theorem resolve_evolves (expr : TypeExpr) : Leads Evolves (resolve expr) := by
  intro registry
  obtain ⟨types, -, ran⟩ := resolve_run expr registry
  rw [ran]
  exact evolves_recordAll types registry

/-! ## Runs -/

/-- What can be done to a registry. -/
inductive Step where
  | define (name : String) (type : Ty) (location : Option Location)
  | record (type : Ty)
  | resolve (expr : TypeExpr)
  | discover (declarations : List Document.Declaration)

/-- The registry after a step, whether or not it was completed. -/
def Step.perform : Step → Registry → Registry
  | .define name type location, registry => (Registry.define name type location registry).state
  | .record type, registry => registry.record type
  | .resolve expr, registry => (Registry.resolve expr registry).state
  | .discover declarations, registry => (Registry.discover declarations registry).state

/-- The registry after some steps; one that fails does not keep the others from being taken. -/
def performAll (steps : List Step) (registry : Registry) : Registry :=
  steps.foldl (fun registry step => step.perform registry) registry

theorem Step.evolves (step : Step) (registry : Registry) :
    registry.Evolves (step.perform registry) := by
  cases step with
  | define name type location => exact define_evolves name type location registry
  | record type => exact evolves_record type registry
  | resolve expr => exact resolve_evolves expr registry
  | discover declarations => exact discover_leads_of define_evolves declarations registry

theorem evolves_performAll (steps : List Step) (registry : Registry) :
    registry.Evolves (performAll steps registry) := by
  induction steps generalizing registry with
  | nil => exact refl_of Evolves registry
  | cons step rest ih => exact trans_of Evolves (step.evolves registry) (ih (step.perform registry))

/-- The registry that a run of steps comes to from the empty one. -/
def reached (steps : List Step) : Registry := performAll steps {}

theorem evolves_reached (earlier later : List Step) :
    (reached earlier).Evolves (reached (earlier ++ later)) := by
  have same : reached (earlier ++ later) = performAll later (reached earlier) := List.foldl_append
  rw [same]
  exact evolves_performAll later (reached earlier)

/-- At every point of a run, whichever of its steps failed, the registry is sound.  From there on
names keep their types, types are known in the same order and new ones come behind them, and an
expression that can be resolved is resolved to the same type. -/
theorem reached_history (earlier later : List Step) :
    Sound (reached earlier) ∧
    (∀ {name type}, (reached earlier).type? name = some type →
      (reached (earlier ++ later)).type? name = some type) ∧
    (reached earlier).known <+: (reached (earlier ++ later)).known ∧
    ∀ {expr type}, (resolve expr (reached earlier)).result = .ok type →
      (resolve expr (reached (earlier ++ later))).result = .ok type := by
  have sound : Sound (reached earlier) := (evolves_performAll earlier {}).sound sound_empty
  have extended := (evolves_reached earlier later).extended
  exact ⟨sound, extended.type?_eq, extended.known, extended.resolve_eq⟩

/-- A name is bound and used, and then every kind of step that can fail does so. -/
def shelfSteps : List Step := [
  .discover [{ name := "Item", body := .dictionary [] }],
  .resolve (.sequenceOf (.named "Item"))]

def shelfFailures : List Step := [
  .define "u32" (.named .record "u32") none,
  .discover [{ name := "Shelf", body := .dictionary [] }, { name := "Item", body := .enum ["pen"] },
    { name := "Lamp", body := .dictionary [] }],
  .resolve (.mapOf (.named "Shelf") (.named "Lamp")),
  .record (.builtin .bytes)]

theorem reached_history_shelf :
    (reached (shelfSteps ++ shelfFailures)).bindings =
      [("Item", .named .record "Item"), ("Shelf", .named .record "Shelf")] ∧
    (reached (shelfSteps ++ shelfFailures)).known =
      [.named .record "Item", .sequence (.named .record "Item"), .named .record "Shelf",
        .builtin .bytes] ∧
    Sound (reached (shelfSteps ++ shelfFailures)) ∧
    (resolve (.sequenceOf (.named "Item")) (reached (shelfSteps ++ shelfFailures))).result =
      .ok (.sequence (.named .record "Item")) := by
  obtain ⟨sound, -⟩ := reached_history (shelfSteps ++ shelfFailures) []
  obtain ⟨-, -, -, resolves⟩ := reached_history shelfSteps shelfFailures
  exact ⟨by decide +kernel, by decide +kernel, sound, resolves (by decide +kernel)⟩

end NativeBoundary.Registry
