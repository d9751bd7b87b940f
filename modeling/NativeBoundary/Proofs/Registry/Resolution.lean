import NativeBoundary.Registry.Basic

/-!
# What type expressions denote

In an environment that gives names their types, an expression denotes a type or a problem, and that
is all that resolving it finds out: the registry enters through the names that it binds, and its
bindings are the same afterwards.  `Reads` states this for any action on a registry, and it is
closed under sequencing, so that the conversions of whole declarations inherit it.
-/

namespace NativeBoundary

/-- The types of the names that are bound. -/
abbrev Names : Type := String → Option Ty

def Registry.names (registry : Registry) : Names := fun name => registry.type? name

namespace Names

/-- The type that a name stands for, where builtin spellings come before bound names. -/
def meaning (names : Names) (name : String) : Option Ty :=
  (Ty.builtin? name).or (names name)

end Names

namespace TypeExpr

def settled (nullable : Bool) (type : Ty) : Ty :=
  if nullable then type.optional else type

def denoteName (names : Names) (name : String) (location : Option Location) : Except Problem Ty :=
  match names.meaning name with
  | some type => .ok type
  | none => .error ⟨.unknownType name, some name, location⟩

/-- The type that an expression stands for where names have these types. -/
def denote : TypeExpr → Names → Except Problem Ty
  | ⟨.sequence, _, some element, _, _, nullable, _⟩, names => do
      let inner ← denote element names
      pure (settled nullable (.sequence inner))
  | ⟨.sequence, _, none, _, _, _, location⟩, _ =>
      .error ⟨.sequenceWithoutElement, none, location⟩
  | ⟨.map, _, _, some key, some value, nullable, _⟩, names => do
      let keyType ← denote key names
      let valueType ← denote value names
      pure (settled nullable (.map keyType valueType))
  | ⟨.map, _, _, _, _, _, location⟩, _ => .error ⟨.mapWithoutParts, none, location⟩
  | ⟨.identifier, name, _, _, _, nullable, location⟩, names => do
      let type ← denoteName names (name.getD "") location
      pure (settled nullable type)
termination_by structural expr => expr

end TypeExpr

namespace Registry

variable {α β : Type}

/-- The second registry has the known types of the first one in front of others, and has each once
if the first one does. -/
structure Gathers (before after : Registry) : Prop where
  known : before.known <+: after.known
  distinct : before.known.Nodup → after.known.Nodup

theorem Gathers.refl (registry : Registry) : registry.Gathers registry :=
  ⟨List.prefix_rfl, id⟩

theorem Gathers.trans {first second third : Registry} (left : first.Gathers second)
    (right : second.Gathers third) : first.Gathers third :=
  ⟨left.known.trans right.known, right.distinct ∘ left.distinct⟩

/-- The result of an action depends on the bound names alone, and whether or not it is completed, it
leaves all bindings alone and puts what it meets behind the types that are known. -/
structure Reads (action : Action Registry α) (denoted : Names → Except Problem α) : Prop where
  result : ∀ registry, (action registry).result = denoted registry.names
  bindings : ∀ registry, (action registry).state.bindings = registry.bindings
  gathers : ∀ registry : Registry, registry.Gathers (action registry).state

theorem names_eq_of_bindings {first second : Registry}
    (same : first.bindings = second.bindings) : first.names = second.names := by
  funext name
  simp only [names, type?, same]

theorem known_prefix_record (type : Ty) (registry : Registry) :
    registry.known <+: (registry.record type).known := by
  unfold record
  split
  · exact List.prefix_rfl
  · exact List.prefix_append _ _

theorem known_nodup_record {registry : Registry} (type : Ty) (distinct : registry.known.Nodup) :
    (registry.record type).known.Nodup := by
  unfold record
  split
  · exact distinct
  · next unknown =>
    refine List.nodup_append.mpr ⟨distinct, List.pairwise_singleton _ _, ?_⟩
    intro other known fresh added same
    exact unknown (List.mem_singleton.mp added ▸ same ▸ known)

theorem gathers_record (type : Ty) (registry : Registry) :
    registry.Gathers (registry.record type) :=
  ⟨known_prefix_record type registry, known_nodup_record type⟩

namespace Reads

theorem pure (value : α) :
    Reads (pure value : Action Registry α) (fun _ => Pure.pure value) :=
  ⟨fun _ => rfl, fun _ => rfl, Gathers.refl⟩

theorem fail (problem : Problem) :
    Reads (Action.fail problem : Action Registry α) (fun _ => .error problem) :=
  ⟨fun _ => rfl, fun _ => rfl, Gathers.refl⟩

/-- What would come after a failure does not matter. -/
theorem fail_bind (problem : Problem) (next : α → Action Registry β) :
    Reads (Action.fail problem >>= next) (fun _ => .error problem) :=
  ⟨fun _ => rfl, fun _ => rfl, Gathers.refl⟩

theorem lift (result : Except Problem α) : Reads (Action.lift result) (fun _ => result) :=
  ⟨fun _ => rfl, fun _ => rfl, Gathers.refl⟩

theorem bind {first : Action Registry α} {next : α → Action Registry β}
    {denoted : Names → Except Problem α} {denotedNext : Names → α → Except Problem β}
    (readsFirst : Reads first denoted)
    (readsNext : ∀ value, Reads (next value) (denotedNext · value)) :
    Reads (first >>= next) (fun names => denoted names >>= denotedNext names) := by
  have together (registry : Registry) :
      ((first >>= next) registry).result =
          denoted registry.names >>= denotedNext registry.names ∧
        ((first >>= next) registry).state.bindings = registry.bindings ∧
        registry.Gathers ((first >>= next) registry).state := by
    have resultFirst := readsFirst.result registry
    have bindingsFirst := readsFirst.bindings registry
    have gathersFirst := readsFirst.gathers registry
    cases ran : first registry with
    | mk result middle events =>
        rw [ran] at resultFirst bindingsFirst gathersFirst
        rw [← resultFirst]
        cases result with
        | error problem =>
            rw [Action.bind_run_error ran]
            exact ⟨rfl, bindingsFirst, gathersFirst⟩
        | ok value =>
            rw [Action.bind_run_ok ran]
            refine ⟨?_, ?_, ?_⟩
            · rw [(readsNext value).result middle, names_eq_of_bindings bindingsFirst]
              rfl
            · exact ((readsNext value).bindings middle).trans bindingsFirst
            · exact gathersFirst.trans ((readsNext value).gathers middle)
  exact ⟨fun registry => (together registry).1, fun registry => (together registry).2.1,
    fun registry => (together registry).2.2⟩

/-- Reading each item of a list in turn reads the list. -/
theorem each {action : α → Action Registry β} {denoted : Names → α → Except Problem β}
    (reads : ∀ item, Reads (action item) (denoted · item)) (items : List α) :
    Reads (Action.each action items) (fun names => items.mapM (denoted names)) := by
  induction items with
  | nil => exact Reads.pure []
  | cons item rest ih =>
      simp only [List.mapM_cons]
      exact (reads item).bind fun _ => ih.bind fun _ => Reads.pure _

theorem record (type : Ty) :
    Reads (Action.modify (Registry.record type)) (fun _ => Pure.pure ()) :=
  ⟨fun _ => rfl, bindings_record type, gathers_record type⟩

theorem congr {action : Action Registry α} {denoted other : Names → Except Problem α}
    (reads : Reads action denoted) (same : ∀ names, denoted names = other names) :
    Reads action other :=
  ⟨fun registry => (reads.result registry).trans (same _), reads.bindings, reads.gathers⟩

end Reads

theorem settle_reads (nullable : Bool) (type : Ty) :
    Reads (settle nullable type) (fun _ => Pure.pure (TypeExpr.settled nullable type)) := by
  cases nullable with
  | false => exact (Reads.record type).bind fun _ => Reads.pure type
  | true =>
      exact (Reads.record type).bind fun _ =>
        (Reads.record type.optional).bind fun _ => Reads.pure type.optional

theorem resolveName_run (name : String) (location : Option Location) (registry : Registry) :
    resolveName name location registry =
      ⟨TypeExpr.denoteName registry.names name location, registry, []⟩ := by
  have looked : registry.lookup? name = registry.names.meaning name := rfl
  unfold resolveName TypeExpr.denoteName
  rw [Action.bind_run_ok (rfl : Action.get registry = ⟨.ok registry, registry, []⟩), looked]
  cases registry.names.meaning name <;> rfl

theorem resolveName_reads (name : String) (location : Option Location) :
    Reads (resolveName name location) (TypeExpr.denoteName · name location) :=
  ⟨fun registry => congrArg Outcome.result (resolveName_run name location registry),
    fun registry => congrArg (fun run => run.state.bindings)
      (resolveName_run name location registry),
    fun registry => (resolveName_run name location registry) ▸ Gathers.refl registry⟩

/-- Resolving an expression finds out what it denotes, and binds nothing. -/
theorem resolve_reads : ∀ expr : TypeExpr, Reads (resolve expr) expr.denote
  | ⟨.sequence, _, some element, _, _, nullable, _⟩ =>
      (resolve_reads element).bind fun inner => settle_reads nullable (.sequence inner)
  | ⟨.sequence, _, none, _, _, _, _⟩ => Reads.fail _
  | ⟨.map, _, _, some key, some value, nullable, _⟩ =>
      (resolve_reads key).bind fun keyType =>
        (resolve_reads value).bind fun valueType => settle_reads nullable (.map keyType valueType)
  | ⟨.map, _, _, none, _, _, _⟩ => Reads.fail _
  | ⟨.map, _, _, some _, none, _, _⟩ => Reads.fail _
  | ⟨.identifier, name, _, _, _, nullable, location⟩ =>
      (resolveName_reads (name.getD "") location).bind fun type => settle_reads nullable type
termination_by structural expr => expr

end Registry

end NativeBoundary
