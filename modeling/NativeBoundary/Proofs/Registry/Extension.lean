import NativeBoundary.Proofs.Action.Leading
import NativeBoundary.Proofs.Registry.Discovery

/-!
# Registries that grow

Whatever is done on a registry, completed or not, puts bindings and known types behind those that
are there.  A binding is put only under a free name, so names keep their types, and a registry that
has more bindings answers for more names.
-/

namespace NativeBoundary

open NativeBoundary.Action

namespace Registry

/-- The second registry has all that the first one has, in front of what it has besides. -/
structure Extends (before after : Registry) : Prop where
  bindings : before.bindings <+: after.bindings
  known : before.known <+: after.known
  bound : before.bindings = after.bindings ∨
    ∃ name, before.type? name = none ∧ (after.type? name).isSome = true

namespace Extends

variable {before middle after : Registry}

theorem refl (registry : Registry) : registry.Extends registry :=
  ⟨List.prefix_rfl, List.prefix_rfl, .inl rfl⟩

theorem type?_eq (extended : before.Extends after) {name : String} {type : Ty}
    (bound : before.type? name = some type) : after.type? name = some type := by
  obtain ⟨more, same⟩ := extended.bindings
  rw [type?, ← same, List.lookup_append, ← type?, bound, Option.some_or]

theorem trans (left : before.Extends middle) (right : middle.Extends after) :
    before.Extends after where
  bindings := left.bindings.trans right.bindings
  known := left.known.trans right.known
  bound := by
    rcases left.bound with same | ⟨name, free, bound⟩
    · have names (name : String) : before.type? name = middle.type? name := by
        rw [type?, type?, same]
      simpa only [same, names] using right.bound
    · obtain ⟨type, bound⟩ := Option.isSome_iff_exists.mp bound
      exact .inr ⟨name, free, Option.isSome_of_eq_some (right.type?_eq bound)⟩

/-- Registries that extend each other are the same. -/
theorem antisymm (left : before.Extends after) (right : after.Extends before) : before = after := by
  have bindings := left.bindings.eq_of_length_le right.bindings.length_le
  have known := left.known.eq_of_length_le right.known.length_le
  cases before
  cases after
  simp only at bindings known
  rw [bindings, known]

/-- A registry that binds no more names has no more bindings. -/
theorem bindings_eq_iff (extended : before.Extends after) :
    before.bindings = after.bindings ↔ ∀ name, after.type? name = before.type? name := by
  constructor
  · intro same name
    rw [type?, type?, same]
  · intro same
    refine extended.bound.resolve_right ?_
    rintro ⟨name, free, bound⟩
    rw [same, free] at bound
    cases bound

end Extends

instance : IsPreorder Registry Extends where
  refl := Extends.refl
  trans _ _ _ := Extends.trans

/-- The second registry binds the same names and has met all types that the first one has. -/
structure Meets (before after : Registry) : Prop where
  bindings : after.bindings = before.bindings
  known : before.known <+: after.known

theorem Meets.extends {before after : Registry} (meets : before.Meets after) :
    before.Extends after :=
  ⟨meets.bindings ▸ List.prefix_rfl, meets.known, .inl meets.bindings.symm⟩

instance : IsPreorder Registry Meets where
  refl _ := ⟨rfl, List.prefix_rfl⟩
  trans _ _ _ left right := ⟨right.bindings.trans left.bindings, left.known.trans right.known⟩

theorem Reads.leads {α : Type} {action : Action Registry α} {denoted : Names → Except Problem α}
    (reads : Reads action denoted) : Leads Meets action := fun registry =>
  ⟨reads.bindings registry, (reads.gathers registry).known⟩

theorem extends_extend {name : String} {registry : Registry} (type : Ty)
    (free : registry.type? name = none) : registry.Extends (registry.extend name type) := by
  have known := known_prefix_record type
    { registry with bindings := registry.bindings ++ [(name, type)] }
  refine ⟨?_, known, .inr ⟨name, free, ?_⟩⟩
  · rw [extend, bindings_record]
    exact List.prefix_append _ _
  · simp [type?_extend, free]

/-- A name is bound if it is free and not the spelling of a builtin type, and in no other case does
anything change. -/
theorem define_state (name : String) (type : Ty) (location : Option Location)
    (registry : Registry) :
    (define name type location registry).state =
      if Ty.builtin? name = none ∧ registry.type? name = none then registry.extend name type
      else registry := by
  unfold define
  cases builtin : Ty.builtin? name with
  | some spelled => rfl
  | none =>
      rw [if_neg (by simp), bind_run_ok (rfl : Action.get registry = ⟨.ok registry, registry, []⟩)]
      cases bound : registry.type? name with
      | none =>
          rw [if_pos ⟨rfl, rfl⟩]
          rfl
      | some existing =>
          rw [if_neg (by simp)]
          exact ensure_state _ _ registry

/-- Binds the given names one after the other, until one is refused. -/
def defineAll (introduced : List (String × Ty)) : Action Registry Unit :=
  Action.forAll (fun binding => define binding.1 binding.2 none) introduced

theorem define_leads (name : String) (type : Ty) (location : Option Location) :
    Leads Extends (define name type location) := by
  intro registry
  rw [define_state]
  split
  · next free => exact extends_extend type free.2
  · exact Extends.refl registry

/-- Discovery leads to wherever binding names leads to. -/
theorem discover_leads_of {relation : Registry → Registry → Prop} [IsPreorder Registry relation]
    (defines : ∀ name type location, Leads relation (define name type location))
    (declarations : List Document.Declaration) : Leads relation (discover declarations) := by
  refine Leads.bind (Leads.each (fun declaration => ?_) declarations) fun _ => leads_note _
  refine (leads_lift _).bind fun introduced => ?_
  cases introduced with
  | none => exact leads_pure false
  | some type => exact (defines _ _ _).bind fun _ => leads_pure true

theorem discover_leads (declarations : List Document.Declaration) :
    Leads Extends (discover declarations) :=
  discover_leads_of define_leads declarations

theorem defineAll_leads (introduced : List (String × Ty)) :
    Leads Extends (defineAll introduced) := by
  unfold defineAll
  exact Leads.forAll (fun binding => define_leads binding.1 binding.2 none) introduced

/-! ## What a document tries to bind -/

/-- Where a name stands in the source does not matter to what becomes of it. -/
theorem define_bind_state {α β : Type} {name : String} {type : Ty} {first second : Option Location}
    {next : Unit → Action Registry α} {other : Unit → Action Registry β}
    (same : ∀ registry, (next () registry).state = (other () registry).state)
    (registry : Registry) :
    ((define name type first >>= next) registry).state =
      ((define name type second >>= other) registry).state := by
  have states : (define name type first registry).state =
      (define name type second registry).state := by
    rw [define_state, define_state]
  have completes {here there : Option Location} {value : Unit}
      (done : (define name type here registry).result = .ok value) :
      (define name type there registry).result = .ok () := by
    obtain ⟨spelled, ⟨bound, -⟩ | ⟨free, -⟩⟩ := define_yields.mp ⟨done, rfl⟩
    · exact (define_yields.mpr ⟨spelled, .inl ⟨bound, rfl⟩⟩).1
    · exact (define_yields.mpr ⟨spelled, .inr ⟨free, rfl⟩⟩).1
  rcases bind_state (define name type first) next registry with
    ⟨_, failed, ends⟩ | ⟨_, done, ends⟩ <;>
  rcases bind_state (define name type second) other registry with
    ⟨_, failedThere, endsThere⟩ | ⟨_, doneThere, endsThere⟩
  · rw [ends, endsThere, states]
  · rw [completes doneThere] at failed
    cases failed
  · rw [completes done] at failedThere
    cases failedThere
  · rw [ends, endsThere, ← states, same]

end Registry

/-- The names that discovery tries to bind, in their order: it ends at the first declaration whose
type cannot be told. -/
def Document.attempted : List Declaration → List (String × Ty)
  | [] => []
  | declaration :: rest =>
      match declaration.introduced with
      | .error _ => []
      | .ok none => attempted rest
      | .ok (some type) => (declaration.name, type) :: attempted rest

namespace Registry

/-- A declaration whose type is told is bound before those behind it. -/
theorem each_discoverOne_cons_state {declaration : Document.Declaration} {type : Ty}
    (told : declaration.introduced = .ok (some type)) (rest : List Document.Declaration)
    (registry : Registry) :
    (Action.each discoverOne (declaration :: rest) registry).state =
      ((define declaration.name type declaration.location >>=
        fun _ => Action.each discoverOne rest) registry).state := by
  have here : discoverOne declaration registry =
      (define declaration.name type declaration.location >>= fun _ => pure true) registry := by
    unfold discoverOne
    rw [told]
    rfl
  rw [Action.each]
  cases ran : define declaration.name type declaration.location registry with
  | mk result middle events =>
      cases result with
      | error problem =>
          rw [bind_run_error ran] at here
          rw [bind_run_error here, bind_run_error ran]
      | ok value =>
          rw [bind_run_ok ran] at here
          rw [bind_run_ok here, bind_run_ok ran]
          exact bind_pure_state _ _ middle

theorem each_discoverOne_state (declarations : List Document.Declaration) (registry : Registry) :
    (Action.each discoverOne declarations registry).state =
      (defineAll (Document.attempted declarations) registry).state := by
  induction declarations generalizing registry with
  | nil => rfl
  | cons declaration rest ih =>
      cases told : declaration.introduced with
      | error problem =>
          have here : discoverOne declaration registry = ⟨.error problem, registry, []⟩ := by
            unfold discoverOne
            rw [told]
            rfl
          rw [Action.each, bind_run_error here, Document.attempted, told]
          rfl
      | ok introduced =>
          cases introduced with
          | none =>
              have here : discoverOne declaration registry = ⟨.ok false, registry, []⟩ := by
                unfold discoverOne
                rw [told]
                rfl
              rw [Action.each, bind_run_ok here, Document.attempted, told, ← ih]
              exact bind_pure_state _ _ registry
          | some type =>
              rw [each_discoverOne_cons_state told, Document.attempted, told]
              exact define_bind_state (fun later => ih later) registry

theorem discover_state (declarations : List Document.Declaration) (registry : Registry) :
    (discover declarations registry).state =
      (defineAll (Document.attempted declarations) registry).state := by
  rw [← each_discoverOne_state]
  rcases bind_state (Action.each discoverOne declarations)
    (fun introduced => Action.note (.discovered (introduced.countP id))) registry with
    ⟨_, -, ends⟩ | ⟨_, -, ends⟩
  · exact ends
  · exact ends

/-! ## When nothing is bound -/

/-- The first of the introductions that a registry does not have. -/
def firstNew (introduced : List (String × Ty)) (registry : Registry) : Option (String × Ty) :=
  introduced.find? fun binding => registry.type? binding.1 ≠ some binding.2

/-- The first of the introductions that is not there already, if there is one, has the name of a
builtin type or one that stands for another type. -/
def Refuses (introduced : List (String × Ty)) (registry : Registry) : Prop :=
  ∀ binding, registry.firstNew introduced = some binding →
    (Ty.builtin? binding.1).isSome = true ∨ (registry.type? binding.1).isSome = true

instance (introduced : List (String × Ty)) (registry : Registry) :
    Decidable (registry.Refuses introduced) :=
  inferInstanceAs (Decidable (∀ binding ∈ registry.firstNew introduced,
    (Ty.builtin? binding.1).isSome = true ∨ (registry.type? binding.1).isSome = true))

theorem refuses_congr {first second : Registry} (same : first.bindings = second.bindings)
    (introduced : List (String × Ty)) : first.Refuses introduced ↔ second.Refuses introduced := by
  have names (name : String) : first.type? name = second.type? name := by
    rw [type?, type?, same]
  simp only [Refuses, firstNew, names]

/-- Introductions of which the first one is new and can be bound do bind it. -/
theorem defineAll_bound_of_free {name : String} (type : Ty) (rest : List (String × Ty))
    {registry : Registry} (spelled : Ty.builtin? name = none) (free : registry.type? name = none) :
    (defineAll ((name, type) :: rest) registry).state.type? name = some type := by
  have extended : (registry.extend name type).Extends
      (defineAll ((name, type) :: rest) registry).state := by
    have state := define_state name type none registry
    rw [if_pos ⟨spelled, free⟩] at state
    rw [← state]
    rw [defineAll, Action.forAll]
    rcases bind_state (define name type none) (fun _ => defineAll rest) registry with
      ⟨_, -, ends⟩ | ⟨_, -, ends⟩
    · exact ends ▸ Extends.refl _
    · exact ends ▸ defineAll_leads rest _
  exact extended.type?_eq (by simp [type?_extend, free])

/-- Introductions bind nothing exactly if the first one that is not there already is refused, since
none behind it is looked at then. -/
theorem defineAll_binds_nothing_iff {introduced : List (String × Ty)} {registry : Registry}
    (apart : ∀ name, (Ty.builtin? name).isSome = true → registry.type? name = none) :
    (defineAll introduced registry).state.bindings = registry.bindings ↔
      registry.Refuses introduced := by
  induction introduced with
  | nil => simp [defineAll, Action.forAll, Refuses, firstNew, Action.pure]
  | cons binding rest ih =>
      obtain ⟨name, type⟩ := binding
      have sequence := bind_state (define name type none) (fun _ => defineAll rest) registry
      by_cases known : registry.type? name = some type
      · have spelled : Ty.builtin? name = none := by
          cases builtin : Ty.builtin? name with
          | none => rfl
          | some spelling =>
              rw [apart name (Option.isSome_of_eq_some builtin)] at known
              cases known
        have step : (define name type none).Yields registry () registry :=
          define_yields.mpr ⟨spelled, .inl ⟨known, rfl⟩⟩
        have skipped : registry.Refuses ((name, type) :: rest) ↔ registry.Refuses rest := by
          simp [Refuses, firstNew, known]
        rw [skipped, ← ih]
        rcases sequence with ⟨_, failed, -⟩ | ⟨_, -, ends⟩
        · rw [step.1] at failed
          cases failed
        · rw [step.2] at ends
          exact ends ▸ Iff.rfl
      · have refuses : registry.Refuses ((name, type) :: rest) ↔
            (Ty.builtin? name).isSome = true ∨ (registry.type? name).isSome = true := by
          simp [Refuses, firstNew, known]
        rw [refuses]
        by_cases free : Ty.builtin? name = none ∧ registry.type? name = none
        · have bound := defineAll_bound_of_free type rest free.1 free.2
          simp only [free.1, free.2, Option.isSome_none, Bool.false_eq_true, or_self, iff_false]
          intro same
          rw [type?, same, ← type?, free.2] at bound
          cases bound
        · have refused : (Ty.builtin? name).isSome = true ∨
              (registry.type? name).isSome = true := by
            rw [Option.isSome_iff_ne_none, Option.isSome_iff_ne_none]
            exact Classical.not_and_iff_not_or_not.mp free
          refine iff_of_true ?_ refused
          rcases sequence with ⟨_, -, ends⟩ | ⟨_, succeeded, -⟩
          · rw [define_state, if_neg free] at ends
            exact congrArg Registry.bindings ends
          · obtain ⟨spelled, ⟨bound, -⟩ | ⟨unbound, -⟩⟩ := define_yields.mp ⟨succeeded, rfl⟩
            · exact absurd bound known
            · exact absurd ⟨spelled, unbound⟩ free

end Registry

end NativeBoundary
