import NativeBoundary.Proofs.Interface.Construction
import NativeBoundary.Proofs.Interface.Leading
import NativeBoundary.Proofs.Interface.Rederivation
import NativeBoundary.Proofs.Registry.Binding
import NativeBoundary.Proofs.Registry.Extension

/-!
# Snapshots

Every operation that changes a list of an interface asks first whether the interface is still
open, and deriving once more gives what is derived already.  Names are bound and types are met
before that, so the registry of a finalized interface can still grow, and nothing else can.
-/

namespace NativeBoundary

open NativeBoundary.Action
open Metadata (Item Group)

namespace Interface

/-- A finalized interface in which everything is derived. -/
structure Frozen (interface : Interface) : Prop where
  closed : interface.finalized = true
  derived : derive.Yields interface () interface

/-- A frozen interface changes in its registry alone, and there as told. -/
def Confined (grows : Registry → Registry → Prop) (before after : Interface) : Prop :=
  Frozen before →
    grows before.registry after.registry ∧ after = { before with registry := after.registry }

/-- Deriving does not look at the registry. -/
theorem Frozen.onRegistry {before after : Interface} (frozen : Frozen before)
    (same : after = { before with registry := after.registry }) : Frozen after := by
  obtain ⟨writable, functions, objects, functionsDone, objectsDone, fixed⟩ :=
    derive_yields.mp frozen.derived
  rw [same]
  refine ⟨frozen.closed, derive_yields.mpr
    ⟨writable, functions, objects, functionsDone, objectsDone, ?_⟩⟩
  exact congrArg (fun interface : Interface => { interface with registry := after.registry }) fixed

section Preorder

variable {grows : Registry → Registry → Prop} [IsPreorder Registry grows]

instance : IsPreorder Interface (Confined grows) where
  refl interface _ := ⟨refl_of grows _, rfl⟩
  trans first second third left right frozen := by
    obtain ⟨grownLeft, sameLeft⟩ := left frozen
    obtain ⟨grownRight, sameRight⟩ := right (frozen.onRegistry sameLeft)
    refine ⟨trans_of grows grownLeft grownRight, ?_⟩
    rw [sameRight, sameLeft]

/-! ## Operations that ask first -/

theorem ensureOpen_bind_state {α : Type} {interface : Interface}
    (closed : interface.finalized = true) (next : Unit → Action Interface α) :
    ((ensureOpen >>= next) interface).state = interface := by
  rcases bind_state ensureOpen next interface with ⟨_, -, ends⟩ | ⟨_, succeeded, -⟩
  · rw [ends, quiet_ensureOpen interface]
  · have isOpen : interface.finalized = false := by
      have ran : ensureOpen.Yields interface () _ := ⟨succeeded, rfl⟩
      simp only [ensureOpen, yields_get_bind, yields_ensure] at ran
      simpa using ran.1
    rw [closed] at isOpen
    cases isOpen

theorem leads_ensureOpen {α : Type} (next : Unit → Action Interface α) :
    Leads (Confined grows) (ensureOpen >>= next) := by
  intro before frozen
  rw [ensureOpen_bind_state frozen.closed]
  exact ⟨refl_of grows _, rfl⟩

theorem leads_addSpace (name : Tag) (location : Option Location) :
    Leads (Confined grows) (addSpace name location) :=
  leads_ensureOpen _

theorem leads_addTo {α : Type} (kind : DeclarationKind) (nameOf : α → String)
    (declared : Interface → List α) (update : List α → Interface → Interface) (item : α) :
    Leads (Confined grows) (addTo kind nameOf declared update item) :=
  leads_ensureOpen _

theorem leads_addFunction (function : Model.Function) (location : Option Location) :
    Leads (Confined grows) (addFunction function location) :=
  leads_ensureOpen _

theorem leads_replaceObject (object : Model.Object) :
    Leads (Confined grows) (replaceObject object) :=
  leads_ensureOpen _

/-- What is derived already is derived again. -/
theorem leads_derive : Leads (Confined grows) derive := by
  intro before frozen
  rw [frozen.derived.2]
  exact ⟨refl_of grows _, rfl⟩

end Preorder

theorem leads_onRegistry {α : Type} {grows : Registry → Registry → Prop}
    {action : Action Registry α} (leads : Leads grows action) :
    Leads (Confined grows) (onRegistry action) :=
  leads_onPart leads fun grown _ => ⟨grown, rfl⟩

/-- What reads before it asks puts types behind the known ones, and nothing else. -/
theorem steady_confined {grows : Registry → Registry → Prop} [IsPreorder Registry grows]
    (meets : ∀ {before after : Registry}, before.Meets after → grows before after) :
    Steady (Confined grows) where
  reading reads := leads_onRegistry fun before => meets (reads.leads before)
  space := leads_addSpace
  record := leads_addTo _ _ _ _
  enum := leads_addTo _ _ _ _
  error := leads_addTo _ _ _ _
  callback := leads_addTo _ _ _ _
  object := leads_addTo _ _ _ _
  function := leads_addFunction
  replacement := leads_replaceObject

/-! ## Calls -/

/-- A call leads where readings and updates do, if binding names and deriving lead there as well. -/
theorem Steady.leads_perform {relation : Interface → Interface → Prop}
    [IsPreorder Interface relation] (steady : Steady relation)
    (discovers : ∀ declarations, Leads relation (onRegistry (Registry.discover declarations)))
    (introduces : ∀ group : Group, Leads relation (onRegistry group.discover))
    (derives : Leads relation derive) (call : Call) : Leads relation call.perform := by
  cases call with
  | space name location => exact steady.space name location
  | enum item => exact steady.enum item
  | record item => exact steady.record item
  | object item => exact steady.object item
  | callback item => exact steady.callback item
  | error item => exact steady.error item
  | function item location => exact steady.function item location
  | replace item => exact steady.replacement item
  | discover declarations => exact discovers declarations
  | declare declarations => exact steady.leads_declare declarations
  | merge items =>
      exact (leads_lift _).bind fun group => (introduces group).bind fun _ =>
        steady.leads_populate group
  | derive => exact derives

end Interface

/-- The call asks whether the interface is open before it does anything, or is answered by what is
derived already. -/
def Call.asksFirst : Call → Bool
  | .discover _ | .declare _ | .merge _ => false
  | _ => true

/-- The names that a call tries to bind before it is refused, each with its type. -/
def Call.attempted : Call → List (String × Ty)
  | .discover declarations => Document.attempted declarations
  | .merge items =>
      match Group.ofItems items with
      | .ok group => group.introduced
      | .error _ => []
  | _ => []

namespace Interface

variable {before : Interface}

theorem leads_of_asksFirst {grows : Registry → Registry → Prop} [IsPreorder Registry grows]
    {call : Call} (asks : call.asksFirst = true) : Leads (Confined grows) call.perform := by
  cases call with
  | space name location => exact leads_addSpace name location
  | enum item => exact leads_addTo _ _ _ _ _
  | record item => exact leads_addTo _ _ _ _ _
  | object item => exact leads_addTo _ _ _ _ _
  | callback item => exact leads_addTo _ _ _ _ _
  | error item => exact leads_addTo _ _ _ _ _
  | function item location => exact leads_addFunction item location
  | replace item => exact leads_replaceObject item
  | derive => exact leads_derive
  | discover declarations => cases asks
  | declare declarations => cases asks
  | merge items => cases asks

theorem leads_perform (call : Call) : Leads (Confined Registry.Extends) call.perform :=
  (steady_confined Registry.Meets.extends).leads_perform
    (fun declarations => leads_onRegistry (Registry.discover_leads declarations))
    (fun group => leads_onRegistry (Registry.defineAll_leads group.introduced)) leads_derive call

theorem perform_state_of_asksFirst (frozen : Frozen before) {call : Call}
    (asks : call.asksFirst = true) : (call.perform before).state = before := by
  obtain ⟨sameRegistry, same⟩ := @leads_of_asksFirst Eq _ call asks before frozen
  rw [same, ← sameRegistry]

/-- What comes behind the names of a group binds nothing. -/
theorem merge_bindings (frozen : Frozen before) (items : List Item) :
    (merge items before).state.registry.bindings =
      (Registry.defineAll (Call.merge items).attempted before.registry).state.bindings := by
  cases grouped : Group.ofItems items with
  | error problem =>
      have state : (merge items before).state = before := by
        unfold merge
        rw [grouped]
        rfl
      simp only [state, Call.attempted, grouped]
      rfl
  | ok group =>
      have state : (merge items before).state =
          ((onRegistry group.discover >>= fun _ => populate group) before).state := by
        unfold merge
        rw [grouped]
        rfl
      have discovered : Frozen (onRegistry group.discover before).state := frozen.onRegistry rfl
      simp only [state, Call.attempted, grouped]
      rcases bind_state (onRegistry group.discover) (fun _ => populate group) before with
        ⟨_, -, ends⟩ | ⟨_, -, ends⟩
      · rw [ends]
        rfl
      · rw [ends]
        exact ((steady_confined id).leads_populate group _ discovered).1.bindings

/-- A frozen interface binds what the call tries to bind, and nothing besides. -/
theorem perform_bindings (frozen : Frozen before) (call : Call) :
    (call.perform before).state.registry.bindings =
      (Registry.defineAll call.attempted before.registry).state.bindings := by
  cases call with
  | discover declarations =>
      exact congrArg Registry.bindings (Registry.discover_state declarations before.registry)
  | declare declarations =>
      exact ((steady_confined id).leads_declare declarations before frozen).1.bindings
  | merge items => exact merge_bindings frozen items
  | _ => rw [perform_state_of_asksFirst frozen rfl]; rfl

/-! ## Sequences of calls -/

/-- The interface after a sequence of calls, any of which may fail; what a call did before it failed
stays done. -/
def attempt (calls : List Call) (interface : Interface) : Interface :=
  calls.foldl (fun current call => (call.perform current).state) interface

theorem attempt_cons (call : Call) (rest : List Call) (interface : Interface) :
    attempt (call :: rest) interface = attempt rest (call.perform interface).state := rfl

theorem attempt_confined (calls : List Call) (interface : Interface) :
    Confined Registry.Extends interface (attempt calls interface) := by
  induction calls generalizing interface with
  | nil => exact refl_of _ interface
  | cons call rest ih =>
      exact trans_of _ (leads_perform call interface) (ih (call.perform interface).state)

/-- A sequence changes nothing exactly if none of its calls does on its own. -/
theorem attempt_eq_iff (frozen : Frozen before) (calls : List Call) :
    attempt calls before = before ↔ ∀ call ∈ calls, (call.perform before).state = before := by
  induction calls with
  | nil => simp [attempt]
  | cons call rest ih =>
      rw [List.forall_mem_cons, ← ih, attempt_cons]
      obtain ⟨grownFirst, sameFirst⟩ := leads_perform call before frozen
      constructor
      · intro unchanged
        have first : (call.perform before).state = before := by
          obtain ⟨grownRest, -⟩ := attempt_confined rest _ (frozen.onRegistry sameFirst)
          rw [unchanged] at grownRest
          rw [sameFirst, ← grownFirst.antisymm grownRest]
        rw [first] at unchanged
        exact ⟨first, unchanged⟩
      · rintro ⟨first, others⟩
        rw [first, others]

/-- A sequence binds nothing exactly if all its calls try to bind only what is refused. -/
theorem attempt_bindings_iff (frozen : Frozen before)
    (apart : ∀ name, (Ty.builtin? name).isSome = true → before.registry.type? name = none)
    (calls : List Call) :
    (attempt calls before).registry.bindings = before.registry.bindings ↔
      ∀ call ∈ calls, before.registry.Refuses call.attempted := by
  induction calls generalizing before with
  | nil => simp [attempt]
  | cons call rest ih =>
      obtain ⟨grownFirst, sameFirst⟩ := leads_perform call before frozen
      have frozenFirst := frozen.onRegistry sameFirst
      obtain ⟨grownRest, -⟩ := attempt_confined rest _ frozenFirst
      have refuses : (call.perform before).state.registry.bindings = before.registry.bindings ↔
          before.registry.Refuses call.attempted := by
        rw [perform_bindings frozen]
        exact Registry.defineAll_binds_nothing_iff apart
      have behind (first : (call.perform before).state.registry.bindings =
          before.registry.bindings) :
          (attempt (call :: rest) before).registry.bindings = before.registry.bindings ↔
            ∀ later ∈ rest, before.registry.Refuses later.attempted := by
        have names (name : String) : (call.perform before).state.registry.type? name =
            before.registry.type? name := by
          rw [Registry.type?, first, ← Registry.type?]
        have apartFirst : ∀ name, (Ty.builtin? name).isSome = true →
            (call.perform before).state.registry.type? name = none := fun name builtin =>
          (names name).trans (apart name builtin)
        rw [attempt_cons, ← first, ih frozenFirst apartFirst]
        simp only [Registry.refuses_congr first]
      rw [List.forall_mem_cons, ← refuses]
      constructor
      · intro unchanged
        have first : (call.perform before).state.registry.bindings = before.registry.bindings := by
          have inside := grownRest.bindings
          rw [← attempt_cons, unchanged] at inside
          exact inside.eq_of_length_le grownFirst.bindings.length_le
        exact ⟨first, (behind first).mp unchanged⟩
      · rintro ⟨first, others⟩
        exact (behind first).mpr others

/-! ## Built interfaces -/

variable {document : Option Document} {items : List Item} {settings : Settings}
  {interface : Interface}

theorem frozen_of_build (built : build document items settings = .ok interface) :
    Frozen interface := by
  obtain ⟨group, plain, derived, -, -, -, derives, rfl⟩ := build_stages built
  obtain ⟨writable, functions, objects, functionsDone, objectsDone, same⟩ :=
    derive_yields.mp (derive_again derives)
  refine ⟨rfl, derive_yields.mpr
    ⟨writable, functions, objects, functionsDone, objectsDone, ?_⟩⟩
  exact congrArg (fun final : Interface => { final with finalized := true }) same

/-- No builtin type is bound under its spelling. -/
theorem builtin_unbound_of_build (built : build document items settings = .ok interface) :
    ∀ name, (Ty.builtin? name).isSome = true → interface.registry.type? name = none := by
  obtain ⟨group, brought, -, brings, sameRegistry, -⟩ := brought_of_build built
  have binds := (plain_of_bring brings).binds
  intro name builtin
  rw [sameRegistry]
  refine Option.eq_none_iff_forall_ne_some.mpr fun type bound => ?_
  rw [binds.free (name, type) (binds.mem_of_bound bound)] at builtin
  cases builtin

/-- After any calls on a built interface, completed or not, nothing differs but its registry, which
has all bindings and types in their order and perhaps more behind them.  All is as it was exactly if
names and known types are, and exactly if no call changes anything on its own, as those that ask
first never do.  Names are as they were exactly if all that the calls try to bind is refused. -/
theorem attempt_of_build (built : build document items settings = .ok interface)
    (calls : List Call) :
    attempt calls interface =
      { interface with registry := (attempt calls interface).registry } ∧
    interface.registry.Extends (attempt calls interface).registry ∧
    (attempt calls interface = interface ↔
      (∀ name, (attempt calls interface).type? name = interface.type? name) ∧
        (attempt calls interface).types = interface.types) ∧
    (attempt calls interface = interface ↔
      ∀ call ∈ calls, (call.perform interface).state = interface) ∧
    (∀ call : Call, call.asksFirst = true → (call.perform interface).state = interface) ∧
    ((∀ name, (attempt calls interface).type? name = interface.type? name) ↔
      ∀ call ∈ calls, interface.registry.Refuses call.attempted) := by
  have frozen := frozen_of_build built
  obtain ⟨grown, same⟩ := attempt_confined calls interface frozen
  have names : (∀ name, (attempt calls interface).type? name = interface.type? name) ↔
      (attempt calls interface).registry.bindings = interface.registry.bindings :=
    grown.bindings_eq_iff.symm.trans eq_comm
  refine ⟨same, grown, ?_, attempt_eq_iff frozen calls,
    fun call asks => perform_state_of_asksFirst frozen asks, ?_⟩
  · rw [names]
    constructor
    · intro unchanged
      rw [unchanged]
      exact ⟨rfl, rfl⟩
    · rintro ⟨bindings, known : _ = interface.registry.known⟩
      have back : (attempt calls interface).registry.Extends interface.registry :=
        ⟨bindings.symm ▸ List.prefix_rfl, known.symm ▸ List.prefix_rfl, .inl bindings⟩
      exact same.trans (by rw [← grown.antisymm back])
  · rw [names]
    exact attempt_bindings_iff frozen (builtin_unbound_of_build built) calls

/-- Calls that are refused, and calls that find everything done already. -/
def idleCalls : List Call := [
  .function { name := "late" } none,
  .discover shopDocument.definitions,
  .merge [.enum { crateModule := "shop", name := "Store" }],
  .derive]

theorem attempt_of_build_shop :
    ∃ interface, build (some shopDocument) shopItems {} = .ok interface ∧
      attempt idleCalls interface = interface := by
  have built := build_ok_of_result
    (by decide +kernel : (buildOutcome (some shopDocument) shopItems {}).result = .ok ())
  obtain ⟨-, -, unchanged, -, -, names⟩ := attempt_of_build built idleCalls
  exact ⟨_, built, unchanged.mpr ⟨names.mpr (by decide +kernel), by decide +kernel⟩⟩

/-- A record of the metadata cannot be added to a built interface, but its name is bound before that
is found out. -/
theorem attempt_binds_late :
    ∃ interface,
      build (some { definitions := [{ name := "shop", body := .space [] }] }) [] {} =
        .ok interface ∧
      interface.type? "Late" = none ∧
      (attempt [.merge [lateRecord "Late"]] interface).type? "Late" =
        some (.named .record "Late") := by
  have built := build_ok_of_result (by decide +kernel : (buildOutcome
    (some { definitions := [{ name := "shop", body := .space [] }] }) [] {}).result = .ok ())
  exact ⟨_, built, by decide +kernel, by decide +kernel⟩

end Interface

end NativeBoundary
