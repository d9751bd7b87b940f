import NativeBoundary.Document.Detail
import NativeBoundary.Metadata.Merge
import NativeBoundary.Proofs.Action.Run
import NativeBoundary.Proofs.Model.Uses
import NativeBoundary.Proofs.Registry.Binding

/-!
# Types that a registry learns

Resolving an expression records the type that it stands for together with its layers, and nothing
else.  So a conversion leaves in the registry the layers of the types that its result uses.  The
rules below are those of a triple: if the registry has learned the uses given first, it has learned
the uses given last when the action is completed.
-/

namespace NativeBoundary

/-- No name stands for an optional, a sequence or a map. -/
def Names.Unlayered (names : Names) : Prop :=
  ∀ {name type}, names.meaning name = some type → type.kind.isStructural = false

namespace Registry

open NativeBoundary.Action
open Model (Field Variant)

variable {α β : Type} {names : Names} {uses : List Ty}

/-- Beyond the types known from elsewhere, the layers of the used types are known, and no others. -/
structure Learned (names : Names) (known : Ty → Prop) (uses : List Ty) (registry : Registry) :
    Prop where
  names_eq : registry.names = names
  known_iff : ∀ type, type ∈ registry.known ↔ known type ∨ ∃ use ∈ uses, type ∈ use.layers

def Learns (names : Names) (uses : List Ty) (action : Action Registry α) (learned : α → List Ty) :
    Prop :=
  ∀ ⦃known before value after⦄, Learned names known uses before →
    action.Yields before value after → Learned names known (learned value) after

namespace Learns

theorem pure {value : α} {learned : α → List Ty} (same : uses = learned value) :
    Learns names uses (Pure.pure value) learned := by
  intro known before given after holds ran
  obtain ⟨rfl, rfl⟩ := yields_pure.mp ran
  rwa [← same]

theorem lift (result : Except Problem α) :
    Learns names uses (Action.lift result) fun _ => uses := by
  intro known before given after holds ran
  obtain ⟨-, rfl⟩ := yields_lift.mp ran
  exact holds

theorem fail (problem : Problem) (learned : α → List Ty) :
    Learns names uses (Action.fail problem : Action Registry α) learned := by
  intro known before given after holds ran
  exact (yields_fail.mp ran).elim

theorem fail_bind (problem : Problem) (next : α → Action Registry β) (learned : β → List Ty) :
    Learns names uses (Action.fail problem >>= next) learned := by
  intro known before given after holds ran
  exact (yields_fail_bind.mp ran).elim

/-- In which order types are used does not matter. -/
theorem congr {action : Action Registry α} {learned other : α → List Ty}
    (learns : Learns names uses action learned)
    (same : ∀ value use, use ∈ learned value ↔ use ∈ other value) :
    Learns names uses action other := by
  intro known before value after holds ran
  have result := learns holds ran
  exact ⟨result.names_eq, by simpa only [same] using result.known_iff⟩

theorem bind {first : Action Registry α} {next : α → Action Registry β}
    {middle : α → List Ty} {learned : β → List Ty} (learnsFirst : Learns names uses first middle)
    (learnsNext : ∀ value, Learns names (middle value) (next value) learned) :
    Learns names uses (first >>= next) learned := by
  intro known before value after holds ran
  obtain ⟨given, between, ranFirst, rest⟩ := yields_bind.mp ran
  exact learnsNext given (learnsFirst holds ranFirst) rest

/-- The items of a list are read one after the other. -/
theorem each {action : α → Action Registry β} {usesOf : β → List Ty}
    (learns : ∀ uses item, Learns names uses (action item) fun value => uses ++ usesOf value)
    (uses : List Ty) (items : List α) :
    Learns names uses (Action.each action items) fun values => uses ++ values.flatMap usesOf := by
  induction items generalizing uses with
  | nil => exact Learns.pure (by simp)
  | cons item rest ih =>
      refine (learns uses item).bind fun first => ?_
      refine (ih (uses ++ usesOf first)).bind fun others => Learns.pure ?_
      rw [List.flatMap_cons, List.append_assoc]

/-- The items of a list use one type each. -/
theorem eachOne {action : α → Action Registry β} {typeOf : β → Ty}
    (learns : ∀ uses item, Learns names uses (action item) fun value => uses ++ [typeOf value])
    (uses : List Ty) (items : List α) :
    Learns names uses (Action.each action items) fun values => uses ++ values.map typeOf := by
  simp only [List.map_eq_flatMap]
  exact each learns uses items

end Learns

theorem mem_known_record {type other : Ty} {registry : Registry} :
    other ∈ (registry.record type).known ↔ other ∈ registry.known ∨ other = type := by
  unfold record
  split
  · next known =>
    constructor
    · exact Or.inl
    · rintro (before | rfl)
      · exact before
      · exact known
  · simp

theorem learned_record {known : Ty → Prop} {parts : List Ty} {type : Ty} {registry : Registry}
    (layers : ∀ other, other ∈ type.layers ↔ other = type ∨ ∃ part ∈ parts, other ∈ part.layers)
    (holds : Learned names known (uses ++ parts) registry) :
    Learned names known (uses ++ [type]) (registry.record type) where
  names_eq := (names_eq_of_bindings (bindings_record type registry)).trans holds.names_eq
  known_iff other := by
    rw [mem_known_record, holds.known_iff]
    simp only [List.mem_append, List.mem_singleton, or_and_right, exists_or, exists_eq_left, layers]
    grind

/-- A type is recorded around the parts that are known already. -/
theorem settle_learns {parts : List Ty} {type : Ty} (nullable : Bool)
    (layers : ∀ other, other ∈ type.layers ↔ other = type ∨ ∃ part ∈ parts, other ∈ part.layers) :
    Learns names (uses ++ parts) (settle nullable type) fun settled => uses ++ [settled] := by
  intro known before value after holds ran
  have recorded := learned_record layers holds
  unfold settle at ran
  rw [yields_modify_bind] at ran
  cases nullable with
  | false =>
      obtain ⟨rfl, rfl⟩ := yields_pure.mp ran
      exact recorded
  | true =>
      rw [if_pos rfl, yields_modify_bind] at ran
      obtain ⟨rfl, rfl⟩ := yields_pure.mp ran
      exact learned_record (fun other => by simp [Ty.layers_optional]) recorded

theorem resolveName_learns (unlayered : names.Unlayered) (nullable : Bool) (name : String)
    (location : Option Location) :
    Learns names uses (resolveName name location >>= settle nullable)
      fun type => uses ++ [type] := by
  intro known before value after holds ran
  obtain ⟨type, middle, resolved, settles⟩ := yields_bind.mp ran
  obtain ⟨denotes, rfl⟩ : TypeExpr.denoteName before.names name location = .ok type ∧
      middle = before := by
    obtain ⟨succeeded, rfl⟩ := resolved
    rw [resolveName_run] at succeeded ⊢
    exact ⟨succeeded, rfl⟩
  have meaning : names.meaning name = some type := by
    rw [← holds.names_eq]
    unfold TypeExpr.denoteName at denotes
    split at denotes
    · next found meant =>
      cases denotes
      exact meant
    · cases denotes
  have single := Ty.layers_of_not_structural (unlayered meaning)
  rw [← List.append_nil uses] at holds
  exact settle_learns nullable (fun other => by simp [single]) holds settles

theorem resolve_learns (unlayered : names.Unlayered) : ∀ (uses : List Ty) (expr : TypeExpr),
    Learns names uses (resolve expr) fun type => uses ++ [type]
  | uses, ⟨.sequence, _, some element, _, _, nullable, _⟩ =>
      (resolve_learns unlayered uses element).bind fun inner =>
        settle_learns nullable fun other => by simp [Ty.layers_sequence]
  | _, ⟨.sequence, _, none, _, _, _, _⟩ => Learns.fail _ _
  | uses, ⟨.map, _, _, some key, some value, nullable, _⟩ =>
      (resolve_learns unlayered uses key).bind fun keyType =>
        (resolve_learns unlayered (uses ++ [keyType]) value).bind fun valueType => by
          rw [List.append_assoc]
          exact settle_learns nullable fun other => by simp [Ty.layers_map]
  | _, ⟨.map, _, _, none, _, _, _⟩ => Learns.fail _ _
  | _, ⟨.map, _, _, some _, none, _, _⟩ => Learns.fail _ _
  | _, ⟨.identifier, name, _, _, _, nullable, location⟩ =>
      resolveName_learns unlayered nullable (name.getD "") location
termination_by structural _ expr => expr

/-! ## Types known from discovery -/

/-- A registry knows the types that its names stand for, and no others. -/
def Tallies (registry : Registry) : Prop :=
  ∀ type, type ∈ registry.known ↔ ∃ name, registry.type? name = some type

theorem tallies_empty : Tallies {} := by
  intro type
  simp [type?]

/-- Binding a new name makes its type one of those that names stand for. -/
theorem exists_type?_extend {name : String} {type other : Ty} {registry : Registry}
    (unbound : registry.type? name = none) :
    (∃ asked, (registry.extend name type).type? asked = some other) ↔
      (∃ asked, registry.type? asked = some other) ∨ other = type := by
  simp only [type?_extend]
  constructor
  · rintro ⟨asked, bound⟩
    rcases Option.or_eq_some_iff.mp bound with older | ⟨-, newer⟩
    · exact .inl ⟨asked, older⟩
    · right
      by_cases same : asked = name
      · rw [same] at newer
        simpa [eq_comm] using newer
      · simp [List.lookup_cons, beq_false_of_ne same] at newer
  · rintro (⟨asked, older⟩ | rfl)
    · exact ⟨asked, by rw [older, Option.some_or]⟩
    · exact ⟨name, by simp [unbound]⟩

/-- What is known beside the types of names stays the same while names are bound. -/
theorem mem_known_of_define {name : String} {type : Ty} {location : Option Location}
    {others : Ty → Prop} {before after : Registry} {value : Unit}
    (tallies : ∀ known, known ∈ before.known ↔
      (∃ asked, before.type? asked = some known) ∨ others known)
    (ran : (define name type location).Yields before value after) (known : Ty) :
    known ∈ after.known ↔ (∃ asked, after.type? asked = some known) ∨ others known := by
  obtain ⟨-, ⟨-, rfl⟩ | ⟨unbound, rfl⟩⟩ := define_yields.mp ran
  · exact tallies known
  · rw [exists_type?_extend unbound, extend, mem_known_record]
    exact (or_congr_left (tallies known)).trans or_right_comm

namespace Tallies

theorem define {name : String} {type : Ty} {location : Option Location} {before after : Registry}
    {value : Unit} (tallies : Tallies before)
    (ran : (define name type location).Yields before value after) : Tallies after := by
  have beside (known : Ty) : known ∈ before.known ↔
      (∃ asked, before.type? asked = some known) ∨ False :=
    (tallies known).trans (or_iff_left id).symm
  exact fun known => (mem_known_of_define beside ran known).trans (or_iff_left id)

theorem discoverOne {declaration : Document.Declaration} {before after : Registry} {value : Bool}
    (tallies : Tallies before) (ran : (discoverOne declaration).Yields before value after) :
    Tallies after := by
  obtain ⟨introduced, -, rest⟩ := yields_lift_bind.mp ran
  cases introduced with
  | none =>
      obtain ⟨-, rfl⟩ := yields_pure.mp rest
      exact tallies
  | some type =>
      obtain ⟨_, bound, finished⟩ := yields_bind_unit.mp rest
      obtain ⟨-, rfl⟩ := yields_pure.mp finished
      exact tallies.define bound

theorem discover {declarations : List Document.Declaration} {before after : Registry}
    {value : Unit} (tallies : Tallies before)
    (ran : (discover declarations).Yields before value after) : Tallies after := by
  simp only [Registry.discover, yields_bind, yields_note] at ran
  obtain ⟨introduced, middle, each, rfl⟩ := ran
  induction declarations generalizing introduced before with
  | nil =>
      obtain ⟨-, rfl⟩ := yields_actionPure.mp each
      exact tallies
  | cons declaration rest ih =>
      simp only [Action.each, yields_bind, yields_actionPure] at each
      obtain ⟨first, second, bound, others, last, ran, -, rfl⟩ := each
      exact ih (tallies.discoverOne bound) others ran

theorem defineAll {introduced : List (String × Ty)} {before after : Registry} {value : Unit}
    (tallies : Tallies before)
    (ran : (Action.forAll (fun binding =>
      Registry.define binding.1 binding.2 none) introduced).Yields
      before value after) : Tallies after :=
  forAll_invariant (fun _ _ _ _ step talliesFirst => talliesFirst.define step) ran tallies

end Tallies

theorem Binds.unlayered {introduced : List (String × Ty)} {registry : Registry}
    (binds : Binds introduced {} registry)
    (each : ∀ binding ∈ introduced, binding.2.Introduction binding.1) :
    registry.names.Unlayered := by
  intro name type meant
  rcases Option.or_eq_some_iff.mp meant with spelled | ⟨-, bound⟩
  · obtain ⟨kind, isBuiltin, rfl⟩ := Ty.eq_builtin_of_builtin? spelled
    change kind.isStructural = false
    cases kind <;> first | rfl | cases isBuiltin
  · have introduction : type.Introduction name := each _ (binds.mem_of_bound bound)
    cases introduction with
    | @declared kind declares =>
        change kind.isStructural = false
        cases kind <;> first | rfl | cases declares
    | external source => rfl
    | custom isBuiltin => rfl

end Registry

end NativeBoundary
