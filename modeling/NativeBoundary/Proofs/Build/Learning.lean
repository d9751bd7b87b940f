import NativeBoundary.Proofs.Build.Joining
import NativeBoundary.Proofs.Build.Occurrence
import NativeBoundary.Proofs.Registry.Learning

/-!
# Types that an interface knows

A built interface knows the types that its names stand for and the layers of the types that its
declarations use, and no other types.  Every conversion leaves the layers of what its result uses in
the registry, and that result is then put into the interface.
-/

namespace NativeBoundary

open Registry (Learns)

variable {names : Names}

/-! ## Conversions of a document -/

namespace Document

variable (unlayered : names.Unlayered)

include unlayered

theorem Argument.convert_learns (uses : List Ty) (argument : Argument) :
    Learns names uses argument.convert fun read => uses ++ [read.type] :=
  (Learns.lift _).bind fun _ => (Registry.resolve_learns unlayered uses argument.type).bind
    fun _ => (Learns.lift _).bind fun _ => Learns.pure rfl

theorem Member.convert_learns (uses : List Ty) (member : Member) :
    Learns names uses member.convert fun read => uses ++ [read.type] :=
  (Learns.lift _).bind fun _ => (Registry.resolve_learns unlayered uses member.type).bind
    fun _ => (Learns.lift _).bind fun _ => Learns.pure rfl

theorem resolveResult_learns (uses : List Ty) : ∀ result : Option TypeExpr,
    Learns names uses (resolveResult result) fun read => uses ++ read.toList
  | none => Learns.pure (by simp)
  | some expr => (Registry.resolve_learns unlayered uses expr).bind fun _ => Learns.pure rfl

theorem Operation.toFunction_learns (uses : List Ty) (operation : Operation) :
    Learns names uses operation.toFunction fun read => uses ++ read.uses :=
  (Learns.lift _).bind fun _ =>
    (Learns.eachOne (Argument.convert_learns unlayered) uses operation.arguments).bind fun _ =>
      (resolveResult_learns unlayered _ operation.result).bind fun _ =>
        Learns.pure (List.append_assoc _ _ _)

theorem Operation.toMethod_learns (owner : String) (uses : List Ty) (operation : Operation) :
    Learns names uses (operation.toMethod owner) fun read => uses ++ read.uses :=
  (Learns.lift _).bind fun _ =>
    (Learns.eachOne (Argument.convert_learns unlayered) uses operation.arguments).bind fun _ =>
      (resolveResult_learns unlayered _ operation.result).bind fun _ =>
        Learns.pure (List.append_assoc _ _ _)

theorem Operation.variantField_learns (uses : List Ty) (argument : Argument) :
    Learns names uses (variantField argument) fun read => uses ++ [read.type] :=
  (Registry.resolve_learns unlayered uses argument.type).bind fun _ => Learns.pure rfl

theorem Operation.toVariant_learns (owner : String) (uses : List Ty) (operation : Operation) :
    Learns names uses (operation.toVariant owner) fun read => uses ++ read.uses := by
  unfold toVariant
  split
  · exact Learns.fail_bind _ _ _
  · exact (Learns.lift _).bind fun _ =>
      (Learns.eachOne (variantField_learns unlayered) uses operation.arguments).bind
        fun _ => Learns.pure rfl

theorem Constructor.convert_learns (uses : List Ty) (constructor : Constructor) :
    Learns names uses constructor.convert fun read => uses ++ read.uses :=
  (Learns.lift _).bind fun _ =>
    (Learns.eachOne (Argument.convert_learns unlayered) uses constructor.arguments).bind
      fun _ => Learns.pure rfl

namespace Declaration

variable (declaration : Declaration)

theorem toRecord_learns (members : List Member) (uses : List Ty) :
    Learns names uses (declaration.toRecord members) fun read => uses ++ read.uses :=
  (Learns.lift _).bind fun _ => (Learns.lift _).bind fun _ =>
    (Learns.eachOne (Member.convert_learns unlayered) uses members).bind fun _ => Learns.pure rfl

theorem toVariants_learns (constructors : List Constructor) (operations : List Operation)
    (uses : List Ty) :
    Learns names uses (declaration.toVariants constructors operations)
      fun read => uses ++ read.flatMap Model.Variant.uses := by
  cases constructors with
  | nil =>
      exact (Learns.lift _).bind fun _ =>
        Learns.each (Operation.toVariant_learns unlayered declaration.name) uses operations
  | cons first rest => exact Learns.fail_bind _ _ _

theorem toObject_learns (attributes : List Attribute) (constructors : List Constructor)
    (operations : List Operation) (uses : List Ty) :
    Learns names uses (declaration.toObject attributes constructors operations)
      fun read => uses ++ read.uses := by
  have inOrder : Learns names uses (declaration.toObject attributes constructors operations)
      fun read => uses ++ read.constructors.flatMap Model.Constructor.uses ++
        read.methods.flatMap Model.Method.uses :=
    (Learns.each (Constructor.convert_learns unlayered) uses constructors).bind fun _ =>
      (Learns.lift _).bind fun _ => (Learns.lift _).bind fun _ => (Learns.lift _).bind fun _ =>
        (Learns.each (Operation.toMethod_learns unlayered declaration.name) _ operations).bind
          fun _ => Learns.pure rfl
  refine inOrder.congr fun object use => ?_
  simp only [Model.Object.uses, List.mem_append]
  grind

theorem toCallback_learns (operations : List Operation) (uses : List Ty) :
    Learns names uses (declaration.toCallback operations) fun read => uses ++ read.uses :=
  (Learns.lift _).bind fun _ => (Learns.lift _).bind fun _ =>
    (Learns.each (Operation.toMethod_learns unlayered declaration.name) uses operations).bind
      fun _ => Learns.pure rfl

end Declaration

end Document

/-! ## Conversions of metadata -/

namespace Metadata

section Items

variable (unlayered : names.Unlayered)

include unlayered

theorem resolveText_learns (uses : List Ty) (text : String) :
    Learns names uses (resolveText text) fun type => uses ++ [type] :=
  (Learns.lift _).bind fun expr => Registry.resolve_learns unlayered uses expr

theorem resolveOutput_learns (uses : List Ty) (output : Option String) :
    Learns names uses (resolveOutput output) fun result => uses ++ result.toList := by
  cases output with
  | none => exact Learns.pure (by simp)
  | some text =>
      by_cases blank : text = ""
      · rw [resolveOutput, if_pos blank]
        exact Learns.pure (by simp)
      · rw [resolveOutput, if_neg blank]
        exact (resolveText_learns unlayered uses text).bind fun _ => Learns.pure rfl

theorem Slot.toField_learns (uses : List Ty) (slot : Slot) :
    Learns names uses slot.toField fun field => uses ++ [field.type] :=
  (resolveText_learns unlayered uses slot.type).bind fun _ => Learns.pure rfl

theorem Slot.toArgument_learns (uses : List Ty) (slot : Slot) :
    Learns names uses slot.toArgument fun argument => uses ++ [argument.type] :=
  (resolveText_learns unlayered uses slot.type).bind fun _ => Learns.pure rfl

theorem Variant.convert_learns (uses : List Ty) (variant : Variant) :
    Learns names uses variant.convert fun read => uses ++ read.uses :=
  (Learns.eachOne (Slot.toField_learns unlayered) uses variant.fields).bind fun _ =>
    Learns.pure rfl

theorem Record.convert_learns (item : Record) (uses : List Ty) :
    Learns names uses item.convert fun read => uses ++ read.uses :=
  (Learns.eachOne (Slot.toField_learns unlayered) uses item.fields).bind fun _ => Learns.pure rfl

theorem Enum.convert_learns (item : Enum) (uses : List Ty) :
    Learns names uses item.convert fun read => uses ++ read.uses :=
  (Learns.each (Variant.convert_learns unlayered) uses item.variants).bind fun _ => Learns.pure rfl

theorem Error.convert_learns (item : Error) (uses : List Ty) :
    Learns names uses item.convert fun read => uses ++ read.uses := by
  unfold convert
  split
  · exact Learns.pure (by simp [Model.Union.uses, Model.Variant.uses])
  · exact (Learns.each (Variant.convert_learns unlayered) uses item.variants).bind fun _ =>
      Learns.pure rfl

theorem Function.convert_learns (item : Function) (uses : List Ty) :
    Learns names uses item.convert fun read => uses ++ read.uses :=
  (Learns.eachOne (Slot.toArgument_learns unlayered) uses item.inputs).bind fun _ =>
    (resolveOutput_learns unlayered _ item.output).bind fun _ =>
      Learns.pure (List.append_assoc _ _ _)

theorem Constructor.convert_learns (item : Constructor) (uses : List Ty) :
    Learns names uses item.convert fun read => uses ++ read.uses :=
  (Learns.eachOne (Slot.toArgument_learns unlayered) uses item.inputs).bind fun _ => Learns.pure rfl

theorem Method.convert_learns (owner : String) (item : Method) (uses : List Ty) :
    Learns names uses (item.convert owner) fun read => uses ++ read.uses :=
  (Learns.eachOne (Slot.toArgument_learns unlayered) uses item.inputs).bind fun _ =>
    (resolveOutput_learns unlayered _ item.output).bind fun _ =>
      Learns.pure (List.append_assoc _ _ _)

end Items

end Metadata

namespace Interface

open NativeBoundary.Action Document Metadata

variable {before after : Interface} {value : Unit}

/-! ## What an interface knows -/

/-- An interface knows what its names stand for and the layers of what its declarations use. -/
structure Knows (interface : Interface) : Prop where
  unlayered : interface.names.Unlayered
  known_iff : ∀ type, type ∈ interface.types ↔
    (∃ name, interface.type? name = some type) ∨ ∃ use ∈ interface.uses, type ∈ use.layers

/-- Nothing about types changed except that more of them are used. -/
structure UsesMore (uses : List Ty) (before after : Interface) : Prop where
  registry : after.registry = before.registry
  mem_uses : ∀ use, use ∈ after.uses ↔ use ∈ before.uses ∨ use ∈ uses

namespace Knows

theorem usesMore_nothing (knows : Knows before) (more : UsesMore [] before after) :
    Knows after where
  unlayered := by
    unfold names
    rw [more.registry]
    exact knows.unlayered
  known_iff type := by
    have same : ∀ use, use ∈ after.uses ↔ use ∈ before.uses := by simpa using more.mem_uses
    simp only [types, type?, more.registry, same]
    exact knows.known_iff type

/-- A reading leaves in the registry what its result uses, wherever that is put. -/
theorem reading {α : Type} {action : Action Registry α} {uses : α → List Ty}
    {denoted : Names → Except Problem α} {add : α → Action Interface Unit} (knows : Knows before)
    (reads : Registry.Reads action denoted)
    (learns : ∀ given, Learns before.names given action fun item => given ++ uses item)
    (adds : ∀ {item middle}, SameBindings before middle → (add item).Yields middle value after →
      UsesMore (uses item) middle after)
    (ran : (onRegistry action >>= add).Yields before value after) : Knows after := by
  obtain ⟨item, middle, read, added⟩ := yields_bind.mp ran
  obtain ⟨-, same⟩ := onRegistry_yields_of_reads reads read
  have more := adds same added
  obtain ⟨registry, ran, rfl⟩ := onRegistry_yields.mp read
  have learned : Registry.Learned before.names (fun type => ∃ name, before.type? name = some type)
      (before.uses ++ uses item) registry :=
    learns before.uses ⟨rfl, knows.known_iff⟩ ran
  have sameNames : after.names = before.names := by
    unfold names
    rw [more.registry]
    exact learned.names_eq
  refine ⟨sameNames ▸ knows.unlayered, fun type => ?_⟩
  have bound (name : String) : after.type? name = before.type? name := congrFun sameNames name
  have mem (use : Ty) : use ∈ after.uses ↔ use ∈ before.uses ++ uses item := by
    rw [more.mem_uses, List.mem_append]
    rfl
  simp only [types, bound, mem]
  rw [more.registry]
  exact learned.known_iff type

end Knows

theorem mem_uses_iff {use : Ty} {interface : Interface} :
    use ∈ interface.uses ↔
      (∃ record ∈ interface.records, use ∈ record.uses) ∨
      (∃ union ∈ interface.enums, use ∈ union.uses) ∨
      (∃ union ∈ interface.errors, use ∈ union.uses) ∨
      (∃ object ∈ interface.objects, use ∈ object.uses) ∨
      (∃ callback ∈ interface.callbacks, use ∈ callback.uses) ∨
      ∃ function ∈ interface.functions, use ∈ function.uses := by
  simp only [uses, List.mem_append, List.mem_flatMap, or_assoc]

theorem usesMore_of_addTo {α : Type} {kind : DeclarationKind} {nameOf : α → String}
    {declared : Interface → List α} {update : List α → Interface → Interface} {item : α}
    {uses : List Ty}
    (puts : ∀ interface, UsesMore uses interface (update (declared interface ++ [item]) interface))
    (ran : (addTo kind nameOf declared update item).Yields before value after) :
    UsesMore uses before after := by
  obtain ⟨-, -, rfl⟩ := addTo_yields.mp ran
  exact puts before

theorem usesMore_of_addRecord {record : Model.Record} :
    (addRecord record).Yields before value after → UsesMore record.uses before after :=
  usesMore_of_addTo fun _ => ⟨rfl, fun _ => by simp only [mem_uses_iff]; grind⟩

theorem usesMore_of_addEnum {union : Model.Union} :
    (addEnum union).Yields before value after → UsesMore union.uses before after :=
  usesMore_of_addTo fun _ => ⟨rfl, fun _ => by simp only [mem_uses_iff]; grind⟩

theorem usesMore_of_addError {union : Model.Union} :
    (addError union).Yields before value after → UsesMore union.uses before after :=
  usesMore_of_addTo fun _ => ⟨rfl, fun _ => by simp only [mem_uses_iff]; grind⟩

theorem usesMore_of_addCallback {callback : Model.CallbackInterface} :
    (addCallback callback).Yields before value after → UsesMore callback.uses before after :=
  usesMore_of_addTo fun _ => ⟨rfl, fun _ => by simp only [mem_uses_iff]; grind⟩

theorem usesMore_of_addObject {object : Model.Object} :
    (addObject object).Yields before value after → UsesMore object.uses before after :=
  usesMore_of_addTo fun _ => ⟨rfl, fun _ => by simp only [mem_uses_iff]; grind⟩

theorem usesMore_of_addFunction {function : Model.Function} {location : Option Location}
    (ran : (addFunction function location).Yields before value after) :
    UsesMore function.uses before after := by
  obtain ⟨-, -, -, rfl⟩ := addFunction_yields.mp ran
  exact ⟨rfl, fun _ => by simp only [mem_uses_iff]; grind⟩

theorem usesMore_of_addSpace {name : Tag} {location : Option Location}
    (ran : (addSpace name location).Yields before value after) : UsesMore [] before after := by
  obtain ⟨-, -, rfl⟩ := addSpace_yields.mp ran
  exact ⟨rfl, fun _ => by simp [uses]⟩

namespace Knows

theorem addOperation {operation : Operation} (knows : Knows before)
    (ran : (addOperation operation).Yields before value after) : Knows after :=
  knows.reading operation.toFunction_reads
    (fun given => Operation.toFunction_learns knows.unlayered given operation)
    (fun _ => usesMore_of_addFunction) ran

theorem declareOne {declaration : Declaration} (knows : Knows before)
    (ran : (declareOne declaration).Yields before value after) : Knows after := by
  unfold Interface.declareOne at ran
  cases shape : declaration.body with
  | space functions =>
      simp only [shape, yields_lift_bind, yields_bind_unit] at ran
      obtain ⟨_, -, middle, spaced, added⟩ := ran
      exact forAll_invariant (fun _ _ _ _ step knowsFirst => knowsFirst.addOperation step) added
        (knows.usesMore_nothing (usesMore_of_addSpace spaced))
  | dictionary members =>
      simp only [shape] at ran
      exact knows.reading (declaration.toRecord_reads members)
        (declaration.toRecord_learns knows.unlayered members) (fun _ => usesMore_of_addRecord) ran
  | enum values =>
      simp only [shape, yields_lift_bind] at ran
      obtain ⟨attributes, -, _, -, added⟩ := ran
      have nothing : (⟨declaration.name, values.map fun value => { name := value }⟩ :
          Model.Union).uses = [] := by
        simp [Model.Union.uses, Model.Variant.uses]
      split at added
      · have more := usesMore_of_addError added
        rw [nothing] at more
        exact knows.usesMore_nothing more
      · have more := usesMore_of_addEnum added
        rw [nothing] at more
        exact knows.usesMore_nothing more
  | interface constructors operations =>
      simp only [shape, yields_lift_bind] at ran
      obtain ⟨attributes, -, added⟩ := ran
      have readsVariants := declaration.toVariants_reads constructors operations
      have learnsVariants := declaration.toVariants_learns knows.unlayered constructors operations
      split at added
      · exact knows.reading readsVariants learnsVariants (fun _ => usesMore_of_addEnum) added
      · split at added
        · exact knows.reading readsVariants learnsVariants (fun _ => usesMore_of_addError) added
        · exact knows.reading (declaration.toObject_reads attributes constructors operations)
            (declaration.toObject_learns knows.unlayered attributes constructors operations)
            (fun _ => usesMore_of_addObject) added
  | callbackInterface operations =>
      simp only [shape] at ran
      exact knows.reading (declaration.toCallback_reads operations)
        (declaration.toCallback_learns knows.unlayered operations)
        (fun _ => usesMore_of_addCallback) ran
  | typedef typeName =>
      simp only [shape] at ran
      obtain ⟨-, rfl⟩ := yields_pure.mp ran
      exact knows

theorem declare {declarations : List Declaration} (knows : Knows before)
    (ran : (declare declarations).Yields before value after) : Knows after :=
  forAll_invariant (fun _ _ _ _ step knowsFirst => knowsFirst.declareOne step) ran knows

theorem mergeObject {item : Metadata.Object} (knows : Knows before)
    (ran : (mergeObject item).Yields before value after) : Knows after := by
  rcases mergeObject_yields.mp ran with ⟨-, rfl⟩ | ⟨-, -, rfl⟩
  · exact knows
  · refine knows.usesMore_nothing ⟨rfl, fun _ => ?_⟩
    simp [uses, Model.Object.uses]

theorem stand {group : Group} (knows : Knows before)
    (ran : (stand group).Yields before value after) : Knows after := by
  simp only [Interface.stand, yields_bind_unit] at ran
  obtain ⟨_, records, _, enums, _, errors, _, objects, functions⟩ := ran
  have first := forAll_invariant (fun item _ _ _ step knowsFirst =>
    knowsFirst.reading item.convert_reads (item.convert_learns knowsFirst.unlayered)
      (fun _ => usesMore_of_addRecord) step) records knows
  have second := forAll_invariant (fun item _ _ _ step knowsFirst =>
    knowsFirst.reading item.convert_reads (item.convert_learns knowsFirst.unlayered)
      (fun _ => usesMore_of_addEnum) step) enums first
  have third := forAll_invariant (fun item _ _ _ step knowsFirst =>
    knowsFirst.reading item.convert_reads (item.convert_learns knowsFirst.unlayered)
      (fun _ => usesMore_of_addError) step) errors second
  have fourth := forAll_invariant (fun _ _ _ _ step knowsFirst =>
    knowsFirst.mergeObject step) objects third
  exact forAll_invariant (fun item _ _ _ step knowsFirst =>
    knowsFirst.reading item.convert_reads (item.convert_learns knowsFirst.unlayered)
      (fun _ => usesMore_of_addFunction) step) functions fourth

/-- A member goes with its uses to the object of its owner's name. -/
theorem joining {β : Type} {kind : MemberKind} {owner name : String} {uses : β → List Ty}
    {convert : String → Action Registry β} {denoted : String → Names → Except Problem β}
    (put : Model.Object → β → Model.Object) (knows : Knows before)
    (reads : ∀ owner, Registry.Reads (convert owner) (denoted owner))
    (learns : ∀ owner given,
      Learns before.names given (convert owner) fun item => given ++ uses item)
    (putName : ∀ object item, (put object item).name = object.name)
    (putUses : ∀ object item use,
      use ∈ (put object item).uses ↔ use ∈ object.uses ∨ use ∈ uses item)
    (ran : (owningObject owner name >>= fun object => ensureNewMember kind name object >>= fun _ =>
      onRegistry (convert object.name) >>= fun item =>
        replaceObject (put object item)).Yields before value after) : Knows after := by
  obtain ⟨object, found, -, rest⟩ := joining_yields.mp ran
  refine knows.reading (reads object.name) (learns object.name) ?_ rest
  rintro item middle ⟨registry, -, rfl⟩ replaces
  obtain ⟨-, objects, replaced, rfl⟩ := replaceObject_yields.mp replaces
  obtain ⟨-, named⟩ := object?_eq_some found
  obtain ⟨front, rest, split, replacedHere⟩ := replaceFirst_of_object? found
    ((putName object item).trans named)
  cases replaced.symm.trans replacedHere
  refine ⟨rfl, fun use => ?_⟩
  simp only [mem_uses_iff, split]
  have put := putUses object item use
  grind

theorem mergeConstructor {item : Metadata.Constructor} (knows : Knows before)
    (ran : (mergeConstructor item).Yields before value after) : Knows after := by
  refine knows.joining (fun object read => Group.withConstructors object [read])
    (fun _ => item.convert_reads) (fun _ => item.convert_learns knows.unlayered) (fun _ _ => rfl)
    (fun object read use => ?_) ran
  simp only [Model.Object.uses, Group.withConstructors, List.flatMap_append, List.mem_append,
    List.flatMap_singleton, or_assoc]

theorem mergeMethod {item : Metadata.Method} (knows : Knows before)
    (ran : (mergeMethod item).Yields before value after) : Knows after := by
  refine knows.joining (fun object read => Group.withMethods object [read]) item.convert_reads
    (fun owner => item.convert_learns knows.unlayered owner) (fun _ _ => rfl)
    (fun object read use => ?_) ran
  simp only [Model.Object.uses, Group.withMethods, List.flatMap_append, List.mem_append,
    List.flatMap_singleton]
  grind

theorem populate {group : Group} (knows : Knows before)
    (ran : (populate group).Yields before value after) : Knows after := by
  obtain ⟨stood, built, stands, constructors, methods⟩ := populate_yields.mp ran
  have constructed := forAll_invariant (fun _ _ _ _ step knowsFirst =>
    knowsFirst.mergeConstructor step) constructors (knows.stand stands)
  exact forAll_invariant (fun _ _ _ _ step knowsFirst =>
    knowsFirst.mergeMethod step) methods constructed

/-- An interface without declarations knows what its names stand for. -/
theorem fresh {introduced : List (String × Ty)} {registry : Registry} {version : Option Tag}
    (binds : Registry.Binds introduced {} registry)
    (each : ∀ binding ∈ introduced, binding.2.Introduction binding.1)
    (tallies : registry.Tallies) : Knows { empty version with registry } := by
  refine ⟨binds.unlayered each, fun type => (tallies type).trans (or_iff_left ?_).symm⟩
  rintro ⟨use, member, -⟩
  cases member

/-- Binding further names, an interface comes to know what they stand for. -/
theorem defineAll {introduced : List (String × Ty)} {registry : Registry} (knows : Knows before)
    (unlayered : registry.names.Unlayered)
    (ran : (forAll (fun binding => Registry.define binding.1 binding.2 none) introduced).Yields
      before.registry () registry) : Knows { before with registry } where
  unlayered := unlayered
  known_iff := by
    have step (binding : String × Ty) (_ : binding ∈ introduced) (first second : Registry)
        (defines : (Registry.define binding.1 binding.2 none).Yields first () second)
        (tallies : ∀ known, known ∈ first.known ↔
          (∃ name, first.type? name = some known) ∨ ∃ use ∈ before.uses, known ∈ use.layers) :=
      Registry.mem_known_of_define tallies defines
    exact forAll_invariant step ran knows.known_iff

/-- Bringing in both sources, an interface comes to know what their names stand for and the layers
of what their declarations use. -/
theorem bring {declarations : List Declaration} {group : Group} {version : Option Tag}
    {brought : Interface} (ran : (bring declarations group).Yields (empty version) () brought) :
    Knows brought := by
  obtain ⟨first, registry, middle, discovers, introduces, declares, populates⟩ :=
    bring_yields.mp ran
  have binds := (Registry.binds_of_discover discovers).append
    (Registry.binds_of_defineAll introduces)
  have tallies := (Registry.tallies_empty.discover discovers).defineAll introduces
  exact ((fresh binds (fun _ => introduction_of_mem) tallies).declare declares).populate populates

end Knows

end Interface

end NativeBoundary
