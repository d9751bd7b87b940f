import NativeBoundary.Proofs.Build.Compatibility
import NativeBoundary.Proofs.Build.Reordering
import NativeBoundary.Proofs.Interface.Formation
import NativeBoundary.Proofs.TypeExpr.Spelling

/-!
# Lowering

When a build comes to the derivation of foreign functions, every type is well formed, so all of them
have a text, their parts and a foreign form.  No type stops the derivation for what it is.  It stops
before it has begun if the payload of the checksum cannot be written, which holds types only down to
a certain depth.
-/

namespace NativeBoundary

namespace Model

variable {α β : Type} {space owner : String}

theorem exists_collect {derive? : α → Option β} {items : List α}
    (each : ∀ item ∈ items, ∃ result, derive? item = some result) :
    ∃ results, collect derive? items = some results := by
  induction items with
  | nil => exact ⟨[], rfl⟩
  | cons item rest ih =>
      obtain ⟨⟨first, derived⟩, others⟩ := List.forall_mem_cons.mp each
      obtain ⟨results, collected⟩ := ih others
      exact ⟨first :: results, by simp [collect, derived, collected]⟩

theorem exists_foreignArguments {arguments : List Argument}
    (lowers : ∀ type ∈ arguments.map Argument.type, type.foreign?.isSome = true) :
    ∃ foreign, foreignArguments? arguments = some foreign := by
  refine exists_collect fun argument inside => ?_
  obtain ⟨form, lowered⟩ :=
    Option.isSome_iff_exists.mp (lowers _ (List.mem_map_of_mem inside))
  exact ⟨_, by rw [foreignArgument?, lowered, Option.map_some]⟩

theorem exists_foreignResult {result : Option Ty}
    (lowers : ∀ type ∈ result.toList, type.foreign?.isSome = true) :
    ∃ foreign, foreignResult? result = some foreign := by
  cases result with
  | none => exact ⟨none, rfl⟩
  | some type =>
      obtain ⟨form, lowered⟩ := Option.isSome_iff_exists.mp (lowers type List.mem_cons_self)
      exact ⟨some form, by rw [foreignResult?, lowered, Option.map_some]⟩

theorem Function.exists_derive {function : Function}
    (lowers : ∀ type ∈ function.uses, type.foreign?.isSome = true) :
    ∃ derived, function.derive? space = some derived := by
  obtain ⟨lowersArguments, lowersResult⟩ := List.forall_mem_append.mp lowers
  obtain ⟨arguments, first⟩ := exists_foreignArguments lowersArguments
  obtain ⟨result, second⟩ := exists_foreignResult lowersResult
  exact ⟨_, by rw [derive?, first, second]; rfl⟩

theorem Constructor.exists_derive {constructor : Constructor}
    (lowers : ∀ type ∈ constructor.uses, type.foreign?.isSome = true) :
    ∃ derived, constructor.derive? space owner = some derived := by
  obtain ⟨arguments, first⟩ := exists_foreignArguments lowers
  exact ⟨_, by rw [derive?, first]; rfl⟩

theorem Method.exists_derive {method : Method}
    (lowers : ∀ type ∈ method.uses, type.foreign?.isSome = true) :
    ∃ derived, method.derive? space owner = some derived := by
  obtain ⟨lowersArguments, lowersResult⟩ := List.forall_mem_append.mp lowers
  have receives : method.receiver.type.foreign?.isSome = true := rfl
  obtain ⟨arguments, first⟩ : ∃ foreign, foreignArguments? method.fullArguments = some foreign :=
    exists_foreignArguments (List.forall_mem_cons.mpr ⟨receives, lowersArguments⟩)
  obtain ⟨result, second⟩ := exists_foreignResult lowersResult
  exact ⟨_, by rw [derive?, first, second]; rfl⟩

theorem Object.exists_derive {object : Object}
    (lowers : ∀ type ∈ object.uses, type.foreign?.isSome = true) :
    ∃ derived, object.derive? space = some derived := by
  obtain ⟨lowersMethods, lowersConstructors⟩ := List.forall_mem_append.mp lowers
  obtain ⟨constructors, built⟩ : ∃ constructors,
      collect (Constructor.derive? space object.name) object.constructors = some constructors :=
    exists_collect fun constructor inside => Constructor.exists_derive
      (List.forall_mem_flatMap.mp lowersConstructors constructor inside)
  obtain ⟨methods, equipped⟩ : ∃ methods,
      collect (Method.derive? space object.name) object.methods = some methods :=
    exists_collect fun method inside => Method.exists_derive
      (List.forall_mem_flatMap.mp lowersMethods method inside)
  exact ⟨_, Object.derive_eq_some.mpr ⟨constructors, methods, built, equipped, rfl⟩⟩

end Model

namespace Interface

open NativeBoundary.Action
open Metadata (Group Item)

variable {document : Option Document} {items : List Item} {settings : Settings}
  {plain interface : Interface}

/-- Where all types that are used have a foreign form, the derivation is completed unless something
cannot be written. -/
theorem derive_result (lowers : ∀ type ∈ plain.uses, type.foreign?.isSome = true) :
    (derive plain).result = match plain.breakdown? with
      | none => .ok ()
      | some reason => .error ⟨.breakdown reason, none, none⟩ := by
  cases broken : plain.breakdown? with
  | some reason =>
      have stops : ensureWritable plain = ⟨.error ⟨.breakdown reason, none, none⟩, plain, []⟩ := by
        unfold ensureWritable
        rw [bind_run_ok (rfl : Action.get plain = ⟨.ok plain, plain, []⟩), broken]
        rfl
      unfold derive
      rw [bind_run_error stops]
  | none =>
      obtain ⟨functions, derivedFunctions⟩ : ∃ functions,
          Model.collect (Model.Function.derive? plain.symbolSpace) plain.functions =
            some functions :=
        Model.exists_collect fun function inside => Model.Function.exists_derive
          fun type member => lowers type
            (mem_uses_iff.mpr (.inr (.inr (.inr (.inr (.inr ⟨function, inside, member⟩))))))
      obtain ⟨objects, derivedObjects⟩ : ∃ objects,
          Model.collect (Model.Object.derive? plain.symbolSpace) plain.objects = some objects :=
        Model.exists_collect fun object inside => Model.Object.exists_derive
          fun type member => lowers type
            (mem_uses_iff.mpr (.inr (.inr (.inr (.inl ⟨object, inside, member⟩)))))
      exact (derive_yields.mpr ⟨broken, functions, objects, derivedFunctions, derivedObjects, rfl⟩).1

/-- The namespace and the version can be written, and no used type is nested too deeply. -/
structure Writable (interface : Interface) : Prop where
  space : interface.spaceTag.isWritten = true
  version : interface.version.isWritten = true
  depth : ∀ use ∈ interface.uses, use.height ≤ Model.deepestWritten

theorem breakdown?_eq_none_iff
    (written : ∀ type, type ∈ interface.writtenTypes ↔ type ∈ interface.uses) :
    interface.breakdown? = none ↔ interface.Writable := by
  have shallow : (interface.writtenTypes.any (Model.deepestWritten < ·.height)) = false ↔
      ∀ use ∈ interface.uses, use.height ≤ Model.deepestWritten := by
    simp [written]
  constructor
  · intro fine
    unfold breakdown? at fine
    split at fine
    · cases fine
    · next space =>
      split at fine
      · cases fine
      · next depth =>
        split at fine
        · cases fine
        · next version =>
          exact ⟨by simpa using space, by simpa using version, shallow.mp (by simpa using depth)⟩
  · rintro ⟨space, version, depth⟩
    simp [breakdown?, space, shallow.mpr depth, version]

theorem eq_of_breakdown? {reason : Breakdown} (broken : interface.breakdown? = some reason) :
    reason = .longNumeral ∨ reason = .deepRecord := by
  unfold breakdown? at broken
  repeat' split at broken
  all_goals simp_all

/-! ## Builds that come to the derivation -/

/-- Every stage of a build before the derivation is completed, and leaves this interface to it. -/
def Prepares (document : Option Document) (items : List Item) (settings : Settings)
    (plain : Interface) : Prop :=
  ∃ group brought, Group.ofItems items = .ok group ∧
    (bring ((document.map Document.definitions).getD []) group).Yields
      (empty settings.versionTag) () brought ∧
    (fallBackSpace settings group.crate).Yields brought () plain ∧ plain.check = .ok ()

/-- Nothing comes behind the derivation that could fail. -/
theorem finishing_result (checked : plain.check = .ok ()) :
    ((do
      Action.lift plain.check
      derive
      let derived ← Action.get
      Action.note (.completed derived.symbolSpace derived.foreignFunctions.length)
      finalize : Action Interface Unit) plain).result = (derive plain).result := by
  rw [checked, lift_ok_bind]
  cases ran : derive plain with
  | mk result middle events =>
      cases result with
      | error problem => rw [bind_run_error ran]
      | ok value =>
          rw [bind_run_ok ran]
          rfl

/-- A build that comes to the derivation ends as the derivation does. -/
theorem result_of_prepares (prepares : Prepares document items settings plain) :
    (buildOutcome document items settings).result = (derive plain).result := by
  obtain ⟨group, brought, grouped, brings, spaced, checked⟩ := prepares
  simp only [bring, yields_bind_unit] at brings
  obtain ⟨_, discovers, _, introduces, _, declares, populates⟩ := brings
  unfold buildOutcome assemble Action.run
  rw [grouped, lift_ok_bind, discovers.result_bind, introduces.result_bind, declares.result_bind,
    populates.result_bind, spaced.result_bind, Yields.result_bind (yields_get.mpr ⟨rfl, rfl⟩)]
  -- What is noted on the way is in both cases no part of the result.
  split
  · have noted : (Action.note (.resolved plain.summary)).Yields plain () plain := ⟨rfl, rfl⟩
    rw [noted.result_bind]
    exact finishing_result checked
  · exact finishing_result checked

section Prepares

variable (prepares : Prepares document items settings plain)

include prepares

theorem denotes_of_prepares :
    plain.names.Proper ∧ ∀ type ∈ plain.occurring, plain.names.Denotes type := by
  obtain ⟨group, brought, -, brings, spaced, -⟩ := prepares
  have denotes := denotes_occurring_of_bring brings
  have proper := (plain_of_bring brings).proper
  obtain ⟨space, rfl⟩ := fallBackSpace_yields spaced
  exact ⟨proper, denotes⟩

theorem usable_of_prepares : ∀ type ∈ plain.occurring, type.Usable := by
  obtain ⟨proper, denotes⟩ := denotes_of_prepares prepares
  exact fun type occurs => ((denotes type occurs).wellFormed proper).usable

theorem mem_writtenTypes_of_prepares (type : Ty) :
    type ∈ plain.writtenTypes ↔ type ∈ plain.uses := by
  obtain ⟨group, brought, -, brings, spaced, -⟩ := prepares
  exact ((plain_of_bring brings).fallBackSpace spaced).mem_writtenTypes_iff

theorem height_le_of_prepares (writable : plain.Writable) :
    ∀ type ∈ plain.occurring, type.height ≤ Model.deepestWritten := by
  obtain ⟨group, brought, -, brings, spaced, -⟩ := prepares
  have low := height_le_of_bring brings
  obtain ⟨space, rfl⟩ := fallBackSpace_yields spaced
  exact low writable.depth

theorem spelled_of_prepares (writable : plain.Writable) :
    ∀ type ∈ plain.occurring, Breakdown.ofType? type = none := by
  intro type occurs
  have low := height_le_of_prepares prepares writable type occurs
  exact (usable_of_prepares prepares type occurs).wellFormed.spelled
    (Nat.le_trans low (by decide))

theorem usable_uses_of_prepares : ∀ use ∈ plain.uses, use.Usable := fun use used =>
  usable_of_prepares prepares use (occurring_of_mem_uses used)

/-- A build that comes to the derivation is completed unless something cannot be written. -/
theorem result_eq_of_prepares :
    (buildOutcome document items settings).result = match plain.breakdown? with
      | none => .ok ()
      | some reason => .error ⟨.breakdown reason, none, none⟩ := by
  rw [result_of_prepares prepares]
  exact derive_result fun use inside => (usable_uses_of_prepares prepares use inside).foreign

theorem result_ok_iff_of_prepares :
    (buildOutcome document items settings).result = .ok () ↔ plain.Writable := by
  rw [← breakdown?_eq_none_iff (mem_writtenTypes_of_prepares prepares),
    result_eq_of_prepares prepares]
  cases plain.breakdown? <;> simp

end Prepares

/-- A finished build came to the derivation with an interface that can be written, and has its
registry. -/
theorem exists_prepares_of_build (built : build document items settings = .ok interface) :
    ∃ plain, Prepares document items settings plain ∧ plain.Writable ∧
      interface.registry = plain.registry := by
  obtain ⟨group, brought, plain, derived, grouped, brings, spaced, checked, derives, same⟩ :=
    assemble_yields.mp (build_eq_ok.mp built)
  have prepares : Prepares document items settings plain :=
    ⟨group, brought, grouped, brings, spaced, checked⟩
  have writable := (result_ok_iff_of_prepares prepares).mp (build_eq_ok.mp built).1
  have sameRegistry : derived.declared.registry = plain.declared.registry :=
    congrArg Interface.registry (declared_of_derive derives)
  refine ⟨plain, prepares, writable, ?_⟩
  rw [same]
  exact sameRegistry

/-- The builds that come to the derivation.  Each type that occurs in their declarations or among the
types that they know, and each that is written down with a declaration, is well formed, and all that
is asked of it is there.  The build is completed exactly if the interface can be written, and then
all texts of types can be written too; nothing else stops it. -/
theorem lowering_total (prepares : Prepares document items settings plain) :
    (∀ type ∈ plain.occurring ++ plain.writtenTypes, type.Usable) ∧
    ((buildOutcome document items settings).result = .ok () ↔ plain.Writable) ∧
    (plain.Writable → ∀ type ∈ plain.occurring, Breakdown.ofType? type = none) ∧
    ∀ problem, (buildOutcome document items settings).result = .error problem →
      problem = ⟨.breakdown .longNumeral, none, none⟩ ∨
        problem = ⟨.breakdown .deepRecord, none, none⟩ := by
  have usable := usable_of_prepares prepares
  have written := mem_writtenTypes_of_prepares prepares
  refine ⟨List.forall_mem_append.mpr ⟨usable, fun type member => ?_⟩,
    result_ok_iff_of_prepares prepares, spelled_of_prepares prepares, ?_⟩
  · exact usable_uses_of_prepares prepares type ((written type).mp member)
  · intro problem stopped
    rw [result_eq_of_prepares prepares] at stopped
    cases broken : plain.breakdown? with
    | none =>
        rw [broken] at stopped
        cases stopped
    | some reason =>
        rw [broken] at stopped
        cases stopped
        exact (eq_of_breakdown? broken).imp (fun same => by rw [same]) (fun same => by rw [same])

theorem lowering_total_shop :
    ∃ plain, Prepares (some shopDocument) shopItems {} plain ∧ plain.Writable ∧
      (∀ type ∈ plain.occurring ++ plain.writtenTypes, type.Usable) ∧
      ∀ type ∈ plain.occurring, Breakdown.ofType? type = none := by
  have succeeded : (buildOutcome (some shopDocument) shopItems {}).result = .ok () := by
    decide +kernel
  obtain ⟨plain, prepares, writable, -⟩ := exists_prepares_of_build (build_ok_of_result succeeded)
  obtain ⟨usable, -, spelled, -⟩ := lowering_total prepares
  exact ⟨plain, prepares, writable, usable, spelled writable⟩

/-! ## Types nested beyond what can be written -/

/-- A type in metadata with so many sequences around it. -/
def deepText : Nat → String
  | 0 => "u8"
  | depth + 1 => "Vec<" ++ deepText depth ++ ">"

def deepType : Nat → Ty
  | 0 => .builtin .u8
  | depth + 1 => .sequence (deepType depth)

def deepPhrase : Nat → TypeExpr.Phrase
  | 0 => .plain ⟨"u8", by decide +kernel, by decide +kernel⟩ false
  | depth + 1 => .sequence (deepPhrase depth) false

/-- A function whose argument has such a type. -/
def deepItem (depth : Nat) : Metadata.Function where
  crateModule := "deep"
  name := "f"
  inputs := [⟨"a", deepText depth⟩]

theorem height_deepType (depth : Nat) : (deepType depth).height = depth + 1 := by
  induction depth with
  | zero => rfl
  | succ depth ih => rw [deepType, Ty.height_sequence, ih]

theorem metadataText_deepPhrase (depth : Nat) :
    ((deepPhrase depth).expr none).metadataText = deepText depth := by
  induction depth with
  | zero => rfl
  | succ depth ih =>
      rw [deepText, ← ih]
      rfl

theorem names_deepPhrase (depth : Nat) : ((deepPhrase depth).expr none).names = ["u8"] := by
  induction depth with
  | zero => rfl
  | succ depth ih => exact ih

theorem nesting_deepPhrase (depth : Nat) :
    ((deepPhrase depth).expr none).nesting .metadata = depth := by
  induction depth with
  | zero => rfl
  | succ depth ih =>
      exact (TypeExpr.nesting_sequenceOf _).trans (congrArg (· + 1) ih)

theorem denote_deepPhrase (names : Names) (depth : Nat) :
    ((deepPhrase depth).expr none).denote names = .ok (deepType depth) := by
  induction depth with
  | zero => rfl
  | succ depth ih =>
      simp only [deepPhrase, TypeExpr.Phrase.expr, TypeExpr.sequenceOf, TypeExpr.denote, ih]
      rfl

theorem readText_deepText {depth : Nat} (readable : depth ≤ TypeExpr.deepestText) :
    TypeExpr.readText .metadata (deepText depth) none = .ok ((deepPhrase depth).expr none) := by
  rw [← metadataText_deepPhrase]
  refine TypeExpr.readText_eq_ok_iff.mpr ⟨TypeExpr.Phrase.parse_metadataText _ ?_, ?_⟩
  · rw [names_deepPhrase]
    decide
  · rwa [nesting_deepPhrase]

/-- The function as it is read. -/
def deepFunction (depth : Nat) : Model.Function where
  name := "f"
  arguments := [{ name := "a", type := deepType depth }]

def deepGroup (depth : Nat) : Group where
  crate := some "deep"
  functions := [deepItem depth]

theorem denote_deepItem {depth : Nat} (readable : depth ≤ TypeExpr.deepestText) (names : Names) :
    (deepItem depth).denote names = .ok (deepFunction depth) := by
  have read : Metadata.denoteText (deepText depth) names = .ok (deepType depth) :=
    Metadata.denoteText_eq_ok.mpr ⟨_, readText_deepText readable, denote_deepPhrase names depth⟩
  have argument : (⟨"a", deepText depth⟩ : Metadata.Slot).denoteArgument names =
      .ok { name := "a", type := deepType depth } :=
    Metadata.Slot.denoteArgument_eq_ok.mpr ⟨_, read, rfl⟩
  refine Metadata.Function.denote_eq_ok.mpr ⟨_, ?_, none, rfl, rfl⟩
  rw [deepItem, List.mapM_cons, argument]
  rfl

theorem compatible_deepGroup {depth : Nat} (readable : depth ≤ TypeExpr.deepestText) :
    Compatible [] (deepGroup depth) where
  introduced := nofun
  definable := Registry.Definable.nil {}
  document := nofun
  metadata := {
    records := nofun
    enums := nofun
    errors := nofun
    functions := by
      intro item inside
      rw [List.mem_singleton.mp inside]
      exact ⟨_, denote_deepItem readable _⟩
    constructors := nofun
    methods := nofun }
  distinct := List.nodup_singleton _
  unbound _ _ := rfl
  apart := List.nodup_nil
  joinable := fun _ _ _ inside => nomatch inside

/-- Nothing but the function is declared. -/
theorem brought_deep {depth : Nat} (readable : depth ≤ TypeExpr.deepestText) {brought : Interface}
    (brings : (bring [] (deepGroup depth)).Yields (empty none) () brought) :
    ∃ registry, brought = { empty none with registry, functions := [deepFunction depth] } := by
  have contents := (plain_of_bring brings).contents
  have functions : brought.functions = [deepFunction depth] :=
    Results.eq_of_map_ok ((congrArg Contents.functions contents).trans
      (congrArg (fun read => [read]) (denote_deepItem readable brought.names)))
  have records := List.map_eq_nil_iff.mp (congrArg Contents.records contents)
  have enums := List.map_eq_nil_iff.mp (congrArg Contents.enums contents)
  have errors := List.map_eq_nil_iff.mp (congrArg Contents.errors contents)
  have callbacks := List.map_eq_nil_iff.mp (congrArg Contents.callbacks contents)
  have objects := List.map_eq_nil_iff.mp (congrArg Contents.objects contents)
  obtain ⟨version, isOpen, space⟩ := labels_of_bring brings
  refine ⟨brought.registry, ?_⟩
  obtain ⟨⟩ := brought
  simp_all [empty, Document.Declaration.listed]

theorem ofItems_deep (depth : Nat) :
    Group.ofItems [.function (deepItem depth)] = .ok (deepGroup depth) := by
  have segment : String.ofList (Item.firstSegment "deep".toList) = "deep" := by decide +kernel
  have crate : Group.sharedCrate none [.function (deepItem depth)] = .ok (some "deep") :=
    congrArg (fun name => Except.ok (some name)) segment
  unfold Group.ofItems
  rw [crate]
  rfl

/-- A build from this function alone comes to the derivation. -/
theorem exists_prepares_deep {depth : Nat} (readable : depth ≤ TypeExpr.deepestText) :
    ∃ plain, Prepares none [.function (deepItem depth)] {} plain ∧
      plain.spaceTag = .text "deep" ∧ plain.version = defaultVersion ∧
      plain.writtenTypes = [deepType depth] := by
  obtain ⟨_, brought, brings⟩ := completes_bring_iff.mpr (compatible_deepGroup readable)
  obtain ⟨registry, rfl⟩ := brought_deep readable brings
  exact ⟨_, ⟨deepGroup depth, _, ofItems_deep depth, brings,
    (fallBackSpace_yields_iff rfl rfl).mpr rfl, rfl⟩, rfl, rfl, rfl⟩

/-- It is stopped there exactly if the type is nested more deeply than can be written. -/
theorem deep_result {depth : Nat} (readable : depth ≤ TypeExpr.deepestText) :
    (buildOutcome none [.function (deepItem depth)] {}).result =
      if depth < Model.deepestWritten then .ok ()
      else .error ⟨.breakdown .deepRecord, none, none⟩ := by
  obtain ⟨plain, prepares, space, version, written⟩ := exists_prepares_deep readable
  have spaceWritten : (Tag.text "deep").isWritten = true := rfl
  have versionWritten : defaultVersion.isWritten = true := rfl
  rw [result_eq_of_prepares prepares]
  by_cases shallow : depth < Model.deepestWritten
  · have fits : ¬ Model.deepestWritten < depth + 1 := by omega
    simp [breakdown?, space, version, written, spaceWritten, versionWritten, height_deepType, fits,
      shallow]
  · have exceeds : Model.deepestWritten < depth + 1 := by omega
    simp [breakdown?, space, written, spaceWritten, height_deepType, exceeds, shallow]

/-- One sequence more than can be written: every stage before the derivation is completed, and the
build fails. -/
theorem lowering_stops_deep :
    ∃ plain, Prepares none [.function (deepItem 254)] {} plain ∧
      (buildOutcome none [.function (deepItem 254)] {}).result =
        .error ⟨.breakdown .deepRecord, none, none⟩ := by
  obtain ⟨plain, prepares, -⟩ := exists_prepares_deep (by decide : 254 ≤ TypeExpr.deepestText)
  exact ⟨plain, prepares, deep_result (by decide)⟩

end Interface

end NativeBoundary
