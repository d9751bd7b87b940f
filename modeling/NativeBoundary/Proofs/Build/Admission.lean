import Mathlib.Tactic.MkIffOfInductiveProp
import NativeBoundary.Proofs.Build.Entry
import NativeBoundary.Proofs.Build.Stages

/-!
# Declarations that are admitted

Every declaration of a document enters what it declares: a namespace the namespace itself and its
functions, a typedef nothing, and any other declaration its name in the list that its attributes
call for.  So it is told without running anything which documents an empty interface takes.
-/

namespace NativeBoundary

/-- Every entry was read. -/
@[mk_iff]
structure Contents.Whole (contents : Contents) : Prop where
  records : ∀ entry ∈ contents.records, ∃ record, entry = .ok record
  enums : ∀ entry ∈ contents.enums, ∃ union, entry = .ok union
  errors : ∀ entry ∈ contents.errors, ∃ union, entry = .ok union
  callbacks : ∀ entry ∈ contents.callbacks, ∃ callback, entry = .ok callback
  functions : ∀ entry ∈ contents.functions, ∃ function, entry = .ok function
  objects : ∀ entry ∈ contents.objects, ∃ object, entry = .ok object

namespace Document.Declaration

/-- The list in which a declaration ends up; for a namespace, that of its functions. -/
def listing? (declaration : Declaration) : Option DeclarationKind :=
  match declaration.body with
  | .space _ => some .function
  | .dictionary _ => some .record
  | .enum _ => some (if declaration.marked .error then .error else .enum)
  | .interface _ _ =>
      some (if declaration.marked .enum then .enum
        else if declaration.marked .error then .error
        else .object)
  | .callbackInterface _ => some .callbackInterface
  | .typedef _ => none

/-- What a declaration takes in an interface. -/
def entries (declaration : Declaration) : List Entry :=
  match declaration.body with
  | .space functions =>
      .space :: functions.map fun function => .declared .function function.name
  | _ => declaration.listing?.toList.map (.declared · declaration.name)

/-- What a declaration declares can be read, and a namespace has no attributes. -/
@[mk_iff]
structure Readable (declaration : Declaration) (names : Names) : Prop where
  bare : ∀ functions, declaration.body = .space functions →
    ∃ attributes, declaration.checkAttributes .base = .ok attributes
  whole : (declaration.contents names).Whole

/-! ## Names of what is declared -/

variable {declaration : Declaration} {names : Names}

theorem denoteRecord_name {members : List Member} {record : Model.Record}
    (denoted : declaration.denoteRecord members names = .ok record) :
    record.name = declaration.name := by
  obtain ⟨_, -, -, fields, -, rfl⟩ := denoteRecord_eq_ok.mp denoted
  rfl

theorem denoteCallback_name {operations : List Operation} {callback : Model.CallbackInterface}
    (denoted : declaration.denoteCallback operations names = .ok callback) :
    callback.name = declaration.name := by
  obtain ⟨methods, -, rfl⟩ := denoteCallback_parts denoted
  rfl

end Document.Declaration

namespace Interface

open NativeBoundary.Action Document

variable {declaration : Declaration} {names : Names}

/-! ## Declarations of a document -/

theorem enters_addOperation (operation : Operation) :
    Enters (addOperation operation)
      (fun names => ∃ function, operation.denoteFunction names = .ok function)
      [.declared .function operation.name] := by
  refine Enters.reading operation.toFunction_reads fun {names function} denoted => ?_
  obtain ⟨_, -, _, -, _, -, rfl⟩ := Operation.denoteFunction_eq_ok.mp denoted
  exact enters_addFunction _ _

theorem enters_space (declaration : Declaration) {functions : List Operation}
    (shape : declaration.body = .space functions) :
    Enters (declareOne declaration) declaration.Readable declaration.entries := by
  have enters := Enters.lift _
    fun attributes (_ : declaration.checkAttributes .base = .ok attributes) =>
      (enters_addSpace (.text declaration.name) declaration.location).bind
        (Enters.forAllOne enters_addOperation functions)
  simp only [declareOne, Declaration.entries, shape]
  refine enters.congr fun names => ?_
  simp [Declaration.readable_iff, Contents.whole_iff, Declaration.contents, shape]

theorem enters_words (declaration : Declaration) {values : List String}
    (shape : declaration.body = .enum values) :
    Enters (declareOne declaration) declaration.Readable declaration.entries := by
  simp only [declareOne, Declaration.entries, Declaration.listing?, shape]
  refine (Enters.lift _ fun attributes checked =>
    Enters.lift (fun _ _ => True) fun _ _ => ?_).congr fun names => ?_
  · rw [has_of_checkAttributes .error checked]
    cases declaration.marked .error with
    | true => exact enters_addError _
    | false => exact enters_addEnum _
  · cases isError : declaration.marked .error <;>
      simp [Declaration.readable_iff, Contents.whole_iff, Declaration.contents, shape, isError,
        Declaration.denoteWords_eq_ok]

/-- An interface that is marked enters a union, in the list that its mark calls for. -/
theorem enters_marked (constructors : List Constructor) (operations : List Operation)
    {kind : DeclarationKind} {add : Model.Union → Action Interface Unit}
    {next : List Attribute → Action Interface Unit}
    (enters : ∀ union, Enters (add union) (fun _ => True) [.declared kind union.name])
    (adds : ∀ {attributes}, declaration.checkAttributes .interface = .ok attributes →
      next attributes = onRegistry (declaration.toVariants constructors operations) >>=
        fun variants => add ⟨declaration.name, variants⟩) :
    Enters (Action.lift (declaration.checkAttributes .interface) >>= next)
      (fun names => ∃ union, declaration.denoteUnion constructors operations names = .ok union)
      [.declared kind declaration.name] := by
  refine (Enters.lift (fun _ names => ∃ variants,
    declaration.denoteVariants constructors operations names = .ok variants)
      fun attributes checked => ?_).congr fun names => ?_
  · rw [adds checked]
    exact Enters.reading (declaration.toVariants_reads constructors operations) fun _ => enters _
  · simp [Declaration.denoteUnion_eq_ok]

/-- An interface without a mark enters an object. -/
theorem enters_plain (constructors : List Constructor) (operations : List Operation)
    {next : List Attribute → Action Interface Unit}
    (adds : ∀ {attributes}, declaration.checkAttributes .interface = .ok attributes →
      next attributes =
        onRegistry (declaration.toObject attributes constructors operations) >>= addObject) :
    Enters (Action.lift (declaration.checkAttributes .interface) >>= next)
      (fun names => ∃ object, declaration.denotePlain constructors operations names = .ok object)
      [.declared .object declaration.name] := by
  refine (Enters.lift (fun attributes names => ∃ object,
    declaration.denoteObject attributes constructors operations names = .ok object)
      fun attributes checked => ?_).congr fun names => ?_
  · rw [adds checked]
    refine Enters.reading (declaration.toObject_reads attributes constructors operations)
      fun denoted => ?_
    rw [← Declaration.denoteObject_name denoted]
    exact enters_addObject _
  · simp only [Declaration.denotePlain_eq_ok, ← exists_and_left]
    exact exists_comm

theorem enters_interface (declaration : Declaration) {constructors : List Constructor}
    {operations : List Operation} (shape : declaration.body = .interface constructors operations) :
    Enters (declareOne declaration) declaration.Readable declaration.entries := by
  simp only [declareOne, Declaration.entries, Declaration.listing?, shape]
  cases isEnum : declaration.marked .enum with
  | true =>
      refine (enters_marked constructors operations enters_addEnum fun checked => ?_).congr
        fun names => ?_
      · rw [has_of_checkAttributes .enum checked, isEnum]
        rfl
      · simp [Declaration.readable_iff, Contents.whole_iff, Declaration.contents, shape, isEnum]
  | false =>
      cases isError : declaration.marked .error with
      | true =>
          refine (enters_marked constructors operations enters_addError fun checked => ?_).congr
            fun names => ?_
          · rw [has_of_checkAttributes .enum checked, has_of_checkAttributes .error checked,
              isEnum, isError]
            rfl
          · simp [Declaration.readable_iff, Contents.whole_iff, Declaration.contents, shape,
              isEnum, isError]
      | false =>
          refine (enters_plain constructors operations fun checked => ?_).congr fun names => ?_
          · rw [has_of_checkAttributes .enum checked, has_of_checkAttributes .error checked,
              isEnum, isError]
            rfl
          · simp [Declaration.readable_iff, Contents.whole_iff, Declaration.contents, shape,
              isEnum, isError]

theorem enters_declareOne (declaration : Declaration) :
    Enters (declareOne declaration) declaration.Readable declaration.entries := by
  cases shape : declaration.body with
  | space functions => exact enters_space declaration shape
  | enum values => exact enters_words declaration shape
  | interface constructors operations => exact enters_interface declaration shape
  | dictionary members =>
      simp only [declareOne, Declaration.entries, Declaration.listing?, shape]
      refine (Enters.reading (declaration.toRecord_reads members) fun denoted => ?_).congr ?_
      · rw [← Declaration.denoteRecord_name denoted]
        exact enters_addRecord _
      · intro names
        simp [Declaration.readable_iff, Contents.whole_iff, Declaration.contents, shape]
  | callbackInterface operations =>
      simp only [declareOne, Declaration.entries, Declaration.listing?, shape]
      refine (Enters.reading (declaration.toCallback_reads operations) fun denoted => ?_).congr ?_
      · rw [← Declaration.denoteCallback_name denoted]
        exact enters_addCallback _
      · intro names
        simp [Declaration.readable_iff, Contents.whole_iff, Declaration.contents, shape]
  | typedef typeName =>
      simp only [declareOne, Declaration.entries, Declaration.listing?, shape]
      refine Enters.pure.congr fun names => ?_
      simp [Declaration.readable_iff, Contents.whole_iff, Declaration.contents, shape]

theorem enters_declare (declarations : List Declaration) :
    Enters (declare declarations)
      (fun names => ∀ declaration ∈ declarations, declaration.Readable names)
      (declarations.flatMap Declaration.entries) :=
  Enters.forAll enters_declareOne declarations

theorem entries_empty (version : Option Tag) (registry : Registry) :
    ({ empty version with registry } : Interface).entries = [] := rfl

/-- An interface without declarations takes a document exactly if all of it can be read, it takes
nothing twice, and none of its functions is named like a type. -/
theorem completes_declare_iff {declarations : List Declaration} {version : Option Tag}
    {registry : Registry} :
    (declare declarations).Completes { empty version with registry } ↔
      (∀ declaration ∈ declarations, declaration.Readable registry.names) ∧
      (declarations.flatMap Declaration.entries).Nodup ∧
      ∀ name, .declared .function name ∈ declarations.flatMap Declaration.entries →
        registry.names name = none := by
  have distinct : ({ empty version with registry } : Interface).entries.Nodup := by
    rw [entries_empty]
    exact List.nodup_nil
  rw [(enters_declare declarations).admits rfl distinct]
  exact and_congr_right fun _ => ⟨fun room => ⟨room.distinct, room.unbound⟩,
    fun ⟨distinct, unbound⟩ => ⟨distinct, unbound⟩⟩

end Interface

end NativeBoundary
