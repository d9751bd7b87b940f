import NativeBoundary.Document.Detail
import NativeBoundary.Proofs.Action.Results
import NativeBoundary.Proofs.Registry.Resolution

/-!
# What declarations denote

The member lists, callables and whole declarations of a document, read in an environment of names
without any registry.  Attributes are checked first, then types are looked up and defaults are
converted at them, from left to right; the first problem ends the reading.  Every conversion that
works on a registry reads just what stands here, and for every callable one lemma tells all that a
successful reading went through.
-/

namespace NativeBoundary.Document

open Registry (Reads)

def denoteResult (result : Option TypeExpr) (names : Names) : Except Problem (Option Ty) :=
  match result with
  | none => pure none
  | some expr => do
      let type ← expr.denote names
      pure (some type)

theorem resolveResult_reads : ∀ result, Reads (resolveResult result) (denoteResult result)
  | none => Reads.pure none
  | some expr => (Registry.resolve_reads expr).bind fun type => Reads.pure (some type)

theorem convertDefault_eq_none {type : Ty} {written : Option DefaultNode} :
    convertDefault type written = .ok none ↔ written = none := by
  cases written <;> simp [convertDefault, Results.bind_eq_ok]

theorem convertDefault_eq_some {type : Ty} {written : Option DefaultNode} {literal : Literal} :
    convertDefault type written = .ok (some literal) ↔
      ∃ node, written = some node ∧ node.convert type = .ok literal := by
  cases written <;> simp [convertDefault, Results.bind_eq_ok]

namespace Argument

def denote (argument : Argument) (names : Names) : Except Problem Model.Argument := do
  let attributes ← Site.argument.check (some argument.name) argument.location argument.attributes
  let type ← argument.type.denote names
  let default ← convertDefault type argument.default
  pure {
    name := argument.name
    type
    byRef := Attribute.has .byRef attributes
    optional := argument.optional
    default }

theorem denote_eq_ok {argument : Argument} {names : Names} {read : Model.Argument} :
    argument.denote names = .ok read ↔
      ∃ attributes, Site.argument.check (some argument.name) argument.location argument.attributes =
          .ok attributes ∧
        ∃ type, argument.type.denote names = .ok type ∧
          ∃ default, convertDefault type argument.default = .ok default ∧
            read = {
              name := argument.name
              type
              byRef := Attribute.has .byRef attributes
              optional := argument.optional
              default } := by
  simp only [denote, Results.bind_eq_ok, Results.pure_eq_ok]

theorem convert_reads (argument : Argument) : Reads argument.convert argument.denote :=
  (Reads.lift _).bind fun _ => (Registry.resolve_reads argument.type).bind fun _ =>
    (Reads.lift _).bind fun _ => Reads.pure _

end Argument

namespace Member

def denote (member : Member) (names : Names) : Except Problem Model.Field := do
  let _ ← Site.field.check (some member.name) member.location member.attributes
  let type ← member.type.denote names
  let default ← convertDefault type member.default
  pure { name := member.name, type, required := member.required, default }

theorem denote_eq_ok {member : Member} {names : Names} {field : Model.Field} :
    member.denote names = .ok field ↔
      ∃ attributes, Site.field.check (some member.name) member.location member.attributes =
          .ok attributes ∧
        ∃ type, member.type.denote names = .ok type ∧
          ∃ default, convertDefault type member.default = .ok default ∧
            field = { name := member.name, type, required := member.required, default } := by
  simp only [denote, Results.bind_eq_ok, Results.pure_eq_ok]

theorem convert_reads (member : Member) : Reads member.convert member.denote :=
  (Reads.lift _).bind fun _ => (Registry.resolve_reads member.type).bind fun _ =>
    (Reads.lift _).bind fun _ => Reads.pure _

end Member

namespace Operation

def denoteFunction (operation : Operation) (names : Names) : Except Problem Model.Function := do
  let attributes ← operation.checkAttributes .function
  let arguments ← operation.arguments.mapM (Argument.denote · names)
  let result ← denoteResult operation.result names
  pure { name := operation.name, arguments, result, attributes }

theorem denoteFunction_eq_ok {operation : Operation} {names : Names} {function : Model.Function} :
    operation.denoteFunction names = .ok function ↔
      ∃ attributes, operation.checkAttributes .function = .ok attributes ∧
        ∃ arguments, operation.arguments.mapM (Argument.denote · names) = .ok arguments ∧
          ∃ result, denoteResult operation.result names = .ok result ∧
            function = { name := operation.name, arguments, result, attributes } := by
  simp only [denoteFunction, Results.bind_eq_ok, Results.pure_eq_ok]

theorem toFunction_reads (operation : Operation) :
    Reads operation.toFunction operation.denoteFunction :=
  (Reads.lift _).bind fun _ => (Reads.each Argument.convert_reads _).bind fun _ =>
    (resolveResult_reads _).bind fun _ => Reads.pure _

def denoteMethod (owner : String) (operation : Operation) (names : Names) :
    Except Problem Model.Method := do
  let attributes ← operation.checkAttributes .method
  let arguments ← operation.arguments.mapM (Argument.denote · names)
  let result ← denoteResult operation.result names
  pure { name := operation.name, owner, arguments, result, attributes }

theorem denoteMethod_eq_ok {operation : Operation} {owner : String} {names : Names}
    {method : Model.Method} :
    operation.denoteMethod owner names = .ok method ↔
      ∃ attributes, operation.checkAttributes .method = .ok attributes ∧
        ∃ arguments, operation.arguments.mapM (Argument.denote · names) = .ok arguments ∧
          ∃ result, denoteResult operation.result names = .ok result ∧
            method = { name := operation.name, owner, arguments, result, attributes } := by
  simp only [denoteMethod, Results.bind_eq_ok, Results.pure_eq_ok]

theorem toMethod_reads (owner : String) (operation : Operation) :
    Reads (operation.toMethod owner) (operation.denoteMethod owner) :=
  (Reads.lift _).bind fun _ => (Reads.each Argument.convert_reads _).bind fun _ =>
    (resolveResult_reads _).bind fun _ => Reads.pure _

def denoteVariantField (argument : Argument) (names : Names) : Except Problem Model.Field := do
  let type ← argument.type.denote names
  pure { name := argument.name, type, required := !argument.optional }

theorem denoteVariantField_eq_ok {argument : Argument} {names : Names} {field : Model.Field} :
    denoteVariantField argument names = .ok field ↔
      ∃ type, argument.type.denote names = .ok type ∧
        field = { name := argument.name, type, required := !argument.optional } := by
  simp only [denoteVariantField, Results.bind_eq_ok, Results.pure_eq_ok]

theorem variantField_reads (argument : Argument) :
    Reads (variantField argument) (denoteVariantField argument) :=
  (Registry.resolve_reads argument.type).bind fun _ => Reads.pure _

/-- A variant written as an operation has no result and no attributes. -/
def denoteVariant (owner : String) (operation : Operation) (names : Names) :
    Except Problem Model.Variant :=
  if operation.result.isSome then
    .error ⟨.variantWithResult owner operation.name, some owner, operation.location⟩
  else do
    let _ ← operation.checkAttributes .base
    let fields ← operation.arguments.mapM (denoteVariantField · names)
    pure { name := operation.name, fields }

theorem denoteVariant_eq_ok {operation : Operation} {owner : String} {names : Names}
    {variant : Model.Variant} :
    operation.denoteVariant owner names = .ok variant ↔
      operation.result = none ∧ ∃ attributes, operation.checkAttributes .base = .ok attributes ∧
        ∃ fields, operation.arguments.mapM (denoteVariantField · names) = .ok fields ∧
          variant = { name := operation.name, fields } := by
  unfold denoteVariant
  cases operation.result with
  | some expr => simp
  | none =>
      simp only [Option.isSome_none, Bool.false_eq_true, if_false, true_and, Results.bind_eq_ok,
        Results.pure_eq_ok]

theorem toVariant_reads (owner : String) (operation : Operation) :
    Reads (operation.toVariant owner) (operation.denoteVariant owner) := by
  unfold toVariant denoteVariant
  split
  · exact Reads.fail_bind _ _
  · exact (Reads.lift _).bind fun _ => (Reads.each variantField_reads _).bind fun _ => Reads.pure _

end Operation

namespace Constructor

def denote (constructor : Constructor) (names : Names) : Except Problem Model.Constructor := do
  let attributes ← Site.constructor.check none constructor.location constructor.attributes
  let given := (Attribute.valueOf .name attributes).filter (· ≠ "")
  let arguments ← constructor.arguments.mapM (Argument.denote · names)
  pure { name := given.getD Model.primaryName, arguments, attributes }

theorem denote_eq_ok {constructor : Constructor} {names : Names} {read : Model.Constructor} :
    constructor.denote names = .ok read ↔
      ∃ attributes,
        Site.constructor.check none constructor.location constructor.attributes = .ok attributes ∧
        ∃ arguments, constructor.arguments.mapM (Argument.denote · names) = .ok arguments ∧
          read = {
            name := ((Attribute.valueOf .name attributes).filter (· ≠ "")).getD Model.primaryName
            arguments
            attributes } := by
  simp only [denote, Results.bind_eq_ok, Results.pure_eq_ok]

theorem convert_reads (constructor : Constructor) :
    Reads constructor.convert constructor.denote :=
  (Reads.lift _).bind fun _ => (Reads.each Argument.convert_reads _).bind fun _ => Reads.pure _

end Constructor

namespace Declaration

def denoteRecord (declaration : Declaration) (members : List Member) (names : Names) :
    Except Problem Model.Record := do
  let _ ← declaration.checkAttributes .record
  declaration.ensureDistinct .field (members.map Member.name)
  let fields ← members.mapM (Member.denote · names)
  pure { name := declaration.name, fields }

theorem denoteRecord_eq_ok {declaration : Declaration} {members : List Member} {names : Names}
    {record : Model.Record} :
    declaration.denoteRecord members names = .ok record ↔
      ∃ attributes, declaration.checkAttributes .record = .ok attributes ∧
        declaration.ensureDistinct .field (members.map Member.name) = .ok () ∧
          ∃ fields, members.mapM (Member.denote · names) = .ok fields ∧
            record = { name := declaration.name, fields } := by
  simp only [denoteRecord, Results.bind_eq_ok, Results.pure_eq_ok]
  exact exists_congr fun _ => and_congr_right fun _ =>
    ⟨fun ⟨_, rest⟩ => rest, fun rest => ⟨(), rest⟩⟩

theorem toRecord_reads (declaration : Declaration) (members : List Member) :
    Reads (declaration.toRecord members) (declaration.denoteRecord members) :=
  (Reads.lift _).bind fun _ => (Reads.lift _).bind fun _ =>
    (Reads.each Member.convert_reads _).bind fun _ => Reads.pure _

/-- The operations of a union are its variants; it has no constructors. -/
def denoteVariants (declaration : Declaration) (constructors : List Constructor)
    (operations : List Operation) (names : Names) : Except Problem (List Model.Variant) :=
  match constructors with
  | [] => do
      declaration.ensureDistinct .variant (operations.map Operation.name)
      operations.mapM (Operation.denoteVariant declaration.name · names)
  | first :: _ =>
      .error ⟨.unionWithConstructors declaration.name, some declaration.name,
        first.location.or declaration.location⟩

theorem toVariants_reads (declaration : Declaration) (constructors : List Constructor)
    (operations : List Operation) :
    Reads (declaration.toVariants constructors operations)
      (declaration.denoteVariants constructors operations) := by
  cases constructors with
  | nil =>
      exact (Reads.lift _).bind fun _ => Reads.each (Operation.toVariant_reads declaration.name) _
  | cons first rest => exact Reads.fail_bind _ _

def denoteObject (declaration : Declaration) (attributes : List Attribute)
    (constructors : List Constructor) (operations : List Operation) (names : Names) :
    Except Problem Model.Object := do
  let constructors ← constructors.mapM (Constructor.denote · names)
  let constructorNames := constructors.map Model.Constructor.name
  let methodNames := operations.map Operation.name
  declaration.ensureDistinct .constructor constructorNames
  declaration.ensureDistinct .method methodNames
  declaration.ensureDistinct .callable (constructorNames ++ methodNames)
  let methods ← operations.mapM (Operation.denoteMethod declaration.name · names)
  pure {
    name := declaration.name
    constructors
    methods
    threadsafe := Attribute.has .threadsafe attributes }

/-- What the reading of an object gives, with the last of the checks that its names went through. -/
theorem denoteObject_parts {declaration : Declaration} {attributes : List Attribute}
    {constructors : List Constructor} {operations : List Operation} {names : Names}
    {object : Model.Object}
    (denoted : declaration.denoteObject attributes constructors operations names = .ok object) :
    ∃ built methods, constructors.mapM (Constructor.denote · names) = .ok built ∧
      declaration.ensureDistinct .callable
        (built.map Model.Constructor.name ++ operations.map Operation.name) = .ok () ∧
      operations.mapM (Operation.denoteMethod declaration.name · names) = .ok methods ∧
      object = {
        name := declaration.name
        constructors := built
        methods
        threadsafe := Attribute.has .threadsafe attributes } := by
  simp only [denoteObject, Results.bind_eq_ok, Results.pure_eq_ok] at denoted
  obtain ⟨built, readConstructors, _, -, _, -, _, distinct, methods, readMethods, same⟩ := denoted
  exact ⟨built, methods, readConstructors, distinct, readMethods, same⟩

theorem toObject_reads (declaration : Declaration) (attributes : List Attribute)
    (constructors : List Constructor) (operations : List Operation) :
    Reads (declaration.toObject attributes constructors operations)
      (declaration.denoteObject attributes constructors operations) :=
  (Reads.each Constructor.convert_reads _).bind fun _ => (Reads.lift _).bind fun _ =>
    (Reads.lift _).bind fun _ => (Reads.lift _).bind fun _ =>
      (Reads.each (Operation.toMethod_reads declaration.name) _).bind fun _ => Reads.pure _

def denoteCallback (declaration : Declaration) (operations : List Operation) (names : Names) :
    Except Problem Model.CallbackInterface := do
  let _ ← declaration.checkAttributes .callbackInterface
  declaration.ensureDistinct .method (operations.map Operation.name)
  let methods ← operations.mapM (Operation.denoteMethod declaration.name · names)
  pure { name := declaration.name, methods }

theorem denoteCallback_parts {declaration : Declaration} {operations : List Operation}
    {names : Names} {callback : Model.CallbackInterface}
    (denoted : declaration.denoteCallback operations names = .ok callback) :
    ∃ methods, operations.mapM (Operation.denoteMethod declaration.name · names) = .ok methods ∧
      callback = { name := declaration.name, methods } := by
  simp only [denoteCallback, Results.bind_eq_ok, Results.pure_eq_ok] at denoted
  obtain ⟨_, -, _, -, methods, read, same⟩ := denoted
  exact ⟨methods, read, same⟩

theorem toCallback_reads (declaration : Declaration) (operations : List Operation) :
    Reads (declaration.toCallback operations) (declaration.denoteCallback operations) :=
  (Reads.lift _).bind fun _ => (Reads.lift _).bind fun _ =>
    (Reads.each (Operation.toMethod_reads declaration.name) _).bind fun _ => Reads.pure _

end Declaration

end NativeBoundary.Document
