import NativeBoundary.Build
import NativeBoundary.Proofs.Document.Denotation
import NativeBoundary.Proofs.Metadata.Denotation
import NativeBoundary.Proofs.Registry.Discovery

/-!
# What a document and a metadata group declare

The contents of an interface told from its sources alone, without any state: which names are bound
to which types, and for each of the six lists what the declarations of the document and the items
of the metadata put there, read where names have those types.  An object takes the constructors and
methods of the metadata behind its own.
-/

namespace NativeBoundary

/-- The six lists of an interface as they are read; each entry is a declaration or the problem met
in reading it. -/
structure Contents where
  records : List (Except Problem Model.Record) := []
  enums : List (Except Problem Model.Union) := []
  errors : List (Except Problem Model.Union) := []
  callbacks : List (Except Problem Model.CallbackInterface) := []
  functions : List (Except Problem Model.Function) := []
  objects : List (Except Problem Model.Object) := []

/-- The lists of an interface, all of whose entries are there. -/
def Interface.contents (interface : Interface) : Contents where
  records := interface.records.map .ok
  enums := interface.enums.map .ok
  errors := interface.errors.map .ok
  callbacks := interface.callbacks.map .ok
  functions := interface.functions.map .ok
  objects := interface.objects.map .ok

namespace Document.Declaration

/-- An attribute of the kind is written at the declaration. -/
def marked (kind : AttributeKind) (declaration : Declaration) : Bool :=
  (declaration.attributes.getD []).any fun node => node.key == kind.key

/-- An enum or an error that is a list of words. -/
def denoteWords (declaration : Declaration) (values : List String) :
    Except Problem Model.Union := do
  let _ ← declaration.checkAttributes .enum
  declaration.ensureDistinct .enumVariant values
  pure ⟨declaration.name, values.map fun value => { name := value }⟩

theorem denoteWords_eq_ok {declaration : Declaration} {values : List String}
    {union : Model.Union} :
    declaration.denoteWords values = .ok union ↔
      ∃ attributes, declaration.checkAttributes .enum = .ok attributes ∧
        ∃ found, declaration.ensureDistinct .enumVariant values = .ok found ∧
          union = ⟨declaration.name, values.map fun value => { name := value }⟩ := by
  simp only [denoteWords, Results.bind_eq_ok, Results.pure_eq_ok]

def denoteUnion (declaration : Declaration) (constructors : List Constructor)
    (operations : List Operation) (names : Names) : Except Problem Model.Union := do
  let _ ← declaration.checkAttributes .interface
  let variants ← declaration.denoteVariants constructors operations names
  pure ⟨declaration.name, variants⟩

theorem denoteUnion_eq_ok {declaration : Declaration} {constructors : List Constructor}
    {operations : List Operation} {names : Names} {union : Model.Union} :
    declaration.denoteUnion constructors operations names = .ok union ↔
      ∃ attributes, declaration.checkAttributes .interface = .ok attributes ∧
        ∃ variants, declaration.denoteVariants constructors operations names = .ok variants ∧
          union = ⟨declaration.name, variants⟩ := by
  simp only [denoteUnion, Results.bind_eq_ok, Results.pure_eq_ok]

/-- A union has no constructors, and each of its operations was read as a variant. -/
theorem denoteUnion_parts {declaration : Declaration} {constructors : List Constructor}
    {operations : List Operation} {names : Names} {union : Model.Union}
    (given : declaration.denoteUnion constructors operations names = .ok union) :
    constructors = [] ∧
      declaration.ensureDistinct .variant (operations.map Operation.name) = .ok () ∧
        ∃ variants,
          operations.mapM (Operation.denoteVariant declaration.name · names) = .ok variants ∧
            union = ⟨declaration.name, variants⟩ := by
  obtain ⟨_, -, variants, read, rfl⟩ := denoteUnion_eq_ok.mp given
  cases constructors with
  | nil =>
      obtain ⟨_, distinct, variantsRead⟩ := Results.bind_eq_ok.mp read
      exact ⟨rfl, distinct, variants, variantsRead, rfl⟩
  | cons first rest => cases read

def denotePlain (declaration : Declaration) (constructors : List Constructor)
    (operations : List Operation) (names : Names) : Except Problem Model.Object := do
  let attributes ← declaration.checkAttributes .interface
  declaration.denoteObject attributes constructors operations names

theorem denotePlain_eq_ok {declaration : Declaration} {constructors : List Constructor}
    {operations : List Operation} {names : Names} {object : Model.Object} :
    declaration.denotePlain constructors operations names = .ok object ↔
      ∃ attributes, declaration.checkAttributes .interface = .ok attributes ∧
        declaration.denoteObject attributes constructors operations names = .ok object := by
  simp only [denotePlain, Results.bind_eq_ok]

/-- What one declaration declares.  Attributes tell enums, errors and objects apart. -/
def contents (declaration : Declaration) (names : Names) : Contents :=
  match declaration.body with
  | .space functions => { functions := functions.map (Operation.denoteFunction · names) }
  | .dictionary members => { records := [declaration.denoteRecord members names] }
  | .enum values =>
      if declaration.marked .error then { errors := [declaration.denoteWords values] }
      else { enums := [declaration.denoteWords values] }
  | .interface constructors operations =>
      if declaration.marked .enum then
        { enums := [declaration.denoteUnion constructors operations names] }
      else if declaration.marked .error then
        { errors := [declaration.denoteUnion constructors operations names] }
      else { objects := [declaration.denotePlain constructors operations names] }
  | .callbackInterface operations =>
      { callbacks := [declaration.denoteCallback operations names] }
  | .typedef _ => {}

/-- An interface that is neither an enum nor an error. -/
def isObject (declaration : Declaration) : Bool :=
  match declaration.body with
  | .interface _ _ => !declaration.marked .enum && !declaration.marked .error
  | _ => false

end Document.Declaration

namespace Metadata.Group

/-- An object with more constructors behind its own. -/
def withConstructors (object : Model.Object) (constructors : List Model.Constructor) :
    Model.Object :=
  { object with constructors := object.constructors ++ constructors }

/-- An object with more methods behind its own. -/
def withMethods (object : Model.Object) (methods : List Model.Method) : Model.Object :=
  { object with methods := object.methods ++ methods }

/-- An object with the constructors and methods that a group gives to its name. -/
def complete (group : Group) (names : Names) (object : Model.Object) :
    Except Problem Model.Object := do
  let constructors ← (group.constructors.filter (·.owner = object.name)).mapM
    (Constructor.denote · names)
  let methods ← (group.methods.filter (·.owner = object.name)).mapM
    (Method.denote object.name · names)
  pure (withMethods (withConstructors object constructors) methods)

/-- The names that are not among the declared ones, each once. -/
def freshNames (declared names : List String) : List String :=
  (names.filter fun name => !declared.contains name).eraseDups

end Metadata.Group

namespace Interface

open Document (Declaration)
open Metadata (Group)

/-- All names that a document and a group introduce, in the order of discovery. -/
def introductions (declarations : List Declaration) (group : Group) : List (String × Ty) :=
  declarations.flatMap Declaration.bindings ++ group.introduced

def environment (declarations : List Declaration) (group : Group) : Names :=
  fun name => (introductions declarations group).lookup name

/-- The objects of the document, and behind them those that only the metadata has. -/
def plainObjects (declarations : List Declaration) (group : Group) (names : Names) :
    List (Except Problem Model.Object) :=
  (declarations.flatMap fun declaration => (declaration.contents names).objects) ++
    (Group.freshNames ((declarations.filter Declaration.isObject).map Declaration.name)
      (group.objects.map Metadata.Object.name)).map fun name => pure ({ name } : Model.Object)

/-- The six lists that a document and a group declare where names have these types. -/
def outline (declarations : List Declaration) (group : Group) (names : Names) : Contents where
  records := (declarations.flatMap fun declaration => (declaration.contents names).records) ++
    group.records.map (·.denote names)
  enums := (declarations.flatMap fun declaration => (declaration.contents names).enums) ++
    group.enums.map (·.denote names)
  errors := (declarations.flatMap fun declaration => (declaration.contents names).errors) ++
    group.errors.map (·.denote names)
  callbacks := declarations.flatMap fun declaration => (declaration.contents names).callbacks
  functions := (declarations.flatMap fun declaration => (declaration.contents names).functions) ++
    group.functions.map (·.denote names)
  objects := (plainObjects declarations group names).map fun plain => do
    let object ← plain
    group.complete names object

end Interface

end NativeBoundary
