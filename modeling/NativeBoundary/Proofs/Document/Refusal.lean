import NativeBoundary.Build
import NativeBoundary.Proofs.Action.Refusal
import NativeBoundary.Proofs.Attribute.Offence
import NativeBoundary.Proofs.Document.Denotation

/-!
# What a refused document tells

Every node of a declaration may have a place, and most have names.  A problem met while documents
are discovered and declared is told by a name and a place that one of the declarations writes.  The
name is missing where a default or an incomplete type is refused and where the attributes of a
constructor are; the place is missing where a list of the interface already has a declaration of the
name, and both are for an interface that is finalized.
-/

namespace NativeBoundary

open Results (Tells tells_ok tells_error)

/-! ## Names and places of nodes -/

/-- The names and the places that a part of a document may write. -/
structure Marks where
  name : String → Prop
  place : Location → Prop

def Marks.all : Marks := ⟨fun _ => True, fun _ => True⟩

/-- There is a place, and it is one of the marked ones. -/
def Marks.At (marks : Marks) (location : Option Location) : Prop :=
  ∃ place, location = some place ∧ marks.place place

theorem Marks.At.or {marks : Marks} {location : Option Location} (within : marks.At location)
    (fallback : Option Location) : marks.At (location.or fallback) := by
  obtain ⟨place, rfl, there⟩ := within
  exact ⟨place, rfl, there⟩

structure AttributeNode.Within (marks : Marks) (node : AttributeNode) : Prop where
  location : marks.At node.location
  value : ∀ value, node.value = some value → marks.name value

/-- An expression and its parts are at marked places, and the identifiers have marked names. -/
inductive TypeExpr.Within (marks : Marks) : TypeExpr → Prop where
  | node {expr : TypeExpr} (location : marks.At expr.location)
      (name : expr.shape = .identifier → marks.name (expr.name.getD ""))
      (element : ∀ part, expr.element = some part → Within marks part)
      (key : ∀ part, expr.key = some part → Within marks part)
      (value : ∀ part, expr.value = some part → Within marks part) : Within marks expr

namespace Document

def AttributesWithin (marks : Marks) (attributes : Option (List AttributeNode)) : Prop :=
  ∀ node ∈ attributes.getD [], node.Within marks

structure Argument.Within (marks : Marks) (argument : Argument) : Prop where
  name : marks.name argument.name
  type : argument.type.Within marks
  default : ∀ node, argument.default = some node → marks.At node.location
  attributes : AttributesWithin marks argument.attributes
  location : marks.At argument.location

structure Operation.Within (marks : Marks) (operation : Operation) : Prop where
  name : marks.name operation.name
  arguments : ∀ argument ∈ operation.arguments, argument.Within marks
  result : ∀ expr, operation.result = some expr → expr.Within marks
  attributes : AttributesWithin marks operation.attributes
  location : marks.At operation.location

/-- A constructor without a name of its own is called by the primary one. -/
structure Constructor.Within (marks : Marks) (constructor : Constructor) : Prop where
  name : marks.name Model.primaryName
  arguments : ∀ argument ∈ constructor.arguments, argument.Within marks
  attributes : AttributesWithin marks constructor.attributes
  location : marks.At constructor.location

structure Member.Within (marks : Marks) (member : Member) : Prop where
  name : marks.name member.name
  type : member.type.Within marks
  default : ∀ node, member.default = some node → marks.At node.location
  attributes : AttributesWithin marks member.attributes
  location : marks.At member.location

def Body.Within (marks : Marks) : Body → Prop
  | .space functions => ∀ function ∈ functions, function.Within marks
  | .dictionary members => ∀ member ∈ members, member.Within marks
  | .enum values => ∀ value ∈ values, marks.name value
  | .interface constructors operations =>
      (∀ constructor ∈ constructors, constructor.Within marks) ∧
        ∀ operation ∈ operations, operation.Within marks
  | .callbackInterface operations => ∀ operation ∈ operations, operation.Within marks
  | .typedef _ => True

structure Declaration.Within (marks : Marks) (declaration : Declaration) : Prop where
  name : marks.name declaration.name
  body : declaration.body.Within marks
  attributes : AttributesWithin marks declaration.attributes
  location : marks.At declaration.location

def Body.constructors : Body → List Constructor
  | .interface constructors _ => constructors
  | _ => []

end Document

/-! ## Told problems -/

/-- The causes that are told without a name. -/
def Cause.isNameless : Cause → Bool
  | .malformedBoolean _ | .malformedInteger _ | .malformedFloat _ | .outOfRange ..
  | .incompatibleDefault .. | .sequenceWithoutElement | .mapWithoutParts | .finalized => true
  | _ => false

/-- The causes that are told without a place: where a name is taken is looked up by lists that know
no places, and only functions bring theirs along. -/
def Cause.isPlaceless : Cause → Bool
  | .duplicateDeclaration kind _ => kind ≠ .function
  | .finalized => true
  | _ => false

namespace Problem

/-- The problem has a marked name and a marked place. -/
structure Traced (marks : Marks) (problem : Problem) : Prop where
  named : ∃ name, problem.name = some name ∧ marks.name name
  placed : marks.At problem.location
  ordinary : problem.cause.isNameless = false ∧ problem.cause.isPlaceless = false

/-- The problem has a marked name and a marked place unless its cause is told without one.  Some
problems may lack a name whatever their cause is. -/
structure Told (marks : Marks) (excused : Problem → Prop) (problem : Problem) : Prop where
  named : (problem.cause.isNameless = false ∧ ∃ name, problem.name = some name ∧ marks.name name) ∨
    (problem.name = none ∧ (problem.cause.isNameless = true ∨ excused problem))
  placed : (problem.cause.isPlaceless = false ∧ marks.At problem.location) ∨
    (problem.location = none ∧ problem.cause.isPlaceless = true)

variable {marks : Marks} {excused : Problem → Prop} {problem : Problem}

theorem Told.mono {other : Problem → Prop} (told : problem.Told marks excused)
    (weaker : excused problem → other problem) : problem.Told marks other :=
  ⟨told.named.imp_right (And.imp_right (Or.imp_right weaker)), told.placed⟩

theorem Traced.told (traced : problem.Traced marks) : problem.Told marks excused :=
  ⟨.inl ⟨traced.ordinary.1, traced.named⟩, .inl ⟨traced.ordinary.2, traced.placed⟩⟩

end Problem

variable {marks : Marks} {excused : Problem → Prop}

open Problem (Traced Told)

/-! ## Attributes, defaults and types -/

theorem AttributeNode.Offends.ordinary {site : Site} {node : AttributeNode} {cause : Cause}
    (offends : node.Offends site cause) :
    cause.isNameless = false ∧ cause.isPlaceless = false := by
  cases offends <;> exact ⟨rfl, rfl⟩

theorem AttributeNode.Within.place {node : AttributeNode} (within : node.Within marks)
    (location : Option Location) (cause : Cause) : marks.At (node.place location cause) := by
  cases cause with
  | misplacedAttribute kind site => exact within.location.or location
  | _ => exact within.location

namespace Site

theorem check_traced {site : Site} {owner : String} {location : Option Location}
    {nodes : Option (List AttributeNode)} (named : marks.name owner)
    (within : Document.AttributesWithin marks nodes) :
    Tells (Traced marks) (site.check (some owner) location nodes) := by
  intro problem refused
  obtain ⟨before, node, after, cause, split, -, offends, rfl⟩ := checkNodes_eq_error_iff.mp refused
  have inside : node ∈ nodes.getD [] := split ▸ List.mem_append_right before List.mem_cons_self
  exact ⟨⟨owner, rfl, named⟩, (within node inside).place location cause, offends.ordinary⟩

theorem check_told {site : Site} {location : Option Location}
    {nodes : Option (List AttributeNode)} (within : Document.AttributesWithin marks nodes)
    (excuses : ∀ problem, site.check none location nodes = .error problem → excused problem) :
    Tells (Told marks excused) (site.check none location nodes) := by
  intro problem refused
  have told := excuses problem refused
  obtain ⟨before, node, after, cause, split, -, offends, rfl⟩ := checkNodes_eq_error_iff.mp refused
  have inside : node ∈ nodes.getD [] := split ▸ List.mem_append_right before List.mem_cons_self
  exact ⟨.inr ⟨rfl, .inr told⟩,
    .inl ⟨offends.ordinary.2, (within node inside).place location cause⟩⟩

end Site

namespace DefaultNode

variable {node : DefaultNode}

theorem refuse_told {cause : Cause} (within : marks.At node.location)
    (nameless : cause.isNameless = true) (placed : cause.isPlaceless = false) :
    Tells (Told marks excused) (node.refuse cause) :=
  tells_error ⟨.inr ⟨rfl, .inl nameless⟩, .inl ⟨placed, within⟩⟩

theorem convertInteger_told (within : marks.At node.location) (type : Ty) (signed : Bool)
    (width : Nat) : Tells (Told marks excused) (node.convertInteger type signed width) := by
  unfold convertInteger
  split
  · exact refuse_told within rfl rfl
  · simp only
    split
    · exact tells_ok _
    · exact refuse_told within rfl rfl

theorem convertBoolean_told (within : marks.At node.location) (type : Ty) :
    Tells (Told marks excused) (node.convertBoolean type) := by
  unfold convertBoolean
  split
  · exact tells_ok _
  · split
    · exact tells_ok _
    · exact refuse_told within rfl rfl

theorem convertFloat_told (within : marks.At node.location) (type : Ty) :
    Tells (Told marks excused) (node.convertFloat type) := by
  unfold convertFloat
  split
  · exact tells_ok _
  · exact refuse_told within rfl rfl

/-- A default that does not fit its type is told at its own place, and never by a name. -/
theorem convert_told (within : marks.At node.location) (type : Ty) :
    Tells (Told marks excused) (node.convert type) := by
  have incompatible (kind : DefaultKind) : Tells (Told marks excused)
      (node.refuse (.incompatibleDefault kind node.text type)) :=
    refuse_told within rfl rfl
  have float (kind : DefaultKind) : Tells (Told marks excused)
      (if type.kind.isFloat then node.convertFloat type
        else node.refuse (.incompatibleDefault kind node.text type)) :=
    (convertFloat_told within type).ite (incompatible kind)
  unfold convert
  cases node.kind with
  | boolean => exact (convertBoolean_told within type).ite (incompatible _)
  | integer =>
      simp only
      split
      · exact convertInteger_told within type _ _
      · exact float .integer
  | float => exact float .float
  | _ => exact (tells_ok _).ite (incompatible _)

end DefaultNode

namespace TypeExpr

theorem denote_told : ∀ (expr : TypeExpr) (names : Names), expr.Within marks →
    Tells (Told marks excused) (expr.denote names)
  | ⟨.sequence, _, some element, _, _, nullable, _⟩, names, .node _ _ elementWithin _ _ =>
      (denote_told element names (elementWithin element rfl)).bind fun _ _ => tells_ok _
  | ⟨.sequence, _, none, _, _, _, _⟩, _, .node location _ _ _ _ =>
      tells_error ⟨.inr ⟨rfl, .inl rfl⟩, .inl ⟨rfl, location⟩⟩
  | ⟨.map, _, _, some key, some value, nullable, _⟩, names, .node _ _ _ keyWithin valueWithin =>
      (denote_told key names (keyWithin key rfl)).bind fun _ _ =>
        (denote_told value names (valueWithin value rfl)).bind fun _ _ => tells_ok _
  | ⟨.map, _, _, none, _, _, _⟩, _, .node location _ _ _ _ =>
      tells_error ⟨.inr ⟨rfl, .inl rfl⟩, .inl ⟨rfl, location⟩⟩
  | ⟨.map, _, _, some _, none, _, _⟩, _, .node location _ _ _ _ =>
      tells_error ⟨.inr ⟨rfl, .inl rfl⟩, .inl ⟨rfl, location⟩⟩
  | ⟨.identifier, name, _, _, _, nullable, location⟩, names, .node place named _ _ _ => by
      refine Tells.bind ?_ fun _ _ => tells_ok _
      unfold denoteName
      split
      · exact tells_ok _
      · exact tells_error (Traced.told ⟨⟨_, rfl, named rfl⟩, place, rfl, rfl⟩)
termination_by structural expr => expr

end TypeExpr

/-! ## Readings of declarations -/

namespace Document

theorem convertDefault_told {written : Option DefaultNode}
    (within : ∀ node, written = some node → marks.At node.location) (type : Ty) :
    Tells (Told marks excused) (convertDefault type written) := by
  cases written with
  | none => exact tells_ok none
  | some node => exact (node.convert_told (within node rfl) type).bind fun _ _ => tells_ok _

theorem denoteResult_told {result : Option TypeExpr}
    (within : ∀ expr, result = some expr → expr.Within marks) (names : Names) :
    Tells (Told marks excused) (denoteResult result names) := by
  cases result with
  | none => exact tells_ok none
  | some expr => exact (expr.denote_told names (within expr rfl)).bind fun _ _ => tells_ok _

theorem told_of_traced {α : Type} {result : Except Problem α}
    (traced : Tells (Traced marks) result) : Tells (Told marks excused) result :=
  traced.mono fun _ => Traced.told

theorem Argument.denote_told {argument : Argument} (within : argument.Within marks)
    (names : Names) : Tells (Told marks excused) (argument.denote names) :=
  (told_of_traced (Site.check_traced within.name within.attributes)).bind fun _ _ =>
    (argument.type.denote_told names within.type).bind fun type _ =>
      (convertDefault_told within.default type).bind fun _ _ => tells_ok _

theorem Member.denote_told {member : Member} (within : member.Within marks) (names : Names) :
    Tells (Told marks excused) (member.denote names) :=
  (told_of_traced (Site.check_traced within.name within.attributes)).bind fun _ _ =>
    (member.type.denote_told names within.type).bind fun type _ =>
      (convertDefault_told within.default type).bind fun _ _ => tells_ok _

namespace Operation

variable {operation : Operation}

theorem arguments_told {arguments : List Argument}
    (within : ∀ argument ∈ arguments, argument.Within marks) (names : Names) :
    Tells (Told marks excused) (arguments.mapM (Argument.denote · names)) :=
  .mapM fun argument inside => Argument.denote_told (within argument inside) names

theorem checkAttributes_told (site : Site) (within : operation.Within marks) :
    Tells (Told marks excused) (operation.checkAttributes site) :=
  told_of_traced (Site.check_traced within.name within.attributes)

theorem denoteFunction_told (within : operation.Within marks) (names : Names) :
    Tells (Told marks excused) (operation.denoteFunction names) :=
  (checkAttributes_told .function within).bind fun _ _ =>
    (arguments_told within.arguments names).bind fun _ _ =>
      (denoteResult_told within.result names).bind fun _ _ => tells_ok _

theorem denoteMethod_told (owner : String) (within : operation.Within marks) (names : Names) :
    Tells (Told marks excused) (operation.denoteMethod owner names) :=
  (checkAttributes_told .method within).bind fun _ _ =>
    (arguments_told within.arguments names).bind fun _ _ =>
      (denoteResult_told within.result names).bind fun _ _ => tells_ok _

theorem denoteVariant_told {owner : String} (named : marks.name owner)
    (within : operation.Within marks) (names : Names) :
    Tells (Told marks excused) (operation.denoteVariant owner names) := by
  refine Tells.ite (tells_error (Traced.told ⟨⟨owner, rfl, named⟩, within.location, rfl, rfl⟩)) ?_
  refine (checkAttributes_told .base within).bind fun _ _ => ?_
  refine Tells.bind (.mapM fun argument inside => ?_) fun _ _ => tells_ok _
  have type := (within.arguments argument inside).type
  exact (argument.type.denote_told names type).bind fun _ _ => tells_ok _

end Operation

namespace Constructor

variable {constructor : Constructor}

/-- The attributes of a constructor are checked under no name. -/
def Refused (constructor : Constructor) (problem : Problem) : Prop :=
  Site.constructor.check none constructor.location constructor.attributes = .error problem

theorem denote_told (within : constructor.Within marks) (names : Names) :
    Tells (Told marks constructor.Refused) (constructor.denote names) :=
  (Site.check_told within.attributes fun _ refused => refused).bind fun _ _ =>
    (Operation.arguments_told within.arguments names).bind fun _ _ => tells_ok _

theorem name_of_denote {names : Names} {read : Model.Constructor} (within : constructor.Within marks)
    (denoted : constructor.denote names = .ok read) : marks.name read.name := by
  obtain ⟨attributes, checked, arguments, -, rfl⟩ := denote_eq_ok.mp denoted
  cases given : (Attribute.valueOf .name attributes).filter (· ≠ "") with
  | none => exact within.name
  | some name =>
      have stated := (Option.filter_eq_some_iff.mp given).1
      rw [Site.valueOf_of_checkNodes .name checked] at stated
      obtain ⟨node, found, written⟩ := Option.bind_eq_some_iff.mp stated
      exact (within.attributes node (List.mem_of_find?_eq_some found)).value name written

end Constructor

namespace Declaration

variable {declaration : Declaration}

theorem checkAttributes_traced (site : Site) (within : declaration.Within marks) :
    Tells (Traced marks) (declaration.checkAttributes site) :=
  Site.check_traced within.name within.attributes

theorem mem_of_firstRepeated {seen names : List String} {name : String}
    (repeated : firstRepeated seen names = some name) : name ∈ names := by
  induction names generalizing seen with
  | nil => cases repeated
  | cons first rest ih =>
      unfold firstRepeated at repeated
      split at repeated
      · cases repeated
        exact List.mem_cons_self
      · exact List.mem_cons_of_mem first (ih repeated)

theorem ensureDistinct_told {names : List String} (kind : MemberKind)
    (within : declaration.Within marks) (named : ∀ name ∈ names, marks.name name) :
    Tells (Told marks excused) (declaration.ensureDistinct kind names) := by
  unfold ensureDistinct
  split
  · exact tells_ok ()
  · next name repeated =>
    exact tells_error (Traced.told
      ⟨⟨name, rfl, named name (mem_of_firstRepeated repeated)⟩, within.location, rfl, rfl⟩)

theorem denoteRecord_told {members : List Member} (within : declaration.Within marks)
    (membersWithin : ∀ member ∈ members, member.Within marks) (names : Names) :
    Tells (Told marks excused) (declaration.denoteRecord members names) := by
  refine (told_of_traced (checkAttributes_traced .record within)).bind fun _ _ => ?_
  refine (ensureDistinct_told .field within ?_).bind fun _ _ => ?_
  · exact List.forall_mem_map.mpr fun member inside => (membersWithin member inside).name
  · refine Tells.bind (.mapM fun member inside => ?_) fun _ _ => tells_ok _
    exact Member.denote_told (membersWithin member inside) names

section Operations

variable {operations : List Operation}
  (operationsWithin : ∀ operation ∈ operations, operation.Within marks)

include operationsWithin

theorem operationNames_marked : ∀ name ∈ operations.map Operation.name, marks.name name :=
  List.forall_mem_map.mpr fun operation inside => (operationsWithin operation inside).name

theorem methods_told (owner : String) (names : Names) :
    Tells (Told marks excused) (operations.mapM (Operation.denoteMethod owner · names)) :=
  .mapM fun operation inside =>
    Operation.denoteMethod_told owner (operationsWithin operation inside) names

theorem denoteVariants_told {constructors : List Constructor} (within : declaration.Within marks)
    (constructorsWithin : ∀ constructor ∈ constructors, constructor.Within marks)
    (names : Names) :
    Tells (Told marks excused) (declaration.denoteVariants constructors operations names) := by
  cases constructors with
  | nil =>
      refine (ensureDistinct_told .variant within
        (operationNames_marked operationsWithin)).bind fun _ _ => .mapM fun operation inside => ?_
      exact Operation.denoteVariant_told within.name (operationsWithin operation inside) names
  | cons first rest =>
      have placed := (constructorsWithin first List.mem_cons_self).location.or declaration.location
      exact tells_error (Traced.told ⟨⟨_, rfl, within.name⟩, placed, rfl, rfl⟩)

theorem denoteObject_told {constructors : List Constructor} (attributes : List Attribute)
    (within : declaration.Within marks)
    (constructorsWithin : ∀ constructor ∈ constructors, constructor.Within marks)
    (names : Names) :
    Tells (Told marks fun problem => ∃ constructor ∈ constructors, constructor.Refused problem)
      (declaration.denoteObject attributes constructors operations names) := by
  refine Tells.bind (.mapM fun constructor inside => ?_) fun built read => ?_
  · refine (Constructor.denote_told (constructorsWithin constructor inside) names).mono ?_
    exact fun problem told => told.mono fun refused => ⟨constructor, inside, refused⟩
  · have builtNamed : ∀ name ∈ built.map Model.Constructor.name, marks.name name := by
      refine List.forall_mem_map.mpr fun constructor inside => ?_
      obtain ⟨node, written, denoted⟩ :=
        Results.exists_of_map_ok (Results.mapM_eq_ok.mp read) inside
      exact Constructor.name_of_denote (constructorsWithin node written) denoted
    have methodsNamed := operationNames_marked operationsWithin
    refine (ensureDistinct_told .constructor within builtNamed).bind fun _ _ => ?_
    refine (ensureDistinct_told .method within methodsNamed).bind fun _ _ => ?_
    refine (ensureDistinct_told .callable within ?_).bind fun _ _ => ?_
    · exact List.forall_mem_append.mpr ⟨builtNamed, methodsNamed⟩
    · exact (methods_told operationsWithin declaration.name names).bind fun _ _ => tells_ok _

theorem denoteCallback_told (within : declaration.Within marks) (names : Names) :
    Tells (Told marks excused) (declaration.denoteCallback operations names) :=
  (told_of_traced (checkAttributes_traced .callbackInterface within)).bind fun _ _ =>
    (ensureDistinct_told .method within (operationNames_marked operationsWithin)).bind fun _ _ =>
      (methods_told operationsWithin declaration.name names).bind fun _ _ => tells_ok _

end Operations

/-! ## Discovery -/

theorem problem_traced (within : declaration.Within marks) {cause : Cause}
    (ordinary : cause.isNameless = false ∧ cause.isPlaceless = false) :
    (declaration.problem cause).Traced marks :=
  ⟨⟨_, rfl, within.name⟩, within.location, ordinary⟩

theorem typedefType_traced (within : declaration.Within marks) (typeName : String) :
    Tells (Traced marks) (declaration.typedefType typeName) := by
  refine (checkAttributes_traced .typedef within).bind fun attributes _ => ?_
  simp only
  split
  · refine Tells.ite ?_ (Tells.ite (tells_ok _) ?_)
    · exact tells_error (problem_traced within ⟨rfl, rfl⟩)
    · exact tells_error (problem_traced within ⟨rfl, rfl⟩)
  · refine Tells.ite ?_ (tells_error (problem_traced within ⟨rfl, rfl⟩))
    split
    · exact tells_ok _
    · exact tells_error (problem_traced within ⟨rfl, rfl⟩)

theorem introduced_traced (within : declaration.Within marks) :
    Tells (Traced marks) declaration.introduced := by
  unfold introduced
  cases declaration.body with
  | enum values => exact (checkAttributes_traced .enum within).bind fun _ _ => tells_ok _
  | interface constructors operations =>
      exact (checkAttributes_traced .interface within).bind fun _ _ => tells_ok _
  | typedef typeName => exact (typedefType_traced within typeName).bind fun _ _ => tells_ok _
  | _ => exact tells_ok _

end Declaration

end Document

namespace Registry

open NativeBoundary.Action

theorem define_blames {name : String} {location : Option Location} (type : Ty)
    (named : marks.name name) (placed : marks.At location) :
    Blames (Traced marks) (define name type location) := by
  unfold define
  split
  · exact blames_fail ⟨⟨name, rfl, named⟩, placed, rfl, rfl⟩
  · refine blames_get.bind fun registry => ?_
    split
    · exact blames_ensure _ ⟨⟨name, rfl, named⟩, placed, rfl, rfl⟩
    · exact (blames_set _).bind fun _ => blames_note _

theorem discoverOne_blames {declaration : Document.Declaration}
    (within : declaration.Within marks) : Blames (Traced marks) (discoverOne declaration) := by
  refine (blames_lift (Document.Declaration.introduced_traced within)).bind fun introduced => ?_
  cases introduced with
  | none => exact blames_pure false
  | some type =>
      exact (define_blames type within.name within.location).bind fun _ => blames_pure true

end Registry

/-! ## Declaring -/

namespace Interface

open NativeBoundary.Action Document

/-- What comes behind a reading is told of the item that was read. -/
theorem blames_reading {α : Type} {told : Problem → Prop} {action : Action Registry α}
    {denoted : Names → Except Problem α} {add : α → Action Interface Unit}
    (reads : Registry.Reads action denoted) (tells : ∀ names, Tells told (denoted names))
    (blames : ∀ names item, denoted names = .ok item → Blames told (add item)) :
    Blames told (onRegistry action >>= add) := by
  intro before problem failed
  have denotes : ((onRegistry action) before).result = denoted before.registry.names :=
    reads.result before.registry
  cases ran : onRegistry action before with
  | mk result middle events =>
      rw [ran] at denotes
      cases result with
      | error found =>
          rw [bind_run_error ran] at failed
          exact tells _ problem (by rw [← denotes, Except.error.inj failed])
      | ok item =>
          rw [bind_run_ok ran] at failed
          exact blames _ item denotes.symm middle problem failed

theorem ensureOpen_blames : Blames (Told marks excused) ensureOpen :=
  blames_get.bind fun _ => blames_ensure _ ⟨.inr ⟨rfl, .inl rfl⟩, .inr ⟨rfl, rfl⟩⟩

theorem addSpace_blames {name : String} {location : Option Location} (named : marks.name name)
    (placed : marks.At location) :
    Blames (Told marks excused) (addSpace (.text name) location) := by
  refine ensureOpen_blames.bind fun _ => blames_get.bind fun interface => ?_
  split
  · exact blames_set _
  · exact blames_fail (Traced.told ⟨⟨name, rfl, named⟩, placed, rfl, rfl⟩)

/-- A name that is taken is told without a place. -/
theorem addTo_blames {α : Type} {kind : DeclarationKind} {nameOf : α → String}
    {declared : Interface → List α} {update : List α → Interface → Interface} {item : α}
    (type : kind ≠ .function) (named : marks.name (nameOf item)) :
    Blames (Told marks excused) (addTo kind nameOf declared update item) := by
  refine ensureOpen_blames.bind fun _ => blames_get.bind fun interface => ?_
  refine (blames_ensure _ ?_).bind fun _ => (blames_set _).bind fun _ => blames_note _
  exact ⟨.inl ⟨rfl, _, rfl, named⟩, .inr ⟨rfl, decide_eq_true type⟩⟩

theorem addFunction_blames {function : Model.Function} {location : Option Location}
    (named : marks.name function.name) (placed : marks.At location) :
    Blames (Told marks excused) (addFunction function location) := by
  refine ensureOpen_blames.bind fun _ => blames_get.bind fun interface => ?_
  refine (blames_ensure _ ?_).bind fun _ => (blames_ensure _ ?_).bind fun _ => blames_set _
  · exact Traced.told ⟨⟨_, rfl, named⟩, placed, rfl, rfl⟩
  · exact Traced.told ⟨⟨_, rfl, named⟩, placed, rfl, rfl⟩

theorem addOperation_blames {operation : Operation} (within : operation.Within marks) :
    Blames (Told marks excused) (addOperation operation) := by
  refine blames_reading operation.toFunction_reads (Operation.denoteFunction_told within) ?_
  intro names function denoted
  obtain ⟨_, -, _, -, _, -, rfl⟩ := Operation.denoteFunction_eq_ok.mp denoted
  exact addFunction_blames within.name within.location

/-- The problem is that of a constructor of the declaration, whose attributes are refused. -/
def RefusesConstructor (declaration : Declaration) (problem : Problem) : Prop :=
  ∃ constructor ∈ declaration.body.constructors, constructor.Refused problem

theorem declareOne_blames {declaration : Declaration} (within : declaration.Within marks) :
    Blames (Told marks (RefusesConstructor declaration)) (declareOne declaration) := by
  have attributesTold (site : Site) :
      Tells (Told marks (RefusesConstructor declaration)) (declaration.checkAttributes site) :=
    told_of_traced (Declaration.checkAttributes_traced site within)
  have bodyWithin := within.body
  unfold declareOne
  cases shape : declaration.body with
  | space functions =>
      rw [shape] at bodyWithin
      refine (blames_lift (attributesTold .base)).bind fun _ => ?_
      refine (addSpace_blames within.name within.location).bind fun _ => ?_
      exact .forAll fun operation inside => addOperation_blames (bodyWithin operation inside)
  | dictionary members =>
      rw [shape] at bodyWithin
      refine blames_reading (declaration.toRecord_reads members)
        (Declaration.denoteRecord_told within bodyWithin) fun names record denoted => ?_
      obtain ⟨_, -, -, _, -, rfl⟩ := Declaration.denoteRecord_eq_ok.mp denoted
      exact addTo_blames nofun within.name
  | enum values =>
      rw [shape] at bodyWithin
      refine (blames_lift (attributesTold .enum)).bind fun attributes => ?_
      refine (blames_lift (Declaration.ensureDistinct_told .enumVariant within
        bodyWithin)).bind fun _ => ?_
      simp only
      split
      · exact addTo_blames nofun within.name
      · exact addTo_blames nofun within.name
  | interface constructors operations =>
      rw [shape] at bodyWithin
      obtain ⟨constructorsWithin, operationsWithin⟩ := bodyWithin
      have readsVariants := declaration.toVariants_reads constructors operations
      have variantsTold (names : Names) : Tells (Told marks (RefusesConstructor declaration))
          (declaration.denoteVariants constructors operations names) :=
        Declaration.denoteVariants_told operationsWithin within constructorsWithin names
      refine (blames_lift (attributesTold .interface)).bind fun attributes => ?_
      split
      · exact blames_reading readsVariants variantsTold fun _ _ _ =>
          addTo_blames nofun within.name
      · split
        · exact blames_reading readsVariants variantsTold fun _ _ _ =>
            addTo_blames nofun within.name
        · refine blames_reading (declaration.toObject_reads attributes constructors operations)
            (fun names => ?_) fun names object denoted => ?_
          · refine (Declaration.denoteObject_told operationsWithin attributes within
              constructorsWithin names).mono fun problem told => told.mono fun refused => ?_
            rwa [RefusesConstructor, shape]
          · obtain ⟨_, _, -, -, -, rfl⟩ := Declaration.denoteObject_parts denoted
            exact addTo_blames nofun within.name
  | callbackInterface operations =>
      rw [shape] at bodyWithin
      refine blames_reading (declaration.toCallback_reads operations)
        (Declaration.denoteCallback_told bodyWithin within) fun names callback denoted => ?_
      obtain ⟨_, -, rfl⟩ := Declaration.denoteCallback_parts denoted
      exact addTo_blames nofun within.name
  | typedef typeName => exact blames_pure ()

end Interface

/-- Every problem of a document is told of one of its declarations, by a name and a place that stand
in it. -/
theorem Document.refusals_told (declarations : List Declaration) :
    (∀ registry problem, (Registry.discover declarations registry).result = .error problem →
      ∃ declaration ∈ declarations, ∀ marks, declaration.Within marks → problem.Traced marks) ∧
    ∀ interface problem, (Interface.declare declarations interface).result = .error problem →
      ∃ declaration ∈ declarations, ∀ marks, declaration.Within marks →
        problem.Told marks (Interface.RefusesConstructor declaration) := by
  constructor
  · intro registry problem refused
    have blames : Action.Blames (fun problem => ∃ declaration ∈ declarations, ∀ marks,
        declaration.Within marks → problem.Traced marks) (Registry.discover declarations) := by
      refine Action.Blames.bind (.each fun declaration inside => ?_) fun _ => Action.blames_note _
      intro before found failed
      exact ⟨declaration, inside, fun marks within =>
        Registry.discoverOne_blames within before found failed⟩
    exact blames registry problem refused
  · intro interface problem refused
    have blames : Action.Blames (fun problem => ∃ declaration ∈ declarations, ∀ marks,
        declaration.Within marks →
          problem.Told marks (Interface.RefusesConstructor declaration))
        (Interface.declare declarations) := by
      refine .forAll fun declaration inside before found failed => ?_
      exact ⟨declaration, inside, fun marks within =>
        Interface.declareOne_blames within before found failed⟩
    exact blames interface problem refused

namespace Document

/-- A namespace and two enums of one name, each of them on a line of its own. -/
def palette (functions : List Operation) : List Declaration :=
  [{ name := "palette", body := .space functions, location := some ⟨"palette.udl", 1, 1⟩ },
    { name := "Shade", body := .enum ["light"], location := some ⟨"palette.udl", 5, 1⟩ },
    { name := "Shade", body := .enum ["dark"], location := some ⟨"palette.udl", 9, 1⟩ }]

/-- A function of the palette whose default is no number. -/
def blend : Operation :=
  { name := "blend"
    arguments := [{
      name := "steps"
      type := { shape := .identifier, name := some "u8", location := some ⟨"palette.udl", 2, 14⟩ }
      default := some { kind := .integer, text := "few", location := some ⟨"palette.udl", 2, 25⟩ }
      location := some ⟨"palette.udl", 2, 14⟩ }]
    location := some ⟨"palette.udl", 2, 3⟩ }

/-- The second enum is refused without a place, and the default without a name. -/
theorem refusals_untold :
    (∀ declaration ∈ palette [blend], declaration.Within .all) ∧
    (Interface.buildOutcome (some { definitions := palette [] }) [] {}).result =
      .error ⟨.duplicateDeclaration .enum "Shade", some "Shade", none⟩ ∧
    (Interface.buildOutcome (some { definitions := palette [blend] }) [] {}).result =
      .error ⟨.malformedInteger "few", none, some ⟨"palette.udl", 2, 25⟩⟩ := by
  refine ⟨?_, by decide +kernel, by decide +kernel⟩
  have placed (place : Location) : Marks.all.At (some place) :=
    ⟨place, rfl, trivial⟩
  have unattributed : AttributesWithin .all none :=
    List.forall_mem_nil _
  have argument : ∀ argument ∈ blend.arguments, argument.Within .all := by
    refine List.forall_mem_singleton.mpr ⟨trivial, ?_, ?_, unattributed, placed _⟩
    · exact .node (placed _) (fun _ => trivial) nofun nofun nofun
    · rintro node ⟨rfl⟩
      exact placed _
  have functions : ∀ function ∈ [blend], function.Within .all :=
    List.forall_mem_singleton.mpr ⟨trivial, argument, nofun, unattributed, placed _⟩
  refine List.forall_mem_cons.mpr ⟨⟨trivial, functions, unattributed, placed _⟩, ?_⟩
  refine List.forall_mem_cons.mpr ⟨⟨trivial, fun _ _ => trivial, unattributed, placed _⟩, ?_⟩
  exact List.forall_mem_singleton.mpr ⟨trivial, fun _ _ => trivial, unattributed, placed _⟩

end Document

end NativeBoundary
