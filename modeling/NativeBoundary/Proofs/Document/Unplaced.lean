import NativeBoundary.Document.Detail
import NativeBoundary.Proofs.Action.Unplaced

/-!
# Documents without locations

A document without its file and its locations, in which an absent list of attributes is an empty
one.  Locations are read only to be put into problems: reading a node without locations finds what
reading the node finds, down to the locations of the problems.
-/

namespace NativeBoundary

/-! ## Nodes -/

mutual

def TypeExpr.unplaced : TypeExpr → TypeExpr
  | ⟨shape, name, element, key, value, nullable, _⟩ =>
      ⟨shape, name, unplacedPart element, unplacedPart key, unplacedPart value, nullable, none⟩

def TypeExpr.unplacedPart : Option TypeExpr → Option TypeExpr
  | none => none
  | some expr => some (unplaced expr)

end

def DefaultNode.unplaced (node : DefaultNode) : DefaultNode := { node with location := none }

def AttributeNode.unplaced (node : AttributeNode) : AttributeNode := { node with location := none }

namespace Document

/-- A list of attributes that is absent is written as an empty one. -/
def unplacedAttributes (attributes : Option (List AttributeNode)) : Option (List AttributeNode) :=
  some ((attributes.getD []).map AttributeNode.unplaced)

def Argument.unplaced (argument : Argument) : Argument :=
  { argument with
    type := argument.type.unplaced
    default := argument.default.map DefaultNode.unplaced
    attributes := unplacedAttributes argument.attributes
    location := none }

def Operation.unplaced (operation : Operation) : Operation :=
  { operation with
    arguments := operation.arguments.map Argument.unplaced
    result := operation.result.map TypeExpr.unplaced
    attributes := unplacedAttributes operation.attributes
    location := none }

def Constructor.unplaced (constructor : Constructor) : Constructor :=
  { constructor with
    arguments := constructor.arguments.map Argument.unplaced
    attributes := unplacedAttributes constructor.attributes
    location := none }

def Member.unplaced (member : Member) : Member :=
  { member with
    type := member.type.unplaced
    default := member.default.map DefaultNode.unplaced
    attributes := unplacedAttributes member.attributes
    location := none }

def Body.unplaced : Body → Body
  | .space functions => .space (functions.map Operation.unplaced)
  | .dictionary members => .dictionary (members.map Member.unplaced)
  | .enum values => .enum values
  | .interface constructors operations =>
      .interface (constructors.map Constructor.unplaced) (operations.map Operation.unplaced)
  | .callbackInterface operations => .callbackInterface (operations.map Operation.unplaced)
  | .typedef typeName => .typedef typeName

def Declaration.unplaced (declaration : Declaration) : Declaration :=
  { declaration with
    body := declaration.body.unplaced
    attributes := unplacedAttributes declaration.attributes
    location := none }

end Document

def Document.unplaced (document : Document) : Document where
  definitions := document.definitions.map Document.Declaration.unplaced

/-! ## Attributes and defaults -/

theorem AttributeNode.interpret_unplaced (owner : Option String) (node : AttributeNode) :
    node.unplaced.interpret owner = Results.unplaced (node.interpret owner) := by
  obtain ⟨key, value, location⟩ := node
  simp only [interpret, unplaced]
  cases AttributeKind.ofKey? key with
  | none => rfl
  | some kind =>
      cases value <;> simp only [Results.unplaced_ite, Results.unplaced_ok,
        Results.unplaced_error, Problem.unplaced]

namespace Site

theorem checkNode_unplaced (site : Site) (owner : Option String) (location : Option Location)
    (node : AttributeNode) :
    site.checkNode owner none node.unplaced =
      Results.unplaced (site.checkNode owner location node) := by
  simp only [checkNode, AttributeNode.interpret_unplaced, Results.unplaced_bind,
    Results.unplaced_ite, Results.unplaced_ok, Results.unplaced_error]
  rfl

theorem checkNodes_unplaced (site : Site) (owner : Option String) (location : Option Location)
    (nodes : List AttributeNode) :
    site.checkNodes owner none (nodes.map AttributeNode.unplaced) =
      Results.unplaced (site.checkNodes owner location nodes) := by
  induction nodes with
  | nil => rfl
  | cons node rest ih =>
      simp only [List.map_cons, checkNodes, site.checkNode_unplaced owner location, ih,
        Results.unplaced_bind, Results.unplaced_ok]

theorem check_unplaced (site : Site) (owner : Option String) (location : Option Location)
    (nodes : Option (List AttributeNode)) :
    site.check owner none (Document.unplacedAttributes nodes) =
      Results.unplaced (site.check owner location nodes) :=
  site.checkNodes_unplaced owner location _

end Site

namespace DefaultNode

variable (node : DefaultNode) (type : Ty)

theorem refuse_unplaced (cause : Cause) :
    node.unplaced.refuse cause = Results.unplaced (node.refuse cause) := rfl

theorem convertBoolean_unplaced :
    node.unplaced.convertBoolean type = Results.unplaced (node.convertBoolean type) := by
  simp only [convertBoolean, refuse_unplaced, Results.unplaced_ite, Results.unplaced_ok]
  rfl

theorem convertFloat_unplaced :
    node.unplaced.convertFloat type = Results.unplaced (node.convertFloat type) := by
  simp only [convertFloat, refuse_unplaced, Results.unplaced_ite, Results.unplaced_ok]
  rfl

theorem convertInteger_unplaced (signed : Bool) (width : Nat) :
    node.unplaced.convertInteger type signed width =
      Results.unplaced (node.convertInteger type signed width) := by
  have text : node.unplaced.text = node.text := rfl
  simp only [convertInteger, text, refuse_unplaced]
  cases wholeNumber? node.text.toList with
  | none => rfl
  | some number => simp only [Results.unplaced_ite, Results.unplaced_ok]

theorem convert_unplaced : node.unplaced.convert type = Results.unplaced (node.convert type) := by
  have kind : node.unplaced.kind = node.kind := rfl
  have text : node.unplaced.text = node.text := rfl
  simp only [convert, kind, text, refuse_unplaced, convertBoolean_unplaced, convertFloat_unplaced,
    convertInteger_unplaced]
  cases node.kind with
  | integer =>
      cases type.kind.integerWidth? with
      | none => simp only [Results.unplaced_ite]
      | some width => rfl
  | _ => simp only [Results.unplaced_ite, Results.unplaced_ok]

end DefaultNode

namespace Registry

theorem resolveName_unplaced (name : String) (location : Option Location) :
    resolveName name none = (resolveName name location).unplaced := by
  rw [resolveName, resolveName, Action.unplaced_bind, Action.unplaced_get]
  congr 1
  funext registry
  cases registry.lookup? name <;> rfl

theorem settle_unplaced (nullable : Bool) (type : Ty) :
    (settle nullable type).unplaced = settle nullable type := by
  cases nullable <;> rfl

theorem resolve_unplaced : ∀ expr : TypeExpr, resolve expr.unplaced = (resolve expr).unplaced
  | ⟨.sequence, _, some element, _, _, nullable, _⟩ => by
      simp only [TypeExpr.unplaced, TypeExpr.unplacedPart, resolve, resolve_unplaced element,
        Action.unplaced_bind, settle_unplaced]
  | ⟨.sequence, _, none, _, _, _, _⟩ => rfl
  | ⟨.map, _, _, some key, some value, nullable, _⟩ => by
      simp only [TypeExpr.unplaced, TypeExpr.unplacedPart, resolve, resolve_unplaced key,
        resolve_unplaced value, Action.unplaced_bind, settle_unplaced]
  | ⟨.map, _, _, none, _, _, _⟩ => rfl
  | ⟨.map, _, _, some _, none, _, _⟩ => rfl
  | ⟨.identifier, name, _, _, _, nullable, location⟩ => by
      simp only [TypeExpr.unplaced, resolve, resolveName_unplaced (name.getD "") location,
        Action.unplaced_bind, settle_unplaced]
termination_by structural expr => expr

theorem define_unplaced (name : String) (type : Ty) (location : Option Location) :
    define name type none = (define name type location).unplaced := by
  simp only [define, Action.unplaced_ite, Action.unplaced_fail, Action.unplaced_bind,
    Action.unplaced_get]
  congr 2
  funext registry
  cases registry.type? name with
  | none => rfl
  | some existing => simp only [Action.unplaced_ensure, Problem.unplaced]

end Registry

/-! ## Declarations -/

namespace Document

theorem convertDefault_unplaced (type : Ty) (default : Option DefaultNode) :
    convertDefault type (default.map DefaultNode.unplaced) =
      Results.unplaced (convertDefault type default) := by
  cases default with
  | none => rfl
  | some node =>
      simp only [Option.map_some, convertDefault, DefaultNode.convert_unplaced,
        Results.unplaced_bind, Results.unplaced_ok]

theorem resolveResult_unplaced (result : Option TypeExpr) :
    resolveResult (result.map TypeExpr.unplaced) = (resolveResult result).unplaced := by
  cases result with
  | none => rfl
  | some expr =>
      simp only [Option.map_some, resolveResult, Registry.resolve_unplaced, Action.unplaced_bind,
        Action.unplaced_pure]

theorem Argument.convert_unplaced (argument : Argument) :
    argument.unplaced.convert = argument.convert.unplaced := by
  simp only [convert, unplaced, Site.argument.check_unplaced _ argument.location,
    Registry.resolve_unplaced, convertDefault_unplaced, Action.unplaced_bind,
    Action.unplaced_lift, Action.unplaced_pure]

theorem Member.convert_unplaced (member : Member) :
    member.unplaced.convert = member.convert.unplaced := by
  simp only [convert, unplaced, Site.field.check_unplaced _ member.location,
    Registry.resolve_unplaced, convertDefault_unplaced, Action.unplaced_bind,
    Action.unplaced_lift, Action.unplaced_pure]

namespace Operation

theorem checkAttributes_unplaced (site : Site) (operation : Operation) :
    operation.unplaced.checkAttributes site = Results.unplaced (operation.checkAttributes site) :=
  site.check_unplaced (some operation.name) operation.location operation.attributes

theorem toFunction_unplaced (operation : Operation) :
    operation.unplaced.toFunction = operation.toFunction.unplaced := by
  simp only [toFunction, checkAttributes_unplaced, Action.unplaced_bind, Action.unplaced_lift,
    Action.unplaced_pure]
  simp only [unplaced, Action.each_unplaced Argument.convert_unplaced, resolveResult_unplaced]

theorem toMethod_unplaced (owner : String) (operation : Operation) :
    operation.unplaced.toMethod owner = (operation.toMethod owner).unplaced := by
  simp only [toMethod, checkAttributes_unplaced, Action.unplaced_bind, Action.unplaced_lift,
    Action.unplaced_pure]
  simp only [unplaced, Action.each_unplaced Argument.convert_unplaced, resolveResult_unplaced]

theorem variantField_unplaced (argument : Argument) :
    variantField argument.unplaced = (variantField argument).unplaced := by
  simp only [variantField, Argument.unplaced, Registry.resolve_unplaced, Action.unplaced_bind,
    Action.unplaced_pure]

theorem toVariant_unplaced (owner : String) (operation : Operation) :
    operation.unplaced.toVariant owner = (operation.toVariant owner).unplaced := by
  simp only [toVariant, checkAttributes_unplaced, Action.unplaced_bind, Action.unplaced_lift,
    Action.unplaced_pure, Action.unplaced_ite]
  simp only [unplaced, Action.each_unplaced variantField_unplaced, Option.isSome_map]
  rfl

end Operation

theorem Constructor.convert_unplaced (constructor : Constructor) :
    constructor.unplaced.convert = constructor.convert.unplaced := by
  simp only [convert, unplaced, Site.constructor.check_unplaced _ constructor.location,
    Action.each_unplaced Argument.convert_unplaced, Action.unplaced_bind,
    Action.unplaced_lift, Action.unplaced_pure]

namespace Declaration

variable (declaration : Declaration)

theorem checkAttributes_unplaced (site : Site) :
    declaration.unplaced.checkAttributes site =
      Results.unplaced (declaration.checkAttributes site) :=
  site.check_unplaced (some declaration.name) declaration.location declaration.attributes

theorem ensureDistinct_unplaced (kind : MemberKind) (names : List String) :
    declaration.unplaced.ensureDistinct kind names =
      Results.unplaced (declaration.ensureDistinct kind names) := by
  unfold ensureDistinct
  cases firstRepeated [] names <;> rfl

theorem toRecord_unplaced (members : List Member) :
    declaration.unplaced.toRecord (members.map Member.unplaced) =
      (declaration.toRecord members).unplaced := by
  simp only [toRecord, checkAttributes_unplaced, ensureDistinct_unplaced, List.map_map,
    Action.each_unplaced Member.convert_unplaced, Action.unplaced_bind, Action.unplaced_lift,
    Action.unplaced_pure]
  rfl

theorem toVariants_unplaced (constructors : List Constructor) (operations : List Operation) :
    declaration.unplaced.toVariants (constructors.map Constructor.unplaced)
        (operations.map Operation.unplaced) =
      (declaration.toVariants constructors operations).unplaced := by
  cases constructors with
  | nil =>
      simp only [toVariants, List.map_nil, ensureDistinct_unplaced, List.map_map,
        Action.unplaced_bind, Action.unplaced_lift,
        ← Action.each_unplaced (Operation.toVariant_unplaced declaration.name)]
      rfl
  | cons first rest => rfl

theorem toObject_unplaced (attributes : List Attribute) (constructors : List Constructor)
    (operations : List Operation) :
    declaration.unplaced.toObject attributes (constructors.map Constructor.unplaced)
        (operations.map Operation.unplaced) =
      (declaration.toObject attributes constructors operations).unplaced := by
  simp only [toObject, ensureDistinct_unplaced, List.map_map,
    Action.each_unplaced Constructor.convert_unplaced, Action.unplaced_bind, Action.unplaced_lift,
    Action.unplaced_pure, ← Action.each_unplaced (Operation.toMethod_unplaced declaration.name)]
  rfl

theorem toCallback_unplaced (operations : List Operation) :
    declaration.unplaced.toCallback (operations.map Operation.unplaced) =
      (declaration.toCallback operations).unplaced := by
  simp only [toCallback, checkAttributes_unplaced, ensureDistinct_unplaced, List.map_map,
    Action.unplaced_bind, Action.unplaced_lift, Action.unplaced_pure,
    ← Action.each_unplaced (Operation.toMethod_unplaced declaration.name)]
  rfl

theorem typedefType_unplaced (typeName : String) :
    declaration.unplaced.typedefType typeName =
      Results.unplaced (declaration.typedefType typeName) := by
  simp only [typedefType, checkAttributes_unplaced, Results.unplaced_bind]
  congr 1
  funext attributes
  cases Attribute.valueOf .external attributes with
  | some source =>
      simp only [Results.unplaced_ite, Results.unplaced_ok, Results.unplaced_error]
      rfl
  | none =>
      cases Ty.builtin? typeName with
      | none =>
          simp only [Results.unplaced_ite, Results.unplaced_error]
          rfl
      | some representation =>
          simp only [Results.unplaced_ite, Results.unplaced_ok, Results.unplaced_error]
          rfl

theorem introduced_unplaced :
    declaration.unplaced.introduced = Results.unplaced declaration.introduced := by
  have body : declaration.unplaced.body = declaration.body.unplaced := rfl
  rw [introduced, introduced, body]
  cases declaration.body with
  | space | dictionary | callbackInterface => rfl
  | enum | interface =>
      simp only [Body.unplaced, checkAttributes_unplaced, Results.unplaced_bind]
      rfl
  | typedef =>
      simp only [Body.unplaced, typedefType_unplaced, Results.unplaced_bind]
      rfl

end Declaration

end Document

end NativeBoundary
