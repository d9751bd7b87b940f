import NativeBoundary.Proofs.Attribute.Checked
import NativeBoundary.Proofs.Build.BareVariant
import NativeBoundary.Proofs.Build.Reading

/-!
# Attributes that a build looks at

Declarations, members, callables and arguments can carry attributes, and each of these sites accepts
some kinds only.  A build looks at every attribute of a document but those at the arguments of
variants: anywhere else an attribute that its site does not accept ends the build, and there no
attribute makes a difference.
-/

namespace NativeBoundary

/-! ## Places of attributes -/

/-- An attribute as it is written at a site. -/
structure AttributePlace where
  site : Site
  node : AttributeNode
  deriving DecidableEq

def AttributePlace.accepted (place : AttributePlace) : Bool := place.site.accepts place.node

def Site.places (site : Site) (nodes : Option (List AttributeNode)) : List AttributePlace :=
  (nodes.getD []).map (⟨site, ·⟩)

namespace Document

def Argument.places (argument : Argument) : List AttributePlace :=
  Site.argument.places argument.attributes

def Member.places (member : Member) : List AttributePlace := Site.field.places member.attributes

def Operation.places (site : Site) (operation : Operation) : List AttributePlace :=
  site.places operation.attributes ++ operation.arguments.flatMap Argument.places

def Constructor.places (constructor : Constructor) : List AttributePlace :=
  Site.constructor.places constructor.attributes ++
    constructor.arguments.flatMap Argument.places

/-- All attributes in a declaration.  Operations are methods in objects and variants otherwise. -/
def Declaration.places (declaration : Declaration) : List AttributePlace :=
  match declaration.body with
  | .space functions =>
      Site.base.places declaration.attributes ++ functions.flatMap (Operation.places .function)
  | .dictionary members =>
      Site.record.places declaration.attributes ++ members.flatMap Member.places
  | .enum _ => Site.enum.places declaration.attributes
  | .interface constructors operations =>
      Site.interface.places declaration.attributes ++
        (constructors.flatMap Constructor.places ++
          operations.flatMap (Operation.places (if declaration.isObject then .method else .base)))
  | .callbackInterface operations =>
      Site.callbackInterface.places declaration.attributes ++
        operations.flatMap (Operation.places .method)
  | .typedef _ => Site.typedef.places declaration.attributes

end Document

def Document.places (document : Document) : List AttributePlace :=
  document.definitions.flatMap Document.Declaration.places

/-! ## Attributes of what was read -/

/-- Every site accepts what is written there. -/
def Accepted (places : List AttributePlace) : Prop := ∀ place ∈ places, place.accepted = true

namespace Accepted

theorem append {first second : List AttributePlace} (left : Accepted first)
    (right : Accepted second) : Accepted (first ++ second) :=
  List.forall_mem_append.mpr ⟨left, right⟩

theorem of_check {site : Site} {owner : Option String} {location : Option Location}
    {nodes : Option (List AttributeNode)} {attributes : List Attribute}
    (checked : site.check owner location nodes = .ok attributes) : Accepted (site.places nodes) :=
  List.forall_mem_map.mpr (Site.accepts_of_checkNodes checked)

theorem of_mapM {α β : Type} {read : α → Except Problem β} {places : α → List AttributePlace}
    (each : ∀ {item value}, read item = .ok value → Accepted (places item)) {items : List α}
    {values : List β} (succeeded : items.mapM read = .ok values) :
    Accepted (items.flatMap places) := by
  intro place member
  obtain ⟨item, inside, placed⟩ := List.mem_flatMap.mp member
  obtain ⟨value, given⟩ := Results.exists_mapM_iff.mp ⟨values, succeeded⟩ item inside
  exact each given place placed

end Accepted

namespace Document

variable {names : Names}

theorem Argument.accepted {argument : Argument} {read : Model.Argument}
    (given : argument.denote names = .ok read) : Accepted argument.places := by
  obtain ⟨attributes, checked, -⟩ := denote_eq_ok.mp given
  exact .of_check checked

theorem Member.accepted {member : Member} {field : Model.Field}
    (given : member.denote names = .ok field) : Accepted member.places := by
  obtain ⟨attributes, checked, -⟩ := denote_eq_ok.mp given
  exact .of_check checked

theorem Operation.accepted_function {operation : Operation} {function : Model.Function}
    (given : operation.denoteFunction names = .ok function) :
    Accepted (operation.places .function) := by
  obtain ⟨_, checked, _, arguments, -⟩ := denoteFunction_eq_ok.mp given
  exact (Accepted.of_check checked).append (.of_mapM Argument.accepted arguments)

theorem Operation.accepted_method {operation : Operation} {owner : String} {method : Model.Method}
    (given : operation.denoteMethod owner names = .ok method) :
    Accepted (operation.places .method) := by
  obtain ⟨_, checked, _, arguments, -⟩ := denoteMethod_eq_ok.mp given
  exact (Accepted.of_check checked).append (.of_mapM Argument.accepted arguments)

theorem Operation.accepted_variant {operation : Operation} {owner : String}
    {variant : Model.Variant} (given : operation.denoteVariant owner names = .ok variant) :
    Accepted (operation.bare.places .base) := by
  obtain ⟨-, _, checked, -⟩ := denoteVariant_eq_ok.mp given
  refine (Accepted.of_check checked).append fun place member => ?_
  obtain ⟨_, inside, placed⟩ := List.mem_flatMap.mp member
  obtain ⟨argument, -, rfl⟩ := List.mem_map.mp inside
  cases placed

theorem Constructor.accepted {constructor : Constructor} {read : Model.Constructor}
    (given : constructor.denote names = .ok read) : Accepted constructor.places := by
  obtain ⟨_, checked, _, arguments, -⟩ := denote_eq_ok.mp given
  exact (Accepted.of_check checked).append (.of_mapM Argument.accepted arguments)

namespace Declaration

variable {declaration : Declaration}

theorem accepted_union {constructors : List Constructor} {operations : List Operation}
    {union : Model.Union} (shape : declaration.body = .interface constructors operations)
    (isOther : declaration.isObject = false)
    (given : declaration.denoteUnion constructors operations names = .ok union) :
    Accepted declaration.bareVariants.places := by
  obtain ⟨attributes, checked, -⟩ := denoteUnion_eq_ok.mp given
  obtain ⟨rfl, -, variants, read, -⟩ := denoteUnion_parts given
  have same : declaration.bareVariants.places = Site.interface.places declaration.attributes ++
      (operations.map Operation.bare).flatMap (Operation.places .base) := by
    simp only [bareVariants_of_isOther shape isOther, places, isObject_with shape, isOther,
      Bool.false_eq_true, if_false, List.flatMap_nil, List.nil_append]
  rw [same, List.flatMap_map]
  exact (Accepted.of_check checked).append (.of_mapM Operation.accepted_variant read)

/-- Where a declaration was discovered and read, all of its attributes are accepted, those at the
arguments of variants left out. -/
theorem accepted_of_readable (introduced : ∃ type, declaration.introduced = .ok type)
    (readable : declaration.Readable names) : Accepted declaration.bareVariants.places := by
  have reading := reading_of_whole readable.whole
  generalize declaration.contents names = contents at reading
  cases reading with
  | space shape given =>
      obtain ⟨attributes, checked⟩ := readable.bare _ shape
      simp only [bareVariants, places, shape]
      exact (Accepted.of_check checked).append (.of_mapM Operation.accepted_function given)
  | record shape given =>
      obtain ⟨attributes, checked, -, fields, read, -⟩ := denoteRecord_eq_ok.mp given
      simp only [bareVariants, places, shape]
      exact (Accepted.of_check checked).append (.of_mapM Member.accepted read)
  | words shape given listed =>
      obtain ⟨attributes, checked, -⟩ := denoteWords_eq_ok.mp given
      simp only [bareVariants, places, shape]
      exact Accepted.of_check checked
  | union shape isOther given listed => exact accepted_union shape isOther given
  | object shape isObject given =>
      obtain ⟨attributes, checked, read⟩ := denotePlain_eq_ok.mp given
      obtain ⟨built, methods, readConstructors, -, readMethods, -⟩ := denoteObject_parts read
      simp only [bareVariants, places, shape, isObject, if_true]
      exact (Accepted.of_check checked).append ((Accepted.of_mapM Constructor.accepted
        readConstructors).append (.of_mapM Operation.accepted_method readMethods))
  | callback shape given =>
      obtain ⟨attributes, checked, -⟩ := Results.bind_eq_ok.mp given
      obtain ⟨methods, read, -⟩ := denoteCallback_parts given
      simp only [bareVariants, places, shape]
      exact (Accepted.of_check checked).append (.of_mapM Operation.accepted_method read)
  | typedef shape =>
      obtain ⟨type, discovered⟩ := introduced
      simp only [Declaration.introduced, shape] at discovered
      obtain ⟨_, typed, -⟩ := Results.bind_eq_ok.mp discovered
      obtain ⟨attributes, checked, -⟩ := Results.bind_eq_ok.mp typed
      simp only [bareVariants, places, shape]
      exact Accepted.of_check checked

end Declaration

end Document

namespace Interface

open Document (Declaration)
open Metadata (Item)

/-- Every attribute of a document that is built is accepted where it stands, those at the arguments
of variants left out. -/
theorem accepted_of_build {document : Document} {items : List Item} {settings : Settings}
    {interface : Interface} (built : build (some document) items settings = .ok interface) :
    Accepted document.bareVariants.places := by
  obtain ⟨group, plain, -, -, compatible, -, -⟩ := Plain.of_build built
  intro place member
  obtain ⟨_, inside, placed⟩ := List.mem_flatMap.mp member
  obtain ⟨declaration, declared, rfl⟩ := List.mem_map.mp inside
  exact Declaration.accepted_of_readable (compatible.introduced declaration declared)
    (compatible.document declaration declared) place placed

/-- An attribute that its site does not accept ends the build, unless it stands at an argument of a
variant; attributes there have no effect at all. -/
theorem build_attributes (document : Document) (items : List Item) (settings : Settings) :
    (∀ place ∈ document.bareVariants.places, place.accepted = false →
      ∃ problem, build (some document) items settings = .error problem) ∧
    build (some document.bareVariants) items settings = build (some document) items settings := by
  refine ⟨fun place member refused => ?_, build_bareVariants document items settings⟩
  cases built : build (some document) items settings with
  | error problem => exact ⟨problem, rfl⟩
  | ok interface =>
      have accepted := accepted_of_build built place member
      rw [refused] at accepted
      cases accepted

/-- Attributes at a field and at the argument of a variant. -/
def paintDocument (atField atArgument : List AttributeNode) : Document where
  definitions := [
    { name := "paint", body := .space [] },
    { name := "Point"
      body := .dictionary [{ name := "x", type := .named "f64", attributes := some atField }] },
    { name := "Shape"
      body := .interface [] [{
        name := "Circle"
        arguments := [{
          name := "radius", type := .named "f64", attributes := some atArgument }] }]
      attributes := some [{ key := "Enum" }] }]

theorem build_attributes_paint :
    ∃ problem, build (some (paintDocument [{ key := "Shiny" }] [])) [] {} = .error problem :=
  (build_attributes _ [] {}).1 ⟨.field, { key := "Shiny" }⟩ (by decide) (by decide)

/-- An unknown attribute at the argument of a variant is built. -/
theorem build_overlooks_attribute :
    ∃ place ∈ (paintDocument [] [{ key := "Shiny" }]).places, place.accepted = false ∧
      ∃ interface, build (some (paintDocument [] [{ key := "Shiny" }])) [] {} = .ok interface := by
  have built := build_ok_of_result
    (by decide +kernel :
      (buildOutcome (some (paintDocument [] [{ key := "Shiny" }])) [] {}).result = .ok ())
  exact ⟨⟨.argument, { key := "Shiny" }⟩, by decide, by decide, _, built⟩

end Interface

end NativeBoundary
