import NativeBoundary.Attribute.Basic
import NativeBoundary.Literal.Basic
import NativeBoundary.Path
import NativeBoundary.Text.Numeral
import NativeBoundary.Text.Quoted

/-!
# Problems

Why an interface is refused. A problem is a cause together with the name of the declaration or
member concerned and the location of the construct, where they are known. The wording of every
cause stands here, and so does the family under which it is reported.
-/

namespace NativeBoundary

inductive Family where
  | general | parse | duplicateDefinition | unknownType | unsupportedAttribute | consistency
  | internalMapping | invalidLiteral
  deriving DecidableEq, Repr

namespace Family

def all : List Family :=
  [.general, .parse, .duplicateDefinition, .unknownType, .unsupportedAttribute, .consistency,
    .internalMapping, .invalidLiteral]

end Family

/-- The members of a declaration whose names must differ from each other. -/
inductive MemberKind where
  | enumVariant | field | variant | constructor | method | callable
  deriving DecidableEq, Repr

def MemberKind.label : MemberKind → String
  | .enumVariant => "enum variant"
  | .field => "field"
  | .variant => "variant"
  | .constructor => "constructor"
  | .method => "method"
  | .callable => "constructor or method"

inductive DeclarationKind where
  | enum | record | object | callbackInterface | error | function
  deriving DecidableEq, Repr

def DeclarationKind.label : DeclarationKind → String
  | .enum => "enum"
  | .record => "record"
  | .object => "object"
  | .callbackInterface => "callback interface"
  | .error => "error"
  | .function => "function"

/-- What stops an operation without any declaration being at fault. -/
inductive Breakdown where
  | incompleteType
  | deepText
  | deepRecord
  | longNumeral
  deriving DecidableEq, Repr

/-- How deeply a type may be nested for its text to be written. -/
def deepestSpelling : Nat := 329

/-- What keeps the text of a type from being written, if anything does. -/
def Breakdown.ofType? (type : Ty) : Option Breakdown :=
  if type.text?.isNone then some .incompleteType
  else if deepestSpelling < type.height then some .deepText
  else none

/-- Only a text that is nested too deeply ends an operation without a word. -/
def Breakdown.text? : Breakdown → Option String
  | .incompleteType => some "tuple index out of range"
  | .deepText => none
  | .deepRecord => some "Maximum serialization depth exceeded"
  | .longNumeral => some Text.Numeral.unwrittenText

inductive Cause where
  | unexpectedCharacter (found : Char) (text : String)
  | unexpectedEnd (text : String)
  | unexpectedToken (expected found text : String)
  | trailingToken (found text : String)
  | notTypeName (found text : String)
  | nestedOption (text : String)
  | sequenceWithoutElement
  | mapWithoutParts
  | unknownType (name : String)
  | shadowsBuiltin (name : String) (type : Ty)
  | conflictingType (name : String) (first second : TyKind)
  | unknownAttribute (key : String)
  | attributeTakesNoValue (kind : AttributeKind)
  | attributeNeedsValue (kind : AttributeKind)
  | unknownReceiver (value : String)
  | misplacedAttribute (kind : AttributeKind) (site : Site)
  | externalAndCustom (name : String)
  | externalNotExtern (name typeName : String)
  | customNotBuiltin (name typeName : String)
  | plainTypedef (name : String)
  | malformedBoolean (text : String)
  | malformedInteger (text : String)
  | malformedFloat (text : String)
  | outOfRange (text : String) (type : Ty)
  | incompatibleDefault (kind : DefaultKind) (text : String) (type : Ty)
  | unionWithConstructors (name : String)
  | variantWithResult (owner variant : String)
  | duplicateMember (kind : MemberKind) (name owner : String)
  | duplicateNamespace (name existing : String)
  | duplicateDeclaration (kind : DeclarationKind) (name : String)
  | functionNamedAsType (name : String)
  | nothingToReplace (name : String)
  | finalized
  | noNamespace
  | variantShadowsType (variant : String)
  | undeclaredError (owner error : String)
  | danglingDefault (literal : Literal) (owner : String)
  | mixedCrates (first second : String)
  | unknownOwner (member owner : String)
  | breakdown (reason : Breakdown)
  | unknownSettings (path : String) (keys : List String)
  | stated (family : Family) (text : String)
  deriving DecidableEq

namespace Cause

def family : Cause → Family
  | .unexpectedCharacter .. | .unexpectedEnd _ | .unexpectedToken .. | .trailingToken ..
  | .notTypeName .. | .nestedOption _ | .sequenceWithoutElement | .mapWithoutParts
  | .externalNotExtern .. | .unionWithConstructors _ | .variantWithResult .. => .parse
  | .unknownType _ | .customNotBuiltin .. | .unknownOwner .. => .unknownType
  | .shadowsBuiltin .. | .conflictingType .. | .duplicateMember .. | .duplicateNamespace ..
  | .duplicateDeclaration .. | .functionNamedAsType _ => .duplicateDefinition
  | .unknownAttribute _ | .attributeTakesNoValue _ | .attributeNeedsValue _ | .unknownReceiver _
  | .misplacedAttribute .. | .externalAndCustom _ | .plainTypedef _ => .unsupportedAttribute
  | .malformedBoolean _ | .malformedInteger _ | .malformedFloat _ | .outOfRange ..
  | .incompatibleDefault .. => .invalidLiteral
  | .nothingToReplace _ | .noNamespace | .variantShadowsType _ | .undeclaredError ..
  | .danglingDefault .. | .mixedCrates .. => .consistency
  | .breakdown _ => .internalMapping
  | .finalized | .unknownSettings .. => .general
  | .stated family _ => family

def text : Cause → String
  | .unexpectedCharacter found text =>
      s!"Unexpected character {Text.quoted (String.singleton found)} in type '{text}'"
  | .unexpectedEnd text => s!"Unexpected end of type '{text}'"
  | .unexpectedToken expected found text =>
      s!"Expected '{expected}' but found '{found}' in type '{text}'"
  | .trailingToken found text => s!"Unexpected '{found}' after type in '{text}'"
  | .notTypeName found text => s!"Expected a type name but found '{found}' in type '{text}'"
  | .nestedOption text => s!"Nested Option is not supported in type '{text}'"
  | .sequenceWithoutElement => "sequence type without an element type"
  | .mapWithoutParts => "map type without key and value types"
  | .unknownType name => s!"Failed to resolve type `{name}`"
  | .shadowsBuiltin name type => s!"please don't shadow builtin types ({name}, {type.text})"
  | .conflictingType name first second =>
      s!"Conflicting type definition for '{name}': already defined as {first.name}, " ++
        s!"redefined as {second.name}"
  | .unknownAttribute key => s!"Unsupported attribute: {key}"
  | .attributeTakesNoValue kind => s!"Attribute '{kind.key}' does not take a value"
  | .attributeNeedsValue kind => s!"Attribute '{kind.key}' requires a value"
  | .unknownReceiver value => s!"Unsupported Self Type: {value}"
  | .misplacedAttribute kind site => s!"{kind.key} not supported for {site.label}"
  | .externalAndCustom name => s!"typedef '{name}' cannot be both External and Custom"
  | .externalNotExtern name typeName =>
      s!"External typedef '{name}' must be declared `typedef extern`, not `typedef {typeName}`"
  | .customNotBuiltin name typeName =>
      s!"Custom type '{name}' must wrap a builtin type, not `{typeName}`"
  | .plainTypedef name => s!"typedef '{name}' requires an External or Custom attribute"
  | .malformedBoolean text => s!"Malformed boolean literal '{text}'"
  | .malformedInteger text => s!"Malformed integer literal '{text}'"
  | .malformedFloat text => s!"Malformed float literal '{text}'"
  | .outOfRange text type => s!"Integer literal '{text}' is out of range for type {type.text}"
  | .incompatibleDefault kind text type =>
      s!"Cannot use {kind.name} default value '{text}' for type {type.text}"
  | .unionWithConstructors name => s!"'{name}' is a tagged union and cannot have constructors"
  | .variantWithResult owner variant => s!"Variant '{owner}.{variant}' cannot have a return type"
  | .duplicateMember kind name owner => s!"Duplicate {kind.label} '{name}' in '{owner}'"
  | .duplicateNamespace name existing =>
      s!"duplicate namespace definition '{name}' (already '{existing}')"
  | .duplicateDeclaration kind name => s!"duplicate {kind.label} definition: '{name}'"
  | .functionNamedAsType name => s!"Conflicting type definition for '{name}'"
  | .nothingToReplace name => s!"no object named '{name}' to replace"
  | .finalized => "ComponentInterface is finalized and can no longer be modified"
  | .noNamespace => "missing namespace definition"
  | .variantShadowsType variant =>
      s!"Enum variant names must not shadow type names: '{variant}'"
  | .undeclaredError owner error =>
      s!"'{owner}' throws '{error}', which is not a declared error"
  | .danglingDefault literal owner =>
      let type := (literal.type.map Ty.text).getD "None"
      s!"Default value '{literal.value.shown}' of '{owner}' is not a variant of {type}"
  | .mixedCrates first second =>
      s!"Mismatched crate names in metadata: '{first}' and '{second}'"
  | .unknownOwner member owner => s!"'{member}' is declared on unknown object `{owner}`"
  | .breakdown reason => reason.text?.getD ""
  | .unknownSettings path keys =>
      s!"Unknown configuration keys in {path}: " ++ ", ".intercalate keys
  | .stated _ text => text

/-- The breakdown behind a cause. A cause whose wording names a type that cannot be written cannot
be worded. -/
def breakdown? : Cause → Option Breakdown
  | .breakdown reason => some reason
  | .shadowsBuiltin _ type | .outOfRange _ type | .incompatibleDefault _ _ type =>
      Breakdown.ofType? type
  | .danglingDefault literal _ => literal.type.bind Breakdown.ofType?
  | _ => none

end Cause

structure Problem where
  cause : Cause
  name : Option String := none
  location : Option Location := none
  deriving DecidableEq

namespace Problem

/-- The file of the location in plain form. -/
def file (location : Location) : String :=
  (Path.ofString location.file).text

/-- What keeps a problem from being told: a type in its wording, or a number of its position. -/
def breakdown? (problem : Problem) : Option Breakdown :=
  match problem.cause.breakdown? with
  | some reason => some reason
  | none => if problem.location.all Location.isWritten then none else some .longNumeral

/-- The wording of the cause, on a line of its own below the position if there is one. -/
def message (problem : Problem) : String :=
  match problem.location with
  | none => problem.cause.text
  | some location =>
      let position := s!"{file location}:{location.line}:{location.column}"
      let declaration :=
        match problem.name with
        | none => ""
        | some name => if name = "" then "" else s!" in declaration {name}"
      position ++ declaration ++ "\n" ++ problem.cause.text

end Problem

end NativeBoundary
