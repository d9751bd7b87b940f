import NativeBoundary.Attribute.Basic
import NativeBoundary.Literal.Basic
import NativeBoundary.TypeExpr.Basic

/-!
# Interface documents

A document is a list of declarations of six kinds, with types as written and attributes unchecked.
Any node may say where it stands.
-/

namespace NativeBoundary

namespace Document

structure Argument where
  name : String
  type : TypeExpr
  optional : Bool := false
  default : Option DefaultNode := none
  attributes : Option (List AttributeNode) := none
  location : Option Location := none
  deriving DecidableEq

/-- A function, a method, a callback method, or a variant written as one. -/
structure Operation where
  name : String
  arguments : List Argument := []
  result : Option TypeExpr := none
  attributes : Option (List AttributeNode) := none
  location : Option Location := none
  deriving DecidableEq

structure Constructor where
  arguments : List Argument := []
  attributes : Option (List AttributeNode) := none
  location : Option Location := none
  deriving DecidableEq

structure Member where
  name : String
  type : TypeExpr
  required : Bool := false
  default : Option DefaultNode := none
  attributes : Option (List AttributeNode) := none
  location : Option Location := none
  deriving DecidableEq

/-- What one kind of declaration holds besides its name, attributes and location. -/
inductive Body where
  | space (functions : List Operation)
  | dictionary (members : List Member)
  | enum (values : List String)
  | interface (constructors : List Constructor) (operations : List Operation)
  | callbackInterface (operations : List Operation)
  | typedef (typeName : String)
  deriving DecidableEq

structure Declaration where
  name : String
  body : Body
  attributes : Option (List AttributeNode) := none
  location : Option Location := none
  deriving DecidableEq

/-- The type name of a typedef whose type is declared elsewhere. -/
def externalTypeName : String := "extern"

end Document

structure Document where
  file : Option String := none
  definitions : List Document.Declaration := []
  deriving DecidableEq

end NativeBoundary
