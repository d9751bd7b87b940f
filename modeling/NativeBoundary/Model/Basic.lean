import NativeBoundary.Attribute.Basic
import NativeBoundary.Foreign.Basic
import NativeBoundary.Literal.Basic

/-!
# The declared interface

The declarations of an interface after their types were resolved: records of fields, unions of
variants for enums and errors, functions, objects with constructors and methods, and callback
interfaces. Callables carry the foreign function derived for them, if one was derived. For each
declaration `types` lists the types that occur in its members, outermost first.
-/

namespace NativeBoundary.Model

structure Field where
  name : String
  type : Ty
  required : Bool := false
  default : Option Literal := none
  deriving DecidableEq

structure Variant where
  name : String
  fields : List Field := []
  deriving DecidableEq

structure Argument where
  name : String
  type : Ty
  byRef : Bool := false
  optional : Bool := false
  default : Option Literal := none
  deriving DecidableEq

structure Record where
  name : String
  fields : List Field := []
  deriving DecidableEq

/-- A choice between named variants: an enum, or an error that callables can throw. -/
structure Union where
  name : String
  variants : List Variant := []
  deriving DecidableEq

structure Function where
  name : String
  arguments : List Argument := []
  result : Option Ty := none
  attributes : List Attribute := []
  foreign : Option ForeignFunction := none
  deriving DecidableEq

/-- The name of the constructor that stands for the object itself. -/
def primaryName : String := "new"

structure Constructor where
  name : String := primaryName
  arguments : List Argument := []
  attributes : List Attribute := []
  foreign : Option ForeignFunction := none
  deriving DecidableEq

structure Method where
  name : String
  owner : String
  arguments : List Argument := []
  result : Option Ty := none
  attributes : List Attribute := []
  foreign : Option ForeignFunction := none
  deriving DecidableEq

structure Object where
  name : String
  constructors : List Constructor := []
  methods : List Method := []
  threadsafe : Bool := false
  release : Option ForeignFunction := none
  deriving DecidableEq

structure CallbackInterface where
  name : String
  methods : List Method := []
  register : Option ForeignFunction := none
  deriving DecidableEq

def throwsOf (attributes : List Attribute) : Option String :=
  Attribute.valueOf .throws attributes

/-- The error type that a list of attributes names, if it names one that is not empty. -/
def throwsTypeOf (attributes : List Attribute) : Option Ty :=
  match throwsOf attributes with
  | none => none
  | some name => if name = "" then none else some (.named .error name)

def argumentTypes (arguments : List Argument) : List Ty :=
  arguments.flatMap fun argument => argument.type.types

def resultTypes (result : Option Ty) : List Ty :=
  (result.map Ty.types).getD []

namespace Variant

def hasFields (variant : Variant) : Bool := !variant.fields.isEmpty

def types (variant : Variant) : List Ty :=
  variant.fields.flatMap fun field => field.type.types

end Variant

namespace Record

def type (record : Record) : Ty := .named .record record.name

def types (record : Record) : List Ty :=
  record.fields.flatMap fun field => field.type.types

end Record

namespace Union

/-- No variant carries a field. -/
def isFlat (union : Union) : Bool :=
  !union.variants.any Variant.hasFields

def variant? (name : String) (union : Union) : Option Variant :=
  union.variants.find? fun variant => variant.name == name

def types (union : Union) : List Ty :=
  union.variants.flatMap Variant.types

end Union

namespace Function

def types (function : Function) : List Ty :=
  argumentTypes function.arguments ++ resultTypes function.result

end Function

namespace Constructor

def isPrimary (constructor : Constructor) : Bool := constructor.name == primaryName

def types (constructor : Constructor) : List Ty :=
  argumentTypes constructor.arguments

end Constructor

namespace Method

def takesShared (method : Method) : Bool :=
  Attribute.valueOf .self method.attributes == some Attribute.sharedReceiver

/-- The object on which a method is called, which comes before its arguments. -/
def receiver (method : Method) : Argument where
  name := "ptr"
  type := .named .object method.owner
  byRef := !method.takesShared

def fullArguments (method : Method) : List Argument :=
  method.receiver :: method.arguments

def types (method : Method) : List Ty :=
  argumentTypes method.arguments ++ resultTypes method.result

end Method

namespace Object

def type (object : Object) : Ty := .named .object object.name

def primary? (object : Object) : Option Constructor :=
  object.constructors.find? Constructor.isPrimary

def alternates (object : Object) : List Constructor :=
  object.constructors.filter fun constructor => !constructor.isPrimary

/-- The method of a name, or how many methods there are if it is not exactly one. -/
def method (name : String) (object : Object) : Except Nat Method :=
  match object.methods.filter fun method => method.name == name with
  | [found] => .ok found
  | found => .error found.length

def types (object : Object) : List Ty :=
  object.methods.flatMap Method.types ++ object.constructors.flatMap Constructor.types

/-- The functions derived for an object: its release, its constructors, its methods. -/
def foreignFunctions (object : Object) : List ForeignFunction :=
  object.release.toList ++ object.constructors.filterMap Constructor.foreign ++
    object.methods.filterMap Method.foreign

end Object

namespace CallbackInterface

def type (callback : CallbackInterface) : Ty := .named .callbackInterface callback.name

def types (callback : CallbackInterface) : List Ty :=
  callback.methods.flatMap Method.types

end CallbackInterface

end NativeBoundary.Model
