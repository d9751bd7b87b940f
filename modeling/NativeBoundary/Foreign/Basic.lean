import NativeBoundary.Ty.Record

/-!
# Foreign functions

The few types that can cross the boundary to foreign code, and the functions that are called
across it. Every type has one foreign form; a custom type takes that of its representation.
-/

namespace NativeBoundary

inductive ForeignType where
  | int8 | uint8 | int16 | uint16 | int32 | uint32 | int64 | uint64 | float32 | float64
  | objectHandle | byteBuffer | foreignBytes | foreignCallback
  deriving DecidableEq, Repr

namespace ForeignType

def all : List ForeignType :=
  [.int8, .uint8, .int16, .uint16, .int32, .uint32, .int64, .uint64, .float32, .float64,
    .objectHandle, .byteBuffer, .foreignBytes, .foreignCallback]

def name : ForeignType → String
  | .int8 => "Int8"
  | .uint8 => "UInt8"
  | .int16 => "Int16"
  | .uint16 => "UInt16"
  | .int32 => "Int32"
  | .uint32 => "UInt32"
  | .int64 => "Int64"
  | .uint64 => "UInt64"
  | .float32 => "Float32"
  | .float64 => "Float64"
  | .objectHandle => "ObjectHandle"
  | .byteBuffer => "ByteBuffer"
  | .foreignBytes => "ForeignBytes"
  | .foreignCallback => "ForeignCallback"

def ofName? (name : String) : Option ForeignType :=
  all.find? fun type => type.name == name

/-- The form of every kind but the custom one. A truth value crosses as a signed byte, and a value
that is passed by copy crosses in a byte buffer. -/
def ofKind : TyKind → ForeignType
  | .boolean | .i8 => .int8
  | .u8 => .uint8
  | .i16 => .int16
  | .u16 => .uint16
  | .i32 => .int32
  | .u32 => .uint32
  | .i64 => .int64
  | .u64 => .uint64
  | .f32 => .float32
  | .f64 => .float64
  | .object => .objectHandle
  | .callbackInterface => .foreignCallback
  | .string | .bytes | .optional | .sequence | .map | .record | .enum | .error | .external
  | .custom => .byteBuffer

end ForeignType

/-- The foreign form of a type; there is none for a custom type without a representation. -/
def Ty.foreign? : Ty → Option ForeignType
  | ⟨.custom, _, representation :: _, _⟩ => foreign? representation
  | ⟨.custom, _, [], _⟩ => none
  | ⟨kind, _, _, _⟩ => some (ForeignType.ofKind kind)
termination_by structural type => type

structure ForeignArgument where
  name : String
  type : ForeignType
  deriving DecidableEq, Repr

structure ForeignFunction where
  name : String
  arguments : List ForeignArgument := []
  result : Option ForeignType := none
  deriving DecidableEq, Repr

namespace ForeignArgument

def text (argument : ForeignArgument) : String :=
  s!"{argument.name}: {argument.type.name}"

def toJson (argument : ForeignArgument) : Json :=
  .object [("name", .string argument.name), ("type", .string argument.type.name)]

def read : Json → Schema.Reading ForeignArgument :=
  Schema.record fun members =>
    mk <$> Schema.required "name" Schema.string members
      <*> Schema.required "type" (Schema.word ForeignType.ofName?) members

end ForeignArgument

namespace ForeignFunction

def argumentsText (function : ForeignFunction) : String :=
  ", ".intercalate (function.arguments.map ForeignArgument.text)

def resultText (function : ForeignFunction) : String :=
  (function.result.map ForeignType.name).getD "void"

def signature (function : ForeignFunction) : String :=
  s!"{function.name}({function.argumentsText}) -> {function.resultText}"

def toJson (function : ForeignFunction) : Json :=
  .object [("name", .string function.name),
    ("arguments", Json.list ForeignArgument.toJson function.arguments),
    ("return_type", Json.option (fun type => .string type.name) function.result)]

def read : Json → Schema.Reading ForeignFunction :=
  Schema.record fun members =>
    mk <$> Schema.required "name" Schema.string members
      <*> Schema.defaulted "arguments" [] (Schema.list ForeignArgument.read) members
      <*> Schema.optional "return_type" (Schema.word ForeignType.ofName?) members

end ForeignFunction

end NativeBoundary
