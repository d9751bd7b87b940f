import NativeBoundary.Model.Basic

/-!
# Deriving foreign functions

Every callable becomes a foreign function whose name starts with the symbol space of the interface
and whose arguments are those of the callable, one for one. An object also gets a function that
releases a handle, a callback interface one that registers its stub. Nothing is derived when some
type has no foreign form.
-/

namespace NativeBoundary.Model

def foreignArgument? (argument : Argument) : Option ForeignArgument :=
  argument.type.foreign?.map (ForeignArgument.mk argument.name)

def collect {α β : Type} (derive? : α → Option β) : List α → Option (List β)
  | [] => some []
  | item :: rest => do
      let first ← derive? item
      let others ← collect derive? rest
      some (first :: others)

def foreignArguments? (arguments : List Argument) : Option (List ForeignArgument) :=
  collect foreignArgument? arguments

def foreignResult? : Option Ty → Option (Option ForeignType)
  | none => some none
  | some type => type.foreign?.map some

namespace Function

def derive? (space : String) (function : Function) : Option Function := do
  let arguments ← foreignArguments? function.arguments
  let result ← foreignResult? function.result
  some { function with foreign := some ⟨s!"{space}_{function.name}", arguments, result⟩ }

end Function

namespace Constructor

def derive? (space owner : String) (constructor : Constructor) : Option Constructor := do
  let arguments ← foreignArguments? constructor.arguments
  some { constructor with
    foreign := some ⟨s!"{space}_{owner}_{constructor.name}", arguments, some .objectHandle⟩ }

end Constructor

namespace Method

def derive? (space owner : String) (method : Method) : Option Method := do
  let arguments ← foreignArguments? method.fullArguments
  let result ← foreignResult? method.result
  some { method with foreign := some ⟨s!"{space}_{owner}_{method.name}", arguments, result⟩ }

end Method

namespace Object

def releaseFunction (space : String) (object : Object) : ForeignFunction :=
  ⟨s!"ffi_{space}_{object.name}_object_free", [⟨"ptr", .objectHandle⟩], none⟩

def derive? (space : String) (object : Object) : Option Object := do
  let constructors ← collect (Constructor.derive? space object.name) object.constructors
  let methods ← collect (Method.derive? space object.name) object.methods
  some { object with
    constructors
    methods
    release := some (object.releaseFunction space) }

end Object

namespace CallbackInterface

def registerFunction (space : String) (callback : CallbackInterface) : ForeignFunction :=
  ⟨s!"ffi_{space}_{callback.name}_init_callback", [⟨"callback_stub", .foreignCallback⟩], none⟩

def derive (space : String) (callback : CallbackInterface) : CallbackInterface :=
  { callback with register := some (callback.registerFunction space) }

end CallbackInterface

/-- The functions through which byte buffers are handled; every interface has them. -/
def bufferFunctions (space : String) : List ForeignFunction :=
  [⟨s!"ffi_{space}_bytebuffer_alloc", [⟨"size", .int32⟩], some .byteBuffer⟩,
    ⟨s!"ffi_{space}_bytebuffer_from_bytes", [⟨"bytes", .foreignBytes⟩], some .byteBuffer⟩,
    ⟨s!"ffi_{space}_bytebuffer_free", [⟨"buf", .byteBuffer⟩], none⟩,
    ⟨s!"ffi_{space}_bytebuffer_reserve", [⟨"buf", .byteBuffer⟩, ⟨"additional", .int32⟩],
      some .byteBuffer⟩]

end NativeBoundary.Model
