import NativeBoundary.Interface.Basic

/-!
# Declarations without what is derived from them

The declared part of an interface: every callable, object and callback interface with its foreign
functions taken away.  Deriving foreign functions changes nothing else, and nothing else enters the
record forms.
-/

namespace NativeBoundary

namespace Model

def Function.declared (function : Function) : Function := { function with foreign := none }

def Constructor.declared (constructor : Constructor) : Constructor :=
  { constructor with foreign := none }

def Method.declared (method : Method) : Method := { method with foreign := none }

def Object.declared (object : Object) : Object :=
  { object with
    constructors := object.constructors.map Constructor.declared
    methods := object.methods.map Method.declared
    release := none }

def CallbackInterface.declared (callback : CallbackInterface) : CallbackInterface :=
  { callback with methods := callback.methods.map Method.declared, register := none }

@[simp] theorem Function.declared_declared (function : Function) :
    function.declared.declared = function.declared := rfl

@[simp] theorem Constructor.declared_declared (constructor : Constructor) :
    constructor.declared.declared = constructor.declared := rfl

@[simp] theorem Method.declared_declared (method : Method) :
    method.declared.declared = method.declared := rfl

@[simp] theorem Object.declared_declared (object : Object) :
    object.declared.declared = object.declared := by
  simp [Object.declared, Function.comp_def]

end Model

/-- An interface with nothing derived. -/
def Interface.declared (interface : Interface) : Interface :=
  { interface with
    functions := interface.functions.map Model.Function.declared
    objects := interface.objects.map Model.Object.declared
    callbacks := interface.callbacks.map Model.CallbackInterface.declared }

namespace Interface

theorem function?_declared (interface : Interface) (name : String) :
    interface.declared.function? name = (interface.function? name).map Model.Function.declared := by
  simp only [function?, declared, List.find?_map]
  rfl

theorem object?_declared (interface : Interface) (name : String) :
    interface.declared.object? name = (interface.object? name).map Model.Object.declared := by
  simp only [object?, declared, List.find?_map]
  rfl

theorem callback?_declared (interface : Interface) (name : String) :
    interface.declared.callback? name =
      (interface.callback? name).map Model.CallbackInterface.declared := by
  simp only [callback?, declared, List.find?_map]
  rfl

end Interface

end NativeBoundary
