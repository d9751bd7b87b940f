import NativeBoundary.Proofs.Interface.Coherence
import NativeBoundary.Proofs.Interface.Reference

/-!
# Receivers

A method takes its receiver in front of its arguments, as an object of its owner's name.  That is
what the name of an object is bound to.  The name of a callback interface is bound to the callback
interface, and then no object has it: the receiver of such a method is of a type that nothing
declares.  Whatever else is passed to a callable refers to a declaration.
-/

namespace NativeBoundary

open Model

/-! ## Owners -/

/-- Methods have the name of the declaration in which they are listed as their owner. -/
def Trait.owned : Trait where
  record _ := True
  union _ := True
  callback callback := ∀ method ∈ callback.methods, method.owner = callback.name
  function _ := True
  object object := ∀ method ∈ object.methods, method.owner = object.name

theorem Document.Operation.owner_of_denoteMethod {operation : Operation} {owner : String}
    {names : Names} {method : Method} (read : operation.denoteMethod owner names = .ok method) :
    method.owner = owner := by
  obtain ⟨_, -, _, -, _, -, rfl⟩ := denoteMethod_eq_ok.mp read
  rfl

theorem Metadata.Method.owner_of_denote {item : Metadata.Method} {owner : String} {names : Names}
    {method : Model.Method} (read : item.denote owner names = .ok method) :
    method.owner = owner := by
  obtain ⟨_, -, _, -, rfl⟩ := denote_eq_ok.mp read
  rfl

theorem Trait.owned_denoted (names : Names) : owned.Denoted names where
  record _ := trivial
  words _ := trivial
  union _ := trivial
  callback read := by
    obtain ⟨methods, readMethods, rfl⟩ := Document.Declaration.denoteCallback_parts read
    exact Results.forall_of_mapM Document.Operation.owner_of_denoteMethod readMethods
  function _ := trivial
  object read := by
    obtain ⟨attributes, -, rest⟩ := Document.Declaration.denotePlain_eq_ok.mp read
    obtain ⟨_, methods, -, -, readMethods, rfl⟩ := Document.Declaration.denoteObject_parts rest
    exact Results.forall_of_mapM Document.Operation.owner_of_denoteMethod readMethods
  itemRecord _ := trivial
  itemEnum _ := trivial
  itemError _ := trivial
  itemFunction _ := trivial
  itemObject _ := List.forall_mem_nil _
  complete own done := by
    obtain ⟨_, methods, -, readMethods, rfl⟩ := Metadata.Group.complete_eq_ok.mp done
    exact List.forall_mem_append.mpr
      ⟨own, Results.forall_of_mapM Metadata.Method.owner_of_denote readMethods⟩

namespace Interface

variable {document : Option Document} {items : List Metadata.Item} {settings : Settings}
  {interface : Interface}

theorem owned_of_build (built : build document items settings = .ok interface) :
    interface.Satisfies Trait.owned := by
  have declared := declared_satisfies_of_build built (Trait.owned_denoted interface.names)
  exact {
    records := fun _ _ => trivial
    enums := fun _ _ => trivial
    errors := fun _ _ => trivial
    callbacks := fun callback member method inside =>
      declared.callbacks callback.declared (List.mem_map_of_mem member) method.declared
        (List.mem_map_of_mem inside)
    functions := fun _ _ => trivial
    objects := fun object member method inside =>
      declared.objects object.declared (List.mem_map_of_mem member) method.declared
        (List.mem_map_of_mem inside) }

/-! ## What is passed -/

/-- The leading argument of a method is of the type to which the name of its owner is bound. -/
def Receives (interface : Interface) (method : Method) : Prop :=
  method.fullArguments.head?.map Argument.type = interface.type? method.owner

instance (method : Method) : Decidable (interface.Receives method) :=
  inferInstanceAs (Decidable (_ = _))

/-- All methods are called on what their owner is. -/
def WellReceived (interface : Interface) : Prop :=
  (∀ object ∈ interface.objects, ∀ method ∈ object.methods, interface.Receives method) ∧
  ∀ callback ∈ interface.callbacks, ∀ method ∈ callback.methods, interface.Receives method

instance : Decidable interface.WellReceived := inferInstanceAs (Decidable (_ ∧ _))

/-- The types that occur in the full arguments of callables. -/
def passed (interface : Interface) : List Ty :=
  interface.functions.flatMap (fun function => argumentTypes function.arguments) ++
    interface.objects.flatMap (fun object =>
      object.constructors.flatMap (fun constructor => argumentTypes constructor.arguments) ++
        object.methods.flatMap fun method => argumentTypes method.fullArguments) ++
    interface.callbacks.flatMap fun callback =>
      callback.methods.flatMap fun method => argumentTypes method.fullArguments

/-- If the type is a declared one, its name is bound to it, and the list of its kind has a
declaration of that name. -/
def Refers (interface : Interface) (type : Ty) : Prop :=
  type.isDeclared = true →
    ∃ name, type.name = some name ∧ interface.type? name = some type ∧ interface.finds type = true

theorem argumentTypes_fullArguments (method : Method) :
    argumentTypes method.fullArguments =
      .named .object method.owner :: argumentTypes method.arguments := rfl

/-- What is passed to callables occurs in their declarations, unless it is a receiver. -/
theorem occurring_of_passed {type : Ty} (member : type ∈ interface.passed) :
    type ∈ interface.occurring ∨
      (∃ object ∈ interface.objects, ∃ method ∈ object.methods,
        type = .named .object method.owner) ∨
      ∃ callback ∈ interface.callbacks, ∃ method ∈ callback.methods,
        type = .named .object method.owner := by
  have occurs (used : type ∈ interface.memberTypes ++ interface.functions.flatMap Function.types) :
      type ∈ interface.occurring := by
    rw [← uses_types_eq] at used
    exact List.mem_append_left _ used
  -- In front of the arguments of a method stands its receiver, and no other callable has one.
  simp only [passed, List.mem_append, List.mem_flatMap, argumentTypes_fullArguments,
    List.mem_cons] at member
  rcases member with (⟨function, listed, inside⟩ | ⟨object, listed, members⟩) |
    ⟨callback, listed, method, own, receiver | inside⟩
  · refine .inl (occurs (List.mem_append_right _ (List.mem_flatMap.mpr ⟨function, listed, ?_⟩)))
    exact List.mem_append_left _ inside
  · rcases members with ⟨constructor, own, inside⟩ | ⟨method, own, receiver | inside⟩
    · refine .inl (occurs (List.mem_append_left _ (List.mem_append_left _
        (List.mem_append_right _ (List.mem_flatMap.mpr ⟨object, listed, ?_⟩)))))
      exact List.mem_append_right _ (List.mem_flatMap.mpr ⟨constructor, own, inside⟩)
    · exact .inr (.inl ⟨object, listed, method, own, receiver⟩)
    · refine .inl (occurs (List.mem_append_left _ (List.mem_append_left _
        (List.mem_append_right _ (List.mem_flatMap.mpr ⟨object, listed, ?_⟩)))))
      exact List.mem_append_left _
        (List.mem_flatMap.mpr ⟨method, own, List.mem_append_left _ inside⟩)
  · exact .inr (.inr ⟨callback, listed, method, own, receiver⟩)
  · refine .inl (occurs (List.mem_append_left _ (List.mem_append_right _
      (List.mem_flatMap.mpr ⟨callback, listed, ?_⟩))))
    exact List.mem_flatMap.mpr ⟨method, own, List.mem_append_left _ inside⟩

theorem passed_of_callback {callback : CallbackInterface} {method : Method}
    (listed : callback ∈ interface.callbacks) (own : method ∈ callback.methods) :
    .named .object method.owner ∈ interface.passed :=
  List.mem_append_right _ (List.mem_flatMap.mpr ⟨callback, listed,
    List.mem_flatMap.mpr ⟨method, own, List.mem_cons_self⟩⟩)

/-! ## Built interfaces -/

section Built

variable (built : build document items settings = .ok interface)

include built

theorem owner_of_object {object : Object} (listed : object ∈ interface.objects) {method : Method}
    (own : method ∈ object.methods) : method.owner = object.name :=
  (owned_of_build built).objects object listed method own

theorem owner_of_callback {callback : CallbackInterface} (listed : callback ∈ interface.callbacks)
    {method : Method} (own : method ∈ callback.methods) : method.owner = callback.name :=
  (owned_of_build built).callbacks callback listed method own

/-- The type of a declaration is what its name is bound to, and it refers to the declaration. -/
theorem refers_of_mem_ownTypes {type : Ty} (member : type ∈ interface.ownTypes) :
    interface.Refers type := by
  intro declares
  obtain ⟨-, name, named⟩ := named_of_mem_ownTypes member
  exact ⟨name, named, (bound_iff_of_build built declares).mpr ⟨member, named⟩,
    finds_of_mem_ownTypes member⟩

theorem refers_of_occurring {type : Ty} (occurs : type ∈ interface.occurring) :
    interface.Refers type := by
  intro declares
  obtain ⟨name, named, bound⟩ := binds_occurring_of_build built type occurs declares
  obtain ⟨member, -⟩ := (bound_iff_of_build built declares).mp bound
  exact ⟨name, named, bound, finds_of_mem_ownTypes member⟩

theorem type?_of_object {object : Object} (listed : object ∈ interface.objects) :
    interface.type? object.name = some (.named .object object.name) :=
  (bound_iff_of_build built rfl).mpr ⟨List.mem_append_right _ (List.mem_map_of_mem listed), rfl⟩

theorem type?_of_callback {callback : CallbackInterface}
    (listed : callback ∈ interface.callbacks) :
    interface.type? callback.name = some (.named .callbackInterface callback.name) :=
  (bound_iff_of_build built rfl).mpr
    ⟨List.mem_append_left _ (List.mem_append_right _ (List.mem_map_of_mem listed)), rfl⟩

theorem receives_of_object {object : Object} (listed : object ∈ interface.objects) {method : Method}
    (own : method ∈ object.methods) : interface.Receives method := by
  have owner := owner_of_object built listed own
  rw [Receives, owner, type?_of_object built listed]
  exact congrArg (fun name => some (Ty.named .object name)) owner

section Callback

variable {callback : CallbackInterface} (listed : callback ∈ interface.callbacks) {method : Method}
  (own : method ∈ callback.methods)

include listed own

theorem receiver_of_callback : method.receiver.type = .named .object callback.name :=
  congrArg (Ty.named .object) (owner_of_callback built listed own)

theorem not_receives_of_callback : ¬ interface.Receives method := by
  intro receives
  rw [Receives, owner_of_callback built listed own, type?_of_callback built listed] at receives
  cases receives

/-- No object has the name of a callback interface. -/
theorem not_refers_of_callback : ¬ interface.Refers method.receiver.type := by
  intro refers
  rw [receiver_of_callback built listed own] at refers
  obtain ⟨name, named, bound, -⟩ := refers rfl
  cases named
  rw [type?_of_callback built listed] at bound
  cases bound

end Callback

/-- What refers to no declaration is the receiver of a method of a callback interface. -/
theorem refers_or_receiver {type : Ty} (member : type ∈ interface.passed) :
    interface.Refers type ∨
      ∃ callback ∈ interface.callbacks, ∃ method ∈ callback.methods,
        type = method.receiver.type := by
  rcases occurring_of_passed member with occurs | ⟨object, listed, method, own, rfl⟩ | receiver
  · exact .inl (refers_of_occurring built occurs)
  · rw [owner_of_object built listed own]
    exact .inl (refers_of_mem_ownTypes built
      (List.mem_append_right _ (List.mem_map_of_mem listed)))
  · exact .inr receiver

/-- Methods of objects receive what the name of their object is bound to.  Methods of callback
interfaces never do: their receiver is an object of a name that is bound to a callback interface,
and no object has that name.  Nothing else that is passed fails to refer to a declaration.  So all
receivers are as they should be, and all that is passed refers to declarations, exactly if no
callback interface has a method. -/
theorem receivers_of_build :
    (∀ object ∈ interface.objects, ∀ method ∈ object.methods,
      method.owner = object.name ∧ interface.Receives method) ∧
    (∀ callback ∈ interface.callbacks, ∀ method ∈ callback.methods,
      method.owner = callback.name ∧
      interface.type? callback.name = some (.named .callbackInterface callback.name) ∧
      method.receiver.type = .named .object callback.name ∧
      ¬ interface.Refers method.receiver.type) ∧
    (∀ type ∈ interface.passed, interface.Refers type ∨
      ∃ callback ∈ interface.callbacks, ∃ method ∈ callback.methods,
        type = method.receiver.type) ∧
    (interface.WellReceived ↔ ∀ callback ∈ interface.callbacks, callback.methods = []) ∧
    ((∀ type ∈ interface.passed, interface.Refers type) ↔
      ∀ callback ∈ interface.callbacks, callback.methods = []) := by
  have silent : (∀ callback ∈ interface.callbacks, callback.methods = []) ↔
      ∀ callback ∈ interface.callbacks, ∀ method, method ∉ callback.methods := by
    simp only [List.eq_nil_iff_forall_not_mem]
  refine ⟨?_, ?_, fun _ => refers_or_receiver built, ?_, ?_⟩
  · intro object listed method own
    exact ⟨owner_of_object built listed own, receives_of_object built listed own⟩
  · intro callback listed method own
    exact ⟨owner_of_callback built listed own, type?_of_callback built listed,
      receiver_of_callback built listed own, not_refers_of_callback built listed own⟩
  · rw [silent]
    constructor
    · rintro ⟨-, received⟩ callback listed method own
      exact not_receives_of_callback built listed own (received callback listed method own)
    · intro absent
      exact ⟨fun object listed method own => receives_of_object built listed own,
        fun callback listed method own => absurd own (absent callback listed method)⟩
  · rw [silent]
    constructor
    · intro refers callback listed method own
      exact not_refers_of_callback built listed own (refers _ (passed_of_callback listed own))
    · intro absent type member
      rcases refers_or_receiver built member with refers | ⟨callback, listed, method, own, -⟩
      · exact refers
      · exact absurd own (absent callback listed method)

end Built

/-- A safe of the document with a method from either source. -/
theorem receivers_of_build_vault :
    ∃ interface, build (some vaultDocument) vaultItems {} = .ok interface ∧
      (interface.objects.flatMap Object.methods).map Method.name = ["turn", "slam"] ∧
      (∀ object ∈ interface.objects, ∀ method ∈ object.methods,
        method.owner = object.name ∧ interface.Receives method) ∧
      ¬ interface.WellReceived := by
  have built := build_ok_of_result
    (by decide +kernel : (buildOutcome (some vaultDocument) vaultItems {}).result = .ok ())
  obtain ⟨objects, -, -, received, -⟩ := receivers_of_build built
  refine ⟨_, built, by decide +kernel, objects, fun all => ?_⟩
  exact absurd (received.mp all) (by decide +kernel)

/-- A callback interface with a method, and nothing else. -/
def watchDocument : Document where
  definitions := [
    { name := "watch", body := .space [] },
    { name := "Watcher", body := .callbackInterface [{ name := "alarm" }] }]

/-- The method is called on an object that there is not. -/
theorem receiver_of_build_watch :
    ∃ interface, build (some watchDocument) [] {} = .ok interface ∧
      interface.passed = [.named .object "Watcher"] ∧
      interface.type? "Watcher" = some (.named .callbackInterface "Watcher") ∧
      interface.finds (.named .object "Watcher") = false ∧
      ¬ interface.WellReceived ∧ ¬ ∀ type ∈ interface.passed, interface.Refers type := by
  have built := build_ok_of_result
    (by decide +kernel : (buildOutcome (some watchDocument) [] {}).result = .ok ())
  have passes : (buildOutcome (some watchDocument) [] {}).state.passed =
      [.named .object "Watcher"] := by decide +kernel
  have missing : (buildOutcome (some watchDocument) [] {}).state.finds (.named .object "Watcher") =
      false := by decide +kernel
  refine ⟨_, built, passes, by decide +kernel, missing, by decide +kernel, fun refers => ?_⟩
  obtain ⟨_, -, -, found⟩ := refers (.named .object "Watcher") (by simp [passes]) rfl
  rw [missing] at found
  cases found

end Interface

end NativeBoundary
