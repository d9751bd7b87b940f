import Mathlib.Data.List.Forall2
import NativeBoundary.Proofs.Build.Refinement
import NativeBoundary.Proofs.Foreign.Symbol
import NativeBoundary.Proofs.Interface.Payload

/-!
# What a built interface exports

An interface lists the foreign functions that are there, and a declaration that carries none is
passed over.  After a derivation every declaration carries one, under the symbol space that the
interface has then, so the list is complete: it goes through the objects, the callback interfaces,
the functions and the byte buffers, and what stands at each place is what is declared there.
-/

namespace NativeBoundary

namespace BufferUse

def arguments : BufferUse → List ForeignArgument
  | alloc => [⟨"size", .int32⟩]
  | fromBytes => [⟨"bytes", .foreignBytes⟩]
  | free => [⟨"buf", .byteBuffer⟩]
  | reserve => [⟨"buf", .byteBuffer⟩, ⟨"additional", .int32⟩]

def result : BufferUse → Option ForeignType
  | alloc | fromBytes | reserve => some .byteBuffer
  | free => none

end BufferUse

namespace Model

/-- Each argument under its own name and with the foreign form of its type, one for one. -/
def Lowers (arguments : List Argument) (foreign : List ForeignArgument) : Prop :=
  List.Forall₂ (fun argument given =>
    given.name = argument.name ∧ argument.type.foreign? = some given.type) arguments foreign

/-- The foreign form of the result, and no result for none. -/
def LowersResult (result : Option Ty) (foreign : Option ForeignType) : Prop :=
  result.map Ty.foreign? = foreign.map some

/-- What a foreign function is exported for. -/
inductive Exported where
  | release (object : Object)
  | constructor (object : Object) (constructor : Constructor)
  | method (object : Object) (method : Method)
  | register (callback : CallbackInterface)
  | function (function : Function)
  | buffer (use : BufferUse)

namespace Exported

def symbol : Exported → Symbol
  | .release object => .release object.name
  | .constructor object member => .member object.name member.name
  | .method object member => .member object.name member.name
  | .register callback => .register callback.name
  | .function callable => .function callable.name
  | .buffer use => .buffer use

/-- The arguments and the result across the boundary. -/
def Signed (arguments : List ForeignArgument) (result : Option ForeignType) : Exported → Prop
  | .release _ => arguments = [⟨"ptr", .objectHandle⟩] ∧ result = none
  | .constructor _ member => Lowers member.arguments arguments ∧ result = some .objectHandle
  | .method _ member => Lowers member.fullArguments arguments ∧ LowersResult member.result result
  | .register _ => arguments = [⟨"callback_stub", .foreignCallback⟩] ∧ result = none
  | .function callable =>
      Lowers callable.arguments arguments ∧ LowersResult callable.result result
  | .buffer use => arguments = use.arguments ∧ result = use.result

/-- The foreign function is what is exported under a symbol space. -/
structure Is (space : String) (exported : Exported) (foreign : ForeignFunction) : Prop where
  name : foreign.name = exported.symbol.text space
  signed : exported.Signed foreign.arguments foreign.result

end Exported

def Object.exported (object : Object) : List Exported :=
  .release object :: object.constructors.map (.constructor object) ++
    object.methods.map (.method object)

/-! ## Lists -/

section Lists

variable {α β γ : Type}

theorem collect_iff_forall₂ {derive? : α → Option β} {items : List α} {results : List β} :
    collect derive? items = some results ↔
      List.Forall₂ (fun item result => derive? item = some result) items results := by
  have equal : items.map derive? = results.map some ↔
      List.Forall₂ Eq (items.map derive?) (results.map some) := by rw [List.forall₂_eq_eq_eq]
  rw [collect_eq_some, equal, List.forall₂_map_left_iff, List.forall₂_map_right_iff]

variable {R : β → γ → Prop}

theorem exists_of_forall₂ {items : List β} {values : List γ} (alike : List.Forall₂ R items values)
    {value : γ} (member : value ∈ values) : ∃ item ∈ items, R item value := by
  induction alike with
  | nil => cases member
  | cons first _ ih =>
      rcases List.mem_cons.mp member with rfl | later
      · exact ⟨_, List.mem_cons_self, first⟩
      · obtain ⟨item, inside, belongs⟩ := ih later
        exact ⟨item, List.mem_cons_of_mem _ inside, belongs⟩

variable {items : List α}

/-- Where each item has a value that belongs to it, the values belong to the items. -/
theorem forall₂_filterMap {view : α → β} {value? : α → Option γ}
    (each : ∀ item ∈ items, ∃ value, value? item = some value ∧ R (view item) value) :
    List.Forall₂ R (items.map view) (items.filterMap value?) := by
  induction items with
  | nil => exact List.Forall₂.nil
  | cons item rest ih =>
      obtain ⟨⟨value, given, belongs⟩, others⟩ := List.forall_mem_cons.mp each
      rw [List.map_cons, List.filterMap_cons_some given]
      exact List.Forall₂.cons belongs (ih others)

theorem forall₂_flatMap {views : α → List β} {values : α → List γ}
    (each : ∀ item ∈ items, List.Forall₂ R (views item) (values item)) :
    List.Forall₂ R (items.flatMap views) (items.flatMap values) := by
  induction items with
  | nil => exact List.Forall₂.nil
  | cons item rest ih =>
      obtain ⟨first, others⟩ := List.forall_mem_cons.mp each
      rw [List.flatMap_cons, List.flatMap_cons]
      exact List.rel_append first (ih others)

end Lists

/-! ## Single declarations -/

variable {space owner : String}

theorem lowers_of_foreignArguments? {arguments : List Argument} {foreign : List ForeignArgument}
    (given : foreignArguments? arguments = some foreign) : Lowers arguments foreign := by
  refine (collect_iff_forall₂.mp given).imp fun argument lowered made => ?_
  obtain ⟨type, isForeign, rfl⟩ := Option.map_eq_some_iff.mp made
  exact ⟨rfl, isForeign⟩

theorem lowersResult_of_foreignResult? {result : Option Ty} {foreign : Option ForeignType}
    (given : foreignResult? result = some foreign) : LowersResult result foreign := by
  cases result with
  | none =>
      cases given
      rfl
  | some type =>
      obtain ⟨lowered, isForeign, rfl⟩ := Option.map_eq_some_iff.mp given
      exact congrArg some isForeign

theorem Function.exported_of_derive {function derived : Function}
    (done : function.derive? space = some derived) :
    ∃ foreign, derived.foreign = some foreign ∧
      (Exported.function derived).Is space foreign := by
  obtain ⟨arguments, lowered, rest⟩ := Option.bind_eq_some_iff.mp done
  obtain ⟨result, loweredResult, finished⟩ := Option.bind_eq_some_iff.mp rest
  cases finished
  exact ⟨_, rfl, by rw [Exported.symbol, Symbol.text_function],
    lowers_of_foreignArguments? lowered, lowersResult_of_foreignResult? loweredResult⟩

/-- The owner enters a constructor by its name alone. -/
theorem Constructor.exported_of_derive {object : Object} {constructor derived : Constructor}
    (done : constructor.derive? space object.name = some derived) :
    ∃ foreign, derived.foreign = some foreign ∧
      (Exported.constructor object derived).Is space foreign := by
  obtain ⟨arguments, lowered, finished⟩ := Option.bind_eq_some_iff.mp done
  cases finished
  exact ⟨_, rfl, by rw [Exported.symbol, Symbol.text_member],
    lowers_of_foreignArguments? lowered, rfl⟩

theorem Method.exported_of_derive {object : Object} {method derived : Method}
    (done : method.derive? space object.name = some derived) :
    ∃ foreign, derived.foreign = some foreign ∧
      (Exported.method object derived).Is space foreign := by
  obtain ⟨arguments, lowered, rest⟩ := Option.bind_eq_some_iff.mp done
  obtain ⟨result, loweredResult, finished⟩ := Option.bind_eq_some_iff.mp rest
  cases finished
  exact ⟨_, rfl, by rw [Exported.symbol, Symbol.text_member],
    lowers_of_foreignArguments? lowered, lowersResult_of_foreignResult? loweredResult⟩

theorem Object.exported_of_derive {object derived : Object}
    (done : object.derive? space = some derived) :
    List.Forall₂ (Exported.Is space) derived.exported derived.foreignFunctions := by
  obtain ⟨constructors, methods, built, equipped, rfl⟩ := derive_eq_some.mp done
  have release (owner : Object) (same : owner.name = object.name) :
      (Exported.release owner).Is space (object.releaseFunction space) :=
    ⟨by rw [Exported.symbol, Symbol.text_release, same, releaseFunction], rfl, rfl⟩
  refine List.Forall₂.cons (release _ rfl)
    (List.rel_append (forall₂_filterMap ?_) (forall₂_filterMap ?_))
  · intro constructor member
    obtain ⟨_, -, derived⟩ := exists_of_forall₂ (collect_iff_forall₂.mp built) member
    exact Constructor.exported_of_derive derived
  · intro method member
    obtain ⟨_, -, derived⟩ := exists_of_forall₂ (collect_iff_forall₂.mp equipped) member
    exact Method.exported_of_derive derived

theorem CallbackInterface.exported_derive (space : String) (callback : CallbackInterface) :
    (Exported.register (callback.derive space)).Is space (callback.registerFunction space) :=
  ⟨by rw [Exported.symbol, Symbol.text_register, registerFunction, derive], rfl, rfl⟩

theorem bufferFunctions_exported (space : String) :
    List.Forall₂ (Exported.Is space) (BufferUse.all.map .buffer) (bufferFunctions space) := by
  have is (use : BufferUse) (foreign : ForeignFunction)
      (name : foreign.name = s!"ffi_{space}_bytebuffer_{use.name}")
      (signed : (Exported.buffer use).Signed foreign.arguments foreign.result) :
      (Exported.buffer use).Is space foreign :=
    ⟨by rw [name, Exported.symbol, Symbol.text_buffer], signed⟩
  refine .cons (is .alloc _ ?_ ⟨rfl, rfl⟩) (.cons (is .fromBytes _ ?_ ⟨rfl, rfl⟩)
    (.cons (is .free _ ?_ ⟨rfl, rfl⟩) (.cons (is .reserve _ ?_ ⟨rfl, rfl⟩) .nil)))
  all_goals
    simp only [BufferUse.name, String.append_assoc]
    rfl

end Model

namespace Interface

open NativeBoundary.Action Model

variable {before after interface : Interface}

/-- All that an interface exports: for each object its release, its constructors and its methods,
then the callback interfaces, the functions and the byte buffers. -/
def exported (interface : Interface) : List Exported :=
  interface.objects.flatMap Object.exported ++ interface.callbacks.map .register ++
    interface.functions.map .function ++ BufferUse.all.map .buffer

theorem length_exported (interface : Interface) :
    interface.exported.length = interface.objects.length +
      (interface.objects.flatMap Object.constructors).length +
      (interface.objects.flatMap Object.methods).length +
      interface.callbacks.length + interface.functions.length + 4 := by
  have objects : (interface.objects.flatMap Object.exported).length = interface.objects.length +
      (interface.objects.flatMap Object.constructors).length +
      (interface.objects.flatMap Object.methods).length := by
    induction interface.objects with
    | nil => rfl
    | cons object rest ih =>
        simp only [List.flatMap_cons, List.length_append, ih, Object.exported, List.length_cons,
          List.length_map]
        omega
  simp only [exported, List.length_append, objects, List.length_map, BufferUse.all,
    List.length_cons, List.length_nil]

/-- After a derivation, everything that is exported has its foreign function in its place. -/
theorem exported_of_derive (ran : derive.Yields before () after) :
    List.Forall₂ (Exported.Is after.symbolSpace) after.exported after.foreignFunctions := by
  have space := (declaresAlike_of_derive ran).symbolSpace_eq
  unfold foreignFunctions
  rw [space]
  obtain ⟨-, functions, objects, functionsDone, objectsDone, rfl⟩ := derive_yields.mp ran
  refine List.rel_append (List.rel_append (List.rel_append (forall₂_flatMap ?_)
    (forall₂_filterMap ?_)) (forall₂_filterMap ?_)) (bufferFunctions_exported _)
  · intro object member
    obtain ⟨_, -, derived⟩ := exists_of_forall₂ (collect_iff_forall₂.mp objectsDone) member
    exact Object.exported_of_derive derived
  · intro callback member
    obtain ⟨given, -, rfl⟩ := List.mem_map.mp member
    exact ⟨_, rfl, CallbackInterface.exported_derive _ given⟩
  · intro function member
    obtain ⟨_, -, derived⟩ := exists_of_forall₂ (collect_iff_forall₂.mp functionsDone) member
    exact Function.exported_of_derive derived

end Interface

theorem Symbol.text_begins (space : String) (symbol : Symbol) :
    ∃ rest, symbol.text space = space ++ "_" ++ rest ∨
      symbol.text space = "ffi_" ++ space ++ "_" ++ rest := by
  unfold text
  cases symbol.isMarked
  · exact ⟨_, .inl rfl⟩
  · exact ⟨_, .inr rfl⟩

namespace Interface

open Metadata (Item)
open Model

variable {document : Option Document} {items : List Item} {settings : Settings}
  {interface : Interface}

theorem exported_of_build (built : build document items settings = .ok interface) :
    List.Forall₂ (Exported.Is interface.symbolSpace) interface.exported
      interface.foreignFunctions := by
  obtain ⟨group, plain, derived, -, -, -, derives, rfl⟩ := build_stages built
  have complete : List.Forall₂ (Exported.Is derived.symbolSpace) derived.exported
      derived.foreignFunctions := exported_of_derive derives
  exact complete

/-- The foreign functions of a built interface are what it exports, in order and without a gap,
under the symbol space that it has once it is built. -/
theorem exports_complete (built : build document items settings = .ok interface) :
    List.Forall₂ (Exported.Is interface.symbolSpace) interface.exported
      interface.foreignFunctions ∧
    interface.foreignFunctions.length = interface.objects.length +
      (interface.objects.flatMap Object.constructors).length +
      (interface.objects.flatMap Object.methods).length +
      interface.callbacks.length + interface.functions.length + 4 ∧
    ∀ foreign ∈ interface.foreignFunctions, ∃ rest,
      foreign.name = interface.symbolSpace ++ "_" ++ rest ∨
        foreign.name = "ffi_" ++ interface.symbolSpace ++ "_" ++ rest := by
  have complete := exported_of_build built
  refine ⟨complete, complete.length_eq.symm.trans interface.length_exported, ?_⟩
  intro foreign member
  obtain ⟨exported, -, is⟩ := exists_of_forall₂ complete member
  rw [is.name]
  exact exported.symbol.text_begins _

theorem exports_complete_shop :
    ∃ interface, build (some shopDocument) shopItems {} = .ok interface ∧
      interface.foreignFunctions.length = 9 := by
  have built := build_ok_of_result
    (by decide +kernel : (buildOutcome (some shopDocument) shopItems {}).result = .ok ())
  exact ⟨_, built, (exports_complete built).2.1.trans (by decide +kernel)⟩

end Interface

end NativeBoundary
