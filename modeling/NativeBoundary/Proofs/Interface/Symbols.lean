import Mathlib.Data.List.Nodup
import NativeBoundary.Proofs.Interface.Exports

/-!
# Symbols of a built interface

The foreign functions of an interface are named by its symbols: those of each object, of the
callback interfaces, of the functions and of the byte buffers.  All of these symbols are different,
but two objects, or an object and a function, can have the same text for different ones.  Nothing
else can.
-/

namespace NativeBoundary

namespace Model

/-- The release of an object and its callables, constructors before methods. -/
def Object.symbols (object : Object) : List Symbol :=
  .release object.name :: object.callables.map (.member object.name)

theorem Object.mem_symbols {object : Object} {symbol : Symbol} :
    symbol ∈ object.symbols ↔ symbol = .release object.name ∨
      ∃ callable ∈ object.callables, symbol = .member object.name callable := by
  simp only [symbols, List.mem_cons, List.mem_map, eq_comm]

theorem Object.map_symbol_exported (object : Object) :
    object.exported.map Exported.symbol = object.symbols := by
  simp only [exported, symbols, callables, List.map_append, List.map_cons, List.map_map,
    Function.comp_def, Exported.symbol, List.cons_append]

theorem names_of_exported {space : String} {exported : List Exported}
    {foreign : List ForeignFunction} (complete : List.Forall₂ (Exported.Is space) exported foreign) :
    foreign.map ForeignFunction.name = (exported.map Exported.symbol).map (Symbol.text space) := by
  induction complete with
  | nil => rfl
  | cons is _ ih => rw [List.map_cons, List.map_cons, List.map_cons, is.name, ih]

end Model

namespace Interface

open NativeBoundary.Action Model

variable {before after : Interface}

/-- The symbols of an interface, in the order of its foreign functions. -/
def symbols (interface : Interface) : List Symbol :=
  interface.objects.flatMap Object.symbols ++
    (interface.callbacks.map CallbackInterface.name).map .register ++
    (interface.functions.map Function.name).map .function ++ BufferUse.all.map .buffer

theorem map_symbol_exported (interface : Interface) :
    interface.exported.map Exported.symbol = interface.symbols := by
  simp only [exported, symbols, List.map_append, List.map_flatMap, List.map_map,
    Object.map_symbol_exported, Function.comp_def, Exported.symbol]

/-- What derivation names are the symbols of the interface under its symbol space. -/
theorem foreignNames_of_derive (ran : derive.Yields before () after) :
    after.foreignFunctions.map ForeignFunction.name =
      after.symbols.map (Symbol.text after.symbolSpace) := by
  rw [names_of_exported (exported_of_derive ran), map_symbol_exported]

/-- The symbol space in full: the namespace, a low line and the digits of the checksum. -/
theorem symbolSpace_toList (interface : Interface) :
    interface.symbolSpace.toList =
      interface.spaceTag.shown.toList ++ '_' :: Text.hexDigits 4 interface.checksum := by
  simp only [symbolSpace, hexText, String.toList_append, String.toList_ofList, List.append_assoc]
  rfl

theorem symbolSpace_ends (interface : Interface) : Symbol.Ends interface.symbolSpace :=
  ⟨_, _, interface.symbolSpace_toList⟩

/-! ## Different symbols -/

theorem WellNamed.nodup_objectSymbols {interface : Interface} (named : WellNamed interface) :
    (interface.objects.flatMap Object.symbols).Nodup := by
  refine List.nodup_flatMap.mpr ⟨?_, ?_⟩
  · intro object member
    refine List.nodup_cons.mpr ⟨?_, (named.callables object member).map fun _ _ same => ?_⟩
    · simp
    · cases same
      rfl
  · refine (List.pairwise_map.mp named.objects).imp ?_
    intro first second differ symbol inFirst inSecond
    rcases Object.mem_symbols.mp inFirst with rfl | ⟨callable, -, rfl⟩
    · rcases Object.mem_symbols.mp inSecond with same | ⟨other, -, same⟩
      · exact differ (Symbol.release.inj same)
      · cases same
    · rcases Object.mem_symbols.mp inSecond with same | ⟨other, -, same⟩
      · cases same
      · exact differ (Symbol.member.inj same).1

/-- An interface whose names are its own has no symbol twice. -/
theorem WellNamed.nodup_symbols {interface : Interface} (named : WellNamed interface) :
    interface.symbols.Nodup := by
  have registers := named.callbacks.map (f := Symbol.register) fun _ _ => Symbol.register.inj
  have functions := named.functions.map (f := Symbol.function) fun _ _ => Symbol.function.inj
  have buffers : (BufferUse.all.map Symbol.buffer).Nodup := by decide
  refine List.nodup_append.mpr ⟨List.nodup_append.mpr ⟨List.nodup_append.mpr
    ⟨named.nodup_objectSymbols, registers, ?_⟩, functions, ?_⟩, buffers, ?_⟩
  all_goals
    simp only [List.mem_append, List.mem_flatMap, List.mem_map, Object.mem_symbols]
    grind

theorem mem_symbols_of_unmarked {interface : Interface} {symbol : Symbol}
    (unmarked : symbol.isMarked = false) :
    symbol ∈ interface.symbols ↔
      (∃ object ∈ interface.objects, ∃ callable ∈ object.callables,
        symbol = .member object.name callable) ∨
      ∃ function ∈ interface.functions, symbol = .function function.name := by
  simp only [symbols, List.mem_append, List.mem_flatMap, List.mem_map, Object.mem_symbols]
  constructor
  · rintro (((⟨object, inside, rfl | member⟩ | ⟨name, -, rfl⟩) |
      ⟨name, ⟨function, inside, rfl⟩, rfl⟩) | ⟨use, -, rfl⟩)
    · cases unmarked
    · exact Or.inl ⟨object, inside, member⟩
    · cases unmarked
    · exact Or.inr ⟨function, inside, rfl⟩
    · cases unmarked
  · rintro (⟨object, inside, member⟩ | ⟨function, inside, rfl⟩)
    · exact Or.inl (Or.inl (Or.inl ⟨object, inside, Or.inr member⟩))
    · exact Or.inl (Or.inr ⟨function.name, ⟨function, inside, rfl⟩, rfl⟩)

/-- Callables of different objects have different joined names, and no function has one of these. -/
structure Apart (interface : Interface) : Prop where
  members : ∀ first ∈ interface.objects, ∀ second ∈ interface.objects,
    ∀ callable ∈ first.callables, ∀ other ∈ second.callables,
      Symbol.joined first.name callable = Symbol.joined second.name other →
        first.name = second.name
  functions : ∀ function ∈ interface.functions, ∀ object ∈ interface.objects,
    ∀ callable ∈ object.callables, function.name ≠ Symbol.joined object.name callable

theorem Apart.eq_of_body {interface : Interface} (apart : Apart interface) {first second : Symbol}
    (inFirst : first ∈ interface.symbols) (inSecond : second ∈ interface.symbols)
    (firstUnmarked : first.isMarked = false) (secondUnmarked : second.isMarked = false)
    (same : first.body = second.body) : first = second := by
  rcases (mem_symbols_of_unmarked firstUnmarked).mp inFirst with
    ⟨object, inside, callable, member, rfl⟩ | ⟨function, inside, rfl⟩
  · rcases (mem_symbols_of_unmarked secondUnmarked).mp inSecond with
      ⟨other, otherInside, otherCallable, otherMember, rfl⟩ | ⟨function, functionInside, rfl⟩
    · have owners := apart.members object inside other otherInside callable member otherCallable
        otherMember same
      have bodies : Symbol.joined object.name callable = Symbol.joined other.name otherCallable :=
        same
      rw [owners, Symbol.joined, Symbol.joined, String.append_right_inj] at bodies
      rw [owners, bodies]
    · exact absurd same.symm (apart.functions function functionInside object inside callable member)
  · rcases (mem_symbols_of_unmarked secondUnmarked).mp inSecond with
      ⟨object, objectInside, callable, member, rfl⟩ | ⟨other, -, rfl⟩
    · exact absurd same (apart.functions function inside object objectInside callable member)
    · exact congrArg Symbol.function same

/-- Symbols without repetition have different texts exactly if the joined names are apart. -/
theorem WellNamed.nodup_texts_iff {interface : Interface} (named : WellNamed interface) :
    (interface.symbols.map (Symbol.text interface.symbolSpace)).Nodup ↔ Apart interface := by
  have ends := interface.symbolSpace_ends
  rw [List.nodup_map_iff_inj_on named.nodup_symbols]
  constructor
  · intro apart
    constructor
    · intro first inFirst second inSecond callable member other otherMember same
      have equal := apart (.member first.name callable)
        ((mem_symbols_of_unmarked rfl).mpr (Or.inl ⟨first, inFirst, callable, member, rfl⟩))
        (.member second.name other)
        ((mem_symbols_of_unmarked rfl).mpr (Or.inl ⟨second, inSecond, other, otherMember, rfl⟩))
        ((Symbol.text_eq_iff ends).mpr (Or.inr ⟨rfl, rfl, same⟩))
      exact (Symbol.member.inj equal).1
    · intro function inFunctions object inObjects callable member same
      have equal := apart (.function function.name)
        ((mem_symbols_of_unmarked rfl).mpr (Or.inr ⟨function, inFunctions, rfl⟩))
        (.member object.name callable)
        ((mem_symbols_of_unmarked rfl).mpr (Or.inl ⟨object, inObjects, callable, member, rfl⟩))
        ((Symbol.text_eq_iff ends).mpr (Or.inr ⟨rfl, rfl, same⟩))
      cases equal
  · intro apart first inFirst second inSecond same
    rcases (Symbol.text_eq_iff ends).mp same with equal | ⟨firstUnmarked, secondUnmarked, bodies⟩
    · exact equal
    · exact apart.eq_of_body inFirst inSecond firstUnmarked secondUnmarked bodies

/-! ## Built interfaces -/

open Metadata (Item)

variable {document : Option Document} {items : List Item} {settings : Settings}
  {interface : Interface}

theorem foreignNames_of_build (built : build document items settings = .ok interface) :
    interface.foreignFunctions.map ForeignFunction.name =
      interface.symbols.map (Symbol.text interface.symbolSpace) := by
  obtain ⟨group, plain, derived, -, -, -, derives, rfl⟩ := build_stages built
  have names := foreignNames_of_derive derives
  exact names

/-- The foreign functions of a built interface have names of their own exactly if no callable of an
object has the joined name of a callable of another one or the name of a function. -/
theorem foreignNames_nodup_iff (built : build document items settings = .ok interface) :
    (interface.foreignFunctions.map ForeignFunction.name).Nodup ↔ interface.Apart := by
  rw [foreignNames_of_build built]
  exact (wellNamed_of_build built).nodup_texts_iff

theorem foreignNames_nodup_shop :
    ∃ interface, build (some shopDocument) shopItems {} = .ok interface ∧ interface.Apart ∧
      (interface.foreignFunctions.map ForeignFunction.name).Nodup := by
  have built := build_ok_of_result
    (by decide +kernel : (buildOutcome (some shopDocument) shopItems {}).result = .ok ())
  have apart : (buildOutcome (some shopDocument) shopItems {}).state.Apart :=
    ⟨by decide +kernel, by decide +kernel⟩
  exact ⟨_, built, apart, (foreignNames_nodup_iff built).mpr apart⟩

/-- A function, and an object with a method of the same joined name. -/
def clashDocument : Document where
  definitions := [
    { name := "shop", body := .space [{ name := "Store_size" }] },
    { name := "Store", body := .interface [] [{ name := "size" }] }]

/-- The method and the function are built side by side under one name. -/
theorem foreignNames_not_nodup_clash :
    ∃ interface, build (some clashDocument) [] {} = .ok interface ∧
      ¬ (interface.foreignFunctions.map ForeignFunction.name).Nodup := by
  have built := build_ok_of_result
    (by decide +kernel : (buildOutcome (some clashDocument) [] {}).result = .ok ())
  refine ⟨_, built, ?_⟩
  rw [foreignNames_of_build built]
  have symbols : (buildOutcome (some clashDocument) [] {}).state.symbols =
      [.release "Store", .member "Store" "size", .function "Store_size", .buffer .alloc,
        .buffer .fromBytes, .buffer .free, .buffer .reserve] := by decide +kernel
  rw [symbols]
  intro distinct
  have later := (List.nodup_cons.mp (List.nodup_cons.mp distinct).2).1
  apply later
  rw [(Symbol.text_eq_iff (symbolSpace_ends _)).mpr (Or.inr ⟨rfl, rfl, by decide⟩ :
    Symbol.member "Store" "size" = .function "Store_size" ∨ _)]
  exact List.mem_cons_self

end Interface

end NativeBoundary
