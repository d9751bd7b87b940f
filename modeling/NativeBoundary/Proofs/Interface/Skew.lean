import NativeBoundary.Proofs.Interface.Symbols

/-!
# Version skew

Every symbol of a built interface carries its namespace and the low sixteen bits of its checksum.
Two interfaces of one namespace whose checksums differ in these bits share no symbol: taking one for
the other is noticed when the symbols are looked up, before anything is called.
-/

namespace NativeBoundary.Interface

open Metadata (Item)

/-- Built interfaces of one namespace whose checksums differ in their low sixteen bits have no
foreign name in common, whatever they declare. -/
theorem foreignNames_disjoint {document other : Option Document} {items others : List Item}
    {settings otherSettings : Settings} {first second : Interface}
    (builtFirst : build document items settings = .ok first)
    (builtSecond : build other others otherSettings = .ok second)
    (sameSpace : first.spaceTag.shown = second.spaceTag.shown)
    (skewed : first.checksum % 2 ^ 16 ≠ second.checksum % 2 ^ 16) :
    List.Disjoint (first.foreignFunctions.map ForeignFunction.name)
      (second.foreignFunctions.map ForeignFunction.name) := by
  rw [foreignNames_of_build builtFirst, foreignNames_of_build builtSecond]
  apply List.disjoint_left.mpr
  intro name inFirst inSecond
  obtain ⟨symbol, -, rfl⟩ := List.mem_map.mp inFirst
  obtain ⟨another, -, same⟩ := List.mem_map.mp inSecond
  have shape := second.symbolSpace_toList
  rw [← sameSpace] at shape
  exact Symbol.text_ne_of_digits first.symbolSpace_toList shape skewed symbol another same.symm

/-- A function that is named like the rest of a symbol, in a namespace that is the mark of
symbols. -/
def markedDocument : Document where
  definitions := [{ name := "ffi", body := .space [{ name := "ffi_0000_open" }] }]

/-- The same declarations under two versions. -/
theorem foreignNames_disjoint_marked :
    ∃ first second, build (some markedDocument) [] {} = .ok first ∧
      build (some markedDocument) [] { version := .string "0.4.0" } = .ok second ∧
      first.spaceTag.shown = second.spaceTag.shown ∧
      first.checksum % 2 ^ 16 ≠ second.checksum % 2 ^ 16 ∧
      List.Disjoint (first.foreignFunctions.map ForeignFunction.name)
        (second.foreignFunctions.map ForeignFunction.name) := by
  have builtFirst := build_ok_of_result
    (by decide +kernel : (buildOutcome (some markedDocument) [] {}).result = .ok ())
  have builtSecond := build_ok_of_result
    (by decide +kernel :
      (buildOutcome (some markedDocument) [] { version := .string "0.4.0" }).result = .ok ())
  have sameSpace : (buildOutcome (some markedDocument) [] {}).state.spaceTag.shown =
      (buildOutcome (some markedDocument) [] { version := .string "0.4.0" }).state.spaceTag.shown :=
    by decide +kernel
  have skewed : (buildOutcome (some markedDocument) [] {}).state.checksum % 2 ^ 16 ≠
      (buildOutcome (some markedDocument) [] { version := .string "0.4.0" }).state.checksum %
        2 ^ 16 := by
    decide +kernel
  exact ⟨_, _, builtFirst, builtSecond, sameSpace, skewed,
    foreignNames_disjoint builtFirst builtSecond sameSpace skewed⟩

end NativeBoundary.Interface
