import Mathlib.Algebra.Group.Int.Defs
import NativeBoundary.Proofs.Json.Alike
import NativeBoundary.Proofs.Text.Numeral

/-!
# Values that have a canonical text

A value is written where there is room for its arrays and objects to stand inside each other, and
where none of its whole numbers has too many digits.  Neither the text nor whether there is one
depends on the order of members; of the values that are written, only those that are alike have the
same text.
-/

namespace NativeBoundary.Json

open Text.Numeral (decimalDigitLimit isWritten_iff)

/-- Arrays and objects stand inside each other no more often than there is room for, and no whole
number has too many digits. -/
inductive Fits : Nat → Json → Prop where
  | null {room : Nat} : Fits room .null
  | bool {room : Nat} (value : Bool) : Fits room (.bool value)
  | integer {room : Nat} {value : Int} (short : value.natAbs < 10 ^ decimalDigitLimit) :
      Fits room (.integer value)
  | decimal {room : Nat} (value : Binary64) : Fits room (.decimal value)
  | string {room : Nat} (text : String) : Fits room (.string text)
  | array {left : Nat} {items : List Json} (each : ∀ item ∈ items, Fits left item) :
      Fits (left + 1) (.array items)
  | object {left : Nat} {members : List (String × Json)}
      (values : ∀ member ∈ members, Fits left member.2) : Fits (left + 1) (.object members)

/-! ## What is written -/

variable {room : Nat}

theorem canonicalText?_integer {value : Int} (short : value.natAbs < 10 ^ decimalDigitLimit) :
    (Json.integer value).canonicalText? room = some (integerText value) := by
  rw [canonicalText?, if_pos (isWritten_iff.mpr short)]

theorem canonicalTexts?_of_each {items : List Json}
    (each : ∀ item ∈ items, item.canonicalText? room = some item.canonical) :
    canonicalTexts? room items = some (canonicalItems items) := by
  induction items with
  | nil => rfl
  | cons item rest ih =>
      obtain ⟨first, others⟩ := List.forall_mem_cons.mp each
      simp [canonicalTexts?, canonicalItems, first, ih others]

theorem canonicalMemberTexts?_of_each {members : List (String × Json)}
    (each : ∀ member ∈ members, member.2.canonicalText? room = some member.2.canonical) :
    canonicalMemberTexts? room members = some (canonicalMembers members) := by
  induction members with
  | nil => rfl
  | cons member rest ih =>
      obtain ⟨first, others⟩ := List.forall_mem_cons.mp each
      simp [canonicalMemberTexts?, canonicalMembers, first, ih others]

/-- What fits is written as its canonical text. -/
theorem Fits.canonicalText?_eq {value : Json} (fits : Fits room value) :
    value.canonicalText? room = some value.canonical := by
  induction fits with
  | null => rfl
  | bool value => cases value <;> rfl
  | integer short => rw [canonicalText?_integer short, canonical]
  | decimal => rfl
  | string => rfl
  | array _ ih => rw [canonicalText?, canonicalTexts?_of_each ih, canonical, Option.map_some]
  | object _ ih =>
      rw [canonicalText?, canonicalMemberTexts?_of_each ih, canonical, Option.map_some]

theorem short_of_text {value : Int} {text : List Char}
    (written : (Json.integer value).canonicalText? room = some text) :
    value.natAbs < 10 ^ decimalDigitLimit := by
  rw [canonicalText?] at written
  exact isWritten_iff.mp (Option.ite_none_right_eq_some.mp written).1

theorem each_of_texts {items : List Json} {texts : List (List Char)}
    (written : canonicalTexts? room items = some texts) :
    ∀ item ∈ items, ∃ text, item.canonicalText? room = some text := by
  induction items generalizing texts with
  | nil => nofun
  | cons item rest ih =>
      simp only [canonicalTexts?, Option.bind_eq_bind, Option.bind_eq_some_iff] at written
      obtain ⟨text, first, _, others, -⟩ := written
      exact List.forall_mem_cons.mpr ⟨⟨text, first⟩, ih others⟩

theorem each_of_memberTexts {members : List (String × Json)} {texts : List (String × List Char)}
    (written : canonicalMemberTexts? room members = some texts) :
    ∀ member ∈ members, ∃ text, member.2.canonicalText? room = some text := by
  induction members generalizing texts with
  | nil => nofun
  | cons member rest ih =>
      simp only [canonicalMemberTexts?, Option.bind_eq_bind, Option.bind_eq_some_iff] at written
      obtain ⟨text, first, _, others, -⟩ := written
      exact List.forall_mem_cons.mpr ⟨⟨text, first⟩, ih others⟩

/-- Only what fits is written. -/
theorem fits_of_text (value : Json) {text : List Char}
    (written : value.canonicalText? room = some text) : Fits room value := by
  induction value using induct generalizing room text with
  | null => exact .null
  | bool value => exact .bool value
  | integer => exact .integer (short_of_text written)
  | decimal value => exact .decimal value
  | string value => exact .string value
  | array items ih =>
      cases room with
      | zero => cases written
      | succ left =>
          obtain ⟨_, texts, -⟩ := Option.map_eq_some_iff.mp written
          refine .array fun item inside => ?_
          obtain ⟨_, writtenItem⟩ := each_of_texts texts item inside
          exact ih item inside writtenItem
  | object members ih =>
      cases room with
      | zero => cases written
      | succ left =>
          obtain ⟨_, texts, -⟩ := Option.map_eq_some_iff.mp written
          refine .object fun member inside => ?_
          obtain ⟨_, writtenValue⟩ := each_of_memberTexts texts member inside
          exact ih member inside writtenValue

theorem canonicalText?_eq_some_iff {value : Json} {text : List Char} :
    value.canonicalText? room = some text ↔ Fits room value ∧ value.canonical = text := by
  constructor
  · intro written
    have fits := fits_of_text value written
    exact ⟨fits, Option.some.inj (fits.canonicalText?_eq.symm.trans written)⟩
  · rintro ⟨fits, rfl⟩
    exact fits.canonicalText?_eq

/-! ## The order of members -/

theorem Alike.symm {first second : Json} (alike : Alike first second) : Alike second first := by
  induction alike with
  | null => exact .null
  | bool value => exact .bool value
  | integer value => exact .integer value
  | decimal value => exact .decimal value
  | string text => exact .string text
  | array length _ ih =>
      exact .array length.symm fun place item other found foundOther =>
        ih place other item foundOther found
  | object names _ ih =>
      exact .object (fun name => (names name).symm) fun name value other found foundOther =>
        ih name other value foundOther found

/-- What is alike to a value that fits does so as well. -/
theorem Alike.fits {first second : Json} (alike : Alike first second) (keyed : second.Keyed)
    (fits : Fits room first) : Fits room second := by
  induction alike generalizing room with
  | null => exact .null
  | bool value => exact .bool value
  | integer => exact fits
  | decimal value => exact .decimal value
  | string text => exact .string text
  | @array items others length _ ih =>
      obtain _ | _ | _ | _ | _ | each | _ := fits
      refine .array fun other inside => ?_
      obtain ⟨place, found⟩ := List.mem_iff_getElem?.mp inside
      have inItems : place < items.length := by
        rw [length]
        exact (List.getElem?_eq_some_iff.mp found).1
      exact ih place _ other (List.getElem?_eq_getElem inItems) found
        (keyed_array.mp keyed other inside) (each _ (List.getElem_mem inItems))
  | @object members others names _ ih =>
      obtain _ | _ | _ | _ | _ | _ | values := fits
      obtain ⟨distinct, keyedValues⟩ := keyed_object.mp keyed
      refine .object fun member inside => ?_
      have found := (lookup_eq_some_iff_mem distinct).mpr inside
      have there := names member.1
      rw [found, Option.isSome_some, Option.isSome_iff_exists] at there
      obtain ⟨value, foundFirst⟩ := there
      exact ih member.1 value member.2 foundFirst found (keyedValues member inside)
        (values _ (mem_of_lookup foundFirst))

/-- Values that are alike are written alike, or neither is written. -/
theorem Alike.canonicalText?_eq {first second : Json} (alike : Alike first second)
    (keyed : first.Keyed) (keyedOther : second.Keyed) :
    first.canonicalText? room = second.canonicalText? room := by
  apply Option.ext
  intro text
  rw [canonicalText?_eq_some_iff, canonicalText?_eq_some_iff, alike.canonical_eq keyed keyedOther]
  exact and_congr_left' ⟨alike.fits keyedOther, alike.symm.fits keyed⟩

theorem keyed_of_perm {members others : List (String × Json)} (keyed : (Json.object members).Keyed)
    (perm : members.Perm others) : (Json.object others).Keyed := by
  obtain ⟨distinct, values⟩ := keyed_object.mp keyed
  exact keyed_object.mpr ⟨(perm.map Prod.fst).nodup_iff.mp distinct,
    fun member inside => values member (perm.mem_iff.mpr inside)⟩

section Values

variable {first second : Json}

/-- A value has a canonical text exactly if it fits.  Values that are alike have the same text or
none, as when members change places, and no other value has the text of a value. -/
theorem canonicalText?_eq_iff_alike (room : Nat) (scalar : first.Scalar)
    (scalarOther : second.Scalar) (keyed : first.Keyed) (keyedOther : second.Keyed) :
    ((∃ text, first.canonicalText? room = some text) ↔ Fits room first) ∧
    (Alike first second → first.canonicalText? room = second.canonicalText? room) ∧
    (∀ members others, first = .object members → members.Perm others →
      first.canonicalText? room = (Json.object others).canonicalText? room) ∧
    ∀ text, first.canonicalText? room = some text →
      (second.canonicalText? room = some text ↔ Alike first second) := by
  refine ⟨⟨fun ⟨_, written⟩ => fits_of_text first written,
    fun fits => ⟨_, fits.canonicalText?_eq⟩⟩,
    fun alike => alike.canonicalText?_eq keyed keyedOther, ?_, fun text written => ⟨?_, ?_⟩⟩
  · rintro members others rfl perm
    exact (Alike.of_perm (keyed_object.mp keyed).1 perm).canonicalText?_eq keyed
      (keyed_of_perm keyed perm)
  · intro writtenOther
    obtain ⟨-, same⟩ := canonicalText?_eq_some_iff.mp written
    obtain ⟨-, sameOther⟩ := canonicalText?_eq_some_iff.mp writtenOther
    exact (canonical_eq_iff_alike scalar scalarOther keyed keyedOther).mp
      (same.trans sameOther.symm)
  · intro alike
    rw [← alike.canonicalText?_eq keyed keyedOther, written]

end Values

/-- Names beyond the basic plane and a quote within a name, at two depths. -/
def pennant : Json :=
  .object [("𝔐", .array [.object [("width", .integer (-12)), ("\"é", .null)]]), ("b", .bool true)]

def pennantReordered : Json :=
  .object [("b", .bool true), ("𝔐", .array [.object [("\"é", .null), ("width", .integer (-12))]])]

theorem canonicalText?_eq_iff_alike_pennant :
    pennant ≠ pennantReordered ∧ Alike pennant pennantReordered := by
  have scalar : pennant.Scalar := scalar_of_isOrdinary _ (by decide +kernel)
  have scalarReordered : pennantReordered.Scalar := scalar_of_isOrdinary _ (by decide +kernel)
  have keyed : pennant.Keyed := by simp [pennant]
  have keyedReordered : pennantReordered.Keyed := by simp [pennantReordered]
  obtain ⟨-, -, -, same⟩ :=
    canonicalText?_eq_iff_alike 3 scalar scalarReordered keyed keyedReordered
  exact ⟨by decide +kernel, (same pennant.canonical (by decide +kernel)).mp (by decide +kernel)⟩

/-- A whole number of 4301 digits. -/
def longCount : Json := .object [("n", .integer (10 ^ decimalDigitLimit))]

theorem canonicalText?_longCount :
    longCount.Scalar ∧ longCount.Keyed ∧ Alike longCount longCount ∧
      ∀ room text, longCount.canonicalText? room ≠ some text := by
  refine ⟨scalar_of_isOrdinary _ (by decide +kernel), ?_, Alike.refl _, fun room text written => ?_⟩
  · exact .object (List.nodup_singleton _) (List.forall_mem_singleton.mpr (.integer _))
  · obtain _ | _ | _ | _ | _ | _ | values := fits_of_text longCount written
    obtain _ | _ | short := values _ List.mem_cons_self
    have size (digits : Nat) : (10 ^ digits : Int).natAbs = 10 ^ digits := Int.natAbs_pow 10 digits
    exact Nat.lt_irrefl _ (size decimalDigitLimit ▸ short)

end NativeBoundary.Json
