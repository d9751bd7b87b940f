import NativeBoundary.Proofs.Build.Member
import NativeBoundary.Proofs.Interface.Coherence
import NativeBoundary.Proofs.Interface.Reference

/-!
# Defaults that name variants

A default that is written as a word becomes a literal of an enum before it is known which variants
the enum has.  Its type is an enum that the interface declares.  That its word is one of the
variants is looked up by the consistency check, which comes to every place of such a default but
one: arguments of callback methods.
-/

namespace NativeBoundary

/-! ## What a default is converted to -/

namespace DefaultNode

variable {node : DefaultNode} {type : Ty} {literal : Literal}

theorem convertBoolean_not_enum (converted : node.convertBoolean type = .ok literal) :
    literal.kind ≠ .enum := by
  unfold convertBoolean refuse at converted
  repeat' split at converted
  all_goals cases converted
  all_goals exact (nomatch ·)

theorem convertFloat_not_enum (converted : node.convertFloat type = .ok literal) :
    literal.kind ≠ .enum := by
  unfold convertFloat refuse at converted
  split at converted
  all_goals cases converted
  exact (nomatch ·)

theorem convertInteger_not_enum {signed : Bool} {width : Nat}
    (converted : node.convertInteger type signed width = .ok literal) :
    literal.kind ≠ .enum := by
  unfold convertInteger refuse at converted
  repeat' split at converted
  all_goals cases converted
  all_goals exact (nomatch ·)

/-- Only a word at the type of an enum becomes a literal of an enum. -/
theorem enum_of_convert (converted : node.convert type = .ok literal)
    (isEnum : literal.kind = .enum) :
    type.kind = .enum ∧ literal.value = .text node.text ∧ literal.type = some type := by
  unfold convert refuse at converted
  cases lexical : node.kind with
  | identifier =>
      simp only [lexical] at converted
      split at converted
      · next ofEnum =>
        cases converted
        exact ⟨ofEnum, rfl, rfl⟩
      · cases converted
  | boolean =>
      simp only [lexical] at converted
      split at converted
      · exact absurd isEnum (convertBoolean_not_enum converted)
      · cases converted
  | integer =>
      simp only [lexical] at converted
      split at converted
      · exact absurd isEnum (convertInteger_not_enum converted)
      · split at converted
        · exact absurd isEnum (convertFloat_not_enum converted)
        · cases converted
  | float =>
      simp only [lexical] at converted
      split at converted
      · exact absurd isEnum (convertFloat_not_enum converted)
      · cases converted
  | string | null | emptySequence | emptyMap =>
      simp only [lexical] at converted
      split at converted
      · cases converted
        cases isEnum
      · cases converted

end DefaultNode

/-! ## Defaults of members -/

/-- The declared parts of a member's type are bound, and a default that the member has was converted
at this type. -/
structure Names.Stands (names : Names) (type : Ty) (default : Option Literal) : Prop where
  covers : names.Covers type
  converted : ∀ literal, default = some literal → ∃ node : DefaultNode,
    node.convert type = .ok literal

theorem Document.stands_of_convertDefault {names : Names} {type : Ty}
    {written : Option DefaultNode} {default : Option Literal} (covers : names.Covers type)
    (converted : convertDefault type written = .ok default) : names.Stands type default := by
  refine ⟨covers, ?_⟩
  rintro literal rfl
  obtain ⟨node, -, done⟩ := convertDefault_eq_some.mp converted
  exact ⟨node, done⟩

/-- Fields of records and arguments have the defaults of their sources, fields of variants none. -/
def Parts.defaults (names : Names) : Parts where
  field field := names.Stands field.type field.default
  payload field := field.default = none
  argument argument := names.Stands argument.type argument.default

theorem Parts.defaults_denoted {names : Names} (closed : names.Closed) :
    (Parts.defaults names).Denoted names where
  field {member field} read := by
    obtain ⟨_, -, type, denoted, default, converted, rfl⟩ := Document.Member.denote_eq_ok.mp read
    exact Document.stands_of_convertDefault
      (TypeExpr.covers_of_denote closed member.type denoted) converted
  payload read := by
    obtain ⟨type, -, rfl⟩ := Document.Operation.denoteVariantField_eq_ok.mp read
    rfl
  argument {argument _} read := by
    obtain ⟨_, -, type, denoted, default, converted, rfl⟩ := Document.Argument.denote_eq_ok.mp read
    exact Document.stands_of_convertDefault
      (TypeExpr.covers_of_denote closed argument.type denoted) converted
  itemField read := by
    obtain ⟨type, denoted, rfl⟩ := Metadata.Slot.denoteField_eq_ok.mp read
    obtain ⟨expr, -, denotedExpr⟩ := Metadata.denoteText_eq_ok.mp denoted
    exact ⟨⟨TypeExpr.covers_of_denote closed expr denotedExpr, fun _ => (nomatch ·)⟩, rfl⟩
  itemArgument read := by
    obtain ⟨type, denoted, rfl⟩ := Metadata.Slot.denoteArgument_eq_ok.mp read
    obtain ⟨expr, -, denotedExpr⟩ := Metadata.denoteText_eq_ok.mp denoted
    exact ⟨TypeExpr.covers_of_denote closed expr denotedExpr, fun _ => (nomatch ·)⟩

namespace Interface

open Metadata (Item)

/-! ## Literals of enums -/

/-- The defaults of the arguments of callback methods that are meant as variants. -/
def callbackDefaults (interface : Interface) : List (String × Literal) :=
  interface.callbacks.flatMap fun callback => callback.methods.flatMap fun method =>
    argumentDefaults (memberName callback.name method.name) method.arguments

/-- Every default that is meant as a variant: those that the consistency check looks at, and those
of callback methods. -/
def variantDefaults (interface : Interface) : List (String × Literal) :=
  interface.enumDefaults ++ interface.callbackDefaults

/-- The type of the literal is an enum of the interface, and its value is a word. -/
def MeansVariant (interface : Interface) (literal : Literal) : Prop :=
  ∃ union ∈ interface.enums, literal.type = some (.named .enum union.name) ∧
    ∃ word, literal.value = .text word

/-- The type of the literal is an enum of the interface, and its value is one of its variants. -/
def NamesVariant (interface : Interface) (literal : Literal) : Prop :=
  ∃ union ∈ interface.enums, literal.type = some (.named .enum union.name) ∧
    ∃ variant ∈ union.variants, literal.value = .text variant.name

instance (interface : Interface) (literal : Literal) :
    Decidable (interface.NamesVariant literal) :=
  inferInstanceAs (Decidable (∃ union ∈ interface.enums,
    literal.type = some (.named .enum union.name) ∧
      ∃ variant ∈ union.variants, literal.value = .text variant.name))

/-- What the check takes for a variant is one. -/
theorem namesVariant_of_isVariant {interface : Interface} {literal : Literal}
    (means : interface.MeansVariant literal) (found : interface.isVariant literal = true) :
    interface.NamesVariant literal := by
  obtain ⟨union, -, type, word, value⟩ := means
  simp only [isVariant, type, value, LiteralValue.shown, Ty.named, Option.getD_some] at found
  split at found
  · cases found
  · next declared looked =>
    obtain ⟨variant, lookedUp⟩ := Option.isSome_iff_exists.mp found
    have acceptedUnion := List.find?_some looked
    have acceptedVariant := List.find?_some lookedUp
    have sameUnion : declared.name = union.name := eq_of_beq acceptedUnion
    have sameVariant : variant.name = word := eq_of_beq acceptedVariant
    refine ⟨declared, List.mem_of_find?_eq_some looked, ?_, variant,
      List.mem_of_find?_eq_some lookedUp, ?_⟩
    · rw [type, sameUnion]
    · rw [value, sameVariant]

section Built

variable {document : Option Document} {items : List Item} {settings : Settings}
  {interface : Interface} (built : build document items settings = .ok interface)

include built

/-- A type of an enum that is bound to its name is one of the declared enums. -/
theorem enum_of_binds {type : Ty} (binds : interface.names.Binds type)
    (isEnum : type.kind = .enum) : ∃ union ∈ interface.enums, type = .named .enum union.name := by
  have declares : type.isDeclared = true := by rw [Ty.isDeclared, isEnum]; rfl
  obtain ⟨name, named, bound⟩ := binds declares
  obtain ⟨member, -⟩ := (bound_iff_of_build built declares).mp bound
  simp only [ownTypes, List.mem_append, List.mem_map] at member
  rcases member with (((⟨_, -, rfl⟩ | ⟨union, inside, rfl⟩) | ⟨_, -, rfl⟩) | ⟨_, -, rfl⟩) |
    ⟨_, -, rfl⟩
  · cases isEnum
  · exact ⟨union, inside, rfl⟩
  · cases isEnum
  · cases isEnum
  · cases isEnum

theorem means_of_stands {type : Ty} {default : Option Literal} {owner member : String}
    (stands : interface.names.Stands type default) :
    ∀ entry ∈ enumDefault owner member default, interface.MeansVariant entry.2 := by
  intro entry listed
  unfold enumDefault at listed
  split at listed
  · cases listed
  · next literal =>
    split at listed
    · next isEnum =>
      obtain rfl := List.mem_singleton.mp listed
      obtain ⟨node, converted⟩ := stands.converted literal rfl
      obtain ⟨ofEnum, value, typed⟩ := DefaultNode.enum_of_convert converted isEnum
      obtain ⟨union, inside, rfl⟩ :=
        enum_of_binds built (stands.covers type (Ty.self_mem_types type)) ofEnum
      exact ⟨union, inside, typed, node.text, value⟩
    · cases listed

theorem means_of_arguments {owner : String} {arguments : List Model.Argument}
    (stand : ∀ argument ∈ arguments, interface.names.Stands argument.type argument.default) :
    ∀ entry ∈ argumentDefaults owner arguments, interface.MeansVariant entry.2 := by
  intro entry listed
  obtain ⟨argument, member, inside⟩ := List.mem_flatMap.mp listed
  exact means_of_stands built (stand argument member) entry inside

theorem means_of_variantDefaults :
    ∀ entry ∈ interface.variantDefaults, interface.MeansVariant entry.2 := by
  have stand := Parts.satisfies_of_build built (Parts.defaults_denoted (closed_of_build built))
  intro entry listed
  simp only [variantDefaults, enumDefaults, objectDefaults, callbackDefaults, List.mem_append,
    List.mem_flatMap] at listed
  rcases listed with ((⟨record, member, field, inside, found⟩ | ⟨function, member, found⟩) |
    ⟨object, member, ⟨constructor, inside, found⟩ | ⟨method, inside, found⟩⟩) |
    ⟨callback, member, method, inside, found⟩
  · exact means_of_stands built (stand.records record member field inside) entry found
  · exact means_of_arguments built (stand.functions function member) entry found
  · exact means_of_arguments built
      ((stand.objects object member).1 constructor inside) entry found
  · exact means_of_arguments built ((stand.objects object member).2 method inside) entry found
  · exact means_of_arguments built (stand.callbacks callback member method inside) entry found

end Built

/-- In a built interface every default that is meant as a variant is a word at an enum of the
interface, and fields of variants have no default at all.  All of these words name variants exactly
if those do that stand at arguments of callback methods. -/
theorem variantDefaults_of_build {document : Option Document} {items : List Item}
    {settings : Settings} {interface : Interface}
    (built : build document items settings = .ok interface) :
    (∀ entry ∈ interface.variantDefaults, interface.MeansVariant entry.2) ∧
    (∀ union ∈ interface.enums ++ interface.errors, ∀ variant ∈ union.variants,
      ∀ field ∈ variant.fields, field.default = none) ∧
    ((∀ entry ∈ interface.variantDefaults, interface.NamesVariant entry.2) ↔
      ∀ entry ∈ interface.callbackDefaults, interface.NamesVariant entry.2) := by
  have means := means_of_variantDefaults built
  have stand := Parts.satisfies_of_build built (Parts.defaults_denoted (closed_of_build built))
  obtain ⟨-, -, -, checked⟩ := check_eq_ok.mp (check_of_build built)
  refine ⟨means, ?_, ?_⟩
  · exact List.forall_mem_append.mpr ⟨stand.enums, stand.errors⟩
  · constructor
    · intro names entry listed
      exact names entry (List.mem_append_right _ listed)
    · intro names
      refine List.forall_mem_append.mpr ⟨fun entry listed => ?_, names⟩
      exact namesVariant_of_isVariant (means entry (List.mem_append_left _ listed))
        (checked entry listed)

/-- Words as defaults of a field, of an argument of a function and of one of a callback method, of
which the last is the given one. -/
def lampDocument (word : String) : Document where
  definitions := [
    { name := "lamp", body := .space [{ name := "light", arguments := [level "high"] }] },
    { name := "Level", body := .enum ["low", "high"] },
    { name := "Plan", body := .dictionary [
      { name := "level", type := .named "Level", default := some ⟨.identifier, "low", none⟩ }] },
    { name := "Dimmer", body := .callbackInterface [
      { name := "turn", arguments := [level word] }] }]
where
  level (word : String) : Document.Argument :=
    { name := "level", type := .named "Level", default := some ⟨.identifier, word, none⟩ }

theorem variantDefaults_of_build_lamp :
    ∃ interface, build (some (lampDocument "low")) [] {} = .ok interface ∧
      interface.variantDefaults.map Prod.fst = ["Plan.level", "light.level", "Dimmer.turn.level"] ∧
      ∀ entry ∈ interface.variantDefaults, interface.NamesVariant entry.2 := by
  have built := build_ok_of_result
    (by decide +kernel : (buildOutcome (some (lampDocument "low")) [] {}).result = .ok ())
  exact ⟨_, built, by decide +kernel,
    (variantDefaults_of_build built).2.2.mpr (by decide +kernel)⟩

/-- A callback method whose argument falls back to a word that is no variant is built. -/
theorem variantDefaults_dangling :
    ∃ interface, build (some (lampDocument "dark")) [] {} = .ok interface ∧
      ∃ entry ∈ interface.variantDefaults, ¬ interface.NamesVariant entry.2 := by
  have built := build_ok_of_result
    (by decide +kernel : (buildOutcome (some (lampDocument "dark")) [] {}).result = .ok ())
  exact ⟨_, built, by decide +kernel⟩

end Interface

end NativeBoundary
