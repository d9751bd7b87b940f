import NativeBoundary.Metadata.Merge
import NativeBoundary.Proofs.Action.Results
import NativeBoundary.Proofs.Registry.Resolution

/-!
# What metadata items denote

The declarations and members that metadata items stand for in an environment of names.  Their types
are texts, read in the spelling of metadata before their names are looked up.
-/

namespace NativeBoundary.Metadata

open Registry (Reads)

def denoteText (text : String) (names : Names) : Except Problem Ty := do
  let expr ← TypeExpr.readText .metadata text none
  expr.denote names

theorem denoteText_eq_ok {text : String} {names : Names} {type : Ty} :
    denoteText text names = .ok type ↔
      ∃ expr, TypeExpr.readText .metadata text none = .ok expr ∧ expr.denote names = .ok type := by
  simp only [denoteText, Results.bind_eq_ok]

theorem resolveText_reads (text : String) : Reads (resolveText text) (denoteText text) :=
  (Reads.lift _).bind fun expr => Registry.resolve_reads expr

def denoteOutput (output : Option String) (names : Names) : Except Problem (Option Ty) :=
  match output with
  | none => pure none
  | some text =>
      if text = "" then pure none
      else do
        let type ← denoteText text names
        pure (some type)

theorem resolveOutput_reads (output : Option String) :
    Reads (resolveOutput output) (denoteOutput output) := by
  cases output with
  | none => exact Reads.pure none
  | some text =>
      by_cases blank : text = ""
      · rw [resolveOutput, if_pos blank]
        exact (Reads.pure none).congr fun _ => (if_pos blank).symm
      · rw [resolveOutput, if_neg blank]
        have readsText := (resolveText_reads text).bind fun type => Reads.pure (some type)
        exact readsText.congr fun _ => (if_neg blank).symm

namespace Slot

def denoteField (slot : Slot) (names : Names) : Except Problem Model.Field := do
  let type ← denoteText slot.type names
  pure { name := slot.name, type }

theorem denoteField_eq_ok {slot : Slot} {names : Names} {field : Model.Field} :
    slot.denoteField names = .ok field ↔
      ∃ type, denoteText slot.type names = .ok type ∧ field = { name := slot.name, type } := by
  simp only [denoteField, Results.bind_eq_ok, Results.pure_eq_ok]

theorem toField_reads (slot : Slot) : Reads slot.toField slot.denoteField :=
  (resolveText_reads slot.type).bind fun _ => Reads.pure _

def denoteArgument (slot : Slot) (names : Names) : Except Problem Model.Argument := do
  let type ← denoteText slot.type names
  pure { name := slot.name, type }

theorem denoteArgument_eq_ok {slot : Slot} {names : Names} {argument : Model.Argument} :
    slot.denoteArgument names = .ok argument ↔
      ∃ type, denoteText slot.type names = .ok type ∧ argument = { name := slot.name, type } := by
  simp only [denoteArgument, Results.bind_eq_ok, Results.pure_eq_ok]

theorem toArgument_reads (slot : Slot) : Reads slot.toArgument slot.denoteArgument :=
  (resolveText_reads slot.type).bind fun _ => Reads.pure _

end Slot

namespace Variant

def denote (variant : Variant) (names : Names) : Except Problem Model.Variant := do
  let fields ← variant.fields.mapM (Slot.denoteField · names)
  pure { name := variant.name, fields }

theorem denote_eq_ok {item : Variant} {names : Names} {variant : Model.Variant} :
    item.denote names = .ok variant ↔
      ∃ fields, item.fields.mapM (Slot.denoteField · names) = .ok fields ∧
        variant = { name := item.name, fields } := by
  simp only [denote, Results.bind_eq_ok, Results.pure_eq_ok]

theorem convert_reads (variant : Variant) : Reads variant.convert variant.denote :=
  (Reads.each Slot.toField_reads _).bind fun _ => Reads.pure _

end Variant

namespace Record

def denote (item : Record) (names : Names) : Except Problem Model.Record := do
  let fields ← item.fields.mapM (Slot.denoteField · names)
  pure { name := item.name, fields }

theorem denote_eq_ok {item : Record} {names : Names} {record : Model.Record} :
    item.denote names = .ok record ↔
      ∃ fields, item.fields.mapM (Slot.denoteField · names) = .ok fields ∧
        record = { name := item.name, fields } := by
  simp only [denote, Results.bind_eq_ok, Results.pure_eq_ok]

theorem convert_reads (item : Record) : Reads item.convert item.denote :=
  (Reads.each Slot.toField_reads _).bind fun _ => Reads.pure _

end Record

namespace Enum

def denote (item : Enum) (names : Names) : Except Problem Model.Union := do
  let variants ← item.variants.mapM (Variant.denote · names)
  pure ⟨item.name, variants⟩

theorem denote_eq_ok {item : Enum} {names : Names} {union : Model.Union} :
    item.denote names = .ok union ↔
      ∃ variants, item.variants.mapM (Variant.denote · names) = .ok variants ∧
        union = ⟨item.name, variants⟩ := by
  simp only [denote, Results.bind_eq_ok, Results.pure_eq_ok]

theorem convert_reads (item : Enum) : Reads item.convert item.denote :=
  (Reads.each Variant.convert_reads _).bind fun _ => Reads.pure _

end Enum

namespace Error

/-- The types in the variants of a flat error are not even read. -/
def denote (item : Error) (names : Names) : Except Problem Model.Union :=
  if item.flat then
    pure ⟨item.name, item.variants.map fun variant => { name := variant.name }⟩
  else do
    let variants ← item.variants.mapM (Variant.denote · names)
    pure ⟨item.name, variants⟩

theorem denote_eq_ok {item : Error} {names : Names} {union : Model.Union} :
    item.denote names = .ok union ↔
      (item.flat = true ∧
        union = ⟨item.name, item.variants.map fun variant => { name := variant.name }⟩) ∨
      (item.flat = false ∧
        ∃ variants, item.variants.mapM (Variant.denote · names) = .ok variants ∧
          union = ⟨item.name, variants⟩) := by
  cases flat : item.flat <;> simp [denote, flat, Results.map_eq_ok, Results.pure_eq_ok]

theorem convert_reads (item : Error) : Reads item.convert item.denote := by
  unfold convert denote
  split
  · exact Reads.pure _
  · exact (Reads.each Variant.convert_reads _).bind fun _ => Reads.pure _

end Error

namespace Function

def denote (item : Function) (names : Names) : Except Problem Model.Function := do
  let arguments ← item.inputs.mapM (Slot.denoteArgument · names)
  let result ← denoteOutput item.output names
  pure { name := item.name, arguments, result, attributes := throwsAttributes item.throws }

theorem denote_eq_ok {item : Function} {names : Names} {function : Model.Function} :
    item.denote names = .ok function ↔
      ∃ arguments, item.inputs.mapM (Slot.denoteArgument · names) = .ok arguments ∧
        ∃ result, denoteOutput item.output names = .ok result ∧
          function = {
            name := item.name
            arguments
            result
            attributes := throwsAttributes item.throws } := by
  simp only [denote, Results.bind_eq_ok, Results.pure_eq_ok]

theorem convert_reads (item : Function) : Reads item.convert item.denote :=
  (Reads.each Slot.toArgument_reads _).bind fun _ =>
    (resolveOutput_reads item.output).bind fun _ => Reads.pure _

end Function

namespace Constructor

def denote (item : Constructor) (names : Names) : Except Problem Model.Constructor := do
  let arguments ← item.inputs.mapM (Slot.denoteArgument · names)
  pure { name := item.name, arguments, attributes := throwsAttributes item.throws }

theorem denote_eq_ok {item : Constructor} {names : Names} {constructor : Model.Constructor} :
    item.denote names = .ok constructor ↔
      ∃ arguments, item.inputs.mapM (Slot.denoteArgument · names) = .ok arguments ∧
        constructor = {
          name := item.name
          arguments
          attributes := throwsAttributes item.throws } := by
  simp only [denote, Results.bind_eq_ok, Results.pure_eq_ok]

theorem convert_reads (item : Constructor) : Reads item.convert item.denote :=
  (Reads.each Slot.toArgument_reads _).bind fun _ => Reads.pure _

end Constructor

namespace Method

def denote (owner : String) (item : Method) (names : Names) : Except Problem Model.Method := do
  let arguments ← item.inputs.mapM (Slot.denoteArgument · names)
  let result ← denoteOutput item.output names
  pure {
    name := item.name
    owner
    arguments
    result
    attributes := throwsAttributes item.throws }

theorem denote_eq_ok {item : Method} {owner : String} {names : Names} {method : Model.Method} :
    item.denote owner names = .ok method ↔
      ∃ arguments, item.inputs.mapM (Slot.denoteArgument · names) = .ok arguments ∧
        ∃ result, denoteOutput item.output names = .ok result ∧
          method = {
            name := item.name
            owner
            arguments
            result
            attributes := throwsAttributes item.throws } := by
  simp only [denote, Results.bind_eq_ok, Results.pure_eq_ok]

theorem convert_reads (owner : String) (item : Method) :
    Reads (item.convert owner) (item.denote owner) :=
  (Reads.each Slot.toArgument_reads _).bind fun _ =>
    (resolveOutput_reads item.output).bind fun _ => Reads.pure _

end Method

end NativeBoundary.Metadata
