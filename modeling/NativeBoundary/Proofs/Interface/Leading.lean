import NativeBoundary.Proofs.Action.Leading
import NativeBoundary.Proofs.Document.Denotation
import NativeBoundary.Proofs.Metadata.Denotation
import NativeBoundary.Proofs.Registry.Gathering

/-!
# Where declaring and merging lead

A document is declared and a metadata group is merged by readings on the registry and by updates of
the interface, one after the other.  What each of these respects, the whole respects, and also any
part of it that was done before something failed.  The order of the known types is an example.
-/

namespace NativeBoundary.Interface

open NativeBoundary.Action
open Metadata (Group)

/-- A relation that holds between the interfaces before and after each reading and each update. -/
structure Steady (relation : Interface → Interface → Prop) : Prop where
  reading : ∀ {α : Type} {action : Action Registry α} {denoted : Names → Except Problem α},
    Registry.Reads action denoted → Leads relation (onRegistry action)
  space : ∀ name location, Leads relation (addSpace name location)
  record : ∀ item, Leads relation (addRecord item)
  enum : ∀ item, Leads relation (addEnum item)
  error : ∀ item, Leads relation (addError item)
  callback : ∀ item, Leads relation (addCallback item)
  object : ∀ item, Leads relation (addObject item)
  function : ∀ item location, Leads relation (addFunction item location)
  replacement : ∀ item, Leads relation (replaceObject item)

namespace Steady

variable {relation : Interface → Interface → Prop} [IsPreorder Interface relation]
  (steady : Steady relation)

include steady

theorem leads_reading {α : Type} {action : Action Registry α} {denoted : Names → Except Problem α}
    {add : α → Action Interface Unit} (reads : Registry.Reads action denoted)
    (adds : ∀ item, Leads relation (add item)) : Leads relation (onRegistry action >>= add) :=
  (steady.reading reads).bind adds

theorem leads_addOperation (operation : Document.Operation) :
    Leads relation (addOperation operation) :=
  steady.leads_reading operation.toFunction_reads fun _ => steady.function _ _

theorem leads_declareOne (declaration : Document.Declaration) :
    Leads relation (declareOne declaration) := by
  unfold declareOne
  cases shape : declaration.body with
  | space functions =>
      exact (leads_lift _).bind fun _ => (steady.space _ _).bind fun _ =>
        Leads.forAll steady.leads_addOperation functions
  | dictionary members =>
      exact steady.leads_reading (declaration.toRecord_reads members) steady.record
  | enum values =>
      refine (leads_lift _).bind fun attributes => (leads_lift _).bind fun _ => ?_
      simp only
      split
      · exact steady.error _
      · exact steady.enum _
  | interface constructors operations =>
      refine (leads_lift _).bind fun attributes => ?_
      split
      · exact steady.leads_reading (declaration.toVariants_reads constructors operations)
          fun _ => steady.enum _
      · split
        · exact steady.leads_reading (declaration.toVariants_reads constructors operations)
            fun _ => steady.error _
        · exact steady.leads_reading
            (declaration.toObject_reads attributes constructors operations) steady.object
  | callbackInterface operations =>
      exact steady.leads_reading (declaration.toCallback_reads operations) steady.callback
  | typedef typeName => exact leads_pure ()

theorem leads_declare (declarations : List Document.Declaration) :
    Leads relation (declare declarations) := by
  unfold declare
  exact Leads.forAll steady.leads_declareOne declarations

theorem leads_mergeObject (item : Metadata.Object) : Leads relation (mergeObject item) := by
  refine leads_get.bind fun interface => ?_
  split
  · exact steady.object _
  · exact leads_pure ()

theorem leads_joining {α : Type} (kind : MemberKind) (owner name : String)
    {action : Model.Object → Action Registry α} {denoted : Model.Object → Names → Except Problem α}
    (reads : ∀ object, Registry.Reads (action object) (denoted object))
    (put : Model.Object → α → Model.Object) :
    Leads relation (owningObject owner name >>= fun object =>
      ensureNewMember kind name object >>= fun _ =>
        onRegistry (action object) >>= fun read => replaceObject (put object read)) := by
  refine Leads.bind ?_ fun object => (leads_ensure _ _).bind fun _ =>
    steady.leads_reading (reads object) fun _ => steady.replacement _
  refine leads_get.bind fun interface => ?_
  split
  · exact leads_pure _
  · exact leads_fail _

theorem leads_populate (group : Group) : Leads relation (populate group) := by
  have records (item : Metadata.Record) : Leads relation (mergeRecord item) :=
    steady.leads_reading item.convert_reads steady.record
  have enums (item : Metadata.Enum) : Leads relation (mergeEnum item) :=
    steady.leads_reading item.convert_reads steady.enum
  have errors (item : Metadata.Error) : Leads relation (mergeError item) :=
    steady.leads_reading item.convert_reads steady.error
  have functions (item : Metadata.Function) : Leads relation (mergeFunction item) :=
    steady.leads_reading item.convert_reads fun _ => steady.function _ _
  have constructors (item : Metadata.Constructor) : Leads relation (mergeConstructor item) :=
    steady.leads_joining .constructor item.owner item.name (fun _ => item.convert_reads)
      fun object read => { object with constructors := object.constructors ++ [read] }
  have methods (item : Metadata.Method) : Leads relation (mergeMethod item) :=
    steady.leads_joining .method item.owner item.name (fun object => item.convert_reads object.name)
      fun object read => { object with methods := object.methods ++ [read] }
  unfold populate
  refine (Leads.forAll records _).bind fun _ => (Leads.forAll enums _).bind fun _ =>
    (Leads.forAll errors _).bind fun _ => (Leads.forAll steady.leads_mergeObject _).bind fun _ =>
    (Leads.forAll functions _).bind fun _ => (Leads.forAll constructors _).bind fun _ =>
    (Leads.forAll methods _).bind fun _ => ?_
  split
  · exact leads_note _
  · exact leads_pure ()

end Steady

theorem quiet_ensureOpen : Quiet ensureOpen := by
  intro before
  unfold ensureOpen
  rw [bind_run_ok (rfl : Action.get before = ⟨.ok before, before, []⟩)]
  exact ensure_state _ _ before

/-! ## Known types -/

/-- The known types are there in their order, perhaps with others behind them. -/
def Gathers (before after : Interface) : Prop := before.registry.Gathers after.registry

instance : IsPreorder Interface Gathers where
  refl interface := Registry.Gathers.refl interface.registry
  trans _ _ _ := Registry.Gathers.trans

theorem gathers_of_registry_eq {before after : Interface}
    (same : after.registry = before.registry) : Gathers before after := by
  rw [Gathers, same]
  exact Registry.Gathers.refl _

theorem gathers_ensureOpen : Leads Gathers ensureOpen :=
  leads_of_state_eq quiet_ensureOpen

theorem gathers_addTo {α : Type} {kind : DeclarationKind} {nameOf : α → String}
    {declared : Interface → List α} {update : List α → Interface → Interface}
    (keeps : ∀ items interface, (update items interface).registry = interface.registry) (item : α) :
    Leads Gathers (addTo kind nameOf declared update item) :=
  gathers_ensureOpen.bind fun _ => leads_get_bind fun _ =>
    leads_ensure_bind (gathers_of_registry_eq (keeps _ _))

/-- Readings put types behind the known ones, and updates leave the registry as it is. -/
theorem steady_gathers : Steady Gathers where
  reading reads before := reads.gathers before.registry
  space name location := by
    refine gathers_ensureOpen.bind fun _ => leads_get_bind fun before => ?_
    cases before.space with
    | none => exact gathers_of_registry_eq rfl
    | some existing => exact gathers_of_registry_eq rfl
  record := gathers_addTo fun _ _ => rfl
  enum := gathers_addTo fun _ _ => rfl
  error := gathers_addTo fun _ _ => rfl
  callback := gathers_addTo fun _ _ => rfl
  object := gathers_addTo fun _ _ => rfl
  function item location :=
    gathers_ensureOpen.bind fun _ => leads_get_bind fun _ =>
      leads_ensure_bind (leads_ensure_bind (gathers_of_registry_eq rfl))
  replacement item := by
    refine gathers_ensureOpen.bind fun _ => leads_get_bind fun before => ?_
    cases replaceFirst item before.objects with
    | none => exact gathers_of_registry_eq rfl
    | some objects => exact gathers_of_registry_eq rfl

end NativeBoundary.Interface
