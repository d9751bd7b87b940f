import Mathlib.Data.List.Nodup
import NativeBoundary.Proofs.Action.Completion
import NativeBoundary.Proofs.Build.Addition

/-!
# Entries that declarations take

The namespace is given once, and so is every name in a list of declarations.  An update enters the
entries it declares, and it is completed exactly when what it declares can be read and there is room
for its entries: none of them is taken, and no function is named like a type.  `Enters` says this of
one update; it adds up over sequences and lists of updates.
-/

namespace NativeBoundary

/-- What can be given once only. -/
inductive Entry where
  | space
  | declared (kind : DeclarationKind) (name : String)
  deriving DecidableEq

namespace Interface

open NativeBoundary.Action

variable {before middle after : Interface} {value : Unit}

/-- What is taken in an interface. -/
def entries (interface : Interface) : List Entry :=
  (interface.space.map fun _ => Entry.space).toList ++
    interface.records.map (fun record => .declared .record record.name) ++
    interface.enums.map (fun union => .declared .enum union.name) ++
    interface.errors.map (fun union => .declared .error union.name) ++
    interface.callbacks.map (fun callback => .declared .callbackInterface callback.name) ++
    interface.objects.map (fun object => .declared .object object.name) ++
    interface.functions.map (fun function => .declared .function function.name)

/-- None of the entries is taken or occurs twice, and no function among them is named like a
type. -/
structure Room (entries : List Entry) (interface : Interface) : Prop where
  distinct : (interface.entries ++ entries).Nodup
  unbound : ∀ name, .declared .function name ∈ entries → interface.names name = none

/-- The entries were made, and neither the bindings nor what labels the interface changed, unless
the namespace is among the entries. -/
structure Grown (entries : List Entry) (before after : Interface) : Prop where
  bindings : after.registry.bindings = before.registry.bindings
  version : after.version = before.version
  space : .space ∉ entries → after.space = before.space
  finalized : after.finalized = before.finalized
  entries_perm : after.entries.Perm (before.entries ++ entries)

namespace Grown

variable {first second : List Entry}

theorem refl (interface : Interface) : Grown [] interface interface :=
  ⟨rfl, rfl, fun _ => rfl, rfl, by rw [List.append_nil]⟩

theorem trans (left : Grown first before middle) (right : Grown second middle after) :
    Grown (first ++ second) before after where
  bindings := right.bindings.trans left.bindings
  version := right.version.trans left.version
  space absent := by
    rw [List.mem_append, not_or] at absent
    exact (right.space absent.2).trans (left.space absent.1)
  finalized := right.finalized.trans left.finalized
  entries_perm := by
    rw [← List.append_assoc]
    exact right.entries_perm.trans (left.entries_perm.append_right second)

theorem names_eq (grown : Grown first before after) : after.names = before.names :=
  Registry.names_eq_of_bindings grown.bindings

theorem mem_iff (grown : Grown first before after) {entry : Entry} :
    entry ∈ after.entries ↔ entry ∈ before.entries ∨ entry ∈ first := by
  rw [grown.entries_perm.mem_iff, List.mem_append]

theorem distinct (grown : Grown first before after) (room : Room first before) :
    after.entries.Nodup :=
  grown.entries_perm.nodup_iff.mpr room.distinct

end Grown

theorem SameBindings.entries_eq (same : SameBindings before after) :
    after.entries = before.entries := by
  obtain ⟨registry, -, rfl⟩ := same
  rfl

theorem SameBindings.grown (same : SameBindings before after) : Grown [] before after := by
  obtain ⟨registry, bindings, rfl⟩ := same
  exact ⟨bindings, rfl, fun _ => rfl, rfl, by rw [List.append_nil]; rfl⟩

namespace Room

variable {first second : List Entry}

theorem left (room : Room (first ++ second) before) : Room first before where
  distinct := by
    have distinct := room.distinct
    rw [← List.append_assoc] at distinct
    exact (List.nodup_append.mp distinct).1
  unbound name member := room.unbound name (List.mem_append_left second member)

/-- Room for two groups of entries is room for the first, and for the second once the first is
in. -/
theorem append_iff (grown : Grown first before middle) :
    Room (first ++ second) before ↔ Room first before ∧ Room second middle := by
  have distinctIff : (middle.entries ++ second).Nodup ↔
      (before.entries ++ (first ++ second)).Nodup := by
    rw [← List.append_assoc]
    exact (grown.entries_perm.append_right second).nodup_iff
  constructor
  · intro room
    refine ⟨room.left, distinctIff.mpr room.distinct, ?_⟩
    intro name member
    rw [grown.names_eq]
    exact room.unbound name (List.mem_append_right first member)
  · rintro ⟨roomFirst, roomSecond⟩
    refine ⟨distinctIff.mp roomSecond.distinct, ?_⟩
    intro name member
    rcases List.mem_append.mp member with inFirst | inSecond
    · exact roomFirst.unbound name inFirst
    · rw [← grown.names_eq]
      exact roomSecond.unbound name inSecond

/-- Room does not depend on the order of what is taken and of what is to be entered. -/
theorem of_perm {other : Interface} (room : Room first before) (same : first.Perm second)
    (taken : before.entries.Perm other.entries) (names : before.names = other.names) :
    Room second other where
  distinct := (taken.append same).nodup_iff.mp room.distinct
  unbound name member := by
    rw [← names]
    exact room.unbound name (same.mem_iff.mpr member)

theorem nil (distinct : before.entries.Nodup) : Room [] before where
  distinct := by rwa [List.append_nil]
  unbound := by simp

/-- A single entry has room where it is not taken, unless it is a function named like a type. -/
theorem singleton_iff {entry : Entry} (distinct : before.entries.Nodup) :
    Room [entry] before ↔ entry ∉ before.entries ∧
      ∀ name, entry = .declared .function name → before.names name = none := by
  constructor
  · intro room
    refine ⟨?_, fun name same => room.unbound name (by simp [same])⟩
    intro member
    exact (List.nodup_append.mp room.distinct).2.2 entry member entry (by simp) rfl
  · rintro ⟨fresh, unbound⟩
    refine ⟨List.nodup_append.mpr ⟨distinct, List.nodup_singleton entry, ?_⟩, ?_⟩
    · rintro other member last inside rfl
      rw [List.mem_singleton.mp inside] at member
      exact fresh member
    · intro name member
      exact unbound name (List.mem_singleton.mp member).symm

end Room

/-! ## Updates that enter -/

/-- On an open interface an update is completed exactly if it can be read and has room. -/
def Admits (action : Action Interface Unit) (readable : Names → Prop) (entries : List Entry) :
    Prop :=
  ∀ ⦃before : Interface⦄, before.finalized = false → before.entries.Nodup →
    (action.Completes before ↔ readable before.names ∧ Room entries before)

/-- An update that is admitted with its entries, and then makes them. -/
structure Enters (action : Action Interface Unit) (readable : Names → Prop)
    (entries : List Entry) : Prop where
  admits : Admits action readable entries
  grown : ∀ {before after : Interface} {value : Unit},
    action.Yields before value after → Grown entries before after

namespace Enters

variable {action : Action Interface Unit} {readable other : Names → Prop}
  {first second : List Entry}

theorem congr (enters : Enters action readable first)
    (same : ∀ names, readable names ↔ other names) :
    Enters action other first where
  admits _ isOpen distinct := by
    rw [enters.admits isOpen distinct, same]
  grown := enters.grown

theorem pure : Enters (Pure.pure ()) (fun _ => True) [] where
  admits _ _ distinct := by simp [Room.nil distinct]
  grown ran := by
    obtain ⟨-, rfl⟩ := yields_pure.mp ran
    exact Grown.refl _

/-- What comes behind an update is admitted where there is room for the entries of both. -/
theorem bind_admits {next : Action Interface Unit} (enters : Enters action readable first)
    (admits : Admits next other second) :
    Admits (action >>= fun _ => next) (fun names => readable names ∧ other names)
      (first ++ second) := by
  intro before isOpen distinct
  rw [completes_bind_unit]
  constructor
  · rintro ⟨middle, ran, rest⟩
    have grown := enters.grown ran
    obtain ⟨read, room⟩ := (enters.admits isOpen distinct).mp ran.completes
    obtain ⟨readNext, roomNext⟩ := (admits (grown.finalized.trans isOpen)
      (grown.distinct room)).mp rest
    rw [grown.names_eq] at readNext
    exact ⟨⟨read, readNext⟩, (Room.append_iff grown).mpr ⟨room, roomNext⟩⟩
  · rintro ⟨⟨read, readNext⟩, room⟩
    have roomFirst := room.left
    obtain ⟨_, middle, ran⟩ := (enters.admits isOpen distinct).mpr ⟨read, roomFirst⟩
    have grown := enters.grown ran
    refine ⟨middle, ran, (admits (grown.finalized.trans isOpen)
      (grown.distinct roomFirst)).mpr ⟨?_, ((Room.append_iff grown).mp room).2⟩⟩
    rw [grown.names_eq]
    exact readNext

theorem bind {next : Action Interface Unit} (enters : Enters action readable first)
    (entersNext : Enters next other second) :
    Enters (action >>= fun _ => next) (fun names => readable names ∧ other names)
      (first ++ second) where
  admits := enters.bind_admits entersNext.admits
  grown ran := by
    obtain ⟨middle, ranFirst, rest⟩ := yields_bind_unit.mp ran
    exact (enters.grown ranFirst).trans (entersNext.grown rest)

/-- Updates one after the other enter what each of them enters. -/
theorem forAll {α : Type} {step : α → Action Interface Unit} {each : α → Names → Prop}
    {entriesOf : α → List Entry} (enters : ∀ item, Enters (step item) (each item) (entriesOf item))
    (items : List α) :
    Enters (Action.forAll step items) (fun names => ∀ item ∈ items, each item names)
      (items.flatMap entriesOf) := by
  induction items with
  | nil => exact pure.congr fun names => by simp
  | cons item rest ih =>
      rw [List.flatMap_cons]
      exact ((enters item).bind ih).congr fun names => by simp

/-- Updates with one entry each enter these entries. -/
theorem forAllOne {α : Type} {step : α → Action Interface Unit} {each : α → Names → Prop}
    {entryOf : α → Entry} (enters : ∀ item, Enters (step item) (each item) [entryOf item])
    (items : List α) :
    Enters (Action.forAll step items) (fun names => ∀ item ∈ items, each item names)
      (items.map entryOf) := by
  rw [List.map_eq_flatMap]
  exact forAll enters items

/-- A check in front of an update. -/
theorem lift {α : Type} {result : Except Problem α} {next : α → Action Interface Unit}
    (each : α → Names → Prop)
    (enters : ∀ given, result = .ok given → Enters (next given) (each given) first) :
    Enters (Action.lift result >>= next)
      (fun names => ∃ given, result = .ok given ∧ each given names) first where
  admits _ isOpen distinct := by
    rw [completes_lift_bind]
    constructor
    · rintro ⟨given, succeeded, completes⟩
      obtain ⟨read, room⟩ := ((enters given succeeded).admits isOpen distinct).mp completes
      exact ⟨⟨given, succeeded, read⟩, room⟩
    · rintro ⟨⟨given, succeeded, read⟩, room⟩
      exact ⟨given, succeeded,
        ((enters given succeeded).admits isOpen distinct).mpr ⟨read, room⟩⟩
  grown ran := by
    obtain ⟨given, succeeded, rest⟩ := yields_lift_bind.mp ran
    exact (enters given succeeded).grown rest

/-- A reading on the registry in front of the addition of what was read. -/
theorem reading {α : Type} {read : Action Registry α} {denoted : Names → Except Problem α}
    {add : α → Action Interface Unit} (reads : Registry.Reads read denoted)
    (enters : ∀ {names item}, denoted names = .ok item → Enters (add item) (fun _ => True) first) :
    Enters (onRegistry read >>= add) (fun names => ∃ item, denoted names = .ok item) first where
  admits before isOpen distinct := by
    rw [completes_bind]
    constructor
    · rintro ⟨item, middle, ran, rest⟩
      obtain ⟨succeeded, same⟩ := onRegistry_yields_of_reads reads ran
      have grown := same.grown
      obtain ⟨-, room⟩ := ((enters succeeded).admits (grown.finalized.trans isOpen)
        (by rwa [same.entries_eq])).mp rest
      refine ⟨⟨item, succeeded⟩, ?_, ?_⟩
      · rw [← same.entries_eq]
        exact room.distinct
      · rw [← same.names_eq]
        exact room.unbound
    · rintro ⟨⟨item, succeeded⟩, room⟩
      have completes : (onRegistry read).Completes before := by
        rw [onRegistry, completes_onPart, completes_iff_result]
        exact ⟨item, (reads.result _).trans succeeded⟩
      obtain ⟨found, middle, ran⟩ := completes
      obtain ⟨again, same⟩ := onRegistry_yields_of_reads reads ran
      refine ⟨found, middle, ran, ((enters again).admits (same.grown.finalized.trans isOpen)
        (by rwa [same.entries_eq])).mpr ⟨trivial, ?_, ?_⟩⟩
      · rw [same.entries_eq]
        exact room.distinct
      · rw [same.names_eq]
        exact room.unbound
  grown ran := by
    obtain ⟨item, middle, readRan, rest⟩ := yields_bind.mp ran
    obtain ⟨succeeded, same⟩ := onRegistry_yields_of_reads reads readRan
    exact same.grown.trans ((enters succeeded).grown rest)

end Enters

/-! ## Single additions -/

/-- An addition to a list enters one name, under the kind of the list. -/
theorem enters_of_addTo {α : Type} {kind : DeclarationKind} {nameOf : α → String}
    {declared : Interface → List α} {update : List α → Interface → Interface} {item : α}
    (notFunction : kind ≠ .function)
    (taken : ∀ {interface : Interface} {name : String},
      Entry.declared kind name ∈ interface.entries ↔ name ∈ (declared interface).map nameOf)
    (grown : ∀ interface,
      Grown [.declared kind (nameOf item)] interface
        (update (declared interface ++ [item]) interface)) :
    Enters (addTo kind nameOf declared update item) (fun _ => True)
      [.declared kind (nameOf item)] where
  admits before isOpen distinct := by
    rw [Room.singleton_iff distinct, taken]
    constructor
    · rintro ⟨_, after, ran⟩
      obtain ⟨-, fresh, -⟩ := addTo_yields.mp ran
      refine ⟨trivial, fresh, ?_⟩
      rintro name same
      exact absurd (Entry.declared.inj same).1 notFunction
    · rintro ⟨-, fresh, -⟩
      exact ⟨(), _, addTo_yields.mpr ⟨isOpen, fresh, rfl⟩⟩
  grown ran := by
    obtain ⟨-, -, rfl⟩ := addTo_yields.mp ran
    exact grown _

section Additions

open Model

theorem mem_entries {entry : Entry} {interface : Interface} :
    entry ∈ interface.entries ↔
      match entry with
      | .space => interface.space.isSome = true
      | .declared .record name => name ∈ interface.records.map Record.name
      | .declared .enum name => name ∈ interface.enums.map Union.name
      | .declared .error name => name ∈ interface.errors.map Union.name
      | .declared .callbackInterface name =>
          name ∈ interface.callbacks.map CallbackInterface.name
      | .declared .object name => name ∈ interface.objects.map Object.name
      | .declared .function name => name ∈ interface.functions.map Function.name := by
  rcases entry with _ | ⟨kind, name⟩
  · cases given : interface.space <;> simp [entries, given]
  · cases kind <;> simp [entries]

theorem enters_addRecord (record : Record) :
    Enters (addRecord record) (fun _ => True) [.declared .record record.name] :=
  enters_of_addTo (by decide) mem_entries fun _ =>
    ⟨rfl, rfl, fun _ => rfl, rfl, List.perm_iff_count.mpr fun _ => by
      simp only [entries, List.map_append, List.map_cons, List.map_nil, List.count_append]
      omega⟩

theorem enters_addEnum (union : Union) :
    Enters (addEnum union) (fun _ => True) [.declared .enum union.name] :=
  enters_of_addTo (by decide) mem_entries fun _ =>
    ⟨rfl, rfl, fun _ => rfl, rfl, List.perm_iff_count.mpr fun _ => by
      simp only [entries, List.map_append, List.map_cons, List.map_nil, List.count_append]
      omega⟩

theorem enters_addError (union : Union) :
    Enters (addError union) (fun _ => True) [.declared .error union.name] :=
  enters_of_addTo (by decide) mem_entries fun _ =>
    ⟨rfl, rfl, fun _ => rfl, rfl, List.perm_iff_count.mpr fun _ => by
      simp only [entries, List.map_append, List.map_cons, List.map_nil, List.count_append]
      omega⟩

theorem enters_addCallback (callback : CallbackInterface) :
    Enters (addCallback callback) (fun _ => True)
      [.declared .callbackInterface callback.name] :=
  enters_of_addTo (by decide) mem_entries fun _ =>
    ⟨rfl, rfl, fun _ => rfl, rfl, List.perm_iff_count.mpr fun _ => by
      simp only [entries, List.map_append, List.map_cons, List.map_nil, List.count_append]
      omega⟩

theorem enters_addObject (object : Object) :
    Enters (addObject object) (fun _ => True) [.declared .object object.name] :=
  enters_of_addTo (by decide) mem_entries fun _ =>
    ⟨rfl, rfl, fun _ => rfl, rfl, List.perm_iff_count.mpr fun _ => by
      simp only [entries, List.map_append, List.map_cons, List.map_nil, List.count_append]
      omega⟩

theorem enters_addFunction (function : Function) (location : Option Location) :
    Enters (addFunction function location) (fun _ => True)
      [.declared .function function.name] where
  admits before isOpen distinct := by
    rw [Room.singleton_iff distinct, mem_entries]
    constructor
    · rintro ⟨_, after, ran⟩
      obtain ⟨-, fresh, unbound, -⟩ := addFunction_yields.mp ran
      refine ⟨trivial, fresh, ?_⟩
      intro name same
      rw [← (Entry.declared.inj same).2]
      exact unbound
    · rintro ⟨-, fresh, unbound⟩
      exact ⟨(), _, addFunction_yields.mpr ⟨isOpen, fresh, unbound function.name rfl, rfl⟩⟩
  grown ran := by
    obtain ⟨-, -, -, rfl⟩ := addFunction_yields.mp ran
    refine ⟨rfl, rfl, fun _ => rfl, rfl, ?_⟩
    simp only [entries, List.map_append, List.map_cons, List.map_nil, List.append_assoc]
    exact List.Perm.refl _

theorem enters_addSpace (name : Tag) (location : Option Location) :
    Enters (addSpace name location) (fun _ => True) [.space] where
  admits before isOpen distinct := by
    rw [Room.singleton_iff distinct, mem_entries]
    constructor
    · rintro ⟨_, after, ran⟩
      obtain ⟨-, free, -⟩ := addSpace_yields.mp ran
      exact ⟨trivial, by simp [free], fun _ same => nomatch same⟩
    · rintro ⟨-, free, -⟩
      rw [Option.not_isSome_iff_eq_none] at free
      exact ⟨(), _, addSpace_yields.mpr ⟨isOpen, free, rfl⟩⟩
  grown {before _ _} ran := by
    obtain ⟨-, free, rfl⟩ := addSpace_yields.mp ran
    refine ⟨rfl, rfl, fun absent => absurd List.mem_cons_self absent, rfl,
      List.perm_iff_count.mpr fun _ => ?_⟩
    simp only [entries, free, Option.map_some, Option.map_none, Option.toList_some,
      Option.toList_none, List.count_append, List.count_nil]
    omega

end Additions

end Interface

end NativeBoundary
