import NativeBoundary.Proofs.Build.Joining

/-!
# Names of functions

Functions are no types, so a name that is bound to a type is not listed as a function.  Whatever
enters an interface, be it a single function, a document or a group of metadata, lists functions
under free names only and binds nothing.
-/

namespace NativeBoundary

/-- The names of the functions that a declaration lists; only a namespace lists any. -/
def Document.Declaration.functionNames (declaration : Declaration) : List String :=
  match declaration.body with
  | .space functions => functions.map Operation.name
  | _ => []

theorem Document.Declaration.function_mem_entries {declaration : Declaration} {name : String} :
    Entry.declared .function name ∈ declaration.entries ↔ name ∈ declaration.functionNames := by
  unfold entries functionNames
  cases shape : declaration.body with
  | space functions => simp
  | enum values => cases isError : declaration.marked .error <;> simp [listing?, shape, isError]
  | interface constructors operations =>
      cases isEnum : declaration.marked .enum <;> cases isError : declaration.marked .error <;>
        simp [listing?, shape, isEnum, isError]
  | _ => simp [listing?, shape]

theorem Document.function_mem_entries {declarations : List Declaration} {name : String} :
    Entry.declared .function name ∈ declarations.flatMap Declaration.entries ↔
      name ∈ declarations.flatMap Declaration.functionNames := by
  simp only [List.mem_flatMap, Declaration.function_mem_entries]

theorem Metadata.Group.function_mem_entries {group : Group} {name : String} :
    Entry.declared .function name ∈ group.entries ↔ name ∈ group.functions.map Function.name := by
  simp [entries]

namespace Interface

open NativeBoundary.Action Document Metadata

variable {before middle after : Interface} {value : Unit}

def functionNames (interface : Interface) : List String :=
  interface.functions.map Model.Function.name

theorem functionNames_declared (interface : Interface) :
    interface.declared.functionNames = interface.functionNames := by
  simp only [functionNames, declared, List.map_map]
  rfl

theorem function_mem_entries {interface : Interface} {name : String} :
    Entry.declared .function name ∈ interface.entries ↔ name ∈ interface.functionNames :=
  mem_entries

/-- Functions of these names were listed, all of them names that are free, and no name was bound on
the way. -/
structure Lists (names : List String) (before after : Interface) : Prop where
  bindings : after.registry.bindings = before.registry.bindings
  finalized : after.finalized = before.finalized
  mem_iff : ∀ {name}, name ∈ after.functionNames ↔ name ∈ before.functionNames ∨ name ∈ names
  unbound : ∀ name ∈ names, before.names name = none

namespace Lists

variable {first second : List String}

theorem names_eq (lists : Lists first before after) : after.names = before.names :=
  Registry.names_eq_of_bindings lists.bindings

theorem trans (left : Lists first before middle) (right : Lists second middle after) :
    Lists (first ++ second) before after where
  bindings := right.bindings.trans left.bindings
  finalized := right.finalized.trans left.finalized
  mem_iff := by
    intro name
    rw [right.mem_iff, left.mem_iff, List.mem_append, or_assoc]
  unbound name member := by
    rcases List.mem_append.mp member with early | late
    · exact left.unbound name early
    · rw [← left.names_eq]
      exact right.unbound name late

end Lists

/-- What an action enters into an open interface, it lists under free names. -/
theorem Enters.lists {action : Action Interface Unit} {readable : Names → Prop}
    {entries : List Entry} (enters : Enters action readable entries) {names : List String}
    (isOpen : before.finalized = false) (distinct : before.entries.Nodup)
    (same : ∀ {name}, Entry.declared .function name ∈ entries ↔ name ∈ names)
    (ran : action.Yields before () after) : Lists names before after where
  bindings := (enters.grown ran).bindings
  finalized := (enters.grown ran).finalized
  mem_iff := by
    intro name
    rw [← function_mem_entries, (enters.grown ran).mem_iff, function_mem_entries, same]
  unbound name member := by
    obtain ⟨-, room⟩ := (enters.admits isOpen distinct).mp ran.completes
    exact room.unbound name (same.mpr member)

theorem lists_of_declare {declarations : List Declaration} (isOpen : before.finalized = false)
    (distinct : before.entries.Nodup) (ran : (declare declarations).Yields before () after) :
    Lists (declarations.flatMap Declaration.functionNames) before after :=
  (enters_declare declarations).lists isOpen distinct Document.function_mem_entries ran

/-- Members that join objects are no functions, so only what stands on its own is listed. -/
theorem lists_of_populate {group : Group} (isOpen : before.finalized = false)
    (distinct : before.entries.Nodup) (ran : (populate group).Yields before () after) :
    Lists (group.functions.map Metadata.Function.name) before after := by
  obtain ⟨stood, built, stands, constructs, equips⟩ := populate_yields.mp ran
  obtain ⟨-, room⟩ := (admits_stand group isOpen distinct).mp stands.completes
  obtain ⟨made, -, grown⟩ := grown_of_stand stands
  have joined := (joined_of_forAll joins_mergeConstructor constructs).trans
    (joined_of_forAll joins_mergeMethod equips)
  refine ⟨joined.bindings.trans grown.bindings, joined.finalized.trans grown.finalized, ?_, ?_⟩
  · intro name
    rw [← function_mem_entries, mem_entries_of_populate ran, function_mem_entries,
      Group.function_mem_entries]
    simp
  · intro name member
    exact room.unbound name (Group.function_mem_entries.mpr member)

/-- No function of an interface into which both sources were brought has the name of a type. -/
theorem functions_unbound_of_bring {declarations : List Declaration} {group : Group}
    {version : Option Tag} {brought : Interface}
    (ran : (bring declarations group).Yields (empty version) () brought) :
    ∀ name ∈ brought.functionNames, brought.names name = none := by
  obtain ⟨first, registry, declared, -, -, declares, populates⟩ := bring_yields.mp ran
  obtain ⟨-, isOpen, distinct, -⟩ := declared_of_declare declares
  have distinctEmpty : ({ empty version with registry } : Interface).entries.Nodup := by
    rw [entries_empty]
    exact List.nodup_nil
  have lists := (lists_of_declare rfl distinctEmpty declares).trans
    (lists_of_populate isOpen distinct populates)
  intro name member
  rw [lists.names_eq]
  exact lists.unbound name ((lists.mem_iff.mp member).resolve_left List.not_mem_nil)

end Interface

end NativeBoundary
