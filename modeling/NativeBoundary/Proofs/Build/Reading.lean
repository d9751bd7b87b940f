import NativeBoundary.Proofs.Build.Compatibility

/-!
# Declarations as they were read

In a build that succeeds every declaration of the document was read, and what was read stands in the
lists of the interface; an object stands there with the members that metadata gave to it.
-/

namespace NativeBoundary

namespace Document.Declaration

/-- What was read of a declaration, and the lists in which it stands. -/
inductive Reading (declaration : Declaration) (names : Names) : Contents → Prop where
  | space {functions : List Operation} {read : List Model.Function}
      (shape : declaration.body = .space functions)
      (given : functions.mapM (Operation.denoteFunction · names) = .ok read) :
      Reading declaration names { functions := read.map .ok }
  | record {members : List Member} {record : Model.Record}
      (shape : declaration.body = .dictionary members)
      (given : declaration.denoteRecord members names = .ok record) :
      Reading declaration names { records := [.ok record] }
  | words {values : List String} {union : Model.Union} {contents : Contents}
      (shape : declaration.body = .enum values) (given : declaration.denoteWords values = .ok union)
      (listed : contents = { enums := [.ok union] } ∨ contents = { errors := [.ok union] }) :
      Reading declaration names contents
  | union {constructors : List Constructor} {operations : List Operation} {union : Model.Union}
      {contents : Contents} (shape : declaration.body = .interface constructors operations)
      (isOther : declaration.isObject = false)
      (given : declaration.denoteUnion constructors operations names = .ok union)
      (listed : contents = { enums := [.ok union] } ∨ contents = { errors := [.ok union] }) :
      Reading declaration names contents
  | object {constructors : List Constructor} {operations : List Operation} {object : Model.Object}
      (shape : declaration.body = .interface constructors operations)
      (isObject : declaration.isObject = true)
      (given : declaration.denotePlain constructors operations names = .ok object) :
      Reading declaration names { objects := [.ok object] }
  | callback {operations : List Operation} {callback : Model.CallbackInterface}
      (shape : declaration.body = .callbackInterface operations)
      (given : declaration.denoteCallback operations names = .ok callback) :
      Reading declaration names { callbacks := [.ok callback] }
  | typedef {typeName : String} (shape : declaration.body = .typedef typeName) :
      Reading declaration names {}

theorem reading_of_whole {declaration : Declaration} {names : Names}
    (whole : (declaration.contents names).Whole) :
    declaration.Reading names (declaration.contents names) := by
  unfold contents at whole ⊢
  cases shape : declaration.body with
  | space functions =>
      simp only [shape] at whole ⊢
      obtain ⟨read, given⟩ := Results.exists_mapM_iff.mpr fun function member =>
        whole.functions _ (List.mem_map_of_mem member)
      rw [Results.mapM_eq_ok.mp given]
      exact .space shape given
  | dictionary members =>
      simp only [shape] at whole ⊢
      obtain ⟨record, given⟩ := whole.records _ (List.mem_singleton_self _)
      rw [given]
      exact .record shape given
  | enum values =>
      simp only [shape] at whole ⊢
      cases isError : declaration.marked .error with
      | true =>
          simp only [isError, if_true] at whole ⊢
          obtain ⟨union, given⟩ := whole.errors _ (List.mem_singleton_self _)
          exact .words shape given (.inr (by rw [given]))
      | false =>
          simp only [isError, Bool.false_eq_true, if_false] at whole ⊢
          obtain ⟨union, given⟩ := whole.enums _ (List.mem_singleton_self _)
          exact .words shape given (.inl (by rw [given]))
  | interface constructors operations =>
      simp only [shape] at whole ⊢
      cases isEnum : declaration.marked .enum with
      | true =>
          simp only [isEnum, if_true] at whole ⊢
          obtain ⟨union, given⟩ := whole.enums _ (List.mem_singleton_self _)
          exact .union shape (by simp [isObject, shape, isEnum]) given (.inl (by rw [given]))
      | false =>
          cases isError : declaration.marked .error with
          | true =>
              simp only [isEnum, isError, Bool.false_eq_true, if_false, if_true] at whole ⊢
              obtain ⟨union, given⟩ := whole.errors _ (List.mem_singleton_self _)
              exact .union shape (by simp [isObject, shape, isError]) given (.inr (by rw [given]))
          | false =>
              simp only [isEnum, isError, Bool.false_eq_true, if_false] at whole ⊢
              obtain ⟨object, given⟩ := whole.objects _ (List.mem_singleton_self _)
              rw [given]
              exact .object shape (by simp [isObject, shape, isEnum, isError]) given
  | callbackInterface operations =>
      simp only [shape] at whole ⊢
      obtain ⟨callback, given⟩ := whole.callbacks _ (List.mem_singleton_self _)
      rw [given]
      exact .callback shape given
  | typedef typeName => exact .typedef shape

end Document.Declaration

namespace Interface

open Document (Declaration)
open Metadata (Group Item)

theorem mem_listed_iff {α : Type} {listed : List α} {declarations : List Declaration}
    {view : Declaration → List (Except Problem α)} {behind : List (Except Problem α)}
    (same : listed.map .ok = declarations.flatMap view ++ behind) {value : α} :
    value ∈ listed ↔
      (∃ declaration ∈ declarations, .ok value ∈ view declaration) ∨ .ok value ∈ behind := by
  have injective : Function.Injective (Except.ok : α → Except Problem α) :=
    fun _ _ alike => Except.ok.inj alike
  rw [← List.mem_map_of_injective injective, same, List.mem_append, List.mem_flatMap]

/-- What was read stands in the lists of an interface, an object with the members that metadata
gives to it. -/
structure Shows (interface : Interface) (group : Group) (contents : Contents) : Prop where
  records : ∀ {record}, .ok record ∈ contents.records → record ∈ interface.records
  enums : ∀ {union}, .ok union ∈ contents.enums → union ∈ interface.enums
  errors : ∀ {union}, .ok union ∈ contents.errors → union ∈ interface.errors
  callbacks : ∀ {callback}, .ok callback ∈ contents.callbacks → callback ∈ interface.callbacks
  functions : ∀ {function}, .ok function ∈ contents.functions → function ∈ interface.functions
  objects : ∀ {object}, .ok object ∈ contents.objects →
    ∃ completed ∈ interface.objects, group.complete interface.names object = .ok completed

theorem Shows.union {interface : Interface} {group : Group} {contents : Contents}
    (shows : interface.Shows group contents) {union : Model.Union}
    (listed : contents = { enums := [.ok union] } ∨ contents = { errors := [.ok union] }) :
    union ∈ interface.enums ∨ union ∈ interface.errors := by
  rcases listed with rfl | rfl
  · exact .inl (shows.enums List.mem_cons_self)
  · exact .inr (shows.errors List.mem_cons_self)

namespace Plain

variable {declarations : List Declaration} {group : Group} {plain : Interface}

section Lists

variable (stage : Plain declarations group plain)

include stage

/-! ## Where a plain interface has its declarations from -/

theorem mem_records_iff {record : Model.Record} :
    record ∈ plain.records ↔
      (∃ declaration ∈ declarations, .ok record ∈ (declaration.contents plain.names).records) ∨
        ∃ item ∈ group.records, item.denote plain.names = .ok record :=
  (mem_listed_iff (congrArg Contents.records stage.contents)).trans
    (or_congr_right List.mem_map)

theorem mem_enums_iff {union : Model.Union} :
    union ∈ plain.enums ↔
      (∃ declaration ∈ declarations, .ok union ∈ (declaration.contents plain.names).enums) ∨
        ∃ item ∈ group.enums, item.denote plain.names = .ok union :=
  (mem_listed_iff (congrArg Contents.enums stage.contents)).trans (or_congr_right List.mem_map)

theorem mem_errors_iff {union : Model.Union} :
    union ∈ plain.errors ↔
      (∃ declaration ∈ declarations, .ok union ∈ (declaration.contents plain.names).errors) ∨
        ∃ item ∈ group.errors, item.denote plain.names = .ok union :=
  (mem_listed_iff (congrArg Contents.errors stage.contents)).trans (or_congr_right List.mem_map)

theorem mem_functions_iff {function : Model.Function} :
    function ∈ plain.functions ↔
      (∃ declaration ∈ declarations,
          .ok function ∈ (declaration.contents plain.names).functions) ∨
        ∃ item ∈ group.functions, item.denote plain.names = .ok function :=
  (mem_listed_iff (congrArg Contents.functions stage.contents)).trans
    (or_congr_right List.mem_map)

theorem mem_callbacks_iff {callback : Model.CallbackInterface} :
    callback ∈ plain.callbacks ↔ ∃ declaration ∈ declarations,
      .ok callback ∈ (declaration.contents plain.names).callbacks := by
  have same := (congrArg Contents.callbacks stage.contents).trans (List.append_nil _).symm
  exact (mem_listed_iff same).trans (or_iff_left List.not_mem_nil)

/-- An object of the document is listed with the members that metadata gives to it. -/
theorem completed_of_mem {declaration : Declaration} (member : declaration ∈ declarations)
    {object : Model.Object} (read : .ok object ∈ (declaration.contents plain.names).objects) :
    ∃ completed ∈ plain.objects, group.complete plain.names object = .ok completed := by
  have inside : .ok object ∈ plainObjects declarations group plain.names :=
    List.mem_append_left _ (List.mem_flatMap.mpr ⟨declaration, member, read⟩)
  have listed : group.complete plain.names object ∈ plain.objects.map .ok := by
    rw [show plain.objects.map Except.ok = _ from congrArg Contents.objects stage.contents]
    exact List.mem_map.mpr ⟨_, inside, rfl⟩
  obtain ⟨completed, there, same⟩ := List.mem_map.mp listed
  exact ⟨completed, there, same.symm⟩

end Lists

/-- A finished build comes of an interface that is plain, from sources that were compatible. -/
theorem of_build {document : Option Document} {items : List Item} {settings : Settings}
    {interface : Interface} (built : build document items settings = .ok interface) :
    ∃ group plain, Group.ofItems items = .ok group ∧
      Plain ((document.map Document.definitions).getD []) group plain ∧
      Compatible ((document.map Document.definitions).getD []) group ∧
      interface.registry = plain.registry ∧
      interface.declared = { plain with space := interface.space, finalized := true } := by
  obtain ⟨group, brought, grouped, brings, registry, same⟩ := brought_of_build built
  exact ⟨group, brought, grouped, plain_of_bring brings, completes_bring_iff.mp brings.completes,
    registry, same⟩

/-- A declaration of the document was read, and what was read stands in the lists. -/
theorem reading (stage : Plain declarations group plain)
    (compatible : Compatible declarations group) {declaration : Declaration}
    (member : declaration ∈ declarations) :
    ∃ contents, declaration.Reading plain.names contents ∧ plain.Shows group contents := by
  have readable := compatible.document declaration member
  rw [← stage.names_eq] at readable
  exact ⟨_, Declaration.reading_of_whole readable.whole, {
    records := fun read => stage.mem_records_iff.mpr (.inl ⟨declaration, member, read⟩)
    enums := fun read => stage.mem_enums_iff.mpr (.inl ⟨declaration, member, read⟩)
    errors := fun read => stage.mem_errors_iff.mpr (.inl ⟨declaration, member, read⟩)
    callbacks := fun read => stage.mem_callbacks_iff.mpr ⟨declaration, member, read⟩
    functions := fun read => stage.mem_functions_iff.mpr (.inl ⟨declaration, member, read⟩)
    objects := fun read => stage.completed_of_mem member read }⟩

end Plain

end Interface

end NativeBoundary
