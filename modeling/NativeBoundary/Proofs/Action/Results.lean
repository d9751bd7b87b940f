import Mathlib.Data.List.Forall2
import NativeBoundary.Problem

/-!
# Results of a list

Reading a list succeeds exactly when reading each of its items does, and the values then stand in
the order of the items.  What each reading keeps of its item, the list of values keeps of the list.
-/

namespace NativeBoundary.Results

variable {α β γ : Type}

theorem bind_eq_ok {ε : Type} {first : Except ε α} {next : α → Except ε β} {value : β} :
    first >>= next = .ok value ↔ ∃ given, first = .ok given ∧ next given = .ok value := by
  cases first with
  | error problem =>
      constructor
      · intro failed
        cases failed
      · rintro ⟨given, failed, _⟩
        cases failed
  | ok given =>
      constructor
      · intro succeeded
        exact ⟨given, rfl, succeeded⟩
      · rintro ⟨_, ⟨⟩, succeeded⟩
        exact succeeded

theorem pure_eq_ok {given value : α} :
    (pure given : Except Problem α) = .ok value ↔ value = given := by
  constructor
  · rintro ⟨⟩
    rfl
  · rintro rfl
    rfl

theorem map_eq_ok {first : Except Problem α} {change : α → β} {value : β} :
    change <$> first = .ok value ↔ ∃ given, first = .ok given ∧ value = change given := by
  cases first with
  | error problem =>
      constructor
      · intro failed
        cases failed
      · rintro ⟨given, failed, _⟩
        cases failed
  | ok given =>
      constructor
      · intro succeeded
        cases succeeded
        exact ⟨given, rfl, rfl⟩
      · rintro ⟨_, ⟨⟩, rfl⟩
        rfl

theorem mapM_eq_ok {ε : Type} {read : α → Except ε β} {items : List α} {values : List β} :
    items.mapM read = .ok values ↔ items.map read = values.map .ok := by
  induction items generalizing values with
  | nil =>
      constructor
      · intro succeeded
        cases succeeded
        rfl
      · intro same
        rw [List.map_eq_nil_iff.mp same.symm]
        rfl
  | cons item rest ih =>
      rw [List.mapM_cons, bind_eq_ok]
      constructor
      · rintro ⟨first, readFirst, succeeded⟩
        obtain ⟨others, readOthers, finished⟩ := bind_eq_ok.mp succeeded
        cases finished
        rw [List.map_cons, List.map_cons, readFirst, ih.mp readOthers]
      · intro same
        cases values with
        | nil => cases same
        | cons first others =>
            obtain ⟨readFirst, readOthers⟩ := List.cons.inj same
            exact ⟨first, readFirst, bind_eq_ok.mpr ⟨others, ih.mpr readOthers, rfl⟩⟩

/-- Every value comes from an item. -/
theorem exists_of_map_ok {read : α → Except Problem β} {items : List α} {values : List β}
    (same : items.map read = values.map .ok) {value : β} (member : value ∈ values) :
    ∃ item ∈ items, read item = .ok value := by
  have inside : (.ok value : Except Problem β) ∈ values.map .ok :=
    List.mem_map_of_mem member
  rw [← same] at inside
  exact List.mem_map.mp inside

/-- Every item gives a value. -/
theorem exists_value_of_mapM {read : α → Except Problem β} {items : List α} {values : List β}
    (succeeded : items.mapM read = .ok values) {item : α} (member : item ∈ items) :
    ∃ value ∈ values, read item = .ok value := by
  have inside : read item ∈ items.map read := List.mem_map_of_mem member
  rw [mapM_eq_ok.mp succeeded] at inside
  obtain ⟨value, there, same⟩ := List.mem_map.mp inside
  exact ⟨value, there, same.symm⟩

/-- What every value read has, all values of a list have. -/
theorem forall_of_mapM {holds : β → Prop} {read : α → Except Problem β}
    (each : ∀ {item value}, read item = .ok value → holds value)
    {items : List α} {values : List β} (succeeded : items.mapM read = .ok values) :
    ∀ value ∈ values, holds value := by
  intro value member
  obtain ⟨item, -, readItem⟩ := exists_of_map_ok (mapM_eq_ok.mp succeeded) member
  exact each readItem

/-- Lists that give the same results have the same values. -/
theorem eq_of_map_ok {values others : List α}
    (same : (values.map .ok : List (Except Problem α)) = others.map .ok) : values = others :=
  (List.map_inj_right fun _ _ alike => Except.ok.inj alike).mp same

theorem keys_of_map_ok {read : α → Except Problem β} {key : α → γ} {keyOf : β → γ}
    (keeps : ∀ {item value}, read item = .ok value → keyOf value = key item)
    {items : List α} {values : List β} (same : items.map read = values.map .ok) :
    values.map keyOf = items.map key := by
  induction items generalizing values with
  | nil => rw [List.map_eq_nil_iff.mp same.symm, List.map_nil, List.map_nil]
  | cons item rest ih =>
      cases values with
      | nil => cases same
      | cons value others =>
          obtain ⟨readFirst, readOthers⟩ := List.cons.inj same
          rw [List.map_cons, List.map_cons, keeps readFirst, ih readOthers]

/-- What each reading relates, the lists relate place by place. -/
theorem forall₂_of_mapM {δ ε : Type} {relates : δ → ε → Prop} {view : α → δ} {viewOf : β → ε}
    {read : α → Except Problem β}
    (each : ∀ {item value}, read item = .ok value → relates (view item) (viewOf value))
    {items : List α} {values : List β} (succeeded : items.mapM read = .ok values) :
    List.Forall₂ relates (items.map view) (values.map viewOf) := by
  have same := mapM_eq_ok.mp succeeded
  clear succeeded
  induction items generalizing values with
  | nil =>
      rw [List.map_eq_nil_iff.mp same.symm]
      exact .nil
  | cons item rest ih =>
      cases values with
      | nil => cases same
      | cons value others =>
          obtain ⟨readFirst, readOthers⟩ := List.cons.inj same
          exact .cons (each readFirst) (ih readOthers)

/-- A change that keeps every value read leaves the list as it is. -/
theorem map_eq_self_of_mapM {read : α → Except Problem β} {change : β → β}
    (keeps : ∀ {item value}, read item = .ok value → change value = value)
    {items : List α} {values : List β} (succeeded : items.mapM read = .ok values) :
    values.map change = values := by
  have same : ∀ value ∈ values, change value = value := by
    intro value member
    obtain ⟨item, -, readItem⟩ := exists_of_map_ok (mapM_eq_ok.mp succeeded) member
    exact keeps readItem
  rw [List.map_congr_left same, List.map_id']

/-- A list can be read where each of its items can. -/
theorem exists_mapM_iff {read : α → Except Problem β} {items : List α} :
    (∃ values, items.mapM read = .ok values) ↔ ∀ item ∈ items, ∃ value, read item = .ok value := by
  induction items with
  | nil => exact ⟨fun _ => List.forall_mem_nil _, fun _ => ⟨[], rfl⟩⟩
  | cons item rest ih =>
      rw [List.forall_mem_cons, ← ih]
      simp only [List.mapM_cons, bind_eq_ok, pure_eq_ok]
      constructor
      · rintro ⟨_, first, readFirst, others, readOthers, rfl⟩
        exact ⟨⟨first, readFirst⟩, others, readOthers⟩
      · rintro ⟨⟨first, readFirst⟩, others, readOthers⟩
        exact ⟨_, first, readFirst, others, readOthers, rfl⟩

/-! ## Items that are changed before they are read -/

theorem mapM_map_eq {δ : Type} {read : β → Except Problem γ} {other : α → Except Problem δ}
    {change : α → β} {put : δ → γ} {items : List α}
    (each : ∀ item ∈ items, read (change item) = put <$> other item) :
    (items.map change).mapM read = List.map put <$> items.mapM other := by
  induction items with
  | nil => rfl
  | cons item rest ih =>
      obtain ⟨first, others⟩ := List.forall_mem_cons.mp each
      rw [List.map_cons, List.mapM_cons, List.mapM_cons, first, ih others]
      cases other item with
      | error problem => rfl
      | ok value => cases rest.mapM other <;> rfl

theorem mapM_map_congr {read : β → Except Problem γ} {other : α → Except Problem γ} {change : α → β}
    {items : List α} (each : ∀ item ∈ items, read (change item) = other item) :
    (items.map change).mapM read = items.mapM other := by
  have same : (items.map change).mapM read = List.map id <$> items.mapM other :=
    mapM_map_eq fun item member => (each item member).trans (id_map _).symm
  rwa [List.map_id_fun, id_map] at same

/-- What is changed after it was read. -/
theorem eq_map_of_map_ok {read : α → Except Problem β} {change : β → β} {items : List α}
    {values others : List β} (same : values.map .ok = items.map read)
    (changed : others.map .ok = items.map fun item => change <$> read item) :
    others = values.map change := by
  refine eq_of_map_ok (changed.trans ?_)
  have lists := congrArg (List.map (change <$> ·)) same
  rw [List.map_map, List.map_map] at lists
  rw [List.map_map]
  exact lists.symm

end NativeBoundary.Results
