import Mathlib.Data.List.Nodup
import Mathlib.Data.List.Perm.Subperm
import NativeBoundary.Interface.Reachable
import NativeBoundary.Proofs.Interface.Growth
import NativeBoundary.Proofs.Registry.Binding

/-!
# Reachability is a closure

The types reached from an item are the least set that holds its parts and, with every declared type,
the types of the members of its declaration.  The traversal asks for names where the closure speaks
of types: where a name stands for one declared type among all that can be reached, what it finds is
that closure.  Every step takes one name off those that can still be asked for, so it comes to its
end by itself, however the declarations refer to each other.
-/

namespace NativeBoundary.Interface

/-- A type that an item leads to. -/
inductive Reaches (interface : Interface) (item : Ty) : Ty → Prop where
  | part {type : Ty} (nested : type ∈ item.types) : Reaches interface item type
  | member {owner type : Ty} (reached : Reaches interface item owner)
      (declared : owner.isDeclared = true) (inside : type ∈ interface.declaredTypes owner) :
      Reaches interface item type

variable {interface : Interface} {item : Ty}

theorem declaredTypes_subset {owner type : Ty} (inside : type ∈ interface.declaredTypes owner) :
    type ∈ interface.memberTypes := by
  have listed {α : Type} {name : α → String} {types : α → List Ty} {items : List α}
      (found : type ∈ ((items.find? fun declared =>
        name declared == owner.name.getD "").map types).getD []) :
      type ∈ items.flatMap types := by
    cases looked : items.find? fun declared => name declared == owner.name.getD "" with
    | none =>
        rw [looked] at found
        cases found
    | some declared =>
        rw [looked] at found
        exact List.mem_flatMap.mpr ⟨declared, List.mem_of_find?_eq_some looked, found⟩
  unfold declaredTypes at inside
  simp only [memberTypes, List.mem_append]
  split at inside
  · exact Or.inl (Or.inl (Or.inl (Or.inl (listed inside))))
  · exact Or.inl (Or.inl (Or.inl (Or.inr (listed inside))))
  · exact Or.inl (Or.inl (Or.inr (listed inside)))
  · exact Or.inl (Or.inr (listed inside))
  · exact Or.inr (listed inside)
  · cases inside

namespace Traversal

/-- Lists a type among those found unless it is there. -/
def add (traversal : Traversal) (type : Ty) : Traversal :=
  if type ∈ traversal.found then traversal
  else { traversal with found := traversal.found ++ [type] }

theorem mem_add {traversal : Traversal} {type other : Ty} :
    other ∈ (traversal.add type).found ↔ other ∈ traversal.found ∨ other = type := by
  unfold add
  split
  · next known =>
    constructor
    · exact Or.inl
    · rintro (inside | rfl)
      · exact inside
      · exact known
  · simp

theorem nodup_add {traversal : Traversal} (distinct : traversal.found.Nodup) (type : Ty) :
    (traversal.add type).found.Nodup := by
  unfold add
  split
  · exact distinct
  · next fresh =>
    refine List.nodup_append.mpr ⟨distinct, List.nodup_singleton type, ?_⟩
    rintro other inside last member rfl
    rw [List.mem_singleton.mp member] at inside
    exact fresh inside

@[simp] theorem asked_add (traversal : Traversal) (type : Ty) :
    (traversal.add type).asked = traversal.asked := by
  unfold add
  split <;> rfl

@[simp] theorem pending_add (traversal : Traversal) (type : Ty) :
    (traversal.add type).pending = traversal.pending := by
  unfold add
  split <;> rfl

/-- A visit asks for the name of a declared type that was not asked for, and for nothing else. -/
theorem visit_cases (traversal : Traversal) {type : Ty} (bound : interface.names.Binds type) :
    (∃ name, type.isDeclared = true ∧ type.name = some name ∧ name ∉ traversal.asked ∧
      traversal.visit type = { traversal.add type with
        asked := name :: traversal.asked, pending := type :: traversal.pending }) ∨
    ((type.isDeclared = true → ∃ name, type.name = some name ∧ name ∈ traversal.asked) ∧
      traversal.visit type = traversal.add type) := by
  cases declared : type.isDeclared with
  | false =>
      right
      refine ⟨(nomatch ·), ?_⟩
      simp [visit, add, declared]
  | true =>
      obtain ⟨name, named, -⟩ := bound declared
      by_cases asked : name ∈ traversal.asked
      · right
        refine ⟨fun _ => ⟨name, named, asked⟩, ?_⟩
        simp [visit, add, declared, named, asked]
      · left
        refine ⟨name, rfl, named, asked, ?_⟩
        by_cases found : type ∈ traversal.found
        · simp [visit, add, declared, named, asked, found]
        · simp [visit, add, declared, named, asked, found]

/-- What holds of a traversal while some types are still to be visited: all it found is reached,
every name asked for is that of a declared type found, and every declared type found is pending or
has its member types found or among those to be visited. -/
structure Invariant (interface : Interface) (item : Ty) (todo : List Ty) (traversal : Traversal) :
    Prop where
  reached : ∀ type, type ∈ traversal.found ∨ type ∈ todo → Reaches interface item type
  distinct : traversal.found.Nodup
  askedOnce : traversal.asked.Nodup
  asked : ∀ name ∈ traversal.asked, ∃ type ∈ traversal.found,
    type.isDeclared = true ∧ type.name = some name
  pending : ∀ type ∈ traversal.pending, type ∈ traversal.found ∧ type.isDeclared = true
  started : ∀ type ∈ item.types, type ∈ traversal.found ∨ type ∈ todo
  closed : ∀ owner ∈ traversal.found, owner.isDeclared = true → owner ∈ traversal.pending ∨
    ∀ type ∈ interface.declaredTypes owner, type ∈ traversal.found ∨ type ∈ todo

theorem invariant_start : Invariant interface item item.types {} where
  reached type member := by
    rcases member with found | nested
    · cases found
    · exact .part nested
  distinct := List.nodup_nil
  askedOnce := List.nodup_nil
  asked _ member := nomatch member
  pending _ member := nomatch member
  started type nested := Or.inr nested
  closed _ member := nomatch member

variable {traversal : Traversal} {type : Ty} {todo : List Ty}

/-- Moving a type from those to be visited to those found changes none of the memberships. -/
theorem found_add_or {other : Ty}
    (member : other ∈ traversal.found ∨ other ∈ type :: todo) :
    other ∈ (traversal.add type).found ∨ other ∈ todo := by
  rcases member with found | waiting
  · exact Or.inl (mem_add.mpr (Or.inl found))
  · rcases List.mem_cons.mp waiting with same | later
    · exact Or.inl (mem_add.mpr (Or.inr same))
    · exact Or.inr later

theorem Invariant.reached_add (holds : Invariant interface item (type :: todo) traversal)
    {other : Ty} (member : other ∈ (traversal.add type).found ∨ other ∈ todo) :
    Reaches interface item other := by
  rcases member with found | waiting
  · rcases mem_add.mp found with before | rfl
    · exact holds.reached other (Or.inl before)
    · exact holds.reached other (Or.inr List.mem_cons_self)
  · exact holds.reached other (Or.inr (List.mem_cons_of_mem type waiting))

theorem Invariant.asked_add (holds : Invariant interface item (type :: todo) traversal)
    {name : String} (asked : name ∈ traversal.asked) :
    ∃ found ∈ (traversal.add type).found, found.isDeclared = true ∧ found.name = some name := by
  obtain ⟨found, inside, properties⟩ := holds.asked name asked
  exact ⟨found, mem_add.mpr (Or.inl inside), properties⟩

theorem Invariant.pending_add (holds : Invariant interface item (type :: todo) traversal)
    {other : Ty} (pending : other ∈ traversal.pending) :
    other ∈ (traversal.add type).found ∧ other.isDeclared = true := by
  obtain ⟨inside, declared⟩ := holds.pending other pending
  exact ⟨mem_add.mpr (Or.inl inside), declared⟩

/-- A declared type that was found is pending or has been entered, whatever is found next. -/
theorem Invariant.closed_add (holds : Invariant interface item (type :: todo) traversal)
    {owner : Ty} (found : owner ∈ traversal.found) (declared : owner.isDeclared = true) :
    owner ∈ traversal.pending ∨ ∀ other ∈ interface.declaredTypes owner,
      other ∈ (traversal.add type).found ∨ other ∈ todo := by
  rcases holds.closed owner found declared with pending | entered
  · exact Or.inl pending
  · exact Or.inr fun other inside => found_add_or (entered other inside)

/-- A visit that asks for the name of a declared type. -/
theorem Invariant.visit_fresh (holds : Invariant interface item (type :: todo) traversal)
    {name : String} (declared : type.isDeclared = true) (named : type.name = some name)
    (fresh : name ∉ traversal.asked) :
    Invariant interface item todo { traversal.add type with
      asked := name :: traversal.asked, pending := type :: traversal.pending } where
  reached _ := holds.reached_add
  distinct := nodup_add holds.distinct type
  askedOnce := List.nodup_cons.mpr ⟨fresh, holds.askedOnce⟩
  asked other member := by
    rcases List.mem_cons.mp member with rfl | before
    · exact ⟨type, mem_add.mpr (Or.inr rfl), declared, named⟩
    · exact holds.asked_add before
  pending other member := by
    rcases List.mem_cons.mp member with rfl | before
    · exact ⟨mem_add.mpr (Or.inr rfl), declared⟩
    · exact holds.pending_add before
  started other nested := found_add_or (holds.started other nested)
  closed owner member isDeclared := by
    rcases mem_add.mp member with before | rfl
    · rcases holds.closed_add before isDeclared with pending | entered
      · exact Or.inl (List.mem_cons_of_mem type pending)
      · exact Or.inr entered
    · exact Or.inl List.mem_cons_self

/-- A visit that asks for nothing. -/
theorem Invariant.visit_known (holds : Invariant interface item (type :: todo) traversal)
    (known : type.isDeclared = true → type ∈ traversal.found) :
    Invariant interface item todo (traversal.add type) where
  reached _ := holds.reached_add
  distinct := nodup_add holds.distinct type
  askedOnce := by
    rw [Traversal.asked_add]
    exact holds.askedOnce
  asked other member := by
    rw [Traversal.asked_add] at member
    exact holds.asked_add member
  pending other member := by
    rw [Traversal.pending_add] at member
    exact holds.pending_add member
  started other nested := found_add_or (holds.started other nested)
  closed owner member isDeclared := by
    rw [Traversal.pending_add]
    rcases mem_add.mp member with before | rfl
    · exact holds.closed_add before isDeclared
    · exact holds.closed_add (known isDeclared) isDeclared

/-- A name that was asked for was asked for by the type that is bound to it. -/
theorem Invariant.found_of_asked
    (bound : ∀ {type}, Reaches interface item type → interface.names.Binds type)
    (holds : Invariant interface item (type :: todo) traversal) {name : String}
    (declared : type.isDeclared = true) (named : type.name = some name)
    (asked : name ∈ traversal.asked) : type ∈ traversal.found := by
  obtain ⟨other, inside, otherDeclared, otherNamed⟩ := holds.asked name asked
  obtain ⟨first, firstNamed, firstBound⟩ :=
    bound (holds.reached type (Or.inr List.mem_cons_self)) declared
  obtain ⟨second, secondNamed, secondBound⟩ :=
    bound (holds.reached other (Or.inl inside)) otherDeclared
  obtain rfl : name = first := Option.some.inj (named.symm.trans firstNamed)
  obtain rfl : name = second := Option.some.inj (otherNamed.symm.trans secondNamed)
  obtain rfl : type = other := Option.some.inj (firstBound.symm.trans secondBound)
  exact inside

theorem Invariant.visit
    (bound : ∀ {type}, Reaches interface item type → interface.names.Binds type)
    (holds : Invariant interface item (type :: todo) traversal) :
    Invariant interface item todo (traversal.visit type) := by
  have isBound := bound (holds.reached type (Or.inr List.mem_cons_self))
  obtain ⟨name, declared, named, fresh, visited⟩ | ⟨known, visited⟩ :=
    visit_cases traversal isBound
  · rw [visited]
    exact holds.visit_fresh declared named fresh
  · rw [visited]
    refine holds.visit_known fun declared => ?_
    obtain ⟨name, named, asked⟩ := known declared
    exact holds.found_of_asked bound declared named asked

/-- A visit puts as many types on the list of those pending as it asks for names. -/
theorem visit_balance (traversal : Traversal) (bound : interface.names.Binds type) :
    (traversal.visit type).pending.length + traversal.asked.length =
      traversal.pending.length + (traversal.visit type).asked.length := by
  obtain ⟨name, -, -, -, visited⟩ | ⟨-, visited⟩ := visit_cases traversal bound
  · rw [visited]
    simp only [List.length_cons]
    omega
  · rw [visited, pending_add, asked_add]

theorem Invariant.visitAll
    (bound : ∀ {type}, Reaches interface item type → interface.names.Binds type)
    (holds : Invariant interface item todo traversal) :
    Invariant interface item [] (todo.foldl Traversal.visit traversal) ∧
      (todo.foldl Traversal.visit traversal).pending.length + traversal.asked.length =
        traversal.pending.length + (todo.foldl Traversal.visit traversal).asked.length := by
  induction todo generalizing traversal with
  | nil => exact ⟨holds, rfl⟩
  | cons type rest ih =>
      have balance := visit_balance traversal
        (bound (holds.reached type (Or.inr List.mem_cons_self)))
      obtain ⟨holdsAfter, balanceAfter⟩ := ih (holds.visit bound)
      refine ⟨holdsAfter, ?_⟩
      rw [List.foldl_cons]
      omega

/-- Entering the declaration of a pending type. -/
theorem Invariant.enter {rest : List Ty} (holds : Invariant interface item [] traversal)
    (waiting : traversal.pending = type :: rest) :
    Invariant interface item (interface.declaredTypes type) { traversal with pending := rest } := by
  have inside : type ∈ traversal.pending := by
    rw [waiting]
    exact List.mem_cons_self
  obtain ⟨found, declared⟩ := holds.pending type inside
  exact { holds with
    reached := by
      rintro other (before | member)
      · exact holds.reached other (Or.inl before)
      · exact .member (holds.reached type (Or.inl found)) declared member
    pending := by
      intro other member
      apply holds.pending other
      rw [waiting]
      exact List.mem_cons_of_mem type member
    started := by
      intro other nested
      rcases holds.started other nested with before | impossible
      · exact Or.inl before
      · cases impossible
    closed := by
      intro owner member isDeclared
      rcases holds.closed owner member isDeclared with pending | entered
      · rw [waiting] at pending
        rcases List.mem_cons.mp pending with rfl | later
        · exact Or.inr fun other inside => Or.inr inside
        · exact Or.inl later
      · right
        intro other inside
        rcases entered other inside with before | impossible
        · exact Or.inl before
        · cases impossible }

end Traversal

/-- The types that can be reached at all: those of the item and those of all members. -/
theorem Reaches.mem {type : Ty} (reached : Reaches interface item type) :
    type ∈ item.types ++ interface.memberTypes := by
  cases reached with
  | part nested => exact List.mem_append_left _ nested
  | member _ _ inside => exact List.mem_append_right _ (declaredTypes_subset inside)

/-- As many names as there are types can be asked for. -/
def askable (interface : Interface) (item : Ty) : Nat :=
  item.types.length + interface.memberTypes.length

namespace Traversal

variable {traversal : Traversal}

theorem Invariant.asked_le (holds : Invariant interface item [] traversal) :
    traversal.asked.length ≤ askable interface item := by
  have subset : traversal.asked ⊆
      (item.types ++ interface.memberTypes).map fun type => type.name.getD "" := by
    intro name member
    obtain ⟨type, inside, -, named⟩ := holds.asked name member
    have listed := (holds.reached type (Or.inl inside)).mem
    refine List.mem_map.mpr ⟨type, listed, ?_⟩
    rw [named]
    rfl
  have lengths := (holds.askedOnce.subperm subset).length_le
  rwa [List.length_map, List.length_append] at lengths

/-- Entered for as many steps as names can still be asked for, a traversal comes to its end. -/
theorem Invariant.expand
    (isBound : ∀ {type}, Reaches interface item type → interface.names.Binds type) {bound : Nat}
    (holds : Invariant interface item [] traversal)
    (enough : askable interface item + traversal.pending.length ≤
      bound + traversal.asked.length) :
    Invariant interface item [] (expand interface bound traversal) ∧
      (expand interface bound traversal).pending = [] := by
  induction bound generalizing traversal with
  | zero =>
      have few := holds.asked_le
      have done : traversal.pending = [] := List.eq_nil_of_length_eq_zero (by omega)
      exact ⟨holds, done⟩
  | succ bound ih =>
      unfold Interface.expand
      cases waiting : traversal.pending with
      | nil => exact ⟨holds, waiting⟩
      | cons type rest =>
          obtain ⟨holdsAfter, balance⟩ := (holds.enter waiting).visitAll isBound
          apply ih holdsAfter
          rw [waiting, List.length_cons] at enough
          simp only at balance
          omega

end Traversal

theorem expand_of_done {bound : Nat} {traversal : Traversal} (done : traversal.pending = []) :
    expand interface bound traversal = traversal := by
  cases bound with
  | zero => rfl
  | succ bound =>
      unfold expand
      rw [done]

/-- Once a traversal has come to its end, more steps change nothing. -/
theorem expand_of_le {enough bound : Nat} {traversal : Traversal} (le : enough ≤ bound)
    (done : (expand interface enough traversal).pending = []) :
    expand interface bound traversal = expand interface enough traversal := by
  induction enough generalizing bound traversal with
  | zero => exact expand_of_done done
  | succ enough ih =>
      obtain ⟨more, rfl⟩ := Nat.exists_eq_add_of_le' le
      rw [← Nat.add_assoc]
      cases waiting : traversal.pending with
      | nil => rw [expand_of_done waiting, expand_of_done waiting]
      | cons type rest =>
          unfold expand at done ⊢
          rw [waiting] at done ⊢
          exact ih (Nat.le_add_left enough more) done

/-- The state in which a traversal begins. -/
def start (item : Ty) : Traversal := item.types.foldl Traversal.visit {}

theorem reachable_spec
    (isBound : ∀ {type}, Reaches interface item type → interface.names.Binds type) :
    Traversal.Invariant interface item []
        (expand interface (askable interface item) (start item)) ∧
      (expand interface (askable interface item) (start item)).pending = [] ∧
      interface.reachable item =
        (expand interface (askable interface item) (start item)).found := by
  obtain ⟨holds, balance⟩ := (@Traversal.invariant_start interface item).visitAll isBound
  have enough : askable interface item + (start item).pending.length ≤
      askable interface item + (start item).asked.length := by
    change (start item).pending.length + 0 = 0 + (start item).asked.length at balance
    omega
  obtain ⟨holdsAfter, done⟩ := holds.expand isBound enough
  refine ⟨holdsAfter, done, ?_⟩
  have le : askable interface item ≤
      Nat.pow (item.types.length + interface.memberTypes.length + 1) 7 :=
    Nat.le_trans (Nat.le_succ _) (Nat.le_self_pow (by decide) _)
  exact congrArg Traversal.found (expand_of_le le done)

/-- What is found at the end is closed, so it holds all that is reached. -/
theorem Traversal.Invariant.mem_found_iff {traversal : Traversal}
    (holds : Invariant interface item [] traversal) (done : traversal.pending = []) {type : Ty} :
    type ∈ traversal.found ↔ Reaches interface item type := by
  constructor
  · exact fun found => holds.reached type (Or.inl found)
  · intro reached
    induction reached with
    | part nested =>
        rcases holds.started _ nested with found | impossible
        · exact found
        · cases impossible
    | member _ declared inside ih =>
        rcases holds.closed _ ih declared with pending | entered
        · rw [done] at pending
          cases pending
        · rcases entered _ inside with found | impossible
          · exact found
          · cases impossible

/-- Where all that is reached is bound to its name, exactly that is found. -/
theorem mem_reachable_iff
    (isBound : ∀ {type}, Reaches interface item type → interface.names.Binds type) {type : Ty} :
    type ∈ interface.reachable item ↔ Reaches interface item type := by
  obtain ⟨holds, done, found⟩ := reachable_spec isBound
  rw [found]
  exact holds.mem_found_iff done

end NativeBoundary.Interface
