import NativeBoundary.Number.Binary64

/-!
# JSON values

Whole numbers of any size are kept apart from numbers with a fraction or an exponent, which become
binary floating point numbers. An object keeps its members in order; a look-up finds the first
member of a name, and a member that is put again keeps its place and takes the new value.
-/

namespace NativeBoundary

inductive Json where
  | null
  | bool (value : Bool)
  | integer (value : Int)
  | decimal (value : Binary64)
  | string (value : String)
  | array (items : List Json)
  | object (members : List (String × Json))

namespace Json

mutual

def decEq : (first second : Json) → Decidable (first = second)
  | .null, .null => isTrue rfl
  | .bool a, .bool b => if same : a = b then isTrue (same ▸ rfl) else isFalse (by simp [same])
  | .integer a, .integer b => if same : a = b then isTrue (same ▸ rfl) else isFalse (by simp [same])
  | .decimal a, .decimal b => if same : a = b then isTrue (same ▸ rfl) else isFalse (by simp [same])
  | .string a, .string b => if same : a = b then isTrue (same ▸ rfl) else isFalse (by simp [same])
  | .array a, .array b =>
      match decEqItems a b with
      | isTrue same => isTrue (same ▸ rfl)
      | isFalse differ => isFalse (by simp [differ])
  | .object a, .object b =>
      match decEqMembers a b with
      | isTrue same => isTrue (same ▸ rfl)
      | isFalse differ => isFalse (by simp [differ])
  | .null, .bool _ | .null, .integer _ | .null, .decimal _ | .null, .string _ | .null, .array _
  | .null, .object _ => isFalse nofun
  | .bool _, .null | .bool _, .integer _ | .bool _, .decimal _ | .bool _, .string _
  | .bool _, .array _ | .bool _, .object _ => isFalse nofun
  | .integer _, .null | .integer _, .bool _ | .integer _, .decimal _ | .integer _, .string _
  | .integer _, .array _ | .integer _, .object _ => isFalse nofun
  | .decimal _, .null | .decimal _, .bool _ | .decimal _, .integer _ | .decimal _, .string _
  | .decimal _, .array _ | .decimal _, .object _ => isFalse nofun
  | .string _, .null | .string _, .bool _ | .string _, .integer _ | .string _, .decimal _
  | .string _, .array _ | .string _, .object _ => isFalse nofun
  | .array _, .null | .array _, .bool _ | .array _, .integer _ | .array _, .decimal _
  | .array _, .string _ | .array _, .object _ => isFalse nofun
  | .object _, .null | .object _, .bool _ | .object _, .integer _ | .object _, .decimal _
  | .object _, .string _ | .object _, .array _ => isFalse nofun

def decEqItems : (first second : List Json) → Decidable (first = second)
  | [], [] => isTrue rfl
  | [], _ :: _ | _ :: _, [] => isFalse nofun
  | a :: as, b :: bs =>
      match decEq a b, decEqItems as bs with
      | isTrue head, isTrue tail => isTrue (head ▸ tail ▸ rfl)
      | isFalse differ, _ => isFalse (by simp [differ])
      | _, isFalse differ => isFalse (by simp [differ])

def decEqMembers : (first second : List (String × Json)) → Decidable (first = second)
  | [], [] => isTrue rfl
  | [], _ :: _ | _ :: _, [] => isFalse nofun
  | (k, a) :: as, (l, b) :: bs =>
      match decEq a b, decEqMembers as bs with
      | isTrue head, isTrue tail =>
          if same : k = l then isTrue (same ▸ head ▸ tail ▸ rfl) else isFalse (by simp [same])
      | isFalse differ, _ => isFalse (by simp [differ])
      | _, isFalse differ => isFalse (by simp [differ])

end

instance : DecidableEq Json := decEq

mutual

/-- How deeply arrays and objects are nested; a value without parts has height one. -/
def height : Json → Nat
  | .array items => heightItems items + 1
  | .object members => heightMembers members + 1
  | _ => 1

def heightItems : List Json → Nat
  | [] => 0
  | item :: rest => max item.height (heightItems rest)

def heightMembers : List (String × Json) → Nat
  | [] => 0
  | (_, value) :: rest => max value.height (heightMembers rest)

end

theorem height_pos (value : Json) : 0 < value.height := by
  cases value <;> simp [height]

theorem height_le_of_mem {items : List Json} {item : Json} (inside : item ∈ items) :
    item.height ≤ heightItems items := by
  induction items with
  | nil => cases inside
  | cons first rest ih =>
      simp only [heightItems]
      rcases List.mem_cons.mp inside with rfl | later
      · exact Nat.le_max_left _ _
      · exact Nat.le_trans (ih later) (Nat.le_max_right _ _)

theorem height_le_of_member {members : List (String × Json)} {name : String} {value : Json}
    (inside : (name, value) ∈ members) : value.height ≤ heightMembers members := by
  induction members with
  | nil => cases inside
  | cons first rest ih =>
      simp only [heightMembers]
      rcases List.mem_cons.mp inside with rfl | later
      · exact Nat.le_max_left _ _
      · exact Nat.le_trans (ih later) (Nat.le_max_right _ _)

theorem height_le_of_lookup {members : List (String × Json)} {name : String} {value : Json}
    (found : members.lookup name = some value) : value.height ≤ heightMembers members := by
  obtain ⟨_, _, rfl, -⟩ := List.lookup_eq_some_iff.mp found
  exact height_le_of_member (List.mem_append_right _ List.mem_cons_self)

/-- Induction over a value, its items and the values of its members. -/
@[elab_as_elim]
theorem induct {motive : Json → Prop} (null : motive .null) (bool : ∀ value, motive (.bool value))
    (integer : ∀ value, motive (.integer value)) (decimal : ∀ value, motive (.decimal value))
    (string : ∀ value, motive (.string value))
    (array : ∀ items, (∀ item ∈ items, motive item) → motive (.array items))
    (object : ∀ members, (∀ member ∈ members, motive member.2) → motive (.object members)) :
    ∀ value, motive value
  | .null => null
  | .bool value => bool value
  | .integer value => integer value
  | .decimal value => decimal value
  | .string value => string value
  | .array items => array items fun item inside => by
      have low := height_le_of_mem inside
      exact induct null bool integer decimal string array object item
  | .object members => object members fun (_, value) inside => by
      have low := height_le_of_member inside
      exact induct null bool integer decimal string array object value
termination_by value => value.height
decreasing_by
  · exact Nat.lt_succ_of_le low
  · exact Nat.lt_succ_of_le low

/-- Puts a member, in place of the one of the same name if there is one. -/
def put (name : String) (value : Json) : List (String × Json) → List (String × Json)
  | [] => [(name, value)]
  | (key, item) :: rest =>
      if key = name then (name, value) :: rest else (key, item) :: put name value rest

def member? (name : String) : Json → Option Json
  | .object members => members.lookup name
  | _ => none

def isNull : Json → Bool
  | .null => true
  | _ => false

/-- The list of the values of a map, each turned into JSON. -/
def list {α : Type} (encode : α → Json) (items : List α) : Json :=
  .array (items.map encode)

def option {α : Type} (encode : α → Json) : Option α → Json
  | none => .null
  | some value => encode value

end Json

end NativeBoundary
