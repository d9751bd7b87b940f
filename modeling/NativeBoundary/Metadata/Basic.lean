import NativeBoundary.Model.Basic
import NativeBoundary.Order.Insertion
import NativeBoundary.Outcome

/-!
# Metadata

Records of annotated items, one per item and in no particular order. Every record names the module
it comes from, whose first segment is its crate. A group sorts the records of one crate by kind and
then by name, members of objects by owner and name, so that their order of arrival shows only among
equal names.
-/

namespace NativeBoundary.Metadata

/-- A named place for a value: a field, or an input of a callable. -/
structure Slot where
  name : String
  type : String
  deriving DecidableEq, Repr

structure Variant where
  name : String
  fields : List Slot := []
  deriving DecidableEq, Repr

structure Function where
  crateModule : String
  name : String
  inputs : List Slot := []
  output : Option String := none
  throws : Option String := none
  deriving DecidableEq, Repr

structure Method where
  crateModule : String
  owner : String
  name : String
  inputs : List Slot := []
  output : Option String := none
  throws : Option String := none
  deriving DecidableEq, Repr

structure Constructor where
  crateModule : String
  owner : String
  name : String := Model.primaryName
  inputs : List Slot := []
  throws : Option String := none
  deriving DecidableEq, Repr

structure Record where
  crateModule : String
  name : String
  fields : List Slot := []
  deriving DecidableEq, Repr

structure Enum where
  crateModule : String
  name : String
  variants : List Variant := []
  deriving DecidableEq, Repr

/-- The variants of a flat error are known by name only. -/
structure Error where
  crateModule : String
  name : String
  variants : List Variant := []
  flat : Bool := true
  deriving DecidableEq, Repr

structure Object where
  crateModule : String
  name : String
  deriving DecidableEq, Repr

inductive Item where
  | function (item : Function)
  | method (item : Method)
  | constructor (item : Constructor)
  | record (item : Record)
  | enum (item : Enum)
  | error (item : Error)
  | object (item : Object)
  deriving DecidableEq, Repr

namespace Item

def crateModule : Item → String
  | .function item => item.crateModule
  | .method item => item.crateModule
  | .constructor item => item.crateModule
  | .record item => item.crateModule
  | .enum item => item.crateModule
  | .error item => item.crateModule
  | .object item => item.crateModule

def name : Item → String
  | .function item => item.name
  | .method item => item.name
  | .constructor item => item.name
  | .record item => item.name
  | .enum item => item.name
  | .error item => item.name
  | .object item => item.name

/-- The text in front of the first double colon. -/
def firstSegment : List Char → List Char
  | ':' :: ':' :: _ => []
  | c :: rest => c :: firstSegment rest
  | [] => []

def crate (item : Item) : String :=
  String.ofList (firstSegment item.crateModule.toList)

end Item

structure Group where
  crate : Option String := none
  records : List Record := []
  enums : List Enum := []
  errors : List Error := []
  objects : List Object := []
  functions : List Function := []
  constructors : List Constructor := []
  methods : List Method := []
  deriving DecidableEq, Repr

namespace Group

def isEmpty (group : Group) : Bool :=
  group.records.isEmpty && group.enums.isEmpty && group.errors.isEmpty &&
    group.objects.isEmpty && group.functions.isEmpty && group.constructors.isEmpty &&
    group.methods.isEmpty

def sortByName {α : Type} (nameOf : α → String) (items : List α) : List α :=
  Order.sort (fun first second => Order.before (nameOf first) (nameOf second)) items

def sortByOwner {α : Type} (ownerOf nameOf : α → String) (items : List α) : List α :=
  Order.sort (fun first second => Order.before (ownerOf first) (ownerOf second) ||
    (ownerOf first == ownerOf second && Order.before (nameOf first) (nameOf second))) items

/-- The crate that all items share, if there are any. -/
def sharedCrate : Option String → List Item → Except Problem (Option String)
  | crate, [] => .ok crate
  | none, item :: rest => sharedCrate (some item.crate) rest
  | some crate, item :: rest =>
      if crate = item.crate then sharedCrate (some crate) rest
      else .error ⟨.mixedCrates crate item.crate, some item.name, none⟩

def ofItems (items : List Item) : Except Problem Group := do
  let crate ← sharedCrate none items
  .ok {
    crate
    records := sortByName Record.name (items.filterMap fun
      | .record item => some item
      | _ => none)
    enums := sortByName Enum.name (items.filterMap fun
      | .enum item => some item
      | _ => none)
    errors := sortByName Error.name (items.filterMap fun
      | .error item => some item
      | _ => none)
    objects := sortByName Object.name (items.filterMap fun
      | .object item => some item
      | _ => none)
    functions := sortByName Function.name (items.filterMap fun
      | .function item => some item
      | _ => none)
    constructors := sortByOwner Constructor.owner Constructor.name (items.filterMap fun
      | .constructor item => some item
      | _ => none)
    methods := sortByOwner Method.owner Method.name (items.filterMap fun
      | .method item => some item
      | _ => none) }

end Group

end NativeBoundary.Metadata
