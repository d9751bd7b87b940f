import NativeBoundary.Json.Basic

/-!
# Tables under construction

A table holds named values in the order in which they came; a value that is an object is a table
inside it. A layout is the root table of a document while it is read, together with the paths that
are closed: no section is opened twice, no dotted key runs through a section that has a header of
its own, and nothing is added to a table that was written in one piece.
-/

namespace NativeBoundary.Toml

abbrev Table := List (String × Json)

abbrev KeyPath := List String

/-- A dotted key: the tables on the way, and the name in the last of them. -/
structure Key where
  path : KeyPath
  name : String
  deriving DecidableEq, Repr

namespace Table

/-- Changes the table at the end of a path and opens those that are missing on the way. No table
stands below a value of another shape. -/
def change? (change : Table → Option Table) : KeyPath → Table → Option Table
  | [], table => change table
  | step :: rest, table => do
      let inner ←
        match table.lookup step with
        | none => some []
        | some (.object inner) => some inner
        | some _ => none
      let changed ← change? change rest inner
      some (Json.put step (.object changed) table)

def insert? (name : String) (value : Json) (table : Table) : Option Table :=
  if (table.lookup name).isSome then none else some (table ++ [(name, value)])

end Table

structure Layout where
  root : Table := []
  header : KeyPath := []
  /-- Tables that have a header of their own. -/
  sections : List KeyPath := []
  /-- Tables that dotted keys opened below the latest header. -/
  opened : List KeyPath := []
  /-- Tables written in one piece. -/
  sealed : List KeyPath := []
  deriving DecidableEq

namespace Layout

def isSealed (layout : Layout) (path : KeyPath) : Bool :=
  layout.sealed.any fun closed => closed.isPrefixOf path

/-- Opens the section of a header. The tables that dotted keys opened before are closed by it. -/
def openSection? (path : KeyPath) (layout : Layout) : Option Layout :=
  let closed := layout.opened ++ layout.sections
  if closed.contains path || layout.isSealed path then none
  else do
    let root ← Table.change? some path layout.root
    some { layout with root, header := path, sections := path :: closed, opened := [] }

/-- The tables on the way of a path, each by its whole path below a base. -/
def stepsBelow (base : KeyPath) : KeyPath → List KeyPath
  | [] => []
  | step :: rest => (base ++ [step]) :: stepsBelow (base ++ [step]) rest

/-- Gives a key of the latest section its value. -/
def assign? (key : Key) (value : Json) (layout : Layout) : Option Layout :=
  let tables := stepsBelow layout.header key.path
  let home := layout.header ++ key.path
  if tables.any layout.sections.contains || layout.isSealed home then none
  else do
    let root ← Table.change? (Table.insert? key.name value) home layout.root
    let sealed :=
      match value with
      | .object _ => (home ++ [key.name]) :: layout.sealed
      | _ => layout.sealed
    some { layout with root, opened := tables ++ layout.opened, sealed }

end Layout

end NativeBoundary.Toml
