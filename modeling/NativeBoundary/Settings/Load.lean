import NativeBoundary.File
import NativeBoundary.Order.Insertion
import NativeBoundary.Problem
import NativeBoundary.Settings.Basic
import NativeBoundary.Toml.Reader

/-!
# Loading build settings

The settings stand in one section of a file: a project file keeps them among the sections of its
tools, any other file under a name of their own. An absent file or section leaves both settings
unset. Any further name in the section is refused; the values are kept as they are.
-/

namespace NativeBoundary.Settings

inductive Fault where
  | unreadable (path : Path) (fault : FileFault)
  | malformed
  | longNumeral (digits : Nat)
  /-- Something is looked up in a value that is no table. -/
  | notTable (found : Json)
  /-- The section is a value that has no names at all. -/
  | withoutNames (found : Json)
  | refused (problem : Problem)
  deriving DecidableEq

/-- The word for the shape of a value that is no table. -/
def shapeWord : Json → String
  | .bool _ => "bool"
  | .integer _ => "int"
  | .string _ => "str"
  | _ => "object"

def Fault.text : Fault → String
  | .unreadable path fault => fault.text path
  | .malformed => "Malformed configuration file"
  | .longNumeral digits => Text.Numeral.tooLongText digits
  | .notTable found => s!"'{shapeWord found}' object has no attribute 'get'"
  | .withoutNames found => s!"'{shapeWord found}' object is not iterable"
  | .refused problem => problem.message

def projectFile : String := "pyproject.toml"

def sectionOf (path : Path) : Toml.KeyPath :=
  if path.name = projectFile then ["tool", "bridgegen"] else ["build"]

/-- The value at the end of a path of tables; a name that a table lacks stands for an empty one. -/
def locate : Toml.KeyPath → Json → Except Fault Json
  | [], found => .ok found
  | name :: rest, .object members => locate rest ((members.lookup name).getD (.object []))
  | _ :: _, other => .error (.notTable other)

def knownNames : List String := ["generator_version", "namespace"]

/-- The names in a section; those of a text are its characters. -/
def names? : Json → Option (List String)
  | .object members => some (members.map Prod.fst)
  | .string text => some (text.toList.map String.singleton)
  | _ => none

def ofSection (path : Path) (found : Json) : Except Fault Settings :=
  match names? found with
  | none => .error (.withoutNames found)
  | some names =>
      match Order.sort Order.before (names.filter (!knownNames.contains ·)).eraseDups with
      | [] =>
          match found with
          | .object members => .ok
              ⟨(members.lookup "generator_version").getD .null,
                (members.lookup "namespace").getD .null⟩
          | other => .error (.notTable other)
      | unknown => .error (.refused ⟨.unknownSettings path.text unknown, none, none⟩)

def load (source : FileSource) : Option Path → Except Fault Settings
  | none => .ok {}
  | some path =>
      match source path with
      | .error .missing | .error .belowFile => .ok {}
      | .error fault => .error (.unreadable path fault)
      | .ok text =>
          match Toml.read text with
          | .error .malformed => .error .malformed
          | .error (.longNumeral digits) => .error (.longNumeral digits)
          | .ok table => (locate (sectionOf path) (.object table)).bind (ofSection path)

end NativeBoundary.Settings
