import NativeBoundary.Schema.Scalar

/-!
# Source locations

Where a construct was declared: a file as written, a line and a column.
-/

namespace NativeBoundary

structure Location where
  file : String
  line : Int
  column : Int
  deriving DecidableEq, Repr

namespace Location

def text (location : Location) : String :=
  s!"{location.file}:{location.line}:{location.column}"

/-- Whether the numbers are short enough to be shown. -/
def isWritten (location : Location) : Bool :=
  Text.Numeral.isWritten location.line && Text.Numeral.isWritten location.column

def toJson (location : Location) : Json :=
  .object [("file", .string location.file), ("line", .integer location.line),
    ("column", .integer location.column)]

def read : Json → Schema.Reading Location :=
  Schema.record fun members =>
    mk <$> Schema.required "file" Schema.string members
      <*> Schema.required "line" Schema.integer members
      <*> Schema.required "column" Schema.integer members

theorem read_toJson (location : Location) : read location.toJson = .value location := rfl

end Location

end NativeBoundary
