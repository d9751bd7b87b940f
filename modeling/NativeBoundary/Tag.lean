import NativeBoundary.Json.Display

/-!
# Tags

What labels an interface: its namespace, or the version mixed into its checksum. A tag is nearly
always a text; settings may give any other value of JSON but null. False, zero and whatever is
empty count as no tag.
-/

namespace NativeBoundary

structure Tag where
  value : Json
  deriving DecidableEq

namespace Tag

def text (value : String) : Tag := ⟨.string value⟩

def isBlank (tag : Tag) : Bool :=
  match tag.value with
  | .null => true
  | .bool value => !value
  | .integer value => value == 0
  | .decimal value => value.whole? == some 0
  | .string value => value == ""
  | .array items => items.isEmpty
  | .object members => members.isEmpty

/-- A text as it is, and any other value on display. -/
def shown (tag : Tag) : String :=
  match tag.value with
  | .string value => value
  | other => other.displayed

def quoted (tag : Tag) : String := tag.value.displayed

/-- Whether every number in a tag is short enough to be shown. -/
def isWritten (tag : Tag) : Bool := tag.value.isWritten

def ofJson? : Json → Option Tag
  | .null => none
  | value => some ⟨value⟩

/-- The first of two tags that is not blank. -/
def orElse (first second : Option Tag) : Option Tag :=
  (first.filter fun tag => !tag.isBlank).or (second.filter fun tag => !tag.isBlank)

@[simp] theorem shown_text (value : String) : (text value).shown = value := rfl

end Tag

end NativeBoundary
