import NativeBoundary.Path
import NativeBoundary.Text.Quoted

/-!
# Files

A file source says what reading at a path gives: the text of a file, or the reason why there is
none. A folder of texts is the source that holds just the given files and the folders above them.
Paths and their segments are limited in length, as they are by file systems.
-/

namespace NativeBoundary

inductive FileFault where
  | missing
  | belowFile
  | folder
  | longName
  deriving DecidableEq, Repr

def FileFault.text (path : Path) : FileFault → String
  | .missing => s!"[Errno 2] No such file or directory: {Text.quoted path.text}"
  | .belowFile => s!"[Errno 20] Not a directory: {Text.quoted path.text}"
  | .folder => s!"[Errno 21] Is a directory: {Text.quoted path.text}"
  | .longName => s!"[Errno 36] File name too long: {Text.quoted path.text}"

abbrev FileSource := Path → Except FileFault String

/-- Texts by the segments of their paths. -/
abbrev Folder := List (List String × String)

namespace Folder

def isFolder (folder : Folder) (place : List String) : Bool :=
  place.isEmpty || folder.any fun file => place.isPrefixOf file.1 && place ≠ file.1

/-- The greatest length of a segment in octets. -/
def longestSegment : Nat := 255

/-- The greatest length of a path in octets. -/
def longestPath : Nat := 4095

def isLong (segment : String) : Bool := longestSegment < segment.utf8ByteSize

/-- What comes of segments that are looked up outside of the folder, of which nothing is known but
that it is there. -/
def outside (segments : List String) : FileFault :=
  match segments.find? (· ≠ "..") with
  | none => .folder
  | some segment => if isLong segment then .longName else .missing

/-- The place that further segments lead to. -/
def walk (folder : Folder) : (place segments : List String) → Except FileFault (List String)
  | place, [] => .ok place
  | place, step :: rest =>
      if !folder.isFolder place then
        .error (if (folder.lookup place).isSome then .belowFile else .missing)
      else if isLong step then .error .longName
      else if step ≠ ".." then walk folder (place ++ [step]) rest
      else if place.isEmpty then .error (outside rest)
      else walk folder place.dropLast rest

def source (folder : Folder) : FileSource := fun path =>
  if longestPath < path.text.utf8ByteSize then .error .longName
  else if path.root ≠ "" then .error (outside path.parts)
  else
    match folder.walk [] path.parts with
    | .error fault => .error fault
    | .ok place =>
        match folder.lookup place with
        | some text => .ok text
        | none => .error (if folder.isFolder place then .folder else .missing)

/-- Of several texts for one place the last one stays. -/
def ofTexts (texts : List (String × String)) : Folder :=
  texts.reverse.map fun file => ((Path.ofString file.1).parts, file.2)

end Folder

end NativeBoundary
