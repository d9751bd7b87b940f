/-!
# File paths

A slash-separated path in its plain form: empty segments and single dots carry no meaning and are
dropped, double dots stay. Exactly two leading slashes are a root of their own.
-/

namespace NativeBoundary

structure Path where
  root : String
  parts : List String
  deriving DecidableEq, Repr

namespace Path

def segments (text : List Char) : List (List Char) :=
  text.foldr
    (fun c pieces => if c = '/' then [] :: pieces else
      match pieces with
      | [] => [[c]]
      | piece :: rest => (c :: piece) :: rest) [[]]

def ofString (text : String) : Path where
  root :=
    match text.toList with
    | '/' :: '/' :: '/' :: _ => "/"
    | '/' :: '/' :: _ => "//"
    | '/' :: _ => "/"
    | _ => ""
  parts := ((segments text.toList).map String.ofList).filter fun part => part ≠ "" && part ≠ "."

def text (path : Path) : String :=
  let written := path.root ++ "/".intercalate path.parts
  if written = "" then "." else written

/-- The last segment, or nothing for a bare root. -/
def name (path : Path) : String :=
  path.parts.getLast?.getD ""

end Path

end NativeBoundary
