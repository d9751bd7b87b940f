import NativeBoundary.Json.Basic

/-!
# Reading records out of JSON

A reading is a value or the list of everything that is wrong with the JSON, in the order in which
the parts are declared. Readings combine side by side: the issues of all parts are kept, each under
the path that leads to it.
-/

namespace NativeBoundary.Schema

inductive Step where
  | field (name : String)
  | index (position : Nat)
  deriving DecidableEq, Repr

inductive Mismatch where
  | missing
  | notString
  | notList
  | notTuple
  | notRecord
  | notMapping
  | notItem
  | notInEnumeration
  | tagNotFound
  | tagInvalid
  | boolUnreadable
  | notBool
  | intUnreadable
  | intTooLong
  | intFromFraction
  | notFinite
  | notInt
  | tooDeep
  | halfPair
  | invalidText
  deriving DecidableEq, Repr

def Mismatch.code : Mismatch → String
  | .missing => "missing"
  | .notString => "string_type"
  | .notList => "list_type"
  | .notTuple => "tuple_type"
  | .notRecord => "model_type"
  | .notMapping => "dict_type"
  | .notItem => "model_attributes_type"
  | .notInEnumeration => "enum"
  | .tagNotFound => "union_tag_not_found"
  | .tagInvalid => "union_tag_invalid"
  | .boolUnreadable => "bool_parsing"
  | .notBool => "bool_type"
  | .intUnreadable => "int_parsing"
  | .intTooLong => "int_parsing_size"
  | .intFromFraction => "int_from_float"
  | .notFinite => "finite_number"
  | .notInt => "int_type"
  | .tooDeep => "recursion_depth_exceeded"
  | .halfPair => "string_unicode"
  | .invalidText => "json_invalid"

structure Issue where
  mismatch : Mismatch
  path : List Step
  deriving DecidableEq, Repr

inductive Reading (α : Type) where
  | value (value : α)
  | refused (issues : List Issue)

abbrev Members := List (String × Json)

/-- How many records of one shape may stand inside each other. -/
def deepestNesting : Nat := 255

namespace Reading

variable {α β : Type}

def map (f : α → β) : Reading α → Reading β
  | .value a => .value (f a)
  | .refused issues => .refused issues

def apply : Reading (α → β) → Reading α → Reading β
  | .value f, .value a => .value (f a)
  | .value _, .refused issues => .refused issues
  | .refused issues, .value _ => .refused issues
  | .refused first, .refused second => .refused (first ++ second)

instance : Applicative Reading where
  pure := .value
  map := map
  seq f a := apply f (a ())

def toExcept : Reading α → Except (List Issue) α
  | .value a => .ok a
  | .refused issues => .error issues

def under (step : Step) : Reading α → Reading α
  | .value a => .value a
  | .refused issues =>
      .refused (issues.map fun issue => { issue with path := step :: issue.path })

@[simp] theorem map_value (f : α → β) (a : α) : f <$> (value a : Reading α) = value (f a) := rfl

@[simp] theorem seq_value (f : α → β) (a : α) :
    (value f : Reading (α → β)) <*> (value a : Reading α) = value (f a) := rfl

@[simp] theorem pure_eq_value (a : α) : (pure a : Reading α) = value a := rfl

@[simp] theorem under_value (step : Step) (a : α) : under step (value a) = value a := rfl

end Reading

variable {α : Type}

def refuse (mismatch : Mismatch) : Reading α := .refused [⟨mismatch, []⟩]

def required (name : String) (read : Json → Reading α) (members : Members) : Reading α :=
  (match members.lookup name with
  | none => refuse .missing
  | some item => read item).under (.field name)

def defaulted (name : String) (default : α) (read : Json → Reading α) (members : Members) :
    Reading α :=
  match members.lookup name with
  | none => .value default
  | some item => (read item).under (.field name)

/-- An absent member and a null are both no value. -/
def optional (name : String) (read : Json → Reading α) (members : Members) :
    Reading (Option α) :=
  match members.lookup name with
  | none => .value none
  | some .null => .value none
  | some item => some <$> (read item).under (.field name)

def record (read : Members → Reading α) : Json → Reading α
  | .object members => read members
  | _ => refuse .notRecord

def items (read : Json → Reading α) : Nat → List Json → Reading (List α)
  | _, [] => .value []
  | position, item :: rest =>
      List.cons <$> (read item).under (.index position) <*> items read (position + 1) rest

def list (read : Json → Reading α) : Json → Reading (List α)
  | .array values => items read 0 values
  | _ => refuse .notList

def tuple (read : Json → Reading α) : Json → Reading (List α)
  | .array values => items read 0 values
  | _ => refuse .notTuple

/-- A record whose member `kind` says which of several shapes it has. -/
def tagged (notObject : Mismatch) (shape? : String → Option (Members → Reading α)) :
    Json → Reading α
  | .object members =>
      match members.lookup "kind" with
      | none => refuse .tagNotFound
      | some (.string tag) =>
          match shape? tag with
          | none => refuse .tagInvalid
          | some read => (read members).under (.field tag)
      | some _ => refuse .tagInvalid
  | _ => refuse notObject

theorem items_map_eq_value {read : Json → Reading α} {encode : α → Json} (values : List α)
    (reads : ∀ item ∈ values, read (encode item) = .value item) (position : Nat) :
    items read position (values.map encode) = .value values := by
  induction values generalizing position with
  | nil => rfl
  | cons item rest ih =>
      simp only [List.map_cons, items]
      rw [reads item (by simp), ih (fun other inside => reads other (by simp [inside]))]
      rfl

end NativeBoundary.Schema
