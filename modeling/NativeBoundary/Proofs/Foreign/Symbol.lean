import Mathlib.Data.List.Infix
import NativeBoundary.Interface.Basic
import NativeBoundary.Proofs.Json.Escape

/-!
# Foreign symbols

A symbol is what the name of a foreign function is made from.  Its text is the symbol space with the
names that belong to it behind, joined by low lines, and the symbols that stand for no declared
callable carry a mark in front.  Two different symbols have the same text only if both are callables
whose joined names are the same: the mark cannot come from the space, which ends in hexadecimal
digits, and the marked symbols end differently.  Under spaces that differ in those digits alone no
two symbols have the same text.
-/

namespace NativeBoundary

/-- The four ways in which byte buffers are handled. -/
inductive BufferUse where
  | alloc | fromBytes | free | reserve
  deriving DecidableEq

def BufferUse.name : BufferUse → String
  | .alloc => "alloc"
  | .fromBytes => "from_bytes"
  | .free => "free"
  | .reserve => "reserve"

def BufferUse.all : List BufferUse := [.alloc, .fromBytes, .free, .reserve]

inductive Symbol where
  | release (object : String)
  | member (object callable : String)
  | register (callback : String)
  | function (name : String)
  | buffer (use : BufferUse)
  deriving DecidableEq

namespace Symbol

/-- The name under which a callable of an object is known outside of it. -/
def joined (object callable : String) : String := object ++ "_" ++ callable

def isMarked : Symbol → Bool
  | .release _ | .register _ | .buffer _ => true
  | .member _ _ | .function _ => false

/-- What stands behind the symbol space. -/
def body : Symbol → String
  | .release object => object ++ "_object_free"
  | .member object callable => joined object callable
  | .register callback => callback ++ "_init_callback"
  | .function name => name
  | .buffer use => "bytebuffer_" ++ use.name

def text (space : String) (symbol : Symbol) : String :=
  match symbol.isMarked with
  | true => "ffi_" ++ space ++ "_" ++ symbol.body
  | false => space ++ "_" ++ symbol.body

theorem text_release (space object : String) :
    (release object).text space = s!"ffi_{space}_{object}_object_free" := by
  simp only [text, isMarked, body, String.append_assoc]
  rfl

theorem text_member (space object callable : String) :
    (member object callable).text space = s!"{space}_{object}_{callable}" := by
  simp only [text, isMarked, body, joined, String.append_assoc]
  rfl

theorem text_register (space callback : String) :
    (register callback).text space = s!"ffi_{space}_{callback}_init_callback" := by
  simp only [text, isMarked, body, String.append_assoc]
  rfl

theorem text_function (space name : String) :
    (function name).text space = s!"{space}_{name}" := rfl

theorem text_buffer (space : String) (use : BufferUse) :
    (buffer use).text space = s!"ffi_{space}_bytebuffer_{use.name}" := by
  simp only [text, isMarked, body, String.append_assoc]
  rfl

/-! ## The endings behind a mark -/

/-- Texts with different endings, neither of which ends in the other, differ. -/
theorem append_ne_of_endings {first second : String} (front other : String)
    (notFirst : ¬ first.toList <:+ second.toList) (notSecond : ¬ second.toList <:+ first.toList) :
    front ++ first ≠ other ++ second := by
  intro same
  have lists : front.toList ++ first.toList = other.toList ++ second.toList := by
    rw [← String.toList_append, same, String.toList_append]
  have ending : first.toList <:+ other.toList ++ second.toList := by
    rw [← lists]
    exact List.suffix_append _ _
  rcases List.suffix_or_suffix_of_suffix ending (List.suffix_append _ _) with inside | inside
  · exact notFirst inside
  · exact notSecond inside

theorem release_ne_register (object callback : String) :
    (release object).body ≠ (register callback).body :=
  append_ne_of_endings object callback (by decide) (by decide)

theorem release_ne_buffer (object : String) (use : BufferUse) :
    (release object).body ≠ (buffer use).body := by
  rw [body, body, ← String.empty_append (s := "bytebuffer_" ++ use.name)]
  cases use <;> exact append_ne_of_endings object "" (by decide) (by decide)

theorem register_ne_buffer (callback : String) (use : BufferUse) :
    (register callback).body ≠ (buffer use).body := by
  rw [body, body, ← String.empty_append (s := "bytebuffer_" ++ use.name)]
  cases use <;> exact append_ne_of_endings callback "" (by decide) (by decide)

theorem buffer_inj {use other : BufferUse} (same : (buffer use).body = (buffer other).body) :
    use = other := by
  cases use <;> cases other <;> first | rfl | exact absurd same (by decide)

/-- A marked symbol is told by what stands behind the space. -/
theorem eq_of_marked {first second : Symbol} (firstMarked : first.isMarked = true)
    (secondMarked : second.isMarked = true) (same : first.body = second.body) :
    first = second := by
  cases first with
  | member | function => cases firstMarked
  | release object =>
      cases second with
      | member | function => cases secondMarked
      | release other => rw [(String.append_left_inj _).mp same]
      | register callback => exact absurd same (release_ne_register object callback)
      | buffer use => exact absurd same (release_ne_buffer object use)
  | register callback =>
      cases second with
      | member | function => cases secondMarked
      | release object => exact absurd same.symm (release_ne_register object callback)
      | register other => rw [(String.append_left_inj _).mp same]
      | buffer use => exact absurd same (register_ne_buffer callback use)
  | buffer use =>
      cases second with
      | member | function => cases secondMarked
      | release object => exact absurd same.symm (release_ne_buffer object use)
      | register callback => exact absurd same.symm (register_ne_buffer callback use)
      | buffer other => rw [buffer_inj same]

/-! ## The mark in front -/

theorem low_line_not_mem_hexDigits (width n : Nat) : '_' ∉ Text.hexDigits width n := by
  intro member
  obtain ⟨value, small, same⟩ := Text.exists_of_mem_hexDigits member
  have apart : ∀ value < 16, '_' ≠ Text.hexDigit value := by decide
  exact apart value small same

/-- A space that ends in a low line and four hexadecimal digits. -/
def Ends (space : String) : Prop :=
  ∃ front n, space.toList = front ++ '_' :: Text.hexDigits 4 n

variable {space other : String}

/-- With the mark in front, the low line behind the common front would come to stand where the last
digit does. -/
theorem unmarked_ne_marked_of_front {front : List Char} {m n : Nat}
    (shape : space.toList = front ++ '_' :: Text.hexDigits 4 m)
    (otherShape : other.toList = front ++ '_' :: Text.hexDigits 4 n) (first second : String) :
    space ++ "_" ++ first ≠ "ffi_" ++ other ++ "_" ++ second := by
  intro same
  have noLowLine := low_line_not_mem_hexDigits 4 m
  obtain ⟨a, b, c, d, digits⟩ := Json.hexDigits_four m
  rw [digits] at shape noLowLine
  have lists := congrArg (fun text => text.toList[front.length + 4]?) same
  simp only [String.toList_append, shape, otherShape, List.append_assoc] at lists
  have left : (front ++ ('_' :: [a, b, c, d] ++ ("_".toList ++ first.toList)))[front.length + 4]? =
      some d := by
    rw [List.getElem?_append_right (Nat.le_add_right _ _), Nat.add_sub_cancel_left]
    rfl
  have right : ("ffi_".toList ++ (front ++ ('_' :: Text.hexDigits 4 n ++
      ("_".toList ++ second.toList))))[front.length + 4]? = some '_' := by
    change (front ++ ('_' :: Text.hexDigits 4 n ++
      ("_".toList ++ second.toList)))[front.length]? = _
    rw [List.getElem?_append_right (Nat.le_refl _), Nat.sub_self]
    rfl
  rw [left, right] at lists
  cases lists
  simp at noLowLine

theorem unmarked_ne_marked (ends : Ends space) (first second : String) :
    space ++ "_" ++ first ≠ "ffi_" ++ space ++ "_" ++ second := by
  obtain ⟨front, n, shape⟩ := ends
  exact unmarked_ne_marked_of_front shape shape first second

/-- Exactly the callables with one joined name share a text. -/
theorem text_eq_iff (ends : Ends space) {first second : Symbol} :
    first.text space = second.text space ↔
      first = second ∨
        first.isMarked = false ∧ second.isMarked = false ∧ first.body = second.body := by
  unfold text
  constructor
  · intro same
    cases firstMarked : first.isMarked <;> cases secondMarked : second.isMarked <;>
      simp only [firstMarked, secondMarked] at same
    · exact Or.inr ⟨rfl, rfl, (String.append_right_inj _).mp same⟩
    · exact absurd same (unmarked_ne_marked ends _ _)
    · exact absurd same.symm (unmarked_ne_marked ends _ _)
    · exact Or.inl (eq_of_marked firstMarked secondMarked ((String.append_right_inj _).mp same))
  · rintro (rfl | ⟨firstPlain, secondPlain, same⟩)
    · rfl
    · simp only [firstPlain, secondPlain, same]

/-! ## Two spaces over one front -/

/-- Behind a common front, different digits make different texts, whatever follows them. -/
theorem append_ne_of_digits {front : List Char} {m n : Nat}
    (shape : space.toList = front ++ '_' :: Text.hexDigits 4 m)
    (otherShape : other.toList = front ++ '_' :: Text.hexDigits 4 n)
    (differ : m % 16 ^ 4 ≠ n % 16 ^ 4) (first second : String) :
    space ++ first ≠ other ++ second := by
  intro same
  have lists := congrArg String.toList same
  simp only [String.toList_append, shape, otherShape, List.append_assoc, List.cons_append] at lists
  have behind := List.tail_eq_of_cons_eq (List.append_cancel_left lists)
  have lengths : (Text.hexDigits 4 m).length = (Text.hexDigits 4 n).length := by
    rw [Text.hexDigits_length, Text.hexDigits_length]
  have digits := List.append_inj_left behind lengths
  apply differ
  rw [← Json.hexNumber_hexDigits, digits, Json.hexNumber_hexDigits]

/-- Where spaces differ in their digits alone, no text of one is a text of the other. -/
theorem text_ne_of_digits {front : List Char} {m n : Nat}
    (shape : space.toList = front ++ '_' :: Text.hexDigits 4 m)
    (otherShape : other.toList = front ++ '_' :: Text.hexDigits 4 n)
    (differ : m % 16 ^ 4 ≠ n % 16 ^ 4) (first second : Symbol) :
    first.text space ≠ second.text other := by
  unfold text
  cases first.isMarked <;> cases second.isMarked <;> simp only
  · rw [String.append_assoc, String.append_assoc]
    exact append_ne_of_digits shape otherShape differ _ _
  · exact unmarked_ne_marked_of_front shape otherShape _ _
  · exact (unmarked_ne_marked_of_front otherShape shape _ _).symm
  · intro same
    simp only [String.append_assoc] at same
    exact append_ne_of_digits shape otherShape differ _ _ ((String.append_right_inj _).mp same)

end Symbol

end NativeBoundary
