import NativeBoundary.Text.CharacterName.Basic
import Mathlib.Data.List.TakeDrop

/-!
# The characters that have a name

A search goes once through the text of a table and keeps two numbers about the latest name. Here the
text is unfolded into its names instead. The two numbers are the length of the latest name and the
length of what it has in common with the wanted one, at every point of the text, so a search finds
exactly the names of the table. With the two families of names that follow from codes and sounds,
this tells which names an escape may use.
-/

namespace NativeBoundary.Text.CharacterName

/-- A table that has been unfolded up to some point: the latest name, as far as it has been read,
and those before it. A number that passes the end of a name leaves unknown characters behind it. -/
structure Unfolding where
  name : List (Option Char) := []
  shared : Option Nat := none
  names : List (List (Option Char)) := []

namespace Unfolding

/-- How many characters of the latest name stand in front of the next one. -/
def kept (unfolding : Unfolding) : Nat := unfolding.shared.getD unfolding.name.length

def step (unfolding : Unfolding) (c : Char) : Unfolding :=
  let value := c.toNat - 'a'.toNat
  if c.isWhitespace && c ≠ ' ' then unfolding
  else if c.isLower then
    match unfolding.shared with
    | some shared => { unfolding with shared := some (shared + value) }
    | none =>
        { unfolding with shared := some value, names := unfolding.name :: unfolding.names }
  else
    { unfolding with
      name := unfolding.name.takeD unfolding.kept none ++ [some c]
      shared := none }

end Unfolding

/-- The names of a table, the latest first and an empty one in front of all. -/
def names (table : List Char) : List (List (Option Char)) :=
  let unfolding := table.foldl Unfolding.step {}
  unfolding.name :: unfolding.names

/-- How many characters a name and a wanted one have in common from their beginnings on. -/
def agreement : List (Option Char) → List Char → Nat
  | some c :: name, d :: wanted => if c = d then agreement name wanted + 1 else 0
  | _, _ => 0

theorem agreement_takeD (name : List (Option Char)) (wanted : List Char) (count : Nat) :
    agreement (name.takeD count none) wanted = min (agreement name wanted) count := by
  induction count generalizing name wanted with
  | zero => simp [agreement]
  | succ count ih =>
      rcases name with _ | ⟨_ | c, rest⟩
      · simp [agreement]
      · simp [agreement]
      · cases wanted with
        | nil => simp [agreement]
        | cons d others =>
            by_cases same : c = d
            · simp [agreement, same, ih]
            · simp [agreement, same]

theorem agreement_append (name : List (Option Char)) (wanted : List Char) (c : Char) :
    agreement (name ++ [some c]) wanted =
      if agreement name wanted = name.length ∧ wanted[name.length]? = some c then name.length + 1
      else agreement name wanted := by
  induction name generalizing wanted with
  | nil =>
      cases wanted with
      | nil => simp [agreement]
      | cons d others => simp [agreement, eq_comm]
  | cons first rest ih =>
      cases first with
      | none => simp [agreement]
      | some letter =>
          cases wanted with
          | nil => simp [agreement]
          | cons d others =>
              by_cases same : letter = d
              · simp only [List.cons_append, agreement, if_pos same, ih, List.length_cons,
                  List.getElem?_cons_succ, Nat.add_right_cancel_iff]
                split <;> rfl
              · simp [agreement, same]

theorem agreement_eq_length_iff {name : List (Option Char)} {wanted : List Char} :
    name.length = wanted.length ∧ agreement name wanted = wanted.length ↔
      name = wanted.map some := by
  induction name generalizing wanted with
  | nil => cases wanted <;> simp [agreement]
  | cons first rest ih =>
      cases wanted with
      | nil => simp
      | cons d others =>
          have tail := @ih others
          cases first with
          | none => simp [agreement]
          | some letter =>
              by_cases same : letter = d
              · simpa [agreement, same] using tail
              · simp [agreement, same]

namespace Search

variable (wanted : List Char)

/-- The search for a name at the point up to which a table has been unfolded. -/
def reached (unfolding : Unfolding) : Search where
  count := unfolding.name.length
  agreed := agreement unfolding.name wanted
  shared := unfolding.shared
  found := unfolding.names.contains (wanted.map some)

theorem isHit_reached (unfolding : Unfolding) :
    (reached wanted unfolding).isHit wanted.toArray = (wanted.map some == unfolding.name) := by
  rw [Bool.eq_iff_iff]
  simp only [isHit, reached, List.size_toArray, Bool.and_eq_true, decide_eq_true_eq, beq_iff_eq]
  rw [agreement_eq_length_iff, eq_comm]

theorem step_reached (unfolding : Unfolding) (c : Char) :
    (reached wanted unfolding).step wanted.toArray c = reached wanted (unfolding.step c) := by
  obtain ⟨name, shared, names⟩ := unfolding
  unfold step Unfolding.step
  dsimp only
  split
  · rfl
  split
  · cases shared with
    | some shared => rfl
    | none =>
        rw [isHit_reached]
        simp only [reached, List.contains_cons, Bool.or_comm]
  · simp [reached, Unfolding.kept, agreement_append, agreement_takeD, List.takeD_length]

theorem foldl_reached (table : List Char) :
    table.foldl (step wanted.toArray) {} = reached wanted (table.foldl Unfolding.step {}) := by
  have start : reached wanted {} = {} := by simp [reached, agreement]
  rw [← start]
  exact List.foldl_hom (reached wanted) (step_reached wanted)

end Search

/-- A search finds the names of a table and no others. -/
theorem holds_iff {table name : List Char} :
    holds table name = true ↔ name ≠ [] ∧ name.map some ∈ names table := by
  simp only [holds, Search.foldl_reached, Search.isHit_reached, names]
  simp [Search.reached, or_comm]

example : holds "aABCcDeF".toList "ABDF".toList = false ∧
    holds "aABCcDdF".toList "ABDF".toList = true := by decide

theorem behind?_eq_some_iff {beginning : String} {name rest : List Char} :
    behind? beginning name = some rest ↔ name = beginning.toList ++ rest := by
  unfold behind?
  constructor
  · intro found
    split at found
    · rename_i begins
      obtain ⟨others, rfl⟩ := List.isPrefixOf_iff_prefix.mp begins
      cases found
      rw [← String.length_toList, List.drop_left]
    · cases found
  · rintro rfl
    rw [if_pos (List.isPrefixOf_iff_prefix.mpr (List.prefix_append _ _)), ← String.length_toList,
      List.drop_left]

theorem isSyllable_iff {sounds : List Char} :
    isSyllable sounds = true ↔
      ∃ leading ∈ leadingSounds, ∃ vowel ∈ vowelSounds, ∃ trailing ∈ trailingSounds,
        sounds = leading.toList ++ (vowel.toList ++ trailing.toList) := by
  simp only [isSyllable, List.any_eq_true]
  constructor
  · rintro ⟨leading, isLeading, others⟩
    split at others
    · cases others
    rename_i rest behind
    simp only [List.any_eq_true, Option.any_eq_true, List.contains_eq_mem, decide_eq_true_eq]
      at others
    obtain ⟨vowel, isVowel, trailing, behindVowel, isTrailing⟩ := others
    refine ⟨leading, isLeading, vowel, isVowel, _, isTrailing, ?_⟩
    rw [behind?_eq_some_iff.mp behind, behind?_eq_some_iff.mp behindVowel, String.toList_ofList]
  · rintro ⟨leading, isLeading, vowel, isVowel, trailing, isTrailing, rfl⟩
    refine ⟨leading, isLeading, ?_⟩
    rw [behind?_eq_some_iff.mpr rfl]
    refine List.any_eq_true.mpr ⟨vowel, isVowel, ?_⟩
    simpa [behind?_eq_some_iff.mpr rfl] using isTrailing

/-- The names that an escape may use. -/
theorem isName_iff {name : List Char} :
    isName name = true ↔
      (∃ digits, name = "CJK UNIFIED IDEOGRAPH-".toList ++ digits ∧
        isIdeographCode digits = true) ∨
      (∃ leading ∈ leadingSounds, ∃ vowel ∈ vowelSounds, ∃ trailing ∈ trailingSounds,
        name = "HANGUL SYLLABLE ".toList ++
          (leading.toList ++ (vowel.toList ++ trailing.toList))) ∨
      name ≠ [] ∧ (name.map Char.toUpper).map some ∈ names table.toList := by
  have syllable : (behind? "HANGUL SYLLABLE " name).any isSyllable = true ↔
      ∃ leading ∈ leadingSounds, ∃ vowel ∈ vowelSounds, ∃ trailing ∈ trailingSounds,
        name = "HANGUL SYLLABLE ".toList ++
          (leading.toList ++ (vowel.toList ++ trailing.toList)) := by
    simp only [Option.any_eq_true, behind?_eq_some_iff, isSyllable_iff]
    constructor
    · rintro ⟨_, rfl, leading, isLeading, vowel, isVowel, trailing, isTrailing, rfl⟩
      exact ⟨leading, isLeading, vowel, isVowel, trailing, isTrailing, rfl⟩
    · rintro ⟨leading, isLeading, vowel, isVowel, trailing, isTrailing, rfl⟩
      exact ⟨_, rfl, leading, isLeading, vowel, isVowel, trailing, isTrailing, rfl⟩
  rw [isName, Bool.or_eq_true, Bool.or_eq_true, or_assoc, syllable, holds_iff, ne_eq,
    List.map_eq_nil_iff, Option.any_eq_true]
  simp only [behind?_eq_some_iff, ne_eq]

end NativeBoundary.Text.CharacterName
