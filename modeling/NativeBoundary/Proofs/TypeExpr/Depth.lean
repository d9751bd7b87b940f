import NativeBoundary.Proofs.TypeExpr.Reading

/-!
# How deep a text goes

The reader of type texts stops where too many types stand around one.  On a text that spells an
expression it comes exactly as deep as the expression is nested in that spelling, where a sequence
or a map counts as one level and in metadata an option does too.  So a text is read exactly if it
spells an expression that stays within the limit.
-/

namespace NativeBoundary.TypeExpr

variable {spelling : Spelling} {text : String} {location : Option Location}

mutual

/-- The greatest number of types that are written around a type of the expression. -/
def nesting (spelling : Spelling) : TypeExpr → Nat
  | ⟨shape, _, element, key, value, nullable, _⟩ =>
      let around :=
        match shape with
        | .identifier => 0
        | .sequence => nestingOption spelling element + 1
        | .map => max (nestingOption spelling key) (nestingOption spelling value) + 1
      if nullable ∧ spelling = .metadata then around + 1 else around

def nestingOption (spelling : Spelling) : Option TypeExpr → Nat
  | none => 0
  | some expr => nesting spelling expr

end

theorem nesting_nullable {expr : TypeExpr} (single : expr.nullable = false) :
    nesting spelling { expr with nullable := true } =
      expr.nesting spelling + if spelling = .metadata then 1 else 0 := by
  cases expr
  cases single
  cases spelling <;> simp [nesting]

theorem nesting_named (name : String) :
    nesting spelling { named name with location } = 0 := by
  simp [nesting, named]

theorem nesting_sequenceOf (element : TypeExpr) :
    nesting spelling { sequenceOf element with location } = element.nesting spelling + 1 := by
  simp [nesting, nestingOption, sequenceOf]

theorem nesting_mapOf (key value : TypeExpr) :
    nesting spelling { mapOf key value with location } =
      max (key.nesting spelling) (value.nesting spelling) + 1 := by
  simp [nesting, nestingOption, mapOf]

theorem spelling_of_option {name : String} (head : spelling.head name = .option) :
    spelling = .metadata := by
  unfold Spelling.head at head
  split at head <;> first | rfl | cases head

/-- A question mark is no level of its own. -/
theorem nesting_markNullable {expr marked : TypeExpr} {after rest : List Token}
    (single : expr.nullable = false)
    (same : markNullable spelling expr after = (marked, rest)) :
    marked.nesting spelling = expr.nesting spelling := by
  rcases markNullable_cases same with ⟨rfl, -, rfl⟩ | ⟨rfl, -, -⟩
  · rw [nesting_nullable single]
    rfl
  · rfl

theorem behind_markNullable {expr marked : TypeExpr} {after rest : List Token} :
    markNullable spelling expr after = (marked, rest) →
      (match spelling, after with
        | .document, .question :: behind => behind
        | _, _ => after) = rest := by
  intro same
  rcases markNullable_cases same with ⟨rfl, rfl, -⟩ | ⟨-, rfl, unmarked⟩
  · rfl
  · split
    · next behind => exact absurd rfl (unmarked rfl)
    · rfl

/-- Only an option begins with the name of an option. -/
theorem Reads.opensOption_eq_false {tokens rest : List Token} {expr : TypeExpr}
    (reads : Reads .metadata location tokens expr rest) (single : expr.nullable = false) :
    opensOption .metadata tokens = false := by
  cases reads with
  | plain head _ => simp [opensOption, head]
  | sequence head _ _ => simp [opensOption, head]
  | map head _ _ _ => simp [opensOption, head]
  | option _ _ _ => cases single

/-- How far the reader comes is told by the nesting of what it reads, for each of the types that it
comes to has its place in the expression. -/
theorem reachWithin_of_reads {tokens rest : List Token} {expr : TypeExpr}
    (reads : Reads spelling location tokens expr rest) {bound : Nat}
    (enough : tokens.length ≤ bound) (depth : Nat) :
    reachWithin spelling depth bound tokens = (depth + expr.nesting spelling, some rest) := by
  induction reads generalizing bound depth with
  | plain head marked =>
      obtain ⟨bound, rfl, enough⟩ := exists_bound enough
      rw [reachWithin, head, nesting_markNullable rfl marked, nesting_named]
      exact Prod.ext rfl (congrArg some (behind_markNullable marked))
  | sequence head inner marked ih =>
      obtain ⟨bound, rfl, enough⟩ := exists_bound enough
      simp only [List.length_cons] at enough
      rw [reachWithin, head, nesting_markNullable rfl marked, nesting_sequenceOf]
      dsimp
      rw [ih (by omega)]
      exact Prod.ext (by omega) (congrArg some (behind_markNullable marked))
  | map head first next marked ihFirst ihNext =>
      obtain ⟨bound, rfl, enough⟩ := exists_bound enough
      have shorter := first.length_lt
      simp only [List.length_cons] at enough shorter
      rw [reachWithin, head, nesting_markNullable rfl marked, nesting_mapOf]
      dsimp
      rw [ihFirst (by omega)]
      dsimp
      rw [ihNext (by omega)]
      exact Prod.ext (by omega) (congrArg some (behind_markNullable marked))
  | option head inner single ih =>
      obtain ⟨bound, rfl, enough⟩ := exists_bound enough
      simp only [List.length_cons] at enough
      cases spelling_of_option head
      rw [reachWithin, head, nesting_nullable single, if_pos rfl]
      dsimp
      rw [ih (by omega)]
      dsimp
      rw [inner.opensOption_eq_false single]
      exact Prod.ext (by omega) rfl

/-- A text is read exactly if it spells an expression and is not nested too deeply. -/
theorem readText_eq_ok_iff {expr : TypeExpr} :
    readText spelling text location = .ok expr ↔
      parse spelling text location = .ok expr ∧ expr.nesting spelling ≤ deepestText := by
  unfold readText
  cases scanned : Token.scan text.toList with
  | error bad =>
      have refused : parse spelling text location ≠ .ok expr := by
        unfold parse
        rw [scanned]
        exact (nomatch ·)
      exact iff_of_false refused fun both => refused both.1
  | ok tokens =>
      have reached (parsed : parse spelling text location = .ok expr) :
          reach spelling tokens = expr.nesting spelling := by
        obtain ⟨others, lexed, reads⟩ := parse_eq_ok_iff.mp parsed
        cases lexed.unique (lexed_of_scan scanned)
        rw [reach, reachWithin_of_reads reads (Nat.le_refl _), Nat.zero_add]
      dsimp only
      split
      · next within =>
        exact ⟨fun parsed => ⟨parsed, reached parsed ▸ within⟩, And.left⟩
      · next beyond =>
        exact iff_of_false (nomatch ·) fun ⟨parsed, within⟩ => beyond (reached parsed ▸ within)

end NativeBoundary.TypeExpr
