import NativeBoundary.Proofs.Action.Results
import NativeBoundary.Proofs.TypeExpr.Lexing
import NativeBoundary.TypeExpr.Nesting

/-!
# Expressions at the front of a list of tokens

`Reads` tells which expression stands at the front of a list of tokens and what is left behind it,
by one rule for each constructor of the spelling and without any bound.  The parser finds exactly
this, since its bound is never below the number of tokens, and it comes as deep as the nesting of
the expression that it finds.  Every text that it refuses is refused as malformed.
-/

namespace NativeBoundary.TypeExpr

variable {spelling : Spelling} {text : String} {location : Option Location}

/-- The expression stands at the front of the tokens, with the rest behind it. -/
inductive Reads (spelling : Spelling) (location : Option Location) :
    List Token → TypeExpr → List Token → Prop where
  | plain {name written : String} {behind rest : List Token} {expr : TypeExpr}
      (head : spelling.head name = .plain written)
      (marked : markNullable spelling { named written with location } behind = (expr, rest)) :
      Reads spelling location (.identifier name :: behind) expr rest
  | sequence {name : String} {tokens after rest : List Token} {element expr : TypeExpr}
      (head : spelling.head name = .sequence)
      (inner : Reads spelling location tokens element (.closing :: after))
      (marked : markNullable spelling { sequenceOf element with location } after = (expr, rest)) :
      Reads spelling location (.identifier name :: .opening :: tokens) expr rest
  | map {name : String} {tokens second after rest : List Token} {key value expr : TypeExpr}
      (head : spelling.head name = .map)
      (first : Reads spelling location tokens key (.comma :: second))
      (next : Reads spelling location second value (.closing :: after))
      (marked : markNullable spelling { mapOf key value with location } after = (expr, rest)) :
      Reads spelling location (.identifier name :: .opening :: tokens) expr rest
  | option {name : String} {tokens rest : List Token} {expr : TypeExpr}
      (head : spelling.head name = .option)
      (inner : Reads spelling location tokens expr (.closing :: rest))
      (single : expr.nullable = false) :
      Reads spelling location (.identifier name :: .opening :: tokens)
        { expr with nullable := true } rest

theorem expect_eq_ok_iff {expected : Token} {tokens rest : List Token} :
    expect text expected tokens = .ok rest ↔ tokens = expected :: rest := by
  cases tokens with
  | nil => simp [expect]
  | cons token others =>
      change (if token = expected then _ else _) = _ ↔ _
      by_cases same : token = expected
      · rw [if_pos same, same, Except.ok.injEq, List.cons.injEq, and_iff_right rfl]
      · simp [same]

/-- What is read at the front is read whole before anything behind it. -/
theorem reads_of_parseWithin {bound : Nat} {tokens rest : List Token} {expr : TypeExpr}
    (parsed : parseWithin spelling text location bound tokens = .ok (expr, rest)) :
    Reads spelling location tokens expr rest := by
  induction bound generalizing tokens expr rest with
  | zero => cases tokens <;> cases parsed
  | succ bound ih =>
      unfold parseWithin at parsed
      split at parsed
      · cases parsed
      · cases parsed
      · next name behind same =>
        cases same
        split at parsed
        · next written head => exact .plain head (Except.ok.inj parsed)
        · next head =>
          obtain ⟨inner, opened, parsed⟩ := Results.bind_eq_ok.mp parsed
          obtain ⟨⟨element, afterElement⟩, read, parsed⟩ := Results.bind_eq_ok.mp parsed
          obtain ⟨after, closed, parsed⟩ := Results.bind_eq_ok.mp parsed
          rw [expect_eq_ok_iff.mp opened]
          rw [expect_eq_ok_iff.mp closed] at read
          exact .sequence head (ih read) (Except.ok.inj parsed)
        · next head =>
          obtain ⟨inner, opened, parsed⟩ := Results.bind_eq_ok.mp parsed
          obtain ⟨⟨key, afterKey⟩, readKey, parsed⟩ := Results.bind_eq_ok.mp parsed
          obtain ⟨second, parted, parsed⟩ := Results.bind_eq_ok.mp parsed
          obtain ⟨⟨value, afterValue⟩, readValue, parsed⟩ := Results.bind_eq_ok.mp parsed
          obtain ⟨after, closed, parsed⟩ := Results.bind_eq_ok.mp parsed
          rw [expect_eq_ok_iff.mp opened]
          rw [expect_eq_ok_iff.mp parted] at readKey
          rw [expect_eq_ok_iff.mp closed] at readValue
          exact .map head (ih readKey) (ih readValue) (Except.ok.inj parsed)
        · next head =>
          obtain ⟨inner, opened, parsed⟩ := Results.bind_eq_ok.mp parsed
          obtain ⟨⟨wrapped, afterExpr⟩, read, parsed⟩ := Results.bind_eq_ok.mp parsed
          obtain ⟨after, closed, parsed⟩ := Results.bind_eq_ok.mp parsed
          rw [expect_eq_ok_iff.mp opened]
          rw [expect_eq_ok_iff.mp closed] at read
          split at parsed
          · cases parsed
          · next single =>
            cases parsed
            exact .option head (ih read) (by simpa using single)
      · cases parsed

/-- In a document a question mark is taken off, if one follows. -/
theorem markNullable_cases {expr marked : TypeExpr} {after rest : List Token}
    (same : markNullable spelling expr after = (marked, rest)) :
    (spelling = .document ∧ after = .question :: rest ∧ marked = { expr with nullable := true }) ∨
      (marked = expr ∧ rest = after ∧ (spelling = .document → after.head? ≠ some .question)) := by
  unfold markNullable at same
  split at same
  · cases same
    exact .inl ⟨rfl, rfl, rfl⟩
  · next unmarked =>
    cases same
    refine .inr ⟨rfl, rfl, ?_⟩
    rintro rfl first
    cases after with
    | nil => cases first
    | cons token behind =>
        cases first
        exact unmarked behind rfl rfl

theorem length_markNullable_le {expr marked : TypeExpr} {after rest : List Token}
    (same : markNullable spelling expr after = (marked, rest)) : rest.length ≤ after.length := by
  rcases markNullable_cases same with ⟨-, rfl, -⟩ | ⟨-, rfl, -⟩
  · exact Nat.le_succ _
  · exact Nat.le_refl _

theorem Reads.length_lt {tokens rest : List Token} {expr : TypeExpr}
    (reads : Reads spelling location tokens expr rest) : rest.length < tokens.length := by
  induction reads with
  | plain _ marked =>
      have shorter := length_markNullable_le marked
      simp only [List.length_cons]
      omega
  | sequence _ _ marked ih =>
      have shorter := length_markNullable_le marked
      simp only [List.length_cons] at ih ⊢
      omega
  | map _ _ _ marked ihFirst ihNext =>
      have shorter := length_markNullable_le marked
      simp only [List.length_cons] at ihFirst ihNext ⊢
      omega
  | option _ _ _ ih =>
      simp only [List.length_cons] at ih ⊢
      omega

theorem exists_bound {token : Token} {tokens : List Token} {bound : Nat}
    (enough : (token :: tokens).length ≤ bound) :
    ∃ others, bound = others + 1 ∧ tokens.length ≤ others := by
  cases bound with
  | zero => cases enough
  | succ others => exact ⟨others, rfl, Nat.le_of_succ_le_succ enough⟩

/-- The bound never stands in the way where it is as large as the list of tokens. -/
theorem parseWithin_of_reads {tokens rest : List Token} {expr : TypeExpr}
    (reads : Reads spelling location tokens expr rest) {bound : Nat}
    (enough : tokens.length ≤ bound) :
    parseWithin spelling text location bound tokens = .ok (expr, rest) := by
  induction reads generalizing bound with
  | plain head marked =>
      obtain ⟨bound, rfl, enough⟩ := exists_bound enough
      rw [parseWithin, head]
      exact congrArg Except.ok marked
  | sequence head inner marked ih =>
      obtain ⟨bound, rfl, enough⟩ := exists_bound enough
      simp only [List.length_cons] at enough
      rw [parseWithin, head]
      exact Results.bind_eq_ok.mpr ⟨_, expect_eq_ok_iff.mpr rfl,
        Results.bind_eq_ok.mpr ⟨_, ih (by omega),
          Results.bind_eq_ok.mpr ⟨_, expect_eq_ok_iff.mpr rfl, congrArg Except.ok marked⟩⟩⟩
  | map head first next marked ihFirst ihNext =>
      obtain ⟨bound, rfl, enough⟩ := exists_bound enough
      have shorter := first.length_lt
      simp only [List.length_cons] at enough shorter
      rw [parseWithin, head]
      exact Results.bind_eq_ok.mpr ⟨_, expect_eq_ok_iff.mpr rfl,
        Results.bind_eq_ok.mpr ⟨_, ihFirst (by omega),
          Results.bind_eq_ok.mpr ⟨_, expect_eq_ok_iff.mpr rfl,
            Results.bind_eq_ok.mpr ⟨_, ihNext (by omega),
              Results.bind_eq_ok.mpr ⟨_, expect_eq_ok_iff.mpr rfl, congrArg Except.ok marked⟩⟩⟩⟩⟩
  | option head inner single ih =>
      obtain ⟨bound, rfl, enough⟩ := exists_bound enough
      simp only [List.length_cons] at enough
      rw [parseWithin, head]
      refine Results.bind_eq_ok.mpr ⟨_, expect_eq_ok_iff.mpr rfl,
        Results.bind_eq_ok.mpr ⟨_, ih (by omega),
          Results.bind_eq_ok.mpr ⟨_, expect_eq_ok_iff.mpr rfl, ?_⟩⟩⟩
      rw [single, if_neg Bool.false_ne_true]

/-- One expression at most stands at the front of a list of tokens. -/
theorem Reads.unique {tokens rest otherRest : List Token} {expr other : TypeExpr}
    (reads : Reads spelling location tokens expr rest)
    (others : Reads spelling location tokens other otherRest) :
    expr = other ∧ rest = otherRest := by
  have parsed : parseWithin spelling "" location tokens.length tokens = .ok (expr, rest) :=
    parseWithin_of_reads reads (Nat.le_refl _)
  rw [parseWithin_of_reads others (Nat.le_refl _)] at parsed
  exact ⟨(Prod.mk.inj (Except.ok.inj parsed)).1.symm, (Prod.mk.inj (Except.ok.inj parsed)).2.symm⟩

theorem parseTokens_eq_ok_iff {tokens : List Token} {expr : TypeExpr} :
    parseTokens spelling text location tokens = .ok expr ↔
      Reads spelling location tokens expr [] := by
  constructor
  · intro parsed
    obtain ⟨⟨found, rest⟩, read, finished⟩ := Results.bind_eq_ok.mp parsed
    cases rest with
    | nil =>
        cases finished
        exact reads_of_parseWithin read
    | cons token behind => cases finished
  · intro reads
    exact Results.bind_eq_ok.mpr ⟨_, parseWithin_of_reads reads (Nat.le_refl _), rfl⟩

/-- A text spells an expression exactly if its tokens do, and nothing is left behind it. -/
theorem parse_eq_ok_iff {expr : TypeExpr} :
    parse spelling text location = .ok expr ↔
      ∃ tokens, Lexed text.toList tokens ∧ Reads spelling location tokens expr [] := by
  unfold parse
  cases scanned : Token.scan text.toList with
  | error bad =>
      refine iff_of_false (nomatch ·) ?_
      rintro ⟨tokens, lexed, -⟩
      rw [scan_of_lexed lexed] at scanned
      cases scanned
  | ok tokens =>
      have found : parseTokens spelling text location tokens = .ok expr ↔
          ∃ others, Lexed text.toList others ∧ Reads spelling location others expr [] := by
        rw [parseTokens_eq_ok_iff]
        constructor
        · intro reads
          exact ⟨tokens, lexed_of_scan scanned, reads⟩
        · rintro ⟨others, lexed, reads⟩
          rwa [(lexed_of_scan scanned).unique lexed]
      rw [← found]
      dsimp only
      cases parseTokens spelling text location tokens with
      | error cause => exact iff_of_false (nomatch ·) (nomatch ·)
      | ok other => rw [Except.ok.injEq, Except.ok.injEq]

/-! ## Refusals -/

/-- Whatever refuses a list of tokens calls the text malformed. -/
def Malformed {α : Type} (result : Except Cause α) : Prop :=
  ∀ cause, result = .error cause → cause.family = .parse

theorem Malformed.error {α : Type} {cause : Cause} (family : cause.family = .parse) :
    Malformed (.error cause : Except Cause α) := by
  rintro other ⟨⟩
  exact family

theorem Malformed.ok {α : Type} (value : α) : Malformed (.ok value) := by
  intro cause same
  cases same

theorem Malformed.bind {α β : Type} {first : Except Cause α} {next : α → Except Cause β}
    (malformed : Malformed first) (others : ∀ value, Malformed (next value)) :
    Malformed (first >>= next) := by
  cases first with
  | error cause =>
      change Malformed (.error cause)
      exact .error (malformed cause rfl)
  | ok value => exact others value

theorem malformed_expect (expected : Token) (tokens : List Token) :
    Malformed (expect text expected tokens) := by
  unfold expect
  split
  · exact .error rfl
  · split
    · exact .ok _
    · exact .error rfl

theorem malformed_parseWithin (bound : Nat) (tokens : List Token) :
    Malformed (parseWithin spelling text location bound tokens) := by
  induction bound generalizing tokens with
  | zero => cases tokens <;> exact .error rfl
  | succ bound ih =>
      unfold parseWithin
      split
      · exact .error rfl
      · exact .error rfl
      · next same =>
        cases same
        split
        · exact .ok _
        · exact (malformed_expect _ _).bind fun _ => (ih _).bind fun ⟨_, _⟩ =>
            (malformed_expect _ _).bind fun _ => .ok _
        · exact (malformed_expect _ _).bind fun _ => (ih _).bind fun ⟨_, _⟩ =>
            (malformed_expect _ _).bind fun _ => (ih _).bind fun ⟨_, _⟩ =>
              (malformed_expect _ _).bind fun _ => .ok _
        · refine (malformed_expect _ _).bind fun _ => (ih _).bind fun ⟨_, _⟩ =>
            (malformed_expect _ _).bind fun _ => ?_
          split
          · exact .error rfl
          · exact .ok _
      · exact .error rfl

theorem malformed_parseTokens (tokens : List Token) :
    Malformed (parseTokens spelling text location tokens) := by
  refine (malformed_parseWithin _ _).bind fun ⟨_, rest⟩ => ?_
  cases rest with
  | nil => exact .ok _
  | cons token behind => exact .error rfl

/-- A text that spells nothing is malformed, and if it has no tokens, then it is refused for one of
its characters, which is not a blank. -/
theorem parse_refusal {problem : Problem}
    (refused : parse spelling text location = .error problem) :
    problem.cause.family = .parse ∧ ((∃ tokens, Lexed text.toList tokens) ∨
      ∃ bad ∈ text.toList, Text.isBlank bad = false ∧
        problem.cause = .unexpectedCharacter bad text) := by
  unfold parse at refused
  split at refused
  · next bad stopped =>
    cases refused
    obtain ⟨member, visible⟩ := scan_error stopped
    exact ⟨rfl, .inr ⟨bad, member, visible, rfl⟩⟩
  · next tokens scanned =>
    split at refused
    · cases refused
    · next cause found =>
      cases refused
      exact ⟨malformed_parseTokens tokens cause found, .inl ⟨tokens, lexed_of_scan scanned⟩⟩

end NativeBoundary.TypeExpr
