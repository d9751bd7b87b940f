import NativeBoundary.Text.Pictograph.Basic

/-!
# Texts with pictographs

A code of the table gives way to its pictograph, wherever it stands. A text keeps its form if
whatever follows it is illustrated as if it stood alone; such texts can be joined. Texts without a
colon are of that kind, and so are a colon with a blank behind it and a code that is not in the
table. A text in which no code of the table stands between two colons stays as it is.
-/

namespace NativeBoundary.Text.Pictograph

/-- The text is shown as it is and has no part in what is made of the text behind it. -/
def Plain (text : List Char) : Prop :=
  ∀ rest, illustrated (text ++ rest) = text ++ illustrated rest

theorem illustrated_cons {c : Char} (ordinary : c ≠ ':') (rest : List Char) :
    illustrated (c :: rest) = c :: illustrated rest := by
  rw [illustrated]
  exact ordinary

theorem illustrated_code {code : List Char} (inside : ∀ c ∈ code, inCode c = true)
    (after : List Char) :
    illustrated (':' :: (code ++ ':' :: after)) =
      (ofCode? code).getD (':' :: code ++ [':']) ++ illustrated after := by
  have behind : (code ++ ':' :: after).dropWhile inCode = ':' :: after := by
    rw [List.dropWhile_append_of_pos inside]
    rfl
  have within : (code ++ ':' :: after).takeWhile inCode = code := by
    rw [List.takeWhile_append_of_pos inside, List.takeWhile_cons_of_neg (by decide),
      List.append_nil]
  rw [illustrated]
  split
  · rename_i rest closing
    obtain rfl : rest = after := by simpa [behind] using closing.symm
    rw [within]
  · rename_i unclosed
    exact absurd behind (unclosed after)

theorem illustrated_unclosed {rest : List Char}
    (unclosed : ∀ after, rest.dropWhile inCode ≠ ':' :: after) :
    illustrated (':' :: rest) = ':' :: illustrated rest := by
  rw [illustrated]
  split
  · rename_i after closing
    exact absurd closing (unclosed after)
  · rfl

namespace Plain

theorem append {text other : List Char} (plain : Plain text) (others : Plain other) :
    Plain (text ++ other) := by
  intro rest
  rw [List.append_assoc, plain, others, List.append_assoc]

theorem of_ordinary {text : List Char} (ordinary : ∀ c ∈ text, c ≠ ':') : Plain text := by
  intro rest
  induction text with
  | nil => rfl
  | cons c others ih =>
      have tail := ih fun d member => ordinary d (List.mem_cons_of_mem c member)
      rw [List.cons_append, illustrated_cons (ordinary c List.mem_cons_self), tail,
        List.cons_append]

/-- A colon opens no code if a blank stands behind it. -/
theorem colon_blank {c : Char} (blank : isBlank c = true) : Plain [':', c] := by
  intro rest
  have outside : inCode c = false := by simp [inCode, blank]
  have ordinary : c ≠ ':' := by
    rintro rfl
    exact absurd blank (by decide)
  have unclosed (after : List Char) : (c :: rest).dropWhile inCode ≠ ':' :: after := by
    simp [outside, ordinary]
  simp only [List.cons_append, List.nil_append]
  rw [illustrated_unclosed unclosed, illustrated_cons ordinary]

theorem of_code {code : List Char} (inside : ∀ c ∈ code, inCode c = true)
    (unnamed : ofCode? code = none) : Plain (':' :: code ++ [':']) := by
  intro rest
  have shown := illustrated_code inside rest
  rw [unnamed] at shown
  simpa using shown

theorem illustrated_eq {text : List Char} (plain : Plain text) : illustrated text = text := by
  have alone := plain []
  rwa [illustrated, List.append_nil] at alone

end Plain

/-- Only codes of the table are replaced. -/
theorem illustrated_eq_self {text : List Char}
    (unnamed : ∀ before code after, text = before ++ ':' :: (code ++ ':' :: after) →
      (∀ c ∈ code, inCode c = true) → ofCode? code = none) :
    illustrated text = text := by
  fun_induction illustrated text with
  | case1 => rfl
  | case2 rest after closing code ih =>
      have whole : rest = code ++ ':' :: after := by
        rw [← closing]
        exact List.takeWhile_append_dropWhile.symm
      have kept : ofCode? code = none :=
        unnamed [] code after (by rw [whole]; rfl) (List.all_eq_true.mp List.all_takeWhile)
      have others : illustrated after = after := ih fun before inner behind same inside =>
        unnamed (':' :: code ++ ':' :: before) inner behind (by rw [whole, same]; simp) inside
      rw [kept, others, whole]
      simp
  | case3 rest unclosed ih =>
      rw [ih fun before code after same inside =>
        unnamed (':' :: before) code after (by rw [same]; rfl) inside]
  | case4 c rest ordinary ih =>
      rw [ih fun before code after same inside =>
        unnamed (c :: before) code after (by rw [same]; rfl) inside]

end NativeBoundary.Text.Pictograph
