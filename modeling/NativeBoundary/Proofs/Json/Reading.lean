import NativeBoundary.Proofs.Json.Numeral
import NativeBoundary.Proofs.Json.Within

/-!
# Reading a text back

Whatever text a value is written as, reading the text finds the value, if it keeps to the limits on
documents.  Otherwise the text is refused.
-/

namespace NativeBoundary.Json

open Text Surrogate

/-! ## Texts between quotes -/

section Strings

variable {allowed : Bool} {c : Char}

theorem stringBody_plain (visible : 32 ≤ c.toNat) (notQuote : c ≠ '"') (notBackslash : c ≠ '\\')
    (text : List Char) :
    stringBody allowed (c :: text) =
      (stringBody allowed text).map fun read => (c :: read.1, read.2) := by
  rw [stringBody.eq_def]
  split
  · next same => cases same
  · next same => exact absurd (List.head_eq_of_cons_eq same) notQuote
  · next same => exact absurd (List.head_eq_of_cons_eq same) notBackslash
  · next same => exact absurd (List.head_eq_of_cons_eq same) notBackslash
  · next same =>
    cases same
    have low : ¬c.toNat < 32 := Nat.not_lt.mpr visible
    simp only [low, notBackslash, decide_false, Bool.or_self, Bool.false_eq_true, if_false]
    cases stringBody allowed text <;> rfl

theorem visible_standIn {unit : Nat} (half : isHalf unit = true) :
    32 ≤ (standIn unit).toNat ∧ standIn unit ≠ '"' ∧ standIn unit ≠ '\\' := by
  have high : 0x100000 ≤ (standIn unit).toNat := by
    rw [toNat_standIn half]
    exact Nat.le_add_left _ _
  refine ⟨Nat.le_trans (by decide) high, ?_, ?_⟩
  · intro same
    rw [same] at high
    exact absurd high (by decide)
  · intro same
    rw [same] at high
    exact absurd high (by decide)

/-- A character that may stand for itself is read as it is kept. -/
theorem stringBody_kept (visible : 32 ≤ c.toNat) (notQuote : c ≠ '"') (notBackslash : c ≠ '\\')
    (text : List Char) :
    stringBody allowed (kept c ++ text) =
      (stringBody allowed text).map fun read => (kept c ++ read.1, read.2) := by
  cases standsIn : isStandIn c with
  | false =>
      rw [kept_eq_self standsIn]
      exact stringBody_plain visible notQuote notBackslash text
  | true =>
      have low := low_of_isStandIn standsIn
      have valid := valid_toNat c
      obtain ⟨visibleFirst, quoteFirst, backslashFirst⟩ :=
        visible_standIn (isHalf_of_isLeading (halves_leading low (by omega)))
      obtain ⟨visibleSecond, quoteSecond, backslashSecond⟩ :=
        visible_standIn (isHalf_of_isTrailing (halves_trailing c.toNat))
      rw [kept, if_pos standsIn, List.cons_append, List.cons_append, List.nil_append,
        stringBody_plain visibleFirst quoteFirst backslashFirst,
        stringBody_plain visibleSecond quoteSecond backslashSecond, Option.map_map]
      rfl

theorem hexValue?_lt {value : Nat} (known : hexValue? c = some value) : value < 16 := by
  unfold hexValue? at known
  split at known
  · next range =>
    cases known
    have high : c.toNat ≤ 57 := range.2
    omega
  · split at known
    · next range =>
      cases known
      have high : c.toNat ≤ 102 := range.2
      omega
    · split at known
      · next range =>
        cases known
        have high : c.toNat ≤ 70 := range.2
        omega
      · cases known

theorem unit?_lt {first second third fourth : Char} {unit : Nat}
    (digits : unit? first second third fourth = some unit) : unit < 0x10000 := by
  simp only [unit?, Option.bind_eq_bind, Option.bind_eq_some_iff, Option.some.injEq] at digits
  obtain ⟨a, readFirst, b, readSecond, c, readThird, d, readFourth, rfl⟩ := digits
  have boundFirst := hexValue?_lt readFirst
  have boundSecond := hexValue?_lt readSecond
  have boundThird := hexValue?_lt readThird
  have boundFourth := hexValue?_lt readFourth
  omega

theorem kept_ofNat_unit {unit : Nat} (small : unit < 0x10000) :
    kept (Char.ofNat unit) = [Char.ofNat unit] := by
  apply kept_eq_self
  have low : (Char.ofNat unit).toNat < distance := by
    by_cases valid : unit.isValidChar
    · rw [toNat_ofNat_of_valid valid]
      exact Nat.lt_of_lt_of_le small (by decide)
    · rw [Char.ofNat, dif_neg valid]
      decide
  rw [isStandIn, decide_eq_false (Nat.not_le.mpr low), Bool.false_and]

/-- Each spelling of a character is read as the character. -/
theorem stringBody_spelling {spelling : List Char} (spells : Spelling c spelling)
    (text : List Char) :
    stringBody allowed (spelling ++ text) =
      (stringBody allowed text).map fun read => (kept c ++ read.1, read.2) := by
  cases spells with
  | plain visible notQuote notBackslash => exact stringBody_kept visible notQuote notBackslash text
  | @short mark _ known =>
      have notUnit (a b d e : Char) (rest : List Char) (isUnit : mark = 'u')
          (_ : text = a :: b :: d :: e :: rest) : False := by
        rw [isUnit] at known
        cases known
      have ordinary : kept c = [c] := by
        unfold simpleEscape? at known
        split at known <;> cases known <;> rfl
      rw [List.cons_append, List.cons_append, List.nil_append, stringBody.eq_5 _ _ _ notUnit, known,
        ordinary]
      cases stringBody allowed text <;> rfl
  | @unit _ _ _ _ unit digits whole =>
      have notLeading : isLeading unit = false := (Bool.or_eq_false_iff.mp whole).1
      rw [kept_ofNat_unit (unit?_lt digits), stringBody.eq_def]
      simp only [List.cons_append, List.nil_append, digits, Option.bind_eq_bind,
        Option.bind_some, notLeading, whole, Bool.false_and, Bool.false_eq_true, if_false]
      cases stringBody allowed text <;> rfl
  | @pair _ _ _ _ _ _ _ _ leading trailing digits isFirst others isSecond =>
      have paired : (some trailing).filter isTrailing = some trailing := by
        rw [Option.filter_some, isSecond, if_pos rfl]
      rw [stringBody.eq_def]
      simp only [List.cons_append, List.nil_append, digits, others, Option.bind_eq_bind,
        Option.bind_some, isFirst, paired, List.drop_succ_cons, List.drop_zero]
      cases stringBody allowed text <;> rfl

theorem stringBody_spelled {points text rest : List Char} (spelled : Spelled points text rest) :
    stringBody allowed text = some (points.flatMap kept, rest) := by
  induction spelled with
  | close => exact stringBody.eq_2 _ _
  | char spells _ ih =>
      rw [stringBody_spelling spells, ih]
      rfl

end Strings

/-! ## Values -/

section Guards

variable {ε α β : Type} {first second both : Prop} [Decidable first] [Decidable second]
  [Decidable both] {next : α → Option β} {given : α} {found : β}

theorem toOption_bind (action : Except ε α) (next : α → Except ε β) :
    (action >>= next).toOption = action.toOption.bind fun value => (next value).toOption := by
  cases action <;> rfl

theorem guard_bind (same : both ↔ first ∧ second)
    (step : next given = if second then some found else none) :
    (if first then some given else none).bind next = if both then some found else none := by
  by_cases holds : first
  · rw [if_pos holds, Option.bind_some, step]
    exact if_congr (by rw [same, and_iff_right holds]) rfl rfl
  · rw [if_neg holds, if_neg fun all => holds (same.mp all).1]
    rfl

theorem guard_map (same : both ↔ first) (step : next given = some found) :
    (if first then some given else none).bind next = if both then some found else none :=
  guard_bind (same.trans (iff_of_eq (and_true first)).symm) (by rw [step, if_pos trivial])

end Guards

theorem put_fresh {name : String} {value : Json} {done : List (String × Json)}
    (fresh : name ∉ done.map Prod.fst) : put name value done = done ++ [(name, value)] := by
  induction done with
  | nil => rfl
  | cons member rest ih =>
      rw [List.map_cons, List.mem_cons, not_or] at fresh
      obtain ⟨differs, others⟩ := fresh
      rw [put, if_neg (Ne.symm differs), ih others]
      rfl

/-- Members of distinct names are put one behind the other. -/
theorem foldl_put {members done : List (String × Json)}
    (distinct : ((done ++ members).map Prod.fst).Nodup) :
    members.foldl (fun done member => put member.1 member.2 done) done = done ++ members := by
  induction members generalizing done with
  | nil => exact (List.append_nil done).symm
  | cons member rest ih =>
      have fresh : member.1 ∉ done.map Prod.fst := by
        rw [List.map_append, List.map_cons] at distinct
        exact fun inside => List.nodup_append.mp distinct |>.2.2 _ inside _ List.mem_cons_self rfl
      rw [List.foldl_cons, put_fresh fresh, ih, List.append_assoc]
      · rfl
      · rwa [List.append_assoc]

theorem Written.items_ne_nil {items : List Json} {text rest : List Char}
    (written : Written (.items items) text rest) : items ≠ [] := by
  cases written <;> exact List.cons_ne_nil _ _

theorem Written.members_ne_nil {members : List (String × Json)} {text rest : List Char}
    (written : Written (.members members) text rest) : members ≠ [] := by
  cases written <;> exact List.cons_ne_nil _ _

/-- Spacing and a part are not mistaken for a bracket. -/
theorem Written.apart {part : Part} {text inner rest : List Char}
    (written : Written part inner rest) (blank : Blank text inner) {bracket : Char}
    (closes : isOpening bracket = false) (after : List Char) :
    skipSpace text = bracket :: after → False := by
  intro closed
  obtain ⟨c, behind, starts, opening⟩ := written.starts
  rw [written.skipSpace_eq blank, starts] at closed
  rw [List.head_eq_of_cons_eq closed, closes] at opening
  cases opening

theorem Written.exists_bound {part : Part} {text rest : List Char} {bound : Nat}
    (written : Written part text rest) (enough : text.length ≤ bound + rest.length) :
    ∃ less, bound = less + 1 := by
  have shorter := written.length_lt
  exact ⟨bound - 1, by omega⟩

/-- Reading a part back finds it if it keeps to the limits, and nothing otherwise. -/
def Part.ReadBack (text rest : List Char) : Part → Prop
  | .value found => ∀ bound room, text.length ≤ bound + 1 + rest.length →
      (Json.value .document (bound + 1) room text).toOption =
        if found.Within room then some (found, rest) else none
  | .items found => ∀ bound room, text.length ≤ bound + 1 + rest.length →
      (Json.items .document (bound + 1) room text).toOption =
        if ∀ item ∈ found, item.Within room then some (found, rest) else none
  | .member name found => ∃ inner points afterName afterColon, text = '"' :: inner ∧
      stringBody false inner = some (points, afterName) ∧
      name = String.ofList points ∧ skipSpace afterName = ':' :: afterColon ∧
      ∀ bound room, text.length ≤ bound + 1 + rest.length →
        (Json.value .document bound room (skipSpace afterColon)).toOption =
          if found.Within room then some (found, rest) else none
  | .members found => ∀ bound room, text.length ≤ bound + 1 + rest.length →
      (Json.members .document (bound + 1) room text).toOption =
        if ∀ member ∈ found, member.2.Within room then some (found, rest) else none

theorem value_of_isDigit {limits : Limits} {bound room : Nat} {c : Char} {text : List Char}
    (digit : c.isDigit = true) :
    value limits (bound + 1) room (c :: text) = numberBody limits false (c :: text) := by
  have differs {other : Char} (noDigit : other.isDigit = false) (rest : List Char)
      (same : c :: text = other :: rest) : False := by
    cases same
    rw [digit] at noDigit
    cases noDigit
  exact value.eq_16 _ _ _ _ (differs (by decide)) (differs (by decide)) (differs (by decide))
    (differs (by decide)) (differs (by decide)) (fun rest => differs (by decide) ('I' :: rest))
    (differs (by decide)) (differs (by decide)) (differs (by decide)) (differs (by decide))

/-- The digits of a whole number, behind a minus or none. -/
theorem value_integerText (limits : Limits) (bound room : Nat) (number : Int) {rest : List Char}
    (ends : NumberEnds rest) :
    value limits (bound + 1) room (integerText number ++ rest) =
      if limits.admits (Nat.toDigits 10 number.natAbs).length false then
        .ok (.integer number, rest)
      else .error (.longNumeral (Nat.toDigits 10 number.natAbs).length) := by
  cases digits : Nat.toDigits 10 number.natAbs with
  | nil => exact absurd digits Nat.toDigits_ne_nil
  | cons c behind =>
      have isDigit : c.isDigit = true :=
        isDigit_toDigits number.natAbs c (digits ▸ List.mem_cons_self)
      unfold integerText
      by_cases negative : number < 0
      · have notInfinite : ∀ other, Nat.toDigits 10 number.natAbs ++ rest = 'I' :: other → False := by
          rintro other same
          rw [digits] at same
          rw [List.head_eq_of_cons_eq same] at isDigit
          cases isDigit
        have same : -(number.natAbs : Int) = number := by omega
        rw [if_pos negative, List.cons_append, value.eq_8 _ _ _ _ notInfinite,
          numberBody_toDigits limits true ends, if_pos rfl, same, digits]
      · have same : (number.natAbs : Int) = number := by omega
        have starts : Nat.toDigits 10 number.natAbs ++ rest = c :: (behind ++ rest) := by
          rw [digits]
          rfl
        rw [if_neg negative, starts, value_of_isDigit isDigit, ← starts,
          numberBody_toDigits limits false ends, if_neg Bool.false_ne_true, same, digits]

/-- A member is read once its name and the colon behind it are. -/
theorem members_of_named {bound room : Nat} {inner points afterName afterColon : List Char}
    (named : stringBody false inner = some (points, afterName))
    (colon : skipSpace afterName = ':' :: afterColon) :
    members .document (bound + 1) room ('"' :: inner) =
      value .document bound room (skipSpace afterColon) >>= fun read =>
        match skipSpace read.2 with
        | '}' :: rest => .ok ([(String.ofList points, read.1)], rest)
        | ',' :: rest => members .document bound room (skipSpace rest) >>= fun others =>
            .ok ((String.ofList points, read.1) :: others.1, others.2)
        | _ => .error .malformed := by
  have halves : Limits.document.halvesAllowed = false := rfl
  have unfolded := members.eq_2 .document room ('"' :: inner) bound
  simp only [dropWord, if_pos, halves, named, colon, orMalformed, bind, Except.bind] at unfolded
  exact unfolded

/-! ## One part after the other -/

section ReadBack

variable {text inner after behind next rest : List Char}

theorem readBack_integer {number : Int} (ends : NumberEnds rest) :
    (Part.value (.integer number)).ReadBack (integerText number ++ rest) rest := by
  intro bound room _
  rw [value_integerText .document bound room number ends]
  have admits : Limits.document.admits (Nat.toDigits 10 number.natAbs).length false = true ↔
      (Json.integer number).Within room :=
    decide_eq_true_iff.trans ((Nat.length_toDigits_le_iff (by decide) (by decide)).trans
      within_integer_iff.symm)
  by_cases within : (Json.integer number).Within room
  · rw [if_pos (admits.mpr within), if_pos within]
    rfl
  · rw [if_neg (mt admits.mp within), if_neg within]
    rfl

theorem readBack_string {points : List Char} (spelled : Spelled points text rest) :
    (Part.value (.string (String.ofList (points.flatMap kept)))).ReadBack ('"' :: text) rest := by
  intro bound room _
  rw [value.eq_9, show Limits.document.halvesAllowed = false from rfl, stringBody_spelled spelled]
  rfl

theorem readBack_noItems (blank : Blank text (']' :: rest)) :
    (Part.value (.array [])).ReadBack ('[' :: text) rest := by
  intro bound room _
  rw [value.eq_10 _ _ _ _ _ (blank.skipSpace_cons (by decide)), if_pos (within_noItems room)]
  rfl

theorem readBack_noMembers (blank : Blank text ('}' :: rest)) :
    (Part.value (.object [])).ReadBack ('{' :: text) rest := by
  intro bound room _
  rw [value.eq_13 _ _ _ _ _ (blank.skipSpace_cons (by decide)), if_pos (within_noMembers room)]
  rfl

/-- Behind a bracket there are steps left for what stands in it. -/
theorem Written.exists_bound_within {part : Part} {bracket : Char} {bound : Nat}
    (inside : Written part inner rest) (blank : Blank text inner)
    (enough : (bracket :: text).length ≤ bound + 1 + rest.length) :
    inner.length ≤ bound + rest.length ∧ ∃ less, bound = less + 1 := by
  have behind := blank.length_le
  have shorter : inner.length ≤ bound + rest.length := by
    rw [List.length_cons] at enough
    omega
  exact ⟨shorter, inside.exists_bound shorter⟩

theorem readBack_array {items : List Json} (blank : Blank text inner)
    (inside : Written (.items items) inner rest) (back : (Part.items items).ReadBack inner rest) :
    (Part.value (.array items)).ReadBack ('[' :: text) rest := by
  intro bound room enough
  have apart := inside.apart blank (by decide : isOpening ']' = false)
  obtain ⟨shorter, less, rfl⟩ := inside.exists_bound_within blank enough
  cases room with
  | zero =>
      rw [value.eq_11 _ _ _ apart, if_neg (not_within_array_zero inside.items_ne_nil)]
      rfl
  | succ left =>
      rw [value.eq_12 _ _ _ _ apart, inside.skipSpace_eq blank, toOption_bind,
        back less left shorter]
      exact guard_map within_array_succ rfl

theorem readBack_object {members : List (String × Json)} (distinct : (members.map Prod.fst).Nodup)
    (blank : Blank text inner) (inside : Written (.members members) inner rest)
    (back : (Part.members members).ReadBack inner rest) :
    (Part.value (.object members)).ReadBack ('{' :: text) rest := by
  intro bound room enough
  have apart := inside.apart blank (by decide : isOpening '}' = false)
  obtain ⟨shorter, less, rfl⟩ := inside.exists_bound_within blank enough
  cases room with
  | zero =>
      rw [value.eq_14 _ _ _ apart, if_neg (not_within_object_zero inside.members_ne_nil)]
      rfl
  | succ left =>
      rw [value.eq_15 _ _ _ _ apart, inside.skipSpace_eq blank, toOption_bind,
        back less left shorter]
      refine guard_map within_object_succ ?_
      have unchanged : members.foldl (fun done member => put member.1 member.2 done) [] = members :=
        foldl_put distinct
      simp only [unchanged]
      rfl

theorem readBack_lastItem {item : Json} (first : Written (.value item) text after)
    (closed : Blank after (']' :: rest)) (back : (Part.value item).ReadBack text after) :
    (Part.items [item]).ReadBack text rest := by
  intro bound room enough
  have behind := closed.length_le
  have shorter : text.length ≤ bound + after.length := by
    rw [List.length_cons] at behind
    omega
  obtain ⟨less, rfl⟩ := first.exists_bound shorter
  rw [items.eq_2, toOption_bind, back less room shorter]
  refine guard_map List.forall_mem_singleton ?_
  simp only [closed.skipSpace_cons (by decide)]
  rfl

theorem readBack_item {item : Json} {others : List Json} (first : Written (.value item) text after)
    (comma : Blank after (',' :: behind)) (blank : Blank behind next)
    (remaining : Written (.items others) next rest) (back : (Part.value item).ReadBack text after)
    (backOthers : (Part.items others).ReadBack next rest) :
    (Part.items (item :: others)).ReadBack text rest := by
  intro bound room enough
  have afterComma := comma.length_le
  have afterBlank := blank.length_le
  have progress := first.length_lt
  have progressOthers := remaining.length_lt
  rw [List.length_cons] at afterComma
  have shorter : text.length ≤ bound + after.length := by omega
  have shorterOthers : next.length ≤ bound + rest.length := by omega
  obtain ⟨less, rfl⟩ := first.exists_bound shorter
  rw [items.eq_2, toOption_bind, back less room shorter]
  refine guard_bind List.forall_mem_cons ?_
  simp only [comma.skipSpace_cons (by decide), remaining.skipSpace_eq blank]
  rw [toOption_bind, backOthers less room shorterOthers]
  exact guard_map Iff.rfl rfl

theorem readBack_member {found : Json} {points afterName afterColon : List Char}
    (named : Spelled points text afterName) (colon : Blank afterName (':' :: afterColon))
    (blank : Blank afterColon inner) (inside : Written (.value found) inner rest)
    (back : (Part.value found).ReadBack inner rest) :
    (Part.member (String.ofList (points.flatMap kept)) found).ReadBack ('"' :: text) rest := by
  refine ⟨text, _, afterName, afterColon, rfl, stringBody_spelled named, rfl,
    colon.skipSpace_cons (by decide), fun bound room enough => ?_⟩
  have afterText := named.length_lt
  have afterNamed := colon.length_le
  have afterBlank := blank.length_le
  have shorter : inner.length ≤ bound + rest.length := by
    rw [List.length_cons] at enough afterNamed
    omega
  obtain ⟨less, rfl⟩ := inside.exists_bound shorter
  rw [inside.skipSpace_eq blank]
  exact back less room shorter

theorem readBack_lastMember {name : String} {found : Json} (closed : Blank after ('}' :: rest))
    (back : (Part.member name found).ReadBack text after) :
    (Part.members [(name, found)]).ReadBack text rest := by
  intro bound room enough
  obtain ⟨inner, points, afterName, afterColon, rfl, named, rfl, colon, reads⟩ := back
  have behind := closed.length_le
  have shorter : ('"' :: inner).length ≤ bound + 1 + after.length := by
    rw [List.length_cons] at behind
    omega
  rw [members_of_named named colon, toOption_bind, reads bound room shorter]
  refine guard_map List.forall_mem_singleton ?_
  simp only [closed.skipSpace_cons (by decide)]
  rfl

theorem readBack_moreMembers {name : String} {found : Json} {others : List (String × Json)}
    (first : Written (.member name found) text after) (comma : Blank after (',' :: behind))
    (blank : Blank behind next) (remaining : Written (.members others) next rest)
    (back : (Part.member name found).ReadBack text after)
    (backOthers : (Part.members others).ReadBack next rest) :
    (Part.members ((name, found) :: others)).ReadBack text rest := by
  intro bound room enough
  have progress := first.length_lt
  obtain ⟨inner, points, afterName, afterColon, rfl, named, rfl, colon, reads⟩ := back
  have afterComma := comma.length_le
  have afterBlank := blank.length_le
  have progressOthers := remaining.length_lt
  rw [List.length_cons] at afterComma
  have shorter : ('"' :: inner).length ≤ bound + 1 + after.length := by omega
  have shorterOthers : next.length ≤ bound + rest.length := by omega
  rw [members_of_named named colon, toOption_bind, reads bound room shorter]
  obtain ⟨less, rfl⟩ := remaining.exists_bound shorterOthers
  refine guard_bind List.forall_mem_cons ?_
  simp only [comma.skipSpace_cons (by decide), remaining.skipSpace_eq blank]
  rw [toOption_bind, backOthers less room shorterOthers]
  exact guard_map Iff.rfl rfl

end ReadBack

theorem Written.readBack {part : Part} {text rest : List Char} (written : Written part text rest) :
    part.ReadBack text rest := by
  induction written with
  | null => exact fun _ _ _ => rfl
  | yes => exact fun _ _ _ => rfl
  | no => exact fun _ _ _ => rfl
  | integer ends => exact readBack_integer ends
  | string spelled => exact readBack_string spelled
  | noItems blank => exact readBack_noItems blank
  | array blank inside ih => exact readBack_array blank inside ih
  | noMembers blank => exact readBack_noMembers blank
  | object distinct blank inside ih => exact readBack_object distinct blank inside ih
  | lastItem first closed ih => exact readBack_lastItem first closed ih
  | item first comma blank remaining ih ihOthers =>
      exact readBack_item first comma blank remaining ih ihOthers
  | member named colon blank inside ih => exact readBack_member named colon blank inside ih
  | lastMember _ closed ih => exact readBack_lastMember closed ih
  | moreMembers first comma blank remaining ih ihOthers =>
      exact readBack_moreMembers first comma blank remaining ih ihOthers

/-- A text of a value is read as the value exactly if the value keeps to the limits. -/
theorem read_of_writtenAs {value : Json} {text : String} (written : value.WrittenAs text) :
    (read .document text).toOption =
      if value.Within Limits.document.nesting then some value else none := by
  obtain ⟨inner, rest, blank, inside, closed⟩ := written
  have enough : inner.length ≤ text.toList.length + 1 + rest.length := by
    have behind := blank.length_le
    omega
  unfold read
  simp only
  rw [toOption_bind, inside.skipSpace_eq blank, inside.readBack _ _ enough]
  refine guard_map Iff.rfl ?_
  simp only [closed.skipSpace_nil]
  rfl

end NativeBoundary.Json
