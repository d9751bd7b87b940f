import NativeBoundary.Proofs.Json.Escape

/-!
# Canonical texts are read in one way

The first character of a canonical text tells what kind of value it is, and in front of a comma or
a closing bracket the text of a value ends in one way only.  Two arrays of one text have items of
the same texts, and two objects of one text have members of the same names and texts, whatever the
order in which they came.
-/

namespace NativeBoundary.Json

open Text.Surrogate (keptText)

/-- No decimal number, and no text but sequences of scalar values, names of members included. -/
inductive Scalar : Json → Prop where
  | null : Scalar .null
  | bool (value : Bool) : Scalar (.bool value)
  | integer (value : Int) : Scalar (.integer value)
  | string (text : String) : Scalar (.string (keptText text))
  | array {items : List Json} (each : ∀ item ∈ items, Scalar item) : Scalar (.array items)
  | object {members : List (String × Json)}
      (names : ∀ member ∈ members, ∃ text, member.1 = keptText text)
      (values : ∀ member ∈ members, Scalar member.2) : Scalar (.object members)

theorem keptText_eq_self {text : String}
    (ordinary : text.toList.all (fun c => !Text.Surrogate.isStandIn c) = true) :
    keptText text = text := by
  have kepts (chars : List Char)
      (each : chars.all (fun c => !Text.Surrogate.isStandIn c) = true) :
      chars.flatMap Text.Surrogate.kept = chars := by
    induction chars with
    | nil => rfl
    | cons c rest ih =>
        obtain ⟨first, others⟩ := (Bool.and_eq_true _ _).mp each
        rw [List.flatMap_cons, ih others, Text.Surrogate.kept_eq_self (by simpa using first)]
        rfl
  rw [keptText, kepts _ ordinary, String.ofList_toList]

mutual

/-- A check for values without decimals, in whose texts no character stands in for a half. -/
def isOrdinary : Json → Bool
  | .null | .bool _ | .integer _ => true
  | .decimal _ => false
  | .string text => text.toList.all fun c => !Text.Surrogate.isStandIn c
  | .array items => areOrdinary items
  | .object members => areOrdinaryMembers members

def areOrdinary : List Json → Bool
  | [] => true
  | item :: rest => item.isOrdinary && areOrdinary rest

def areOrdinaryMembers : List (String × Json) → Bool
  | [] => true
  | (name, value) :: rest =>
      name.toList.all (fun c => !Text.Surrogate.isStandIn c) && value.isOrdinary &&
        areOrdinaryMembers rest

end

mutual

theorem scalar_of_isOrdinary : (value : Json) → value.isOrdinary = true → value.Scalar
  | .null, _ => .null
  | .bool value, _ => .bool value
  | .integer value, _ => .integer value
  | .string text, ordinary => by
      rw [← keptText_eq_self ordinary]
      exact .string text
  | .array items, ordinary => .array (scalar_of_areOrdinary items ordinary)
  | .object members, ordinary =>
      .object (fun member inside => (scalar_of_areOrdinaryMembers members ordinary member inside).1)
        fun member inside => (scalar_of_areOrdinaryMembers members ordinary member inside).2

theorem scalar_of_areOrdinary : (items : List Json) → areOrdinary items = true →
    ∀ item ∈ items, item.Scalar
  | [], _, _, inside => nomatch inside
  | first :: rest, ordinary, item, inside => by
      obtain ⟨ordinaryFirst, ordinaryRest⟩ := (Bool.and_eq_true _ _).mp ordinary
      rcases List.mem_cons.mp inside with same | later
      · rw [same]
        exact scalar_of_isOrdinary first ordinaryFirst
      · exact scalar_of_areOrdinary rest ordinaryRest item later

theorem scalar_of_areOrdinaryMembers : (members : List (String × Json)) →
    areOrdinaryMembers members = true →
    ∀ member ∈ members, (∃ text, member.1 = keptText text) ∧ member.2.Scalar
  | [], _, _, inside => nomatch inside
  | (name, value) :: rest, ordinary, member, inside => by
      obtain ⟨ordinaryFirst, ordinaryRest⟩ := (Bool.and_eq_true _ _).mp ordinary
      obtain ⟨ordinaryName, ordinaryValue⟩ := (Bool.and_eq_true _ _).mp ordinaryFirst
      rcases List.mem_cons.mp inside with same | later
      · rw [same]
        exact ⟨⟨name, (keptText_eq_self ordinaryName).symm⟩,
          scalar_of_isOrdinary value ordinaryValue⟩
      · exact scalar_of_areOrdinaryMembers rest ordinaryRest member later

end

/-! ## The kind of a value -/

inductive Form where
  | null | yes | no | number | text | array | object
  deriving DecidableEq

def form : Json → Form
  | .null => .null
  | .bool true => .yes
  | .bool false => .no
  | .integer _ | .decimal _ => .number
  | .string _ => .text
  | .array _ => .array
  | .object _ => .object

/-- The kind of a value whose text begins with a character. -/
def formOf (c : Char) : Option Form :=
  if c = '-' ∨ c.isDigit = true then some .number
  else [('n', Form.null), ('t', .yes), ('f', .no), ('"', .text), ('[', .array),
    ('{', .object)].lookup c

theorem integerText_starts (value : Int) :
    ∃ c rest, integerText value = c :: rest ∧ formOf c = some .number := by
  unfold integerText
  split
  · exact ⟨'-', _, rfl, rfl⟩
  · cases digits : Nat.toDigits 10 value.natAbs with
    | nil => exact absurd digits Nat.toDigits_ne_nil
    | cons c rest =>
        have member : c ∈ Nat.toDigits 10 value.natAbs := by
          rw [digits]
          exact List.mem_cons_self
        have isDigit := Nat.isDigit_of_mem_toDigits (by decide) (by decide) member
        exact ⟨c, rest, rfl, if_pos (Or.inr isDigit)⟩

theorem canonical_starts {value : Json} (scalar : value.Scalar) :
    ∃ c rest, value.canonical = c :: rest ∧ formOf c = some value.form := by
  cases scalar with
  | null => exact ⟨'n', _, rfl, rfl⟩
  | bool value => cases value <;> exact ⟨_, _, rfl, rfl⟩
  | integer value => exact integerText_starts value
  | string text => exact ⟨'"', _, rfl, rfl⟩
  | array each => exact ⟨'[', _, rfl, rfl⟩
  | object names values => exact ⟨_, _, rfl, rfl⟩

theorem form_eq_of_append {first second : Json} (scalar : first.Scalar)
    (scalarOther : second.Scalar) {behind after : List Char}
    (same : first.canonical ++ behind = second.canonical ++ after) : first.form = second.form := by
  obtain ⟨c, rest, starts, isForm⟩ := canonical_starts scalar
  obtain ⟨d, others, startsOther, isOther⟩ := canonical_starts scalarOther
  rw [starts, startsOther] at same
  rw [List.head_eq_of_cons_eq same, isOther] at isForm
  exact (Option.some.inj isForm).symm

/-! ## What follows a value -/

def closers : List Char := [',', ']', '}']

/-- Nothing, or a comma or a closing bracket. -/
def Closed : List Char → Prop
  | [] => True
  | c :: _ => c ∈ closers

/-- A text that begins with something else than what closes a value. -/
def Opens (text : List Char) : Prop := ∃ c rest, text = c :: rest ∧ c ∉ closers

theorem opens_canonical {value : Json} (scalar : value.Scalar) : Opens value.canonical := by
  obtain ⟨c, rest, starts, isForm⟩ := canonical_starts scalar
  refine ⟨c, rest, starts, ?_⟩
  intro closes
  have noForm : ∀ d ∈ closers, formOf d = none := by
    simp only [closers, List.forall_mem_cons]
    exact ⟨rfl, rfl, rfl, List.forall_mem_nil _⟩
  rw [noForm c closes] at isForm
  cases isForm

/-- Two texts end at the same place in front of what closes a value. -/
def Apart (first second : List Char) : Prop :=
  ∀ {behind after : List Char}, Closed behind → Closed after →
    first ++ behind = second ++ after → first = second ∧ behind = after

theorem append_inj_of_all {α : Type} {inside : α → Prop} {first second behind after : List α}
    (all : ∀ c ∈ first, inside c) (allOther : ∀ c ∈ second, inside c)
    (ends : ∀ c rest, behind = c :: rest → ¬inside c)
    (endsOther : ∀ c rest, after = c :: rest → ¬inside c)
    (same : first ++ behind = second ++ after) : first = second ∧ behind = after := by
  induction first generalizing second with
  | nil =>
      cases second with
      | nil => exact ⟨rfl, same⟩
      | cons d others => exact absurd (allOther d List.mem_cons_self) (ends d _ same)
  | cons c rest ih =>
      cases second with
      | nil => exact absurd (all c List.mem_cons_self) (endsOther c _ same.symm)
      | cons d others =>
          obtain ⟨heads, tails⟩ := List.cons.inj same
          obtain ⟨texts, rests⟩ := ih (fun e member => all e (List.mem_cons_of_mem c member))
            (fun e member => allOther e (List.mem_cons_of_mem d member)) tails
          exact ⟨by rw [heads, texts], rests⟩

theorem digits_apart (first second : Nat) :
    Apart (Nat.toDigits 10 first) (Nat.toDigits 10 second) := by
  intro behind after closed closedOther same
  have ends {text : List Char} (isClosed : Closed text) :
      ∀ c rest, text = c :: rest → ¬c.isDigit = true := by
    rintro c rest rfl isDigit
    have noDigit : ∀ d ∈ closers, d.isDigit = false := by
      simp only [closers, List.forall_mem_cons]
      exact ⟨rfl, rfl, rfl, List.forall_mem_nil _⟩
    rw [noDigit c isClosed] at isDigit
    cases isDigit
  refine append_inj_of_all ?_ ?_ (ends closed) (ends closedOther) same
  · exact fun c member => Nat.isDigit_of_mem_toDigits (by decide) (by decide) member
  · exact fun c member => Nat.isDigit_of_mem_toDigits (by decide) (by decide) member

theorem toDigits_inj {first second : Nat} (same : Nat.toDigits 10 first = Nat.toDigits 10 second) :
    first = second := by
  have values := congrArg (fun digits => Nat.ofDigitChars 10 digits 0) same
  simpa [Nat.ofDigitChars_ten_toDigits] using values

theorem minus_ne_digits (n : Nat) (rest behind : List Char) :
    '-' :: rest ≠ Nat.toDigits 10 n ++ behind := by
  cases digits : Nat.toDigits 10 n with
  | nil => exact absurd digits Nat.toDigits_ne_nil
  | cons c others =>
      have member : c ∈ Nat.toDigits 10 n := by
        rw [digits]
        exact List.mem_cons_self
      have isDigit := Nat.isDigit_of_mem_toDigits (by decide) (by decide) member
      intro same
      rw [← List.head_eq_of_cons_eq same] at isDigit
      cases isDigit

theorem integerText_apart (first second : Int) :
    Apart (integerText first) (integerText second) := by
  intro behind after closed closedOther same
  unfold integerText at same ⊢
  by_cases negative : first < 0
  · by_cases negativeOther : second < 0
    · rw [if_pos negative, if_pos negativeOther] at same
      rw [if_pos negative, if_pos negativeOther]
      obtain ⟨texts, rests⟩ := digits_apart _ _ closed closedOther (List.tail_eq_of_cons_eq same)
      exact ⟨congrArg _ texts, rests⟩
    · rw [if_pos negative, if_neg negativeOther] at same
      exact absurd same (minus_ne_digits _ _ _)
  · by_cases negativeOther : second < 0
    · rw [if_neg negative, if_pos negativeOther] at same
      exact absurd same.symm (minus_ne_digits _ _ _)
    · rw [if_neg negative, if_neg negativeOther] at same
      rw [if_neg negative, if_neg negativeOther]
      exact digits_apart _ _ closed closedOther same

theorem integerText_inj {first second : Int} (same : integerText first = integerText second) :
    first = second := by
  have notMinus (n : Nat) (rest : List Char) : '-' :: rest ≠ Nat.toDigits 10 n := by
    rw [← List.append_nil (Nat.toDigits 10 n)]
    exact minus_ne_digits n rest []
  unfold integerText at same
  split at same
  · split at same
    · have sizes := toDigits_inj (List.tail_eq_of_cons_eq same)
      omega
    · exact absurd same (notMinus _ _)
  · split at same
    · exact absurd same.symm (notMinus _ _)
    · have sizes := toDigits_inj same
      omega

/-! ## Lists between brackets -/

/-- What stands behind the first of some texts that are separated by commas. -/
def continued (close : Char) (behind : List Char) : List (List Char) → List Char
  | [] => close :: behind
  | texts => ',' :: commaSeparated texts ++ close :: behind

theorem commaSeparated_cons (close : Char) (behind text : List Char) (rest : List (List Char)) :
    commaSeparated (text :: rest) ++ close :: behind = text ++ continued close behind rest := by
  cases rest with
  | nil => rfl
  | cons next others =>
      change (text ++ ',' :: commaSeparated (next :: others)) ++ close :: behind = _
      rw [List.append_assoc]
      rfl

theorem closed_continued {close : Char} (closes : close ∈ closers) (behind : List Char)
    (rest : List (List Char)) : Closed (continued close behind rest) := by
  cases rest with
  | nil => exact closes
  | cons next others => exact List.mem_cons_self

/-- Texts that do not begin like an end and that end in one way only are told apart in a list. -/
theorem commaSeparated_append_inj {close : Char} (closes : close ∈ closers) (notComma : close ≠ ',')
    {first second : List (List Char)}
    (apart : ∀ text ∈ first, ∀ other ∈ second, Apart text other)
    (opens : ∀ text ∈ first, Opens text) (opensOther : ∀ text ∈ second, Opens text)
    {behind after : List Char}
    (same : commaSeparated first ++ close :: behind = commaSeparated second ++ close :: after) :
    first = second ∧ behind = after := by
  induction first generalizing second with
  | nil =>
      cases second with
      | nil => exact ⟨rfl, List.tail_eq_of_cons_eq same⟩
      | cons other others =>
          obtain ⟨c, rest, begins, isOpen⟩ := opensOther other List.mem_cons_self
          rw [commaSeparated_cons, begins] at same
          rw [← List.head_eq_of_cons_eq same] at isOpen
          exact absurd closes isOpen
  | cons text rest ih =>
      cases second with
      | nil =>
          obtain ⟨c, tail, begins, isOpen⟩ := opens text List.mem_cons_self
          rw [commaSeparated_cons, begins] at same
          rw [List.head_eq_of_cons_eq same] at isOpen
          exact absurd closes isOpen
      | cons other others =>
          rw [commaSeparated_cons, commaSeparated_cons] at same
          obtain ⟨texts, remaining⟩ := apart text List.mem_cons_self other List.mem_cons_self
            (closed_continued closes behind rest) (closed_continued closes after others) same
          cases rest with
          | nil =>
              cases others with
              | nil => exact ⟨by rw [texts], List.tail_eq_of_cons_eq remaining⟩
              | cons next more => exact absurd (List.head_eq_of_cons_eq remaining) notComma
          | cons next more =>
              cases others with
              | nil => exact absurd (List.head_eq_of_cons_eq remaining).symm notComma
              | cons nextOther moreOther =>
                  obtain ⟨lists, rests⟩ := ih
                    (fun t member u memberOther => apart t (List.mem_cons_of_mem text member) u
                      (List.mem_cons_of_mem other memberOther))
                    (fun t member => opens t (List.mem_cons_of_mem text member))
                    (fun t member => opensOther t (List.mem_cons_of_mem other member))
                    (List.tail_eq_of_cons_eq remaining)
                  exact ⟨by rw [texts, lists], rests⟩

/-! ## Values -/

theorem memberText_apart {name other : String} {text textOther : List Char}
    (apart : Apart text textOther) :
    Apart (memberText (keptText name, text)) (memberText (keptText other, textOther)) := by
  intro behind after closed closedOther same
  unfold memberText at same ⊢
  rw [List.append_assoc, List.append_assoc] at same
  obtain ⟨rfl, remaining⟩ := stringText_append_inj same
  obtain ⟨rfl, rests⟩ := apart closed closedOther (List.tail_eq_of_cons_eq remaining)
  exact ⟨rfl, rests⟩

theorem opens_memberText (member : String × List Char) : Opens (memberText member) :=
  ⟨'"', _, rfl, by decide⟩

theorem mem_sorted {members : List (String × Json)} {written : String × List Char}
    (member : written ∈ sortByName (canonicalMembers members)) :
    ∃ given ∈ members, written = (given.1, given.2.canonical) := by
  have inside := (Order.sort_perm _ _).mem_iff.mp member
  rw [canonicalMembers_eq_map] at inside
  obtain ⟨given, insideGiven, rfl⟩ := List.mem_map.mp inside
  exact ⟨given, insideGiven, rfl⟩

theorem memberText_inj {name other : String} {text textOther : List Char}
    (same : memberText (keptText name, text) = memberText (keptText other, textOther)) :
    keptText name = keptText other ∧ text = textOther := by
  obtain ⟨names, rests⟩ := stringText_append_inj same
  exact ⟨by rw [names], List.tail_eq_of_cons_eq rests⟩

/-- Members with names of scalar values are told by their texts. -/
theorem map_memberText_inj {first second : List (String × List Char)}
    (names : ∀ member ∈ first, ∃ text, member.1 = keptText text)
    (namesOther : ∀ member ∈ second, ∃ text, member.1 = keptText text)
    (same : first.map memberText = second.map memberText) : first = second := by
  induction first generalizing second with
  | nil => exact (List.map_eq_nil_iff.mp same.symm).symm
  | cons member rest ih =>
      cases second with
      | nil => cases same
      | cons other others =>
          obtain ⟨heads, tails⟩ := List.cons.inj same
          obtain ⟨name, text⟩ := member
          obtain ⟨nameOther, textOther⟩ := other
          obtain ⟨_, rfl⟩ := names _ List.mem_cons_self
          obtain ⟨_, rfl⟩ := namesOther _ List.mem_cons_self
          obtain ⟨sameName, sameText⟩ := memberText_inj heads
          have remaining := ih (fun m inside => names m (List.mem_cons_of_mem _ inside))
            (fun m inside => namesOther m (List.mem_cons_of_mem _ inside)) tails
          rw [sameName, sameText, remaining]

/-- Arrays of one text have items of the same texts. -/
theorem items_of_text {items others : List Json} (each : ∀ item ∈ items, item.Scalar)
    (eachOther : ∀ item ∈ others, item.Scalar)
    (apart : ∀ item ∈ items, ∀ other ∈ others, Apart item.canonical other.canonical)
    {behind after : List Char}
    (same : canonical (.array items) ++ behind = canonical (.array others) ++ after) :
    items.map canonical = others.map canonical ∧ behind = after := by
  simp only [canonical, canonicalItems_eq_map, List.cons_append, List.append_assoc,
    List.nil_append] at same
  refine commaSeparated_append_inj (by decide) (by decide) ?_ ?_ ?_ (List.tail_eq_of_cons_eq same)
  · intro text member textOther memberOther
    obtain ⟨item, inside, rfl⟩ := List.mem_map.mp member
    obtain ⟨other, insideOther, rfl⟩ := List.mem_map.mp memberOther
    exact apart item inside other insideOther
  · intro text member
    obtain ⟨item, inside, rfl⟩ := List.mem_map.mp member
    exact opens_canonical (each item inside)
  · intro text member
    obtain ⟨item, inside, rfl⟩ := List.mem_map.mp member
    exact opens_canonical (eachOther item inside)

/-- Objects of one text have the same sorted members. -/
theorem members_of_text {members others : List (String × Json)}
    (names : ∀ member ∈ members, ∃ text, member.1 = keptText text)
    (namesOther : ∀ member ∈ others, ∃ text, member.1 = keptText text)
    (apart : ∀ member ∈ members, ∀ other ∈ others,
      Apart member.2.canonical other.2.canonical) {behind after : List Char}
    (same : canonical (.object members) ++ behind = canonical (.object others) ++ after) :
    sortByName (canonicalMembers members) = sortByName (canonicalMembers others) ∧
      behind = after := by
  simp only [canonical, List.cons_append, List.append_assoc, List.nil_append] at same
  have parts := commaSeparated_append_inj (by decide : '}' ∈ closers) (by decide) ?_ ?_ ?_
    (List.tail_eq_of_cons_eq same)
  · obtain ⟨texts, rests⟩ := parts
    refine ⟨map_memberText_inj ?_ ?_ texts, rests⟩
    · intro written member
      obtain ⟨given, inside, rfl⟩ := mem_sorted member
      exact names given inside
    · intro written member
      obtain ⟨given, inside, rfl⟩ := mem_sorted member
      exact namesOther given inside
  · intro text member textOther memberOther
    obtain ⟨written, insideSorted, rfl⟩ := List.mem_map.mp member
    obtain ⟨writtenOther, insideSortedOther, rfl⟩ := List.mem_map.mp memberOther
    obtain ⟨given, inside, rfl⟩ := mem_sorted insideSorted
    obtain ⟨givenOther, insideOther, rfl⟩ := mem_sorted insideSortedOther
    obtain ⟨name, sameName⟩ := names given inside
    obtain ⟨nameOther, sameNameOther⟩ := namesOther givenOther insideOther
    rw [sameName, sameNameOther]
    exact memberText_apart (apart given inside givenOther insideOther)
  · intro text member
    obtain ⟨written, -, rfl⟩ := List.mem_map.mp member
    exact opens_memberText written
  · intro text member
    obtain ⟨written, -, rfl⟩ := List.mem_map.mp member
    exact opens_memberText written

/-- In front of what closes a value, its canonical text ends in one way only. -/
theorem canonical_apart {first second : Json} (scalar : first.Scalar) (scalarOther : second.Scalar) :
    Apart first.canonical second.canonical := by
  intro behind after closed closedOther same
  induction scalar generalizing second behind after with
  | null =>
      have forms := form_eq_of_append .null scalarOther same
      cases scalarOther with
      | null => exact ⟨rfl, List.append_cancel_left same⟩
      | bool value => cases value <;> cases forms
      | _ => cases forms
  | bool value =>
      have forms := form_eq_of_append (.bool value) scalarOther same
      cases scalarOther with
      | bool other =>
          have values : value = other := by cases value <;> cases other <;> trivial
          rw [values] at same ⊢
          exact ⟨rfl, List.append_cancel_left same⟩
      | _ => cases value <;> cases forms
  | integer value =>
      have forms := form_eq_of_append (.integer value) scalarOther same
      cases scalarOther with
      | integer other => exact integerText_apart value other closed closedOther same
      | bool other => cases other <;> cases forms
      | _ => cases forms
  | string text =>
      have forms := form_eq_of_append (.string text) scalarOther same
      cases scalarOther with
      | string other =>
          obtain ⟨rfl, rests⟩ := stringText_append_inj same
          exact ⟨rfl, rests⟩
      | bool other => cases other <;> cases forms
      | _ => cases forms
  | array each ih =>
      have forms := form_eq_of_append (.array each) scalarOther same
      cases scalarOther with
      | array eachOther =>
          obtain ⟨texts, rests⟩ := items_of_text each eachOther
            (fun item inside other insideOther _ _ => ih item inside (eachOther other insideOther))
            same
          refine ⟨?_, rests⟩
          rw [canonical, canonical, canonicalItems_eq_map, canonicalItems_eq_map, texts]
      | bool other => cases other <;> cases forms
      | _ => cases forms
  | object names values ih =>
      have forms := form_eq_of_append (.object names values) scalarOther same
      cases scalarOther with
      | object namesOther valuesOther =>
          obtain ⟨sorted, rests⟩ := members_of_text names namesOther
            (fun member inside other insideOther _ _ =>
              ih member inside (valuesOther other insideOther)) same
          exact ⟨by rw [canonical, canonical, sorted], rests⟩
      | bool other => cases other <;> cases forms
      | _ => cases forms

end NativeBoundary.Json
