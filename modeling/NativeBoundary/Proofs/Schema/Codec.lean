import NativeBoundary.Proofs.Json.Alike
import NativeBoundary.Proofs.Json.Bounds
import NativeBoundary.Schema.Scalar

/-!
# Readers and their record forms

A reader and a record form belong together if the reader gives back every value from its record form
and the record form of whatever was read keeps to the limits to which the JSON did.  Reading may
fill in what is absent, so some room for nesting is asked for.  Scalars, lists and the members of
records belong together where their parts do.
-/

namespace NativeBoundary.Schema

variable {α β : Type}

namespace Reading

theorem map_eq_value {change : α → β} {reading : Reading α} {found : β} :
    change <$> reading = .value found ↔ ∃ given, reading = .value given ∧ change given = found := by
  cases reading with
  | value given => simp
  | refused issues =>
      constructor
      · intro same
        cases same
      · rintro ⟨given, same, -⟩
        cases same

theorem seq_eq_value {first : Reading (α → β)} {second : Reading α} {found : β} :
    first <*> second = .value found ↔
      ∃ change given, first = .value change ∧ second = .value given ∧ change given = found := by
  constructor
  · intro same
    cases first with
    | value change =>
        cases second with
        | value given => exact ⟨change, given, rfl, rfl, Reading.value.inj same⟩
        | refused issues => cases same
    | refused issues => cases second <;> cases same
  · rintro ⟨change, given, rfl, rfl, rfl⟩
    rfl

theorem map_of_eq {change : α → β} {reading : Reading α} {given : α}
    (found : reading = .value given) : change <$> reading = .value (change given) :=
  map_eq_value.mpr ⟨given, found, rfl⟩

theorem seq_of_eq {first : Reading (α → β)} {second : Reading α} {change : α → β} {given : α}
    (changes : first = .value change) (found : second = .value given) :
    first <*> second = .value (change given) :=
  seq_eq_value.mpr ⟨change, given, changes, found, rfl⟩

theorem under_eq_value {step : Step} {reading : Reading α} {found : α} :
    reading.under step = .value found ↔ reading = .value found := by
  cases reading with
  | value given => exact Iff.rfl
  | refused issues => exact ⟨nofun, nofun⟩

end Reading

/-! ## Members of a record -/

section Members

variable {members : Members} {name : String} {read : Json → Reading α} {found : α}

theorem required_eq_value :
    required name read members = .value found ↔
      ∃ item, members.lookup name = some item ∧ read item = .value found := by
  rw [required, Reading.under_eq_value]
  cases members.lookup name with
  | none => exact ⟨nofun, fun ⟨_, same, _⟩ => nomatch same⟩
  | some item => simp

theorem defaulted_eq_value {default : α} :
    defaulted name default read members = .value found ↔
      (members.lookup name = none ∧ found = default) ∨
        ∃ item, members.lookup name = some item ∧ read item = .value found := by
  unfold defaulted
  cases members.lookup name with
  | none => simp [eq_comm]
  | some item => simp [Reading.under_eq_value]

theorem optional_eq_value {given : Option α} :
    Schema.optional name read members = .value given ↔
      ((members.lookup name = none ∨ members.lookup name = some .null) ∧ given = none) ∨
        ∃ item value, members.lookup name = some item ∧ item ≠ .null ∧ read item = .value value ∧
          given = some value := by
  unfold Schema.optional
  split
  · next absent => simp [absent, eq_comm]
  · next null => simp [null, eq_comm]
  · next item notNull written =>
    have present : item ≠ .null := notNull
    simp only [Reading.map_eq_value, Reading.under_eq_value]
    constructor
    · rintro ⟨value, found, rfl⟩
      exact .inr ⟨item, value, written, present, found, rfl⟩
    · rintro (⟨absent | null, -⟩ | ⟨other, value, same, -, found, rfl⟩)
      · exact nomatch written.symm.trans absent
      · exact absurd (Option.some.inj (written.symm.trans null)) present
      · obtain rfl := Option.some.inj (written.symm.trans same)
        exact ⟨value, found, rfl⟩

theorem ne_nil_of_required (present : required name read members = .value found) :
    members ≠ [] := by
  obtain ⟨item, looked, -⟩ := required_eq_value.mp present
  rintro rfl
  cases looked

theorem record_eq_value {read : Members → Reading α} {json : Json} :
    record read json = .value found ↔ ∃ members, json = .object members ∧
      read members = .value found := by
  cases json with
  | object members => simp [record]
  | _ => simp [record, refuse]

theorem tagged_eq_value {notObject : Mismatch}
    {shape? : String → Option (Members → Reading α)} {json : Json} :
    tagged notObject shape? json = .value found ↔
      ∃ members tag read, json = .object members ∧ members.lookup "kind" = some (.string tag) ∧
        shape? tag = some read ∧ read members = .value found := by
  constructor
  · intro given
    unfold tagged at given
    split at given
    · next members =>
      split at given
      · cases given
      · next tag kind =>
        split at given
        · cases given
        · next read shape =>
          exact ⟨members, tag, read, rfl, kind, shape, Reading.under_eq_value.mp given⟩
      · cases given
    · cases given
  · rintro ⟨members, tag, read, rfl, kind, shape, given⟩
    simp only [tagged, kind, shape, given, Reading.under_value]

end Members

/-! ## Codecs -/

/-- The reader and the record form belong together where there is so much room. -/
structure Codec (read : Json → Reading α) (encode : α → Json) (floor : Nat) : Prop where
  roundTrip : ∀ given, read (encode given) = .value given
  keyed : ∀ given, (encode given).Keyed
  present : ∀ given, encode given ≠ .null
  confined : ∀ {room : Nat} {json : Json} {given : α}, floor ≤ room → json.Within room →
    read json = .value given → (encode given).Within room

theorem string_codec : Codec string .string 0 where
  roundTrip _ := rfl
  keyed := .string
  present given same := by cases same
  confined _ _ _ := Json.within_string _ _

theorem boolean_codec : Codec boolean .bool 0 where
  roundTrip _ := rfl
  keyed := .bool
  present given same := by cases same
  confined _ _ _ := Json.within_bool _ _

theorem word_codec {ofName? : String → Option α} {nameOf : α → String}
    (named : ∀ given, ofName? (nameOf given) = some given) :
    Codec (word ofName?) (fun given => .string (nameOf given)) 0 where
  roundTrip given := by simp only [word, named]
  keyed _ := .string _
  present given same := by cases same
  confined _ _ _ := Json.within_string _ _

/-! ### Whole numbers -/

section Whole

variable {text : List Char} {number : Int}

theorem natAbs_lt_of_plainWhole (read : plainWhole text = .ok number) :
    number.natAbs < 10 ^ Json.Limits.longestNumeral := by
  unfold plainWhole at read
  split at read
  next negative unsigned _ =>
  dsimp only at read
  split at read
  · cases read
  next short =>
  split at read
  · cases read
  · have small := Nat.lt_of_lt_of_le (Json.digitsValue_lt (Json.isDigit_wholePart unsigned))
      (Nat.pow_le_pow_right (by decide : 0 < 10) (Nat.le_of_not_lt short))
    cases read
    split
    · rwa [Int.natAbs_neg, Int.natAbs_natCast]
    · rwa [Int.natAbs_natCast]

theorem natAbs_lt_of_wholeText (read : wholeText text = .ok number) :
    number.natAbs < 10 ^ Json.Limits.longestNumeral := by
  unfold wholeText at read
  split at read
  · next plain =>
    cases read
    exact natAbs_lt_of_plainWhole plain
  · cases read
  · split at read
    · next tidy =>
      cases read
      obtain ⟨bare, -, plain⟩ := Option.map_eq_some_iff.mp tidy
      exact natAbs_lt_of_plainWhole plain
    · cases read

theorem natAbs_lt_of_word? {decimal : Binary64} (read : word? decimal = some number) :
    number.natAbs < 10 ^ Json.Limits.longestNumeral := by
  obtain ⟨-, bounds⟩ := Option.filter_eq_some_iff.mp read
  have small : number.natAbs < 10 ^ 19 := by
    simp only [Bool.and_eq_true, decide_eq_true_eq] at bounds
    have limit : Int.pow 2 63 = 9223372036854775808 := rfl
    omega
  exact Nat.lt_of_lt_of_le small (Nat.pow_le_pow_right (by decide) (by decide))

end Whole

theorem integer_codec : Codec integer .integer 0 where
  roundTrip _ := rfl
  keyed := .integer
  present given same := by cases same
  confined := by
    intro room json given _ within read
    cases json with
    | integer number =>
        cases read
        exact within
    | bool value =>
        cases read
        rw [Json.within_integer_iff]
        cases value
        · exact Nat.pow_pos (by decide)
        · exact Nat.one_lt_pow (by decide) (by decide)
    | decimal number =>
        simp only [integer] at read
        split at read
        · next word =>
          cases read
          exact Json.within_integer_iff.mpr (natAbs_lt_of_word? word)
        · cases read
        · cases read
    | string text =>
        simp only [integer] at read
        split at read
        · next whole =>
          cases read
          exact Json.within_integer_iff.mpr (natAbs_lt_of_wholeText whole)
        · cases read
    | _ => cases read

/-! ### Lists and members -/

section Parts

variable {read : Json → Reading α} {encode : α → Json} {floor : Nat}

theorem Codec.items_within (codec : Codec read encode floor) {left position : Nat}
    {values : List Json} {given : List α} (enough : floor ≤ left)
    (within : ∀ value ∈ values, value.Within left)
    (found : items read position values = .value given) :
    ∀ item ∈ given, (encode item).Within left := by
  induction values generalizing position given with
  | nil =>
      cases found
      nofun
  | cons value rest ih =>
      obtain ⟨first, others⟩ := List.forall_mem_cons.mp within
      obtain ⟨_, behind, made, foundOthers, rfl⟩ := Reading.seq_eq_value.mp found
      obtain ⟨item, foundFirst, rfl⟩ := Reading.map_eq_value.mp made
      refine List.forall_mem_cons.mpr ⟨?_, ih others foundOthers⟩
      exact codec.confined enough first (Reading.under_eq_value.mp foundFirst)

/-- The list itself takes a level, unless it is empty. -/
theorem list_codec (codec : Codec read encode floor) {above : Nat} (deeper : floor ≤ above - 1) :
    Codec (list read) (Json.list encode) above where
  roundTrip given := items_map_eq_value given (fun item _ => codec.roundTrip item) 0
  keyed given := .array (List.forall_mem_map.mpr fun item _ => codec.keyed item)
  present given same := by cases same
  confined := by
    intro room json given enough within found
    cases json with
    | array values =>
        cases room with
        | zero =>
            cases values with
            | nil =>
                cases found
                exact Json.within_noItems 0
            | cons value rest =>
                exact absurd within (Json.not_within_array_zero (List.cons_ne_nil _ _))
        | succ left =>
            refine Json.within_array_succ.mpr (List.forall_mem_map.mpr ?_)
            exact codec.items_within (by omega) (Json.within_array_succ.mp within) found
    | _ => cases found

theorem within_list_nil (room : Nat) : (Json.list encode []).Within room := Json.within_noItems room

/-- What is left of the room for the members of an object. -/
theorem exists_left_of_pos {members : Members} {room : Nat}
    (within : (Json.object members).Within room) (deep : 0 < room) :
    ∃ left, room = left + 1 ∧
      ∀ name item, members.lookup name = some item → item.Within left := by
  obtain ⟨left, rfl⟩ := Nat.exists_eq_succ_of_ne_zero (Nat.ne_of_gt deep)
  refine ⟨left, rfl, fun name item found => ?_⟩
  exact Json.within_object_succ.mp within (name, item) (Json.mem_of_lookup found)

theorem exists_left {members : Members} {room : Nat} (within : (Json.object members).Within room)
    (present : members ≠ []) :
    ∃ left, room = left + 1 ∧ ∀ name item, members.lookup name = some item → item.Within left := by
  apply exists_left_of_pos within
  apply Nat.pos_of_ne_zero
  rintro rfl
  exact Json.not_within_object_zero present within

variable {members : Members} {name : String} {given : α} {maybe : Option α}

theorem optional_eq_of_lookup
    (reads : ∀ value ∈ maybe, encode value ≠ .null ∧ read (encode value) = .value value)
    (found : members.lookup name = some (Json.option encode maybe)) :
    Schema.optional name read members = .value maybe := by
  cases maybe with
  | none => exact optional_eq_value.mpr (.inl ⟨.inr found, rfl⟩)
  | some value =>
      obtain ⟨present, readBack⟩ := reads value rfl
      exact optional_eq_value.mpr (.inr ⟨_, value, found, present, readBack, rfl⟩)

theorem within_of_optional {left : Nat}
    (confined : ∀ {item : Json} {value : α}, item.Within left → read item = .value value →
      (encode value).Within left)
    (parts : ∀ name item, members.lookup name = some item → item.Within left)
    (found : Schema.optional name read members = .value maybe) :
    (Json.option encode maybe).Within left := by
  rcases optional_eq_value.mp found with ⟨-, rfl⟩ | ⟨item, value, looked, -, readItem, rfl⟩
  · exact Json.within_null left
  · exact confined (parts name item looked) readItem

namespace Codec

theorem required_eq (codec : Codec read encode floor)
    (found : members.lookup name = some (encode given)) :
    required name read members = .value given :=
  required_eq_value.mpr ⟨_, found, codec.roundTrip given⟩

theorem defaulted_eq (codec : Codec read encode floor) {default : α}
    (found : members.lookup name = some (encode given)) :
    defaulted name default read members = .value given :=
  defaulted_eq_value.mpr (.inr ⟨_, found, codec.roundTrip given⟩)

theorem optional_eq (codec : Codec read encode floor)
    (found : members.lookup name = some (Json.option encode maybe)) :
    Schema.optional name read members = .value maybe :=
  optional_eq_of_lookup (fun value _ => ⟨codec.present value, codec.roundTrip value⟩) found

theorem keyed_option (codec : Codec read encode floor) (maybe : Option α) :
    (Json.option encode maybe).Keyed := by
  cases maybe with
  | none => exact .null
  | some value => exact codec.keyed value

variable {left : Nat}

theorem required_within (codec : Codec read encode floor) (enough : floor ≤ left)
    (parts : ∀ name item, members.lookup name = some item → item.Within left)
    (found : required name read members = .value given) : (encode given).Within left := by
  obtain ⟨item, looked, readItem⟩ := required_eq_value.mp found
  exact codec.confined enough (parts name item looked) readItem

theorem defaulted_within (codec : Codec read encode floor) (enough : floor ≤ left) {default : α}
    (standard : (encode default).Within left)
    (parts : ∀ name item, members.lookup name = some item → item.Within left)
    (found : defaulted name default read members = .value given) : (encode given).Within left := by
  rcases defaulted_eq_value.mp found with ⟨-, rfl⟩ | ⟨item, looked, readItem⟩
  · exact standard
  · exact codec.confined enough (parts name item looked) readItem

theorem optional_within (codec : Codec read encode floor) (enough : floor ≤ left)
    (parts : ∀ name item, members.lookup name = some item → item.Within left)
    (found : Schema.optional name read members = .value maybe) :
    (Json.option encode maybe).Within left :=
  within_of_optional (fun within readItem => codec.confined enough within readItem) parts found

end Codec

end Parts

end NativeBoundary.Schema
