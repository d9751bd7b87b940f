import Mathlib.Data.List.Nodup
import NativeBoundary.Proofs.Json.Determined
import NativeBoundary.Proofs.Order.Sorted

/-!
# Values up to the order of members

Two values are alike if they are the same once objects are taken as maps from names to values.  A
canonical text sorts the members of every object, so it does not depend on their order; and it can
be read in one way only, so nothing else is lost.  Values without decimals, lone halves and repeated
names have one canonical text exactly if they are alike.
-/

namespace NativeBoundary.Json

/-- The same value, down to the order of the members of objects at any depth. -/
inductive Alike : Json → Json → Prop where
  | null : Alike .null .null
  | bool (value : Bool) : Alike (.bool value) (.bool value)
  | integer (value : Int) : Alike (.integer value) (.integer value)
  | decimal (value : Binary64) : Alike (.decimal value) (.decimal value)
  | string (text : String) : Alike (.string text) (.string text)
  | array {items others : List Json} (length : items.length = others.length)
      (each : ∀ (place : Nat) (item other : Json), items[place]? = some item →
        others[place]? = some other → Alike item other) :
      Alike (.array items) (.array others)
  | object {members others : List (String × Json)}
      (names : ∀ name, (members.lookup name).isSome = (others.lookup name).isSome)
      (values : ∀ (name : String) (value other : Json), members.lookup name = some value →
        others.lookup name = some other → Alike value other) :
      Alike (.object members) (.object others)

/-- No object holds two members of one name. -/
inductive Keyed : Json → Prop where
  | null : Keyed .null
  | bool (value : Bool) : Keyed (.bool value)
  | integer (value : Int) : Keyed (.integer value)
  | decimal (value : Binary64) : Keyed (.decimal value)
  | string (text : String) : Keyed (.string text)
  | array {items : List Json} (each : ∀ item ∈ items, Keyed item) : Keyed (.array items)
  | object {members : List (String × Json)} (distinct : (members.map Prod.fst).Nodup)
      (values : ∀ member ∈ members, Keyed member.2) : Keyed (.object members)

attribute [simp] Keyed.null Keyed.bool Keyed.integer Keyed.decimal Keyed.string

@[simp] theorem keyed_array {items : List Json} :
    Keyed (.array items) ↔ ∀ item ∈ items, item.Keyed :=
  ⟨fun | .array each => each, .array⟩

@[simp] theorem keyed_object {members : List (String × Json)} :
    Keyed (.object members) ↔
      (members.map Prod.fst).Nodup ∧ ∀ member ∈ members, member.2.Keyed :=
  ⟨fun | .object distinct values => ⟨distinct, values⟩, fun both => .object both.1 both.2⟩

/-! ## Members by name -/

section Members

variable {β : Type} {members others : List (String × β)}

/-- Where no name is repeated, looking a name up finds the member of that name. -/
theorem lookup_eq_some_iff_mem (distinct : (members.map Prod.fst).Nodup) {name : String}
    {value : β} : members.lookup name = some value ↔ (name, value) ∈ members := by
  induction members with
  | nil => simp
  | cons first rest ih =>
      obtain ⟨key, given⟩ := first
      obtain ⟨fresh, distinctRest⟩ := List.nodup_cons.mp distinct
      rw [List.lookup_cons, List.mem_cons, Prod.mk.injEq]
      by_cases same : name = key
      · subst same
        rw [beq_self_eq_true]
        constructor
        · intro found
          exact Or.inl ⟨rfl, (Option.some.inj found).symm⟩
        · rintro (⟨-, rfl⟩ | later)
          · rfl
          · exact absurd (List.mem_map_of_mem (f := Prod.fst) later) fresh
      · rw [beq_false_of_ne same]
        change rest.lookup name = some value ↔ _
        rw [ih distinctRest]
        exact ⟨Or.inr, fun found => found.resolve_left fun both => same both.1⟩

theorem mem_of_lookup {name : String} {value : β} (found : members.lookup name = some value) :
    (name, value) ∈ members := by
  obtain ⟨front, rest, rfl, -⟩ := List.lookup_eq_some_iff.mp found
  exact List.mem_append_right front List.mem_cons_self

/-- A look-up does not depend on the order of members with distinct names. -/
theorem lookup_eq_of_perm (distinct : (members.map Prod.fst).Nodup) (perm : members.Perm others)
    (name : String) : members.lookup name = others.lookup name := by
  have distinctOthers : (others.map Prod.fst).Nodup := (perm.map Prod.fst).nodup_iff.mp distinct
  apply Option.ext
  intro value
  rw [lookup_eq_some_iff_mem distinct, lookup_eq_some_iff_mem distinctOthers, perm.mem_iff]

/-- Members with distinct names are sorted in one way only. -/
theorem sortByName_eq_of_perm (distinct : (members.map Prod.fst).Nodup)
    (perm : members.Perm others) : sortByName members = sortByName others := by
  refine Order.sort_eq_of_perm (Order.before_strict.comap Prod.fst) ?_ perm
  intro first inside second insideOther notBefore notAfter
  exact List.inj_on_of_nodup_map distinct inside insideOther
    (Order.before_total notBefore notAfter)

end Members

/-! ## Alike values have one text -/

theorem Alike.refl (value : Json) : Alike value value := by
  induction value using induct with
  | null => exact .null
  | bool value => exact .bool value
  | integer value => exact .integer value
  | decimal value => exact .decimal value
  | string text => exact .string text
  | array items ih =>
      refine .array rfl fun place item other found foundOther => ?_
      obtain rfl := Option.some.inj (found.symm.trans foundOther)
      exact ih item (List.mem_of_getElem? found)
  | object members ih =>
      refine .object (fun _ => rfl) fun name value other found foundOther => ?_
      obtain rfl := Option.some.inj (found.symm.trans foundOther)
      exact ih (name, value) (mem_of_lookup found)

theorem Alike.of_perm {members others : List (String × Json)}
    (distinct : (members.map Prod.fst).Nodup) (perm : members.Perm others) :
    Alike (.object members) (.object others) := by
  have lookups := lookup_eq_of_perm distinct perm
  refine .object (fun name => by rw [lookups]) ?_
  intro name value other found foundOther
  rw [← lookups, found] at foundOther
  cases foundOther
  exact Alike.refl value

theorem canonicalMembers_names (members : List (String × Json)) :
    (canonicalMembers members).map Prod.fst = members.map Prod.fst := by
  rw [canonicalMembers_eq_map, List.map_map]
  rfl

theorem mem_canonicalMembers {members : List (String × Json)} {name : String} {text : List Char} :
    (name, text) ∈ canonicalMembers members ↔
      ∃ value, (name, value) ∈ members ∧ value.canonical = text := by
  rw [canonicalMembers_eq_map, List.mem_map]
  constructor
  · rintro ⟨⟨_, value⟩, inside, same⟩
    cases same
    exact ⟨value, inside, rfl⟩
  · rintro ⟨value, inside, rfl⟩
    exact ⟨(name, value), inside, rfl⟩

/-- Objects whose members of one name have one text have the same sorted members. -/
theorem canonicalMembers_perm {members others : List (String × Json)}
    (distinct : (members.map Prod.fst).Nodup) (distinctOthers : (others.map Prod.fst).Nodup)
    (names : ∀ name, (members.lookup name).isSome = (others.lookup name).isSome)
    (texts : ∀ name value other, members.lookup name = some value →
      others.lookup name = some other → value.canonical = other.canonical) :
    (canonicalMembers members).Perm (canonicalMembers others) := by
  have nodup {given : List (String × Json)} (distinct : (given.map Prod.fst).Nodup) :
      (canonicalMembers given).Nodup := by
    rw [← canonicalMembers_names] at distinct
    exact distinct.of_map
  refine (List.perm_ext_iff_of_nodup (nodup distinct) (nodup distinctOthers)).mpr ?_
  rintro ⟨name, text⟩
  rw [mem_canonicalMembers, mem_canonicalMembers]
  simp only [← lookup_eq_some_iff_mem distinct, ← lookup_eq_some_iff_mem distinctOthers]
  constructor
  · rintro ⟨value, found, rfl⟩
    have there := names name
    rw [found, Option.isSome_some, eq_comm, Option.isSome_iff_exists] at there
    obtain ⟨other, foundOther⟩ := there
    exact ⟨other, foundOther, (texts name value other found foundOther).symm⟩
  · rintro ⟨other, foundOther, rfl⟩
    have there := names name
    rw [foundOther, Option.isSome_some, Option.isSome_iff_exists] at there
    obtain ⟨value, found⟩ := there
    exact ⟨value, found, texts name value other found foundOther⟩

/-- The order of members does not show in the canonical text. -/
theorem Alike.canonical_eq {first second : Json} (alike : Alike first second)
    (keyed : first.Keyed) (keyedOther : second.Keyed) : first.canonical = second.canonical := by
  induction alike with
  | null => rfl
  | bool => rfl
  | integer => rfl
  | decimal => rfl
  | string => rfl
  | @array items others length each ih =>
      cases keyed with
      | array keyedItems =>
          cases keyedOther with
          | array keyedOthers =>
              have texts : items.map canonical = others.map canonical := by
                apply List.ext_getElem?
                intro place
                rw [List.getElem?_map, List.getElem?_map]
                cases found : items[place]? with
                | none =>
                    rw [List.getElem?_eq_none_iff, length] at found
                    rw [List.getElem?_eq_none_iff.mpr found]
                | some item =>
                    cases foundOther : others[place]? with
                    | none =>
                        rw [List.getElem?_eq_none_iff, ← length] at foundOther
                        rw [List.getElem?_eq_none_iff.mpr foundOther] at found
                        cases found
                    | some other =>
                        exact congrArg some (ih place item other found foundOther
                          (keyedItems item (List.mem_of_getElem? found))
                          (keyedOthers other (List.mem_of_getElem? foundOther)))
              rw [canonical, canonical, canonicalItems_eq_map, canonicalItems_eq_map, texts]
  | @object members others names values ih =>
      cases keyed with
      | object distinct keyedValues =>
          cases keyedOther with
          | object distinctOthers keyedOthers =>
              have perm := canonicalMembers_perm distinct distinctOthers names
                fun name value other found foundOther => ih name value other found foundOther
                  (keyedValues _ (mem_of_lookup found)) (keyedOthers _ (mem_of_lookup foundOther))
              rw [← canonicalMembers_names] at distinct
              rw [canonical, canonical, sortByName_eq_of_perm distinct perm]

/-! ## One text belongs to alike values -/

/-- Objects that agree have members of the same names, and those of one name agree. -/
theorem Agree.lookup {members others : List (String × Json)}
    (agree : Agree (.object members) (.object others)) (distinct : (members.map Prod.fst).Nodup)
    (distinctOthers : (others.map Prod.fst).Nodup) (name : String) :
    (members.lookup name).map canonical = (others.lookup name).map canonical := by
  have looked {given : List (String × Json)} (distinct : (given.map Prod.fst).Nodup) :
      (canonicalMembers given).lookup name = (given.lookup name).map canonical := by
    have distinctTexts := distinct
    rw [← canonicalMembers_names] at distinctTexts
    apply Option.ext
    intro text
    rw [lookup_eq_some_iff_mem distinctTexts, mem_canonicalMembers, Option.map_eq_some_iff]
    simp only [lookup_eq_some_iff_mem distinct]
  rw [← looked distinct, ← looked distinctOthers]
  rw [← canonicalMembers_names] at distinct
  exact lookup_eq_of_perm distinct agree.members_perm name

theorem Agree.alike {first second : Json} (agree : Agree first second) (keyed : first.Keyed)
    (keyedOther : second.Keyed) : Alike first second := by
  have forms := agree.form_eq
  obtain ⟨scalar, scalarOther, same⟩ := agree
  induction scalar generalizing second with
  | null =>
      cases scalarOther with
      | null => exact .null
      | bool other => cases other <;> cases forms
      | _ => cases forms
  | bool value =>
      cases scalarOther with
      | bool other =>
          have values : value = other := Agree.bool_eq ⟨.bool value, .bool other, same⟩
          rw [values]
          exact .bool other
      | _ => cases value <;> cases forms
  | integer value =>
      cases scalarOther with
      | integer other =>
          rw [integerText_inj same]
          exact .integer other
      | bool other => cases other <;> cases forms
      | _ => cases forms
  | string text =>
      cases scalarOther with
      | string other =>
          rw [Agree.string_eq ⟨.string text, .string other, same⟩]
          exact .string _
      | bool other => cases other <;> cases forms
      | _ => cases forms
  | array each ih =>
      cases scalarOther with
      | array eachOther =>
          have pairs := Agree.array ⟨.array each, .array eachOther, same⟩
          cases keyed with
          | array keyedItems =>
              cases keyedOther with
              | array keyedOthers =>
                  refine .array pairs.length_eq ?_
                  intro place item other found foundOther
                  obtain ⟨inItems, rfl⟩ := List.getElem?_eq_some_iff.mp found
                  obtain ⟨inOthers, rfl⟩ := List.getElem?_eq_some_iff.mp foundOther
                  have agree := pairs.get inItems inOthers
                  exact ih _ (List.getElem_mem inItems)
                    (keyedItems _ (List.getElem_mem inItems))
                    (keyedOthers _ (List.getElem_mem inOthers)) agree.form_eq agree.right agree.same
      | bool other => cases other <;> cases forms
      | _ => cases forms
  | object names values ih =>
      cases scalarOther with
      | object namesOther valuesOther =>
          have agree : Agree (.object _) (.object _) :=
            ⟨.object names values, .object namesOther valuesOther, same⟩
          cases keyed with
          | object distinct keyedValues =>
              cases keyedOther with
              | object distinctOthers keyedOthers =>
                  have texts := agree.lookup distinct distinctOthers
                  refine .object ?_ ?_
                  · intro name
                    have there := congrArg Option.isSome (texts name)
                    rwa [Option.isSome_map, Option.isSome_map] at there
                  · intro name value other found foundOther
                    have text := texts name
                    rw [found, foundOther] at text
                    have inside := mem_of_lookup found
                    have insideOther := mem_of_lookup foundOther
                    have agree : Agree value other :=
                      ⟨values _ inside, valuesOther _ insideOther, Option.some.inj text⟩
                    exact ih _ inside (keyedValues _ inside) (keyedOthers _ insideOther)
                      agree.form_eq agree.right agree.same
      | bool other => cases other <;> cases forms
      | _ => cases forms

section Values

variable {first second : Json}

/-- A canonical text tells its value up to the order of members, and nothing more. -/
theorem canonical_eq_iff_alike (scalar : first.Scalar) (scalarOther : second.Scalar)
    (keyed : first.Keyed) (keyedOther : second.Keyed) :
    first.canonical = second.canonical ↔ Alike first second := by
  constructor
  · intro same
    exact Agree.alike ⟨scalar, scalarOther, same⟩ keyed keyedOther
  · intro alike
    exact alike.canonical_eq keyed keyedOther

end Values

end NativeBoundary.Json
