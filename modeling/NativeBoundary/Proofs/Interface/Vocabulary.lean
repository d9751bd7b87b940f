import Mathlib.Data.List.Induction
import NativeBoundary.Proofs.Interface.Formation
import NativeBoundary.Proofs.Interface.Leading

/-!
# The types of an interface

The types that a built interface enumerates are those of its names and the layers of what its
declarations use, each of them once.  So the optionals, sequences and maps among them are written
in some declaration.  The external and the custom ones are the typedefs of the document, in its
order: discovery puts them in front of all that is met later.
-/

namespace NativeBoundary

section Lists

variable {α β : Type} [BEq α] [LawfulBEq α] [BEq β] [LawfulBEq β]

/-- A last item stays exactly if it is new. -/
theorem eraseDups_concat (items : List α) (last : α) :
    (items ++ [last]).eraseDups =
      if last ∈ items then items.eraseDups else items.eraseDups ++ [last] := by
  rw [List.eraseDups_append]
  split
  · next known => simp [List.removeAll, known]
  · next new => simp [List.removeAll, new, List.eraseDups_cons]

theorem nodup_eraseDups (items : List α) : items.eraseDups.Nodup := by
  induction items using List.reverseRecOn with
  | nil => exact List.nodup_nil
  | append_singleton items last ih =>
      rw [eraseDups_concat]
      split
      · exact ih
      · next new =>
        have apart : last ∉ items.eraseDups := mt List.mem_eraseDups.mp new
        exact List.nodup_append'.mpr
          ⟨ih, List.nodup_singleton last, List.disjoint_singleton.mpr apart⟩

/-- Where different items never tell the same, a list without its repetitions tells what the whole
list tells, without its repetitions. -/
theorem filterMap_eraseDups {view : α → Option β} {items : List α}
    (faithful : ∀ first ∈ items, ∀ second ∈ items, ∀ value,
      view first = some value → view second = some value → first = second) :
    items.eraseDups.filterMap view = (items.filterMap view).eraseDups := by
  induction items using List.reverseRecOn with
  | nil => rfl
  | append_singleton items last ih =>
      have before := ih fun first inFirst second inSecond =>
        faithful first (List.mem_append_left _ inFirst) second (List.mem_append_left _ inSecond)
      rw [List.filterMap_append, eraseDups_concat]
      cases told : view last with
      | none => split <;> simp [told, before]
      | some value =>
          have new : value ∈ items.filterMap view ↔ last ∈ items := by
            rw [List.mem_filterMap]
            constructor
            · rintro ⟨first, inside, same⟩
              have equal := faithful first (List.mem_append_left _ inside) last
                (List.mem_append_right _ List.mem_cons_self) value same told
              exact equal ▸ inside
            · exact fun inside => ⟨last, inside, told⟩
          have tail : [last].filterMap view = [value] := by simp [told]
          rw [tail, eraseDups_concat]
          simp only [new]
          split
          · exact before
          · rw [List.filterMap_append, before, tail]

end Lists

/-! ## External and custom types -/

namespace Ty

/-- The name and the source of an external type. -/
def external? (type : Ty) : Option (String × String) :=
  if type.kind = .external then some (type.name.getD "", type.source.getD "") else none

/-- The name and the representation of a custom type. -/
def custom? (type : Ty) : Option (String × Ty) :=
  if type.kind = .custom then type.args.head?.map (type.name.getD "", ·) else none

theorem kind_of_external? {type : Ty} {value : String × String}
    (told : type.external? = some value) : type.kind = .external := by
  unfold external? at told
  split at told
  · assumption
  · cases told

theorem kind_of_custom? {type : Ty} {value : String × Ty} (told : type.custom? = some value) :
    type.kind = .custom := by
  unfold custom? at told
  split at told
  · assumption
  · cases told

namespace Introduction

variable {name : String} {type : Ty}

theorem eq_external (introduction : type.Introduction name) {value : String × String}
    (told : type.external? = some value) :
    name = value.1 ∧ type = .external value.1 value.2 := by
  cases introduction with
  | external source =>
      cases told
      exact ⟨rfl, rfl⟩
  | custom => cases told
  | declared declares =>
      cases kind_of_external? told
      cases declares

theorem eq_custom (introduction : type.Introduction name) {value : String × Ty}
    (told : type.custom? = some value) :
    name = value.1 ∧ type = .custom value.1 value.2 := by
  cases introduction with
  | custom isBuiltin =>
      cases told
      exact ⟨rfl, rfl⟩
  | external source => cases told
  | declared declares =>
      cases kind_of_custom? told
      cases declares

end Introduction

end Ty

namespace Document.Declaration

variable {declaration : Declaration}

/-- The value of the first attribute of the kind that is written at the declaration. -/
def stated? (kind : AttributeKind) (declaration : Declaration) : Option String :=
  ((declaration.attributes.getD []).find? fun node => node.key == kind.key).bind AttributeNode.value

/-- The typedef of a type from the source. -/
def ofExternal (name source : String) : Declaration where
  name := name
  body := .typedef externalTypeName
  attributes := some [{ key := AttributeKind.external.key, value := some source }]

/-- The typedef of a custom type over the builtin type. -/
def ofCustom (name typeName : String) : Declaration where
  name := name
  body := .typedef typeName
  attributes := some [{ key := AttributeKind.custom.key }]

/-- The name and the source that a typedef of an external type states. -/
def external? (declaration : Declaration) : Option (String × String) :=
  match declaration.body with
  | .typedef _ => (declaration.stated? .external).map (declaration.name, ·)
  | _ => none

/-- The name and the representation that a typedef of a custom type states. -/
def custom? (declaration : Declaration) : Option (String × Ty) :=
  match declaration.body with
  | .typedef typeName =>
      if declaration.marked .custom then (Ty.builtin? typeName).map (declaration.name, ·) else none
  | _ => none

/-- What represents a custom type is builtin. -/
theorem isBuiltin_of_custom? {name : String} {representation : Ty}
    (states : declaration.custom? = some (name, representation)) :
    representation.kind.isBuiltin = true := by
  unfold custom? at states
  split at states
  · split at states
    · obtain ⟨spelled, looked, same⟩ := Option.map_eq_some_iff.mp states
      cases same
      obtain ⟨kind, isBuiltin, rfl⟩ := Ty.eq_builtin_of_builtin? looked
      exact isBuiltin
    · cases states
  · cases states

/-- A typedef is accepted only as one of an external or of a custom type, not of both. -/
theorem typedefType_eq_ok {typeName : String} {type : Ty}
    (read : declaration.typedefType typeName = .ok type) :
    (∃ source, declaration.stated? .external = some source ∧ declaration.marked .custom = false ∧
      type = .external declaration.name source) ∨
    ∃ representation, declaration.stated? .external = none ∧ declaration.marked .custom = true ∧
      Ty.builtin? typeName = some representation ∧
      type = .custom declaration.name representation := by
  obtain ⟨attributes, checked, rest⟩ := Results.bind_eq_ok.mp read
  have isCustom : Attribute.has .custom attributes = declaration.marked .custom :=
    Site.has_of_checkNodes .custom checked
  have isExternal : Attribute.valueOf .external attributes = declaration.stated? .external :=
    Site.valueOf_of_checkNodes .external checked
  simp only [isCustom, isExternal] at rest
  split at rest
  · next source stated =>
    split at rest
    · cases rest
    · next notCustom =>
      split at rest
      · cases rest
        exact .inl ⟨source, stated, Bool.not_eq_true _ |>.mp notCustom, rfl⟩
      · cases rest
  · next unstated =>
    split at rest
    · next custom =>
      split at rest
      · next representation spelled =>
        cases rest
        exact .inr ⟨representation, unstated, custom, spelled, rfl⟩
      · cases rest
    · cases rest

/-- What is not a typedef introduces a declared type, if any. -/
theorem isDeclared_of_introduced {type : Ty} (read : declaration.introduced = .ok (some type))
    (other : ∀ typeName, declaration.body ≠ .typedef typeName) : type.isDeclared = true := by
  unfold introduced at read
  cases shape : declaration.body with
  | typedef typeName => exact absurd shape (other typeName)
  | space functions => simp [shape] at read
  | dictionary members =>
      cases shape ▸ read
      rfl
  | callbackInterface operations =>
      cases shape ▸ read
      rfl
  | enum values =>
      simp only [shape] at read
      obtain ⟨attributes, -, finished⟩ := Results.bind_eq_ok.mp read
      cases finished
      rw [Ty.isDeclared, Ty.named]
      split <;> rfl
  | interface constructors operations =>
      simp only [shape] at read
      obtain ⟨attributes, -, finished⟩ := Results.bind_eq_ok.mp read
      cases finished
      rw [Ty.isDeclared, Ty.named]
      split
      · rfl
      · split <;> rfl

end Document.Declaration

open Document (Declaration)

/-- What is told of external or of custom types: of types introduced differently it is different,
and it is what the typedef states. -/
structure Tells {α : Type} (view : Ty → Option α) (stated : Declaration → Option α) : Prop where
  only : ∀ {type value}, view type = some value → type.kind = .external ∨ type.kind = .custom
  faithful : ∀ {name other first second value}, Ty.Introduction name first →
    Ty.Introduction other second → view first = some value → view second = some value →
    first = second
  typedef : ∀ {declaration typeName type}, declaration.body = .typedef typeName →
    declaration.typedefType typeName = .ok type → view type = stated declaration
  elsewhere : ∀ {declaration}, (∀ typeName, declaration.body ≠ .typedef typeName) →
    stated declaration = none

namespace Tells

variable {α : Type} {view : Ty → Option α} {stated : Declaration → Option α}

theorem view_of_isDeclared (tells : Tells view stated) {type : Ty}
    (declares : type.isDeclared = true) : view type = none := by
  refine Option.eq_none_iff_forall_ne_some.mpr fun value told => ?_
  rw [Ty.isDeclared] at declares
  rcases tells.only told with kind | kind <;> rw [kind] at declares <;> cases declares

/-- Of what a declaration introduces is told what it states. -/
theorem filterMap_bindings (tells : Tells view stated) {declaration : Declaration}
    {introduced : Option Ty} (read : declaration.introduced = .ok introduced) :
    (declaration.bindings.map Prod.snd).filterMap view = (stated declaration).toList := by
  have whole := read
  unfold Declaration.bindings
  rw [whole]
  by_cases isTypedef : ∃ typeName, declaration.body = .typedef typeName
  · obtain ⟨typeName, shape⟩ := isTypedef
    simp only [Declaration.introduced, shape] at read
    obtain ⟨type, readType, finished⟩ := Results.bind_eq_ok.mp read
    cases finished
    rw [← tells.typedef shape readType]
    cases told : view type <;> simp [told]
  · rw [tells.elsewhere (not_exists.mp isTypedef)]
    cases introduced with
    | none => rfl
    | some type =>
        have declares := Declaration.isDeclared_of_introduced whole (not_exists.mp isTypedef)
        simp [tells.view_of_isDeclared declares]

end Tells

theorem external_tells : Tells Ty.external? Declaration.external? where
  only told := .inl (Ty.kind_of_external? told)
  faithful introduces introducesOther told toldOther :=
    (introduces.eq_external told).2.trans (introducesOther.eq_external toldOther).2.symm
  typedef {declaration typeName type} shape read := by
    unfold Declaration.external?
    rw [shape]
    rcases Declaration.typedefType_eq_ok read with
      ⟨source, states, -, rfl⟩ | ⟨representation, unstated, -, -, rfl⟩
    · rw [states]
      rfl
    · rw [unstated]
      rfl
  elsewhere {declaration} other := by
    unfold Declaration.external?
    split
    · next typeName shape => exact absurd shape (other typeName)
    · rfl

theorem custom_tells : Tells Ty.custom? Declaration.custom? where
  only told := .inr (Ty.kind_of_custom? told)
  faithful introduces introducesOther told toldOther :=
    (introduces.eq_custom told).2.trans (introducesOther.eq_custom toldOther).2.symm
  typedef {declaration typeName type} shape read := by
    unfold Declaration.custom?
    rw [shape]
    rcases Declaration.typedefType_eq_ok read with
      ⟨source, -, unmarked, rfl⟩ | ⟨representation, -, marked, spelled, rfl⟩
    · simp only [unmarked]
      rfl
    · simp only [marked, spelled]
      rfl
  elsewhere {declaration} other := by
    unfold Declaration.custom?
    split
    · next typeName shape => exact absurd shape (other typeName)
    · rfl

theorem Metadata.Group.isDeclared_of_introduced {group : Group} {binding : String × Ty}
    (member : binding ∈ group.introduced) : binding.2.isDeclared = true := by
  simp only [introduced, List.mem_append, List.mem_map] at member
  obtain ((⟨item, -, rfl⟩ | ⟨item, -, rfl⟩) | ⟨item, -, rfl⟩) | ⟨item, -, rfl⟩ := member <;> rfl

namespace Interface

open Metadata (Group Item)

/-- Where a name is bound to what makes a type of each value that is listed with it, no name is
listed with two values. -/
theorem nodup_names {α : Type} [BEq α] [LawfulBEq α] {interface : Interface}
    {stated : List (String × α)} {made : String → α → Ty}
    (bound : ∀ {name value}, (name, value) ∈ stated →
      interface.type? name = some (made name value))
    (faithful : ∀ {name value other}, made name value = made name other → value = other) :
    (stated.eraseDups.map Prod.fst).Nodup := by
  refine (nodup_eraseDups stated).map_on ?_
  rintro ⟨name, value⟩ first ⟨_, other⟩ second (rfl : name = _)
  have same := (bound (List.mem_eraseDups.mp first)).symm.trans
    (bound (List.mem_eraseDups.mp second))
  rw [faithful (Option.some.inj same)]

section Bring

variable {declarations : List Declaration} {group : Group} {version : Option Tag}
  {brought : Interface} (ran : (bring declarations group).Yields (empty version) () brought)

include ran

/-- The types that a document introduces come before all others, and no type comes twice. -/
theorem introduced_prefix_types :
    ((declarations.flatMap Declaration.bindings).map Prod.snd).eraseDups <+: brought.types ∧
      brought.types.Nodup := by
  obtain ⟨first, registry, middle, discovers, introduces, declares, populates⟩ :=
    bring_yields.mp ran
  have start := (Registry.discover_gathers declarations).of_yields discovers
  have names := (Registry.defineAll_gathers group.introduced).of_yields introduces
  have declared := (steady_gathers.leads_declare declarations).of_yields declares
  have populated := (steady_gathers.leads_populate group).of_yields populates
  have behind : first.Gathers brought.registry := names.trans (declared.trans populated)
  rw [← Registry.known_of_discover discovers]
  exact ⟨behind.known, behind.distinct (start.distinct List.nodup_nil)⟩

/-- An external or a custom type is known by the name under which it was introduced. -/
theorem exists_introduction_of_known {type : Ty} (known : type ∈ brought.types)
    (kind : type.kind = .external ∨ type.kind = .custom) :
    ∃ name, brought.names name = some type ∧ type.Introduction name := by
  cases denotes_occurring_of_bring ran type (occurring_of_mem_types known) with
  | optional | sequence | map => rcases kind with kind | kind <;> cases kind
  | @meaning name _ meant =>
      rcases (plain_of_bring ran).proper.builtin_or_introduced meant with
        ⟨builtin, isBuiltin, rfl⟩ | bound
      · rcases kind with rfl | rfl <;> cases isBuiltin
      · exact ⟨name, bound⟩

/-- It is the document that introduces it. -/
theorem mem_introduced_of_known {type : Ty} (known : type ∈ brought.types)
    (kind : type.kind = .external ∨ type.kind = .custom) :
    type ∈ (declarations.flatMap Declaration.bindings).map Prod.snd := by
  obtain ⟨name, bound, -⟩ := exists_introduction_of_known ran known kind
  rcases List.mem_append.mp ((plain_of_bring ran).binds.mem_of_bound bound) with inside | ofGroup
  · exact List.mem_map.mpr ⟨_, inside, rfl⟩
  · have declares : type.isDeclared = true := Group.isDeclared_of_introduced ofGroup
    rw [Ty.isDeclared] at declares
    rcases kind with kind | kind <;> rw [kind] at declares <;> cases declares

/-- What is told of the known types is what the document states, each once and in its order. -/
theorem filterMap_types_of_bring {α : Type} [BEq α] [LawfulBEq α] {view : Ty → Option α}
    {stated : Declaration → Option α} (tells : Tells view stated) :
    brought.types.filterMap view = (declarations.filterMap stated).eraseDups := by
  obtain ⟨⟨rest, split⟩, distinct⟩ := introduced_prefix_types ran
  obtain ⟨_, _, _, discovers, -⟩ := bring_yields.mp ran
  obtain ⟨introduced, -⟩ := Registry.completes_discover_iff.mp discovers.completes
  -- Of the types behind the prefix nothing is told: the document introduces each type of which
  -- something is told, so it is in the prefix, and no type is known twice.
  have others : rest.filterMap view = [] := by
    refine List.filterMap_eq_nil_iff.mpr fun type inside => ?_
    refine Option.eq_none_iff_forall_ne_some.mpr fun value told => ?_
    have known : type ∈ brought.types := split ▸ List.mem_append_right _ inside
    have early := List.mem_eraseDups.mpr (mem_introduced_of_known ran known (tells.only told))
    rw [← split] at distinct
    exact List.disjoint_of_nodup_append distinct early inside
  have faithful : ∀ first ∈ (declarations.flatMap Declaration.bindings).map Prod.snd,
      ∀ second ∈ (declarations.flatMap Declaration.bindings).map Prod.snd, ∀ value,
      view first = some value → view second = some value → first = second := by
    intro first inFirst second inSecond value
    obtain ⟨⟨name, _⟩, member, rfl⟩ := List.mem_map.mp inFirst
    obtain ⟨⟨other, _⟩, memberOther, rfl⟩ := List.mem_map.mp inSecond
    obtain ⟨declaration, -, binds⟩ := List.mem_flatMap.mp member
    obtain ⟨declarationOther, -, bindsOther⟩ := List.mem_flatMap.mp memberOther
    exact tells.faithful (Declaration.introduction_of_bindings binds)
      (Declaration.introduction_of_bindings bindsOther)
  rw [← split, List.filterMap_append, others, List.append_nil, filterMap_eraseDups faithful,
    List.map_flatMap, List.filterMap_flatMap, List.filterMap_eq_flatMap_toList stated]
  congr 1
  refine List.flatMap_congr fun declaration inside => ?_
  obtain ⟨type, read⟩ := introduced declaration inside
  exact tells.filterMap_bindings read

/-- The external types that are known, each with its name. -/
theorem externalTypes_of_bring :
    brought.externalTypes = (declarations.filterMap Declaration.external?).eraseDups :=
  filterMap_types_of_bring ran external_tells

/-- A custom type that is known has a representation. -/
theorem customTypes_of_bring :
    brought.customTypes? = some (declarations.filterMap Declaration.custom?).eraseDups := by
  rw [← filterMap_types_of_bring ran custom_tells, customTypes?]
  have represented : ∀ type ∈ brought.types, type.kind = .custom →
      type.args.head?.isSome = true := by
    intro type known kind
    obtain ⟨name, -, introduction⟩ := exists_introduction_of_known ran known (.inr kind)
    cases introduction with
    | custom => rfl
    | external source => cases kind
    | declared declares =>
        cases kind
        cases declares
  generalize brought.types = types at represented
  induction types with
  | nil => rfl
  | cons type rest ih =>
      obtain ⟨here, later⟩ := List.forall_mem_cons.mp represented
      by_cases kind : type.kind = .custom
      · obtain ⟨representation, given⟩ := Option.isSome_iff_exists.mp (here kind)
        rw [List.filter_cons_of_pos (by simpa using kind), List.mapM_cons, ih later]
        simp [Ty.custom?, kind, given]
      · rw [List.filter_cons_of_neg (by simpa using kind), ih later]
        simp [Ty.custom?, kind]

/-- What the document states is told of a bound type. -/
theorem exists_bound_of_stated {α : Type} [BEq α] [LawfulBEq α] {view : Ty → Option α}
    {stated : Declaration → Option α} (tells : Tells view stated) {value : α}
    (member : value ∈ declarations.filterMap stated) :
    ∃ name type, brought.type? name = some type ∧ type.Introduction name ∧
      view type = some value := by
  rw [← List.mem_eraseDups, ← filterMap_types_of_bring ran tells, List.mem_filterMap] at member
  obtain ⟨type, known, told⟩ := member
  obtain ⟨name, bound, introduction⟩ := exists_introduction_of_known ran known (tells.only told)
  exact ⟨name, type, bound, introduction, told⟩

/-- What is told of a bound type is what the document states. -/
theorem mem_stated_of_bound {α : Type} [BEq α] [LawfulBEq α] {view : Ty → Option α}
    {stated : Declaration → Option α} (tells : Tells view stated) {name : String} {type : Ty}
    (bound : brought.type? name = some type) {value : α} (told : view type = some value) :
    value ∈ declarations.filterMap stated := by
  rw [← List.mem_eraseDups, ← filterMap_types_of_bring ran tells, List.mem_filterMap]
  exact ⟨type, ((Knows.bring ran).known_iff type).mpr (.inl ⟨name, bound⟩), told⟩

theorem external_bound_iff {name source : String} :
    brought.type? name = some (.external name source) ↔
      (name, source) ∈ declarations.filterMap Declaration.external? := by
  refine ⟨fun bound => mem_stated_of_bound ran external_tells bound rfl, fun member => ?_⟩
  obtain ⟨_, type, bound, introduction, told⟩ := exists_bound_of_stated ran external_tells member
  obtain ⟨rfl, rfl⟩ := introduction.eq_external told
  exact bound

theorem custom_bound_iff {name : String} {representation : Ty} :
    brought.type? name = some (.custom name representation) ↔
      (name, representation) ∈ declarations.filterMap Declaration.custom? := by
  refine ⟨fun bound => mem_stated_of_bound ran custom_tells bound rfl, fun member => ?_⟩
  obtain ⟨_, type, bound, introduction, told⟩ := exists_bound_of_stated ran custom_tells member
  obtain ⟨rfl, rfl⟩ := introduction.eq_custom told
  exact bound

/-- Where a type is made of others by writing it, some declaration writes it. -/
theorem containsKind_iff {kind : TyKind} (structural : kind.isStructural = true) :
    brought.containsKind kind = true ↔
      ∃ use ∈ brought.uses, ∃ part ∈ use.types, part.kind = kind := by
  have stage := plain_of_bring ran
  have contains : brought.containsKind kind = true ↔ ∃ type ∈ brought.types, type.kind = kind := by
    simp [containsKind]
  rw [contains]
  constructor
  · rintro ⟨type, known, rfl⟩
    rcases ((Knows.bring ran).known_iff type).mp known with ⟨name, bound⟩ | ⟨use, inside, layer⟩
    -- No name is bound to an optional, a sequence or a map, so only a use is left.
    · have single := stage.proper.unlayered (stage.proper.meaning_of_bound bound)
      rw [single] at structural
      cases structural
    · exact ⟨use, inside, type, Ty.layers_subset_types use layer, rfl⟩
  · rintro ⟨use, inside, part, nested, rfl⟩
    have formed :=
      (denotes_occurring_of_bring ran use (occurring_of_mem_uses inside)).wellFormed stage.proper
    have layer := formed.mem_layers nested structural
    exact ⟨part, ((Knows.bring ran).known_iff part).mpr (.inr ⟨use, inside, layer⟩), rfl⟩

/-- Names are bound to the types of the declarations that are listed and of the typedefs. -/
theorem bound_iff {name : String} {type : Ty} :
    brought.type? name = some type ↔
      (type ∈ brought.ownTypes ∧ type.name = some name) ∨
      (∃ source, (name, source) ∈ declarations.filterMap Declaration.external? ∧
        type = .external name source) ∨
      ∃ representation, (name, representation) ∈ declarations.filterMap Declaration.custom? ∧
        type = .custom name representation := by
  constructor
  · intro bound
    cases (plain_of_bring ran).proper.introduced bound with
    | @declared kind declares =>
        have isDeclared : (Ty.named kind name).isDeclared = true := declares
        exact .inl (mem_ownTypes_iff.mpr ((bound_iff_of_bring ran isDeclared).mp bound))
    | external source => exact .inr (.inl ⟨source, (external_bound_iff ran).mp bound, rfl⟩)
    | custom => exact .inr (.inr ⟨_, (custom_bound_iff ran).mp bound, rfl⟩)
  · rintro (own | ⟨source, states, rfl⟩ | ⟨representation, states, rfl⟩)
    · have declares := (named_of_mem_ownTypes own.1).1
      exact (bound_iff_of_bring ran declares).mpr (mem_ownTypes_iff.mp own)
    · exact (external_bound_iff ran).mpr states
    · exact (custom_bound_iff ran).mpr states

/-- No two typedefs that state different things have one name. -/
theorem typedefs_nodup :
    ((declarations.filterMap Declaration.external?).eraseDups.map Prod.fst ++
      (declarations.filterMap Declaration.custom?).eraseDups.map Prod.fst).Nodup := by
  refine List.nodup_append'.mpr ⟨?_, ?_, ?_⟩
  · refine nodup_names (external_bound_iff ran).mpr fun same => ?_
    cases same
    rfl
  · refine nodup_names (custom_bound_iff ran).mpr fun same => ?_
    cases same
    rfl
  · refine List.disjoint_left.mpr fun name first second => ?_
    obtain ⟨⟨_, source⟩, states, rfl⟩ := List.mem_map.mp first
    obtain ⟨⟨name, representation⟩, statesOther, rfl⟩ := List.mem_map.mp second
    have bound := (external_bound_iff ran).mpr (List.mem_eraseDups.mp states)
    have boundOther := (custom_bound_iff ran).mpr (List.mem_eraseDups.mp statesOther)
    cases bound.symm.trans boundOther

end Bring

/-! ## Built interfaces -/

variable {document : Option Document} {items : List Item} {settings : Settings}
  {interface : Interface}

/-- The types of an interface, told by its declarations and by the typedefs of a document. -/
structure Vocabulary (declarations : List Declaration) (interface : Interface) : Prop where
  distinct : interface.types.Nodup
  known_iff : ∀ type, type ∈ interface.types ↔
    (∃ name, interface.type? name = some type) ∨ ∃ use ∈ interface.uses, type ∈ use.layers
  bound_iff : ∀ name type, interface.type? name = some type ↔
    (type ∈ interface.ownTypes ∧ type.name = some name) ∨
    (∃ source, (name, source) ∈ declarations.filterMap Declaration.external? ∧
      type = .external name source) ∨
    ∃ representation, (name, representation) ∈ declarations.filterMap Declaration.custom? ∧
      type = .custom name representation
  structural_iff : ∀ kind : TyKind, kind.isStructural = true →
    (interface.containsKind kind = true ↔
      ∃ use ∈ interface.uses, ∃ part ∈ use.types, part.kind = kind)
  externals : interface.externalTypes = (declarations.filterMap Declaration.external?).eraseDups
  customs : interface.customTypes? =
    some (declarations.filterMap Declaration.custom?).eraseDups
  typedefs : ((declarations.filterMap Declaration.external?).eraseDups.map Prod.fst ++
    (declarations.filterMap Declaration.custom?).eraseDups.map Prod.fst).Nodup

theorem vocabulary_of_bring {declarations : List Declaration} {group : Group}
    {version : Option Tag} {brought : Interface}
    (ran : (bring declarations group).Yields (empty version) () brought) :
    Vocabulary declarations brought where
  distinct := (introduced_prefix_types ran).2
  known_iff := (Knows.bring ran).known_iff
  bound_iff _ _ := bound_iff ran
  structural_iff _ := containsKind_iff ran
  externals := externalTypes_of_bring ran
  customs := customTypes_of_bring ran
  typedefs := typedefs_nodup ran

/-- Deriving and finishing change nothing about types. -/
theorem Vocabulary.of_declared {declarations : List Declaration} {brought : Interface}
    {space : Option Tag} (vocabulary : Vocabulary declarations brought)
    (sameRegistry : interface.registry = brought.registry)
    (same : interface.declared = { brought with space, finalized := true }) :
    Vocabulary declarations interface := by
  have types : interface.types = brought.types := congrArg Registry.known sameRegistry
  have bound (name : String) : interface.type? name = brought.type? name :=
    congrArg (Registry.type? name) sameRegistry
  have uses : interface.uses = brought.uses := by
    rw [← uses_declared, same]
    rfl
  have own : interface.ownTypes = brought.ownTypes := by
    rw [← ownTypes_declared, same]
    rfl
  exact {
    distinct := by simpa only [types] using vocabulary.distinct
    known_iff := by simpa only [types, bound, uses] using vocabulary.known_iff
    bound_iff := by simpa only [bound, own] using vocabulary.bound_iff
    structural_iff := by simpa only [containsKind, types, uses] using vocabulary.structural_iff
    externals := by simpa only [externalTypes, types] using vocabulary.externals
    customs := by simpa only [customTypes?, types] using vocabulary.customs
    typedefs := vocabulary.typedefs }

/-- A built interface enumerates each type once: the types to which the names of declarations and of
typedefs are bound, and whatever a declaration writes, at any depth but not inside a custom type.
There are optionals, sequences or maps among them exactly if a declaration uses such a type at any
depth.  The external and the custom types are the typedefs of the document, each listed once, where
it stands first. -/
theorem vocabulary_of_build (built : build document items settings = .ok interface) :
    Vocabulary ((document.map Document.definitions).getD []) interface := by
  obtain ⟨group, brought, -, brings, sameRegistry, same⟩ := brought_of_build built
  exact (vocabulary_of_bring brings).of_declared sameRegistry same

/-- An external and a custom type around the record that uses them; one typedef stands twice. -/
def depotDocument : Document where
  definitions := [
    .ofExternal "Guid" "ids",
    { name := "depot", body := .space [
      { name := "crates", result := some (.sequenceOf (.named "Crate")) }] },
    .ofCustom "Label" "string",
    { name := "Crate", body := .dictionary [
      { name := "id", type := .named "Guid" },
      { name := "label", type := { TypeExpr.named "Label" with nullable := true } }] },
    .ofExternal "Guid" "ids"]

theorem vocabulary_of_build_depot :
    ∃ interface, build (some depotDocument) [] {} = .ok interface ∧
      interface.externalTypes = [("Guid", "ids")] ∧
      interface.customTypes? = some [("Label", .builtin .string)] ∧
      interface.containsKind .optional = true ∧ interface.containsKind .sequence = true ∧
      interface.containsKind .map = false := by
  have built := build_ok_of_result
    (by decide +kernel : (buildOutcome (some depotDocument) [] {}).result = .ok ())
  have vocabulary := vocabulary_of_build built
  exact ⟨_, built, vocabulary.externals, vocabulary.customs, by decide +kernel, by decide +kernel,
    by decide +kernel⟩

end Interface

end NativeBoundary
