import Mathlib.Data.List.Forall2
import Mathlib.Data.List.TakeWhile
import NativeBoundary.Proofs.Registry.Resolution

/-!
# What resolving an expression records

An expression is resolved in post-order, from left to right, and a nullable node counts first as
what it is without the mark.  The first node at which something is wrong ends the run; up to there
the type of each node is recorded, unless it is known already.  `Visits` says this of an action, and
it is closed under sequencing, so that the recursion over the expression needs one case for each
shape.
-/

namespace NativeBoundary

open List (Forall₂)

namespace TypeExpr

/-- A node as it is resolved: a nullable one stands behind what it is without the mark. -/
def stages (expr : TypeExpr) : List TypeExpr :=
  if expr.nullable then [{ expr with nullable := false }, expr] else [expr]

/-- The nodes that are resolved one after the other, where none of them stops it. -/
def visited : TypeExpr → List TypeExpr
  | ⟨.sequence, name, some element, key, value, nullable, location⟩ =>
      visited element ++ stages ⟨.sequence, name, some element, key, value, nullable, location⟩
  | ⟨.map, name, element, some key, some value, nullable, location⟩ =>
      visited key ++ (visited value ++
        stages ⟨.map, name, element, some key, some value, nullable, location⟩)
  | expr => stages expr
termination_by structural expr => expr

/-- What is wrong with a node itself, whatever its parts are. -/
def fault? (names : Names) : TypeExpr → Option Problem
  | ⟨.sequence, _, none, _, _, _, location⟩ => some ⟨.sequenceWithoutElement, none, location⟩
  | ⟨.sequence, _, some _, _, _, _, _⟩ => none
  | ⟨.map, _, _, some _, some _, _, _⟩ => none
  | ⟨.map, _, _, _, _, _, location⟩ => some ⟨.mapWithoutParts, none, location⟩
  | ⟨.identifier, name, _, _, _, _, location⟩ =>
      match names.meaning (name.getD "") with
      | some _ => none
      | none => some ⟨.unknownType (name.getD ""), some (name.getD ""), location⟩

/-- The type is built as the expression is, of the types that the names stand for. -/
inductive Image (names : Names) : TypeExpr → Ty → Prop where
  | identifier {name : Option String} {element key value : Option TypeExpr} {nullable : Bool}
      {location : Option Location} {type : Ty} (meant : names.meaning (name.getD "") = some type) :
      Image names ⟨.identifier, name, element, key, value, nullable, location⟩
        (settled nullable type)
  | sequence {name : Option String} {element : TypeExpr} {key value : Option TypeExpr}
      {nullable : Bool} {location : Option Location} {type : Ty}
      (inner : Image names element type) :
      Image names ⟨.sequence, name, some element, key, value, nullable, location⟩
        (settled nullable (.sequence type))
  | map {name : Option String} {element : Option TypeExpr} {key value : TypeExpr}
      {nullable : Bool} {location : Option Location} {keyType valueType : Ty}
      (first : Image names key keyType) (next : Image names value valueType) :
      Image names ⟨.map, name, element, some key, some value, nullable, location⟩
        (settled nullable (.map keyType valueType))

variable {names : Names}

/-- A node is as faulty as what it is without the mark. -/
theorem fault?_nullable (expr : TypeExpr) (marked : Bool) :
    fault? names { expr with nullable := marked } = fault? names expr := by
  obtain ⟨shape, name, element, key, value, nullable, location⟩ := expr
  cases shape with
  | identifier => rfl
  | sequence => cases element <;> rfl
  | map => cases key <;> cases value <;> rfl

theorem fault?_of_mem_stages {expr node : TypeExpr} (member : node ∈ expr.stages) :
    node.fault? names = expr.fault? names := by
  unfold stages at member
  split at member
  · rcases List.mem_cons.mp member with rfl | member
    · exact fault?_nullable expr false
    · rw [List.mem_singleton.mp member]
  · rw [List.mem_singleton.mp member]

namespace Image

variable {expr : TypeExpr} {type other : Ty}

theorem unique (image : expr.Image names type) (others : expr.Image names other) :
    type = other := by
  induction image generalizing other with
  | identifier meant =>
      cases others with
      | identifier meantOther => rw [Option.some.inj (meant.symm.trans meantOther)]
  | sequence _ ih =>
      cases others with
      | sequence inner => rw [ih inner]
  | map _ _ ihFirst ihNext =>
      cases others with
      | map first next => rw [ihFirst first, ihNext next]

/-- Where names keep their meaning, expressions keep their image. -/
theorem mono {later : Names}
    (keeps : ∀ {name type}, names.meaning name = some type → later.meaning name = some type)
    (image : expr.Image names type) : expr.Image later type := by
  induction image with
  | identifier meant => exact .identifier (keeps meant)
  | sequence _ ih => exact .sequence ih
  | map _ _ ihFirst ihNext => exact .map ihFirst ihNext

/-- A nullable expression has one optional more. -/
theorem settled (image : Image names { expr with nullable := false } type) :
    Image names expr (settled expr.nullable type) := by
  obtain ⟨shape, name, element, key, value, nullable, location⟩ := expr
  cases image with
  | identifier meant => exact .identifier meant
  | sequence inner => exact .sequence inner
  | map first next => exact .map first next

theorem fault?_eq_none (image : expr.Image names type) : expr.fault? names = none := by
  cases image with
  | identifier meant => simp only [fault?, meant]
  | sequence _ => rfl
  | map _ _ => rfl

theorem sound_stages (image : expr.Image names type) :
    ∀ node ∈ expr.stages, node.fault? names = none :=
  fun _ member => (fault?_of_mem_stages member).trans image.fault?_eq_none

/-- An expression that has an image is sound at each of its nodes. -/
theorem sound (image : expr.Image names type) :
    ∀ node ∈ expr.visited, node.fault? names = none := by
  induction image with
  | identifier meant => exact (Image.identifier meant).sound_stages
  | sequence inner ih =>
      exact List.forall_mem_append.mpr ⟨ih, (Image.sequence inner).sound_stages⟩
  | map first next ihFirst ihNext =>
      exact List.forall_mem_append.mpr
        ⟨ihFirst, List.forall_mem_append.mpr ⟨ihNext, (Image.map first next).sound_stages⟩⟩

end Image

/-- Only names without a meaning and nodes that lack a part are at fault. -/
theorem family_of_fault? {expr : TypeExpr} {problem : Problem}
    (found : expr.fault? names = some problem) :
    problem.cause.family = if expr.shape = .identifier then .unknownType else .parse := by
  unfold fault? at found
  split at found
  · cases found
    rfl
  · cases found
  · cases found
  · cases found
    rfl
  · split at found
    · cases found
    · cases found
      rfl

end TypeExpr

namespace Registry

open TypeExpr (fault? Image stages settled)

variable {α β : Type} {names : Names}

/-- Records types one after the other. -/
def recordAll (types : List Ty) (registry : Registry) : Registry :=
  types.foldl (fun registry type => registry.record type) registry

theorem recordAll_append (first second : List Ty) (registry : Registry) :
    recordAll (first ++ second) registry = recordAll second (recordAll first registry) :=
  List.foldl_append

theorem bindings_recordAll (types : List Ty) (registry : Registry) :
    (recordAll types registry).bindings = registry.bindings := by
  induction types generalizing registry with
  | nil => rfl
  | cons type rest ih => exact (ih (registry.record type)).trans (bindings_record type registry)

/-- New types come behind the known ones, each of them once and in order. -/
theorem known_recordAll (types : List Ty) (registry : Registry) :
    (recordAll types registry).known =
      registry.known ++ (types.filter (· ∉ registry.known)).eraseDups := by
  induction types generalizing registry with
  | nil => simp [recordAll]
  | cons type rest ih =>
      change (recordAll rest (registry.record type)).known = _
      rw [ih, List.filter_cons]
      unfold record
      split
      · next known => simp [known]
      · next unknown =>
        -- The type is new once: what equals it in the rest is known from here on.
        simp only [unknown, not_false_eq_true, decide_true, if_true, List.eraseDups_cons,
          List.append_assoc, List.singleton_append, List.filter_filter]
        congr 3
        apply List.filter_congr
        intro other _
        by_cases same : other = type <;> simp [same]

theorem recordAll_eq_self {types : List Ty} {registry : Registry}
    (known : ∀ type ∈ types, type ∈ registry.known) : recordAll types registry = registry := by
  induction types with
  | nil => rfl
  | cons type rest ih =>
      have same : registry.record type = registry := if_pos (known type List.mem_cons_self)
      change recordAll rest (registry.record type) = registry
      rw [same]
      exact ih fun other member => known other (List.mem_cons_of_mem type member)

/-- What has been recorded once is not recorded again. -/
theorem recordAll_recordAll (types : List Ty) (registry : Registry) :
    recordAll types (recordAll types registry) = recordAll types registry := by
  refine recordAll_eq_self fun type member => ?_
  rw [known_recordAll, List.mem_append, List.mem_eraseDups, List.mem_filter]
  by_cases known : type ∈ registry.known
  · exact .inl known
  · exact .inr ⟨member, by simpa using known⟩

/-! ## Visiting nodes -/

/-- How visiting nodes ends: all of them are sound and their types are recorded, or the first faulty
one names the problem and the types of those before it are recorded. -/
inductive Visited (names : Names) (nodes : List TypeExpr) (good : α → Prop) (registry : Registry) :
    Outcome Registry α → Prop where
  | completed {value : α} {types : List Ty} (sound : ∀ node ∈ nodes, fault? names node = none)
      (images : Forall₂ (Image names) nodes types) (holds : good value) :
      Visited names nodes good registry ⟨.ok value, recordAll types registry, []⟩
  | stopped {problem : Problem} {types : List Ty}
      (found : nodes.findSome? (fault? names) = some problem)
      (images : Forall₂ (Image names) (nodes.takeWhile (fault? names · = none)) types) :
      Visited names nodes good registry ⟨.error problem, recordAll types registry, []⟩

/-- Wherever the names have their types, the action visits the nodes, and its value is good. -/
def Visits (names : Names) (nodes : List TypeExpr) (action : Action Registry α)
    (good : α → Prop) : Prop :=
  ∀ registry : Registry, registry.names = names →
    Visited names nodes good registry (action registry)

/-- Nodes behind a faulty one are not come to. -/
theorem takeWhile_append_of_findSome? {first second : List TypeExpr} {problem : Problem}
    (found : first.findSome? (fault? names) = some problem) :
    (first ++ second).takeWhile (fault? names · = none) =
      first.takeWhile (fault? names · = none) := by
  induction first with
  | nil => cases found
  | cons node rest ih =>
      rw [List.cons_append, List.takeWhile_cons, List.takeWhile_cons]
      cases fault : fault? names node with
      | none =>
          rw [List.findSome?_cons_of_isNone (by rw [fault]; rfl)] at found
          rw [ih found]
      | some other => rfl

namespace Visits

variable {first second : List TypeExpr} {action : Action Registry α}
  {next : α → Action Registry β} {good : α → Prop} {better : β → Prop}

theorem bind (visits : Visits names first action good)
    (visitsNext : ∀ value, good value → Visits names second (next value) better) :
    Visits names (first ++ second) (action >>= next) better := by
  intro registry same
  have ends := visits registry same
  generalize ran : action registry = outcome at ends
  cases ends with
  | @stopped problem types found images =>
      rw [Action.bind_run_error ran]
      refine .stopped ?_ ?_
      · rw [List.findSome?_append, found, Option.some_or]
      · rwa [takeWhile_append_of_findSome? found]
  | @completed value types sound images holds =>
      rw [Action.bind_run_ok ran]
      -- Recording binds nothing, so the second part sees the same names.
      have later : (recordAll types registry).names = names :=
        (names_eq_of_bindings (bindings_recordAll types registry)).trans same
      have endsNext := visitsNext value holds (recordAll types registry) later
      generalize next value (recordAll types registry) = outcome at endsNext
      cases endsNext with
      | @stopped problem others found imagesNext =>
          rw [← recordAll_append]
          have passed : first.findSome? (fault? names) = none :=
            List.findSome?_eq_none_iff.mpr sound
          refine .stopped ?_ ?_
          · rw [List.findSome?_append, passed, Option.none_or, found]
          · rw [List.takeWhile_append_of_pos (by simpa using sound)]
            exact List.rel_append images imagesNext
      | @completed value others soundNext imagesNext holdsNext =>
          rw [← recordAll_append]
          exact .completed (List.forall_mem_append.mpr ⟨sound, soundNext⟩)
            (List.rel_append images imagesNext) holdsNext

theorem fail {expr : TypeExpr} {problem : Problem} (found : fault? names expr = some problem) :
    Visits names expr.stages (Action.fail problem : Action Registry α) good := by
  intro registry _
  obtain ⟨node, rest, split⟩ : ∃ node rest, expr.stages = node :: rest := by
    unfold stages
    split <;> exact ⟨_, _, rfl⟩
  have first : fault? names node = some problem := by
    rw [← found]
    exact TypeExpr.fault?_of_mem_stages (split ▸ List.mem_cons_self)
  have stops : expr.stages.findSome? (fault? names) = some problem := by
    rw [split, List.findSome?_cons_of_isSome (by rw [first]; rfl), first]
  have images : Forall₂ (Image names) (expr.stages.takeWhile (fault? names · = none)) [] := by
    rw [split, List.takeWhile_cons_of_neg (by simp [first])]
    exact .nil
  exact .stopped stops images

end Visits

/-- Settling on a type goes through the stages of its node. -/
theorem settle_visits {expr : TypeExpr} {type : Ty}
    (base : Image names { expr with nullable := false } type) :
    Visits names expr.stages (settle expr.nullable type) (Image names expr) := by
  intro registry _
  have image := base.settled
  have sound := image.sound_stages
  cases marked : expr.nullable with
  | false =>
      rw [marked] at image
      have images : Forall₂ (Image names) expr.stages [type] := by
        rw [stages, if_neg (by simp [marked])]
        exact .cons image .nil
      exact .completed sound images image
  | true =>
      rw [marked] at image
      have images : Forall₂ (Image names) expr.stages [type, type.optional] := by
        rw [stages, if_pos marked]
        exact .cons base (.cons image .nil)
      exact .completed sound images image

/-- Looking up a name records nothing; the node is settled with what the name means. -/
theorem resolveName_visits {expr : TypeExpr} (shape : expr.shape = .identifier) :
    Visits names expr.stages
      (resolveName (expr.name.getD "") expr.location >>= settle expr.nullable)
      (Image names expr) := by
  obtain ⟨_, name, element, key, value, nullable, location⟩ := expr
  cases shape
  intro registry same
  have ran := resolveName_run (name.getD "") location registry
  rw [same, TypeExpr.denoteName] at ran
  cases meant : names.meaning (name.getD "") with
  | some type =>
      rw [meant] at ran
      rw [Action.bind_run_ok ran]
      exact settle_visits (.identifier meant) registry same
  | none =>
      rw [meant] at ran
      rw [Action.bind_run_error ran]
      exact Visits.fail (by simp only [fault?, meant]) registry same

/-- One case for each shape: the parts are visited from left to right, then the node. -/
theorem resolve_visits : ∀ expr : TypeExpr,
    Visits names expr.visited (resolve expr) (Image names expr)
  | ⟨.sequence, _, some element, _, _, _, _⟩ =>
      (resolve_visits element).bind fun _ inner => settle_visits (.sequence inner)
  | ⟨.sequence, _, none, _, _, _, _⟩ => Visits.fail rfl
  | ⟨.map, _, _, some key, some value, _, _⟩ =>
      (resolve_visits key).bind fun _ first =>
        (resolve_visits value).bind fun _ next => settle_visits (.map first next)
  | ⟨.map, _, _, none, _, _, _⟩ => Visits.fail rfl
  | ⟨.map, _, _, some _, none, _, _⟩ => Visits.fail rfl
  | ⟨.identifier, _, _, _, _, _, _⟩ => resolveName_visits rfl
termination_by structural expr => expr

/-! ## The whole run -/

theorem resolve_eq_ok_iff {expr : TypeExpr} {registry : Registry} {type : Ty} :
    (resolve expr registry).result = .ok type ↔ Image registry.names expr type := by
  have ends := resolve_visits expr registry rfl
  generalize resolve expr registry = outcome at ends
  cases ends with
  | @completed value types sound images holds =>
      constructor
      · rintro ⟨⟩
        exact holds
      · intro image
        exact congrArg Except.ok (holds.unique image)
  | @stopped problem types found images =>
      refine iff_of_false (nomatch ·) fun image => ?_
      rw [List.findSome?_eq_none_iff.mpr image.sound] at found
      cases found

theorem resolve_eq_error_iff {expr : TypeExpr} {registry : Registry} {problem : Problem} :
    (resolve expr registry).result = .error problem ↔
      expr.visited.findSome? (fault? registry.names) = some problem := by
  have ends := resolve_visits expr registry rfl
  generalize resolve expr registry = outcome at ends
  cases ends with
  | @completed value types sound images holds =>
      rw [List.findSome?_eq_none_iff.mpr sound]
      exact iff_of_false (nomatch ·) (nomatch ·)
  | @stopped other types found images =>
      rw [found, Except.error.injEq, Option.some.injEq]

/-- The types of the nodes before the first faulty one are recorded, and nothing else happens. -/
theorem resolve_run (expr : TypeExpr) (registry : Registry) :
    ∃ types, Forall₂ (Image registry.names)
        (expr.visited.takeWhile (fault? registry.names · = none)) types ∧
      resolve expr registry = ⟨expr.denote registry.names, recordAll types registry, []⟩ := by
  have ends := resolve_visits expr registry rfl
  have result := (resolve_reads expr).result registry
  generalize resolve expr registry = outcome at ends result
  cases ends with
  | @completed value types sound images holds =>
      have whole : expr.visited.takeWhile (fault? registry.names · = none) = expr.visited :=
        List.takeWhile_eq_self_iff.mpr (by simpa using sound)
      rw [whole, ← result]
      exact ⟨types, images, rfl⟩
  | @stopped problem types found images =>
      rw [← result]
      exact ⟨types, images, rfl⟩

/-- An expression that was resolved once finds all its types recorded. -/
theorem resolve_again (expr : TypeExpr) (registry : Registry) :
    resolve expr (resolve expr registry).state = resolve expr registry := by
  obtain ⟨types, images, ran⟩ := resolve_run expr registry
  obtain ⟨others, imagesAgain, ranAgain⟩ := resolve_run expr (resolve expr registry).state
  have same : (resolve expr registry).state.names = registry.names :=
    names_eq_of_bindings ((resolve_reads expr).bindings registry)
  rw [same] at imagesAgain ranAgain
  have equal : others = types :=
    List.right_unique_forall₂' (fun _ _ _ first second => first.unique second) imagesAgain images
  rw [ranAgain, ran, equal, recordAll_recordAll]

/-- An expression is resolved exactly if each node that is visited has the parts of its shape and
each name there has a meaning, and the answer is the type that is built as the expression is.  If
not, then the first faulty node is what is complained of.  In both cases no binding changes, and the
types of the nodes up to there come behind those known before, in the order in which the nodes are
visited and without those that were known already.  Doing it again changes nothing. -/
theorem resolve_records (expr : TypeExpr) (registry : Registry) :
    ((∃ type, (resolve expr registry).result = .ok type) ↔
      ∀ node ∈ expr.visited, node.fault? registry.names = none) ∧
    (∀ type, (resolve expr registry).result = .ok type ↔ expr.Image registry.names type) ∧
    (∀ problem, (resolve expr registry).result = .error problem ↔
      expr.visited.findSome? (fault? registry.names) = some problem) ∧
    (∀ problem, (resolve expr registry).result = .error problem →
      ∃ node ∈ expr.visited, node.fault? registry.names = some problem ∧
        problem.cause.family = if node.shape = .identifier then .unknownType else .parse) ∧
    (resolve expr registry).state.bindings = registry.bindings ∧
    (∃ types, Forall₂ (Image registry.names)
        (expr.visited.takeWhile (fault? registry.names · = none)) types ∧
      (resolve expr registry).state.known =
        registry.known ++ (types.filter (· ∉ registry.known)).eraseDups) ∧
    resolve expr (resolve expr registry).state = resolve expr registry := by
  refine ⟨?_, fun _ => resolve_eq_ok_iff, fun _ => resolve_eq_error_iff, fun problem failed => ?_,
    (resolve_reads expr).bindings registry, ?_, resolve_again expr registry⟩
  · constructor
    · rintro ⟨type, resolved⟩
      exact (resolve_eq_ok_iff.mp resolved).sound
    · intro sound
      cases result : (resolve expr registry).result with
      | ok type => exact ⟨type, rfl⟩
      | error problem =>
          have found := resolve_eq_error_iff.mp result
          rw [List.findSome?_eq_none_iff.mpr sound] at found
          cases found
  · obtain ⟨node, member, found⟩ :=
      List.exists_of_findSome?_eq_some (resolve_eq_error_iff.mp failed)
    exact ⟨node, member, found, TypeExpr.family_of_fault? found⟩
  · obtain ⟨types, images, ran⟩ := resolve_run expr registry
    exact ⟨types, images, by rw [ran, known_recordAll]⟩

theorem resolve_records_inventory :
    (resolve (.mapOf (.named "string")
        { TypeExpr.sequenceOf (.named "Item") with nullable := true })
      { bindings := [("Item", .named .record "Item")] }).result =
        .ok (.map (.builtin .string) (Ty.sequence (.named .record "Item")).optional) ∧
    (resolve (.mapOf (.sequenceOf (.named "u8")) (.named "Lost"))
      { known := [.builtin .u8] }).result =
        .error ⟨.unknownType "Lost", some "Lost", none⟩ ∧
    (resolve (.mapOf (.sequenceOf (.named "u8")) (.named "Lost"))
      { known := [.builtin .u8] }).state.known = [.builtin .u8, .sequence (.builtin .u8)] := by
  obtain ⟨-, built, -⟩ := resolve_records (.mapOf (.named "string")
    { TypeExpr.sequenceOf (.named "Item") with nullable := true })
    { bindings := [("Item", .named .record "Item")] }
  obtain ⟨-, -, refused, -, -, ⟨types, images, known⟩, -⟩ := resolve_records
    (.mapOf (.sequenceOf (.named "u8")) (.named "Lost")) { known := [.builtin .u8] }
  refine ⟨(built _).mpr (.map (.identifier rfl) (.sequence (.identifier rfl))),
    (refused _).mpr rfl, ?_⟩
  have same : types = [.builtin .u8, .sequence (.builtin .u8)] :=
    List.right_unique_forall₂' (fun _ _ _ first second => first.unique second) images
      (.cons (.identifier rfl) (.cons (.sequence (.identifier rfl)) .nil))
  rw [known, same]
  decide

end Registry

end NativeBoundary
