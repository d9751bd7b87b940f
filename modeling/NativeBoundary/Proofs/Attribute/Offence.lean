import Mathlib.Data.List.Forall2
import NativeBoundary.Proofs.Attribute.Checked

/-!
# Offending attributes

When a node writes an attribute that its site accepts, and all that can be wrong with one, both told
without the check.  A list passes exactly if each of its nodes writes an attribute, and then these
are what it yields; otherwise the first node that offends decides, whatever stands behind it.  The
location of the declaration is put in the place of a missing one for misplaced attributes only.
-/

namespace NativeBoundary

/-- A flag stands alone.  Any other kind needs a text that is not empty, and the receiver convention
its one word. -/
def AttributeKind.Takes (kind : AttributeKind) : Option String → Prop
  | none => kind.isFlag = true
  | some value => kind.isFlag = false ∧ value ≠ "" ∧
      (kind = .self → value = Attribute.sharedReceiver)

namespace AttributeNode

/-- The node writes an attribute that the site accepts. -/
structure Writes (site : Site) (node : AttributeNode) (entry : Attribute) : Prop where
  key : node.key = entry.kind.key
  value : node.value = entry.value
  takes : entry.kind.Takes entry.value
  accepted : entry.kind ∈ site.accepted

/-- What is wrong with a node at a site. -/
inductive Offends (site : Site) (node : AttributeNode) : Cause → Prop where
  | unknown (unheard : ∀ kind : AttributeKind, kind.key ≠ node.key) :
      Offends site node (.unknownAttribute node.key)
  | given {kind : AttributeKind} {value : String} (key : node.key = kind.key)
      (flag : kind.isFlag = true) (written : node.value = some value) :
      Offends site node (.attributeTakesNoValue kind)
  | absent {kind : AttributeKind} (key : node.key = kind.key) (valued : kind.isFlag = false)
      (empty : node.value.getD "" = "") : Offends site node (.attributeNeedsValue kind)
  | receiver {value : String} (key : node.key = AttributeKind.self.key)
      (written : node.value = some value) (stated : value ≠ "")
      (other : value ≠ Attribute.sharedReceiver) : Offends site node (.unknownReceiver value)
  | misplaced {kind : AttributeKind} (key : node.key = kind.key) (takes : kind.Takes node.value)
      (refused : kind ∉ site.accepted) : Offends site node (.misplacedAttribute kind site)

/-- Where an offending node is located: at its own place, or if it is misplaced and has none, at
that of the declaration. -/
def place (node : AttributeNode) (location : Option Location) : Cause → Option Location
  | .misplacedAttribute .. => node.location.or location
  | _ => node.location

variable {site : Site} {node : AttributeNode} {owner : Option String} {location : Option Location}

theorem interpret_of_takes {kind : AttributeKind} (key : node.key = kind.key)
    (takes : kind.Takes node.value) :
    node.interpret owner = .ok { kind, value := node.value } := by
  unfold interpret
  rw [key, AttributeKind.ofKey?_key]
  cases written : node.value with
  | none =>
      rw [written] at takes
      exact if_pos takes
  | some value =>
      rw [written] at takes
      obtain ⟨valued, stated, word⟩ := takes
      have known : ¬(kind = .self ∧ value ≠ Attribute.sharedReceiver) :=
        fun other => other.2 (word other.1)
      simp only [valued, Bool.false_eq_true, if_false, if_neg stated, if_neg known]

theorem Writes.checkNode_eq {entry : Attribute} (writes : node.Writes site entry) :
    site.checkNode owner location node = .ok entry := by
  have takes := writes.takes
  rw [← writes.value] at takes
  rw [Site.checkNode, interpret_of_takes writes.key takes, writes.value]
  exact if_pos (List.contains_iff_mem.mpr writes.accepted)

theorem Offends.checkNode_eq {cause : Cause} (offends : node.Offends site cause) :
    site.checkNode owner location node = .error ⟨cause, owner, node.place location cause⟩ := by
  rw [Site.checkNode]
  cases offends with
  | unknown unheard =>
      have none : AttributeKind.ofKey? node.key = none := by
        cases found : AttributeKind.ofKey? node.key with
        | none => rfl
        | some kind => exact absurd (AttributeKind.key_of_ofKey? found) (unheard kind)
      rw [interpret, none]
      rfl
  | given key flag written =>
      rw [interpret, key, AttributeKind.ofKey?_key, written]
      simp only [flag, if_true]
      rfl
  | absent key valued empty =>
      rw [interpret, key, AttributeKind.ofKey?_key]
      cases written : node.value with
      | none =>
          simp only [valued, Bool.false_eq_true, if_false]
          rfl
      | some value =>
          rw [written] at empty
          have blank : value = "" := empty
          simp only [valued, Bool.false_eq_true, if_false, if_pos blank]
          rfl
  | @receiver value key written stated other =>
      rw [interpret, key, AttributeKind.ofKey?_key, written]
      simp only [AttributeKind.isFlag, Bool.false_eq_true, if_false, if_neg stated, true_and,
        if_pos other]
      rfl
  | misplaced key takes refused =>
      rw [interpret_of_takes key takes]
      exact if_neg fun accepted => refused (List.contains_iff_mem.mp accepted)

theorem Writes.not_offends {entry : Attribute} {cause : Cause} (writes : node.Writes site entry) :
    ¬node.Offends site cause := by
  intro offends
  have same : site.checkNode none none node = .ok entry := writes.checkNode_eq
  rw [offends.checkNode_eq] at same
  cases same

theorem Offends.unique {first second : Cause} (offends : node.Offends site first)
    (offendsToo : node.Offends site second) : first = second := by
  have same : site.checkNode none none node =
      .error ⟨first, none, node.place none first⟩ := offends.checkNode_eq
  rw [offendsToo.checkNode_eq] at same
  exact (congrArg Problem.cause (Except.error.inj same)).symm

/-- A node writes an attribute or else offends. -/
theorem writes_or_offends (site : Site) (node : AttributeNode) :
    (∃ entry, node.Writes site entry) ∨ ∃ cause, node.Offends site cause := by
  by_cases heard : ∃ kind : AttributeKind, kind.key = node.key
  · obtain ⟨kind, key⟩ := heard
    by_cases takes : kind.Takes node.value
    · by_cases accepted : kind ∈ site.accepted
      · exact Or.inl ⟨⟨kind, node.value⟩, key.symm, rfl, takes, accepted⟩
      · exact Or.inr ⟨_, .misplaced key.symm takes accepted⟩
    · right
      cases flag : kind.isFlag with
      | true =>
          cases written : node.value with
          | none =>
              rw [written] at takes
              exact absurd flag takes
          | some value => exact ⟨_, .given key.symm flag written⟩
      | false =>
          by_cases empty : node.value.getD "" = ""
          · exact ⟨_, .absent key.symm flag empty⟩
          · cases written : node.value with
            | none =>
                rw [written] at empty
                exact absurd rfl empty
            | some value =>
                rw [written] at empty takes
                have wrong : kind = .self ∧ value ≠ Attribute.sharedReceiver := by
                  by_contra right
                  exact takes ⟨flag, empty, fun self => by_contra fun other => right ⟨self, other⟩⟩
                obtain ⟨rfl, other⟩ := wrong
                exact ⟨_, .receiver key.symm written empty other⟩
  · exact Or.inr ⟨_, .unknown fun kind key => heard ⟨kind, key⟩⟩

theorem Offends.family_eq {cause : Cause} (offends : node.Offends site cause) :
    cause.family = .unsupportedAttribute := by
  cases offends <;> rfl

end AttributeNode

namespace Site

variable {site : Site} {owner : Option String} {location : Option Location}

theorem checkNode_eq_ok_iff {node : AttributeNode} {entry : Attribute} :
    site.checkNode owner location node = .ok entry ↔ node.Writes site entry := by
  constructor
  · intro checked
    rcases node.writes_or_offends site with ⟨other, writes⟩ | ⟨cause, offends⟩
    · rw [writes.checkNode_eq] at checked
      cases checked
      exact writes
    · rw [offends.checkNode_eq] at checked
      cases checked
  · exact AttributeNode.Writes.checkNode_eq

theorem checkNodes_eq_ok_iff {nodes : List AttributeNode} {entries : List Attribute} :
    site.checkNodes owner location nodes = .ok entries ↔
      List.Forall₂ (AttributeNode.Writes site) nodes entries := by
  induction nodes generalizing entries with
  | nil =>
      rw [checkNodes, List.forall₂_nil_left_iff, Except.ok.injEq]
      exact eq_comm
  | cons node rest ih =>
      rw [checkNodes, Results.bind_eq_ok, List.forall₂_cons_left_iff]
      constructor
      · rintro ⟨entry, first, remaining⟩
        obtain ⟨others, later, finished⟩ := Results.bind_eq_ok.mp remaining
        exact ⟨entry, others, checkNode_eq_ok_iff.mp first, ih.mp later,
          (Except.ok.inj finished).symm⟩
      · rintro ⟨entry, others, first, later, rfl⟩
        refine ⟨entry, checkNode_eq_ok_iff.mpr first, ?_⟩
        rw [ih.mpr later]
        rfl

/-- A list is refused for its first offending node. -/
theorem checkNodes_eq_error_iff {nodes : List AttributeNode} {problem : Problem} :
    site.checkNodes owner location nodes = .error problem ↔
      ∃ before node after cause, nodes = before ++ node :: after ∧
        (∀ other ∈ before, ∃ entry, other.Writes site entry) ∧ node.Offends site cause ∧
          problem = ⟨cause, owner, node.place location cause⟩ := by
  induction nodes with
  | nil => simp [checkNodes]
  | cons node rest ih =>
      rcases node.writes_or_offends site with ⟨entry, writes⟩ | ⟨cause, offends⟩
      · have behind : site.checkNodes owner location (node :: rest) = .error problem ↔
            site.checkNodes owner location rest = .error problem := by
          rw [checkNodes, writes.checkNode_eq]
          cases site.checkNodes owner location rest with
          | error other => exact Iff.rfl
          | ok others =>
              constructor
              · intro same
                cases same
              · intro same
                cases same
        rw [behind, ih]
        constructor
        · rintro ⟨before, offender, after, cause, rfl, fine, offends, told⟩
          exact ⟨node :: before, offender, after, cause, rfl,
            List.forall_mem_cons.mpr ⟨⟨entry, writes⟩, fine⟩, offends, told⟩
        · rintro ⟨before, offender, after, cause, split, fine, offends, told⟩
          cases before with
          | nil =>
              cases split
              exact absurd offends writes.not_offends
          | cons first others =>
              cases split
              exact ⟨others, offender, after, cause, rfl, (List.forall_mem_cons.mp fine).2,
                offends, told⟩
      · have refused : site.checkNodes owner location (node :: rest) =
            .error ⟨cause, owner, node.place location cause⟩ := by
          rw [checkNodes, offends.checkNode_eq]
          rfl
        rw [refused, Except.error.injEq]
        constructor
        · rintro rfl
          exact ⟨[], node, rest, cause, rfl, List.forall_mem_nil _, offends, rfl⟩
        · rintro ⟨before, offender, after, found, split, fine, offendsToo, told⟩
          cases before with
          | nil =>
              cases split
              rw [told, offends.unique offendsToo]
          | cons first others =>
              cases split
              obtain ⟨entry, writes⟩ := (List.forall_mem_cons.mp fine).1
              exact absurd offends writes.not_offends

theorem exists_checkNodes_iff {nodes : List AttributeNode} :
    (∃ entries, site.checkNodes owner location nodes = .ok entries) ↔
      ∀ node ∈ nodes, ∃ entry, node.Writes site entry := by
  constructor
  · rintro ⟨entries, checked⟩
    have pairs := checkNodes_eq_ok_iff.mp checked
    have told : List.Forall₂ (fun node entry => (∃ entry, node.Writes site entry) ∧
        node.Writes site entry) nodes entries :=
      pairs.imp fun _ entry writes => ⟨⟨entry, writes⟩, writes⟩
    exact ((List.forall₂_and_left _ _).mp told).1
  · intro fine
    cases checked : site.checkNodes owner location nodes with
    | ok entries => exact ⟨entries, rfl⟩
    | error problem =>
        obtain ⟨before, node, after, cause, rfl, -, offends, -⟩ :=
          checkNodes_eq_error_iff.mp checked
        obtain ⟨entry, writes⟩ := fine node (List.mem_append_right before List.mem_cons_self)
        exact absurd offends writes.not_offends

/-- A list passes if every node writes an attribute, and yields one entry for each of them.  Else
its first offending node is told, under the name of the declaration. -/
theorem check_verdict (site : Site) (owner : Option String) (location : Option Location)
    (nodes : Option (List AttributeNode)) :
    ((∃ entries, site.check owner location nodes = .ok entries) ↔
      ∀ node ∈ nodes.getD [], ∃ entry, node.Writes site entry) ∧
    (∀ entries, site.check owner location nodes = .ok entries ↔
      List.Forall₂ (AttributeNode.Writes site) (nodes.getD []) entries) ∧
    ∀ problem, site.check owner location nodes = .error problem ↔
      ∃ before node after cause, nodes.getD [] = before ++ node :: after ∧
        (∀ other ∈ before, ∃ entry, other.Writes site entry) ∧
          node.Offends site cause ∧ cause.family = .unsupportedAttribute ∧
            problem = ⟨cause, owner, node.place location cause⟩ := by
  refine ⟨exists_checkNodes_iff, fun entries => checkNodes_eq_ok_iff, ?_⟩
  intro problem
  constructor
  · intro refused
    obtain ⟨before, node, after, cause, split, fine, offends, told⟩ :=
      checkNodes_eq_error_iff.mp refused
    exact ⟨before, node, after, cause, split, fine, offends, offends.family_eq, told⟩
  · rintro ⟨before, node, after, cause, split, fine, offends, -, told⟩
    exact checkNodes_eq_error_iff.mpr ⟨before, node, after, cause, split, fine, offends, told⟩

/-- An unknown key without a location of its own is not located, though its declaration is. -/
theorem check_unlocated_key :
    Site.function.check (some "total") (some ⟨"shop.udl", 4, 3⟩) (some [{ key := "Frobnicate" }]) =
      .error ⟨.unknownAttribute "Frobnicate", some "total", none⟩ := rfl

end Site

end NativeBoundary
