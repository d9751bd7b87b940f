import NativeBoundary.Attribute.Check
import NativeBoundary.Proofs.Action.Results

/-!
# Checked attributes

A list of attributes that passes its check has one entry for each node, of the kind that the key of
the node names.  So whether a kind is present can be told from the keys as they are written.  The
other way round, attributes that are written out as nodes are read back by every site that accepts
their kinds.
-/

namespace NativeBoundary

theorem AttributeKind.key_of_ofKey? {key : String} {kind : AttributeKind}
    (found : ofKey? key = some kind) : kind.key = key := by
  have accepted := List.find?_some found
  exact eq_of_beq accepted

theorem AttributeKind.key_injective {first second : AttributeKind}
    (same : first.key = second.key) : first = second := by
  have found := ofKey?_key first
  rw [same, ofKey?_key second] at found
  exact (Option.some.inj found).symm

/-- An attribute has the key and the value of its node. -/
theorem AttributeNode.parts_of_interpret {owner : Option String} {node : AttributeNode}
    {entry : Attribute} (read : node.interpret owner = .ok entry) :
    node.key = entry.kind.key ∧ node.value = entry.value := by
  unfold interpret at read
  cases found : AttributeKind.ofKey? node.key with
  | none => simp [found] at read
  | some kind =>
      have keyed := AttributeKind.key_of_ofKey? found
      have kept : entry.kind = kind ∧ entry.value = node.value := by
        simp only [found] at read
        split at read <;> split at read
        · next absent =>
          cases read
          exact ⟨rfl, absent.symm⟩
        · cases read
        · cases read
        · next given =>
          split at read
          · cases read
          · split at read
            · cases read
            · cases read
              exact ⟨rfl, given.symm⟩
      exact ⟨by rw [kept.1, keyed], kept.2.symm⟩

namespace Site

theorem parts_of_checkNode {site : Site} {owner : Option String} {location : Option Location}
    {node : AttributeNode} {entry : Attribute}
    (checked : site.checkNode owner location node = .ok entry) :
    node.key = entry.kind.key ∧ node.value = entry.value := by
  obtain ⟨given, read, rest⟩ := Results.bind_eq_ok.mp checked
  split at rest
  · cases rest
    exact AttributeNode.parts_of_interpret read
  · cases rest

theorem beq_key_of_checkNode {site : Site} {owner : Option String} {location : Option Location}
    {node : AttributeNode} {entry : Attribute} (kind : AttributeKind)
    (checked : site.checkNode owner location node = .ok entry) :
    (node.key == kind.key) = (entry.kind == kind) := by
  rw [(parts_of_checkNode checked).1]
  by_cases same : entry.kind = kind
  · simp [same]
  · have differs : entry.kind.key ≠ kind.key := fun sameKey =>
      same (AttributeKind.key_injective sameKey)
    rw [beq_false_of_ne differs, beq_false_of_ne same]

/-- A kind is among the checked attributes exactly if its key is written. -/
theorem has_of_checkNodes {site : Site} {owner : Option String} {location : Option Location}
    {nodes : List AttributeNode} {attributes : List Attribute} (kind : AttributeKind)
    (checked : site.checkNodes owner location nodes = .ok attributes) :
    Attribute.has kind attributes = nodes.any fun node => node.key == kind.key := by
  induction nodes generalizing attributes with
  | nil =>
      cases checked
      rfl
  | cons node rest ih =>
      obtain ⟨entry, first, remaining⟩ := Results.bind_eq_ok.mp checked
      obtain ⟨entries, others, finished⟩ := Results.bind_eq_ok.mp remaining
      cases finished
      have rest := ih others
      unfold Attribute.has at rest ⊢
      rw [List.any_cons, List.any_cons, rest, beq_key_of_checkNode kind first]

/-- The value of a kind among the checked attributes is the first that is written with its key. -/
theorem valueOf_of_checkNodes {site : Site} {owner : Option String} {location : Option Location}
    {nodes : List AttributeNode} {attributes : List Attribute} (kind : AttributeKind)
    (checked : site.checkNodes owner location nodes = .ok attributes) :
    Attribute.valueOf kind attributes =
      (nodes.find? fun node => node.key == kind.key).bind AttributeNode.value := by
  induction nodes generalizing attributes with
  | nil =>
      cases checked
      rfl
  | cons node rest ih =>
      obtain ⟨entry, first, remaining⟩ := Results.bind_eq_ok.mp checked
      obtain ⟨entries, others, finished⟩ := Results.bind_eq_ok.mp remaining
      cases finished
      have later := ih others
      unfold Attribute.valueOf at later ⊢
      rw [List.find?_cons, List.find?_cons, beq_key_of_checkNode kind first]
      cases entry.kind == kind with
      | true => exact (parts_of_checkNode first).2.symm
      | false => exact later

/-- The key of a node is that of a kind that the site accepts. -/
def accepts (site : Site) (node : AttributeNode) : Bool :=
  (AttributeKind.ofKey? node.key).any site.accepted.contains

theorem accepts_of_checkNode {site : Site} {owner : Option String} {location : Option Location}
    {node : AttributeNode} {entry : Attribute}
    (checked : site.checkNode owner location node = .ok entry) : site.accepts node = true := by
  have keyed := (parts_of_checkNode checked).1
  obtain ⟨given, -, rest⟩ := Results.bind_eq_ok.mp checked
  split at rest
  · next accepted =>
    cases rest
    rw [accepts, keyed, AttributeKind.ofKey?_key, Option.any_some]
    exact accepted
  · cases rest

/-- A list passes its check only if each of its nodes is accepted. -/
theorem accepts_of_checkNodes {site : Site} {owner : Option String} {location : Option Location}
    {nodes : List AttributeNode} {attributes : List Attribute}
    (checked : site.checkNodes owner location nodes = .ok attributes) :
    ∀ node ∈ nodes, site.accepts node = true := by
  induction nodes generalizing attributes with
  | nil => exact List.forall_mem_nil _
  | cons node rest ih =>
      obtain ⟨entry, first, remaining⟩ := Results.bind_eq_ok.mp checked
      obtain ⟨entries, others, -⟩ := Results.bind_eq_ok.mp remaining
      exact List.forall_mem_cons.mpr ⟨accepts_of_checkNode first, ih others⟩

end Site

/-! ## Attributes written out -/

namespace Attribute

variable {kind : AttributeKind}

/-- The node that writes an attribute. -/
def node (entry : Attribute) : AttributeNode := { key := entry.kind.key, value := entry.value }

/-- The receiver convention apart, any text but the empty one is a value. -/
theorem interpret_value {value : String} (takes : kind.isFlag = false) (other : kind ≠ .self)
    (stated : value ≠ "") (owner : Option String) :
    (node { kind, value := some value }).interpret owner = .ok { kind, value := some value } := by
  simp [AttributeNode.interpret, node, AttributeKind.ofKey?_key, takes, other, stated]

end Attribute

theorem Site.check_nodes {site : Site} {owner : Option String} {entries : List Attribute}
    (reads : ∀ entry ∈ entries, entry.node.interpret owner = .ok entry)
    (accepts : ∀ entry ∈ entries, entry.kind ∈ site.accepted) (location : Option Location) :
    site.check owner location (some (entries.map Attribute.node)) = .ok entries := by
  change site.checkNodes owner location (entries.map Attribute.node) = _
  induction entries with
  | nil => rfl
  | cons entry rest ih =>
      obtain ⟨readsFirst, readsRest⟩ := List.forall_mem_cons.mp reads
      obtain ⟨acceptsFirst, acceptsRest⟩ := List.forall_mem_cons.mp accepts
      have first : site.checkNode owner location entry.node = .ok entry := by
        rw [checkNode, readsFirst]
        exact if_pos (List.contains_iff_mem.mpr acceptsFirst)
      rw [List.map_cons, checkNodes, first, ih readsRest acceptsRest]
      rfl

end NativeBoundary
