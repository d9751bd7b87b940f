import NativeBoundary.Problem

/-!
# Checking attributes

A written attribute must have a known key, a value exactly when its kind needs one, and a kind that
its site accepts. A list is checked from the front; the first attribute that is wrong decides.
-/

namespace NativeBoundary

namespace AttributeNode

/-- The attribute that a node writes. A value must not be empty, and the receiver convention has
only one value. -/
def interpret (owner : Option String) (node : AttributeNode) : Except Problem Attribute :=
  match AttributeKind.ofKey? node.key with
  | none => .error ⟨.unknownAttribute node.key, owner, node.location⟩
  | some kind =>
      if kind.isFlag then
        match node.value with
        | none => .ok { kind }
        | some _ => .error ⟨.attributeTakesNoValue kind, owner, node.location⟩
      else
        match node.value with
        | none => .error ⟨.attributeNeedsValue kind, owner, node.location⟩
        | some value =>
            if value = "" then .error ⟨.attributeNeedsValue kind, owner, node.location⟩
            else if kind = .self ∧ value ≠ Attribute.sharedReceiver then
              .error ⟨.unknownReceiver value, owner, node.location⟩
            else .ok { kind, value := some value }

end AttributeNode

namespace Site

def checkNode (site : Site) (owner : Option String) (location : Option Location)
    (node : AttributeNode) : Except Problem Attribute := do
  let entry ← node.interpret owner
  if site.accepted.contains entry.kind then .ok entry
  else .error ⟨.misplacedAttribute entry.kind site, owner, node.location.or location⟩

def checkNodes (site : Site) (owner : Option String) (location : Option Location) :
    List AttributeNode → Except Problem (List Attribute)
  | [] => .ok []
  | node :: rest => do
      let entry ← site.checkNode owner location node
      let others ← checkNodes site owner location rest
      .ok (entry :: others)

/-- The attributes of a declaration; an absent list is an empty one. -/
def check (site : Site) (owner : Option String) (location : Option Location)
    (nodes : Option (List AttributeNode)) : Except Problem (List Attribute) :=
  site.checkNodes owner location (nodes.getD [])

end Site

end NativeBoundary
