import NativeBoundary.Text.CellWidth

/-!
# Clusters

The stretches of a text that a terminal shows as one: a character that takes cells, with the
characters behind it that take none, are joined to it or style it. A text is cut between clusters
only, and the clusters of a text make up the text.
-/

namespace NativeBoundary.Text

structure Cluster where
  characters : List Char
  cells : Nat
  deriving DecidableEq, Repr

/-- The cells that several stretches take together. -/
def total : List Nat → Nat
  | [] => 0
  | cells :: rest => cells + total rest

/-- How far a text has been divided: the clusters and the characters of each, the latest first; the
last character that took cells and has not been styled; and whether a joiner has just been met. -/
structure Clustering where
  clusters : List Cluster := []
  base : Option Char := none
  joined : Bool := false

namespace Clustering

/-- Puts a character that adds the given cells into the latest cluster. -/
def extend (clusters : List Cluster) (c : Char) (cells : Nat) : List Cluster :=
  match clusters with
  | [] => [⟨[c], cells⟩]
  | latest :: others => ⟨c :: latest.characters, latest.cells + cells⟩ :: others

/-- A joiner in front of all clusters joins nothing. -/
def step (clustering : Clustering) (c : Char) : Clustering :=
  let extended := { clustering with clusters := extend clustering.clusters c 0, joined := false }
  if clustering.joined then extended
  else if c = joiner then { extended with joined := !clustering.clusters.isEmpty }
  else if c = pictographStyle then
    let width := styleWidth clustering.base
    { clusters := extend clustering.clusters c width
      base := if width = 0 then clustering.base else none }
  else if cellWidth c = 0 then extended
  else { clusters := ⟨[c], cellWidth c⟩ :: clustering.clusters, base := some c }

/-- The characters of clusters whose latest characters come first. -/
def content (clusters : List Cluster) : List Char :=
  clusters.reverse.flatMap fun cluster => cluster.characters.reverse

theorem content_extend (clusters : List Cluster) (c : Char) (cells : Nat) :
    content (extend clusters c cells) = content clusters ++ [c] := by
  cases clusters <;> simp [content, extend]

theorem content_step (clustering : Clustering) (c : Char) :
    content (clustering.step c).clusters = content clustering.clusters ++ [c] := by
  unfold step
  repeat' split
  all_goals first
    | exact content_extend _ _ _
    | simp [content]

theorem content_foldl (clustering : Clustering) (text : List Char) :
    content (text.foldl step clustering).clusters = content clustering.clusters ++ text := by
  induction text generalizing clustering with
  | nil => simp
  | cons c rest ih => rw [List.foldl_cons, ih, content_step, List.append_assoc]; rfl

end Clustering

def clusters (text : List Char) : List Cluster :=
  (text.foldl Clustering.step {}).clusters.reverse.map fun cluster =>
    { cluster with characters := cluster.characters.reverse }

/-- The first clusters that together take at most the given cells. -/
def takeClusters : Nat → List Cluster → List Cluster
  | _, [] => []
  | room, cluster :: rest =>
      if cluster.cells ≤ room then cluster :: takeClusters (room - cluster.cells) rest else []

theorem flatMap_clusters (text : List Char) :
    (clusters text).flatMap Cluster.characters = text := by
  rw [clusters, List.flatMap_map]
  exact Clustering.content_foldl {} text

theorem takeClusters_prefix (room : Nat) (clusters : List Cluster) :
    takeClusters room clusters <+: clusters := by
  induction clusters generalizing room with
  | nil => exact List.prefix_rfl
  | cons cluster rest ih =>
      simp only [takeClusters]
      split
      · exact (List.prefix_cons_inj cluster).mpr (ih _)
      · exact List.nil_prefix

theorem takeClusters_cells_le (room : Nat) (clusters : List Cluster) :
    total ((takeClusters room clusters).map Cluster.cells) ≤ room := by
  induction clusters generalizing room with
  | nil => exact Nat.zero_le room
  | cons cluster rest ih =>
      simp only [takeClusters]
      split
      · have others := ih (room - cluster.cells)
        simp only [List.map_cons, total]
        omega
      · exact Nat.zero_le room

end NativeBoundary.Text
