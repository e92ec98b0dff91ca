import GenKill.Proofs.Graph.Reach
import GenKill.Proofs.Graph.Session

namespace GenKill

def Node.opposite : Node → Node
  | entry => exit
  | exit => entry
  | statement s => statement s

namespace Graph

variable (g : Graph)

def across (n : Int) : Int := Int.ofNat (g.statements.length + 1) - n

def mirror : Graph where
  statements := g.statements.reverse
  closed := g.closed
  edges := g.edges.map fun e => (g.across e.2, g.across e.1)

@[simp] lemma across_across (n : Int) : g.across (g.across n) = n := by
  simp only [across]
  omega

lemma across_injective : Function.Injective g.across :=
  Function.LeftInverse.injective g.across_across

@[simp] lemma across_beq (m n : NodeId) : (g.across m == g.across n) = (m == n) := by
  rw [Bool.eq_iff_iff, beq_iff_eq, beq_iff_eq, g.across_injective.eq_iff]

lemma nodes_mirror (hc : g.closed = true) : g.mirror.nodes = g.nodes.reverse.map Node.opposite := by
  simp [nodes, mirror, hc, Node.opposite]

lemma size_mirror : g.mirror.size = g.size := by
  rw [size, size, mirror, List.length_reverse]

lemma nodeIds_mirror : g.mirror.nodeIds = g.nodeIds := by
  rw [nodeIds, nodeIds, size_mirror]

lemma map_across_nodeIds (hc : g.closed = true) : g.nodeIds.map g.across = g.nodeIds.reverse := by
  apply List.ext_getElem
  · simp
  · intro i hi _
    have hlt : i < g.statements.length + 2 := by simpa [size, hc] using hi
    simp only [nodeIds, size, hc, if_true, across, List.getElem_map, List.getElem_range,
      List.getElem_reverse, List.length_map, List.length_range, Int.ofNat_eq_natCast]
    omega

lemma predecessors_mirror (n : NodeId) :
    g.mirror.predecessors (g.across n) = (g.successors n).map g.across := by
  simp [predecessors, successors, mirror, List.filter_map, Function.comp_def]

lemma successors_mirror (n : NodeId) :
    g.mirror.successors (g.across n) = (g.predecessors n).map g.across := by
  simp [predecessors, successors, mirror, List.filter_map, Function.comp_def]

lemma mem_spread_map {f : NodeId → NodeId} (hf : Function.Injective f)
    {next next' : NodeId → List NodeId} (hnext : ∀ a, next' (f a) = (next a).map f) (rounds : ℕ)
    (frontier : List NodeId) {seen seen' : NodeSet} (hseen : ∀ a, f a ∈ seen' ↔ a ∈ seen)
    (a : NodeId) :
    f a ∈ spread next' rounds (frontier.map f) seen' ↔ a ∈ spread next rounds frontier seen := by
  induction rounds generalizing frontier seen seen' with
  | zero => exact hseen a
  | succ rounds ih =>
    have hcontains : ∀ b, seen'.contains (f b) = seen.contains b := by
      intro b
      rw [Bool.eq_iff_iff, Std.ExtTreeSet.contains_iff_mem, Std.ExtTreeSet.contains_iff_mem, hseen]
    have hfresh : ((frontier.map f).flatMap next').filter (fun n => !seen'.contains n) =
        ((frontier.flatMap next).filter fun n => !seen.contains n).map f := by
      simp only [List.flatMap_map, hnext, ← List.map_flatMap, List.filter_map, Function.comp_def,
        hcontains]
    simp only [spread, hfresh]
    cases (frontier.flatMap next).filter fun n => !seen.contains n with
    | nil => exact hseen a
    | cons b fresh =>
      apply ih
      intro c
      simp only [Std.ExtTreeSet.mem_union_iff, mem_ofList_nodes, hseen, List.mem_map_of_injective hf]

lemma mem_reach_mirror {next next' : NodeId → List NodeId}
    (hnext : ∀ a, next' (g.across a) = (next a).map g.across) (start n : NodeId) :
    g.across n ∈ g.mirror.reach next' (g.across start) ↔ n ∈ g.reach next start := by
  rw [reach, reach, size_mirror]
  apply mem_spread_map g.across_injective hnext g.size [start]
  intro a
  simp [g.across_injective.eq_iff]

end Graph

end GenKill
