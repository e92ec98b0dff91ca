import GenKill.Proofs.Flow.Run
import GenKill.Proofs.Graph.Reach

/-! Graphs that a run cannot tell apart. A run asks a graph for its nodes and its edges, but not for the
order in which the edges were drawn, and not for what the statements say. -/

namespace GenKill

open GenKill.Flow

namespace Graph

structure Alike (g h : Graph) : Prop where
  length : h.statements.length = g.statements.length
  closed : h.closed = g.closed
  edges : ∀ e, e ∈ h.edges ↔ e ∈ g.edges

namespace Alike

variable {g h : Graph} (hgh : g.Alike h)

include hgh

lemma nodeIds : h.nodeIds = g.nodeIds := by
  simp only [Graph.nodeIds, size, hgh.length, hgh.closed]

lemma exitId? : h.exitId? = g.exitId? := by
  simp only [Graph.exitId?, hgh.length, hgh.closed]

lemma boundaryNode? (d : Direction) : d.boundaryNode? h = d.boundaryNode? g := by
  cases d with
  | forward => rfl
  | backward => exact hgh.exitId?

lemma order (d : Direction) : d.order h = d.order g := by
  cases d <;> simp only [Direction.order, hgh.nodeIds]

lemma mem_sources (d : Direction) {m n : NodeId} : m ∈ d.sources h n ↔ m ∈ d.sources g n := by
  cases d with
  | forward => exact mem_predecessors.trans ((hgh.edges (m, n)).trans mem_predecessors.symm)
  | backward => exact mem_successors.trans ((hgh.edges (n, m)).trans mem_successors.symm)

variable (hg : g.Wired)

include hg

lemma wired : h.Wired := by
  intro e he
  rw [hgh.nodeIds]
  exact hg e ((hgh.edges e).mp he)

lemma reachableFrom (n : NodeId) : h.reachableFrom n = g.reachableFrom n := by
  apply Std.ExtTreeSet.ext_mem
  intro m
  rw [mem_reachableFrom (hgh.wired hg), mem_reachableFrom hg]
  simp only [hgh.edges]

lemma reaching (n : NodeId) : h.reaching n = g.reaching n := by
  apply Std.ExtTreeSet.ext_mem
  intro m
  rw [mem_reaching (hgh.wired hg), mem_reaching hg]
  simp only [hgh.edges]

end Alike

end Graph

namespace Flow

variable {α : Type} [Ord α] [Std.TransOrd α] [Std.LawfulEqOrd α]

lemma Meet.combine_congr (m : Meet) {sets sets' : List (TokenSet α)}
    (h : ∀ x, x ∈ sets ↔ x ∈ sets') (identity : TokenSet α) :
    m.combine sets identity = m.combine sets' identity := by
  apply Std.ExtTreeSet.ext_mem
  intro e
  cases m with
  | union => simp only [mem_combine_union, h]
  | intersection =>
    cases sets with
    | nil =>
      have hnil : sets' = [] := List.eq_nil_iff_forall_not_mem.mpr fun x hx =>
        List.not_mem_nil ((h x).mpr hx)
      rw [hnil]
    | cons x rest =>
      have hne : sets' ≠ [] := List.ne_nil_of_mem ((h x).mp List.mem_cons_self)
      rw [mem_combine_intersection (List.cons_ne_nil x rest), mem_combine_intersection hne]
      simp only [h]

namespace Problem

variable (p : Problem α) {g h : Graph} (hgh : g.Alike h)

include hgh

lemma takenAt_of_alike (s : Store α) (n : NodeId) : p.takenAt h s n = p.takenAt g s n := by
  have hsets : ∀ x, x ∈ (p.direction.sources h n).map (fun m => p.direction.passed (s.sets m)) ↔
      x ∈ (p.direction.sources g n).map fun m => p.direction.passed (s.sets m) := by
    simp only [List.mem_map, hgh.mem_sources, implies_true]
  rw [takenAt, takenAt, hgh.boundaryNode?, Meet.combine_congr p.meet hsets]

lemma pass_of_alike (s : Store α) : p.pass h s = p.pass g s := by
  have hvisit : p.visit h = p.visit g := by
    funext s n
    simp only [visit, p.takenAt_of_alike hgh]
  rw [pass, pass, hgh.order, hvisit]

lemma passes_of_alike (cap : ℕ) (s : Store α) : p.passes h cap s = p.passes g cap s := by
  have hsettled : ∀ s t : Store α, settled h s t = settled g s t := by
    intro s t
    rw [settled, settled, hgh.nodeIds]
  induction cap generalizing s with
  | zero => rfl
  | succ cap ih => rw [passes_succ, passes_succ, p.pass_of_alike hgh, hsettled, ih]

omit [Std.TransOrd α] [Std.LawfulEqOrd α] in
lemma start_of_alike (hg : g.Wired) (s : Store α) : p.start h s = p.start g s := by
  have hcovered : p.covered? h = p.covered? g := by
    unfold covered?
    cases p.direction with
    | forward => simp only [hgh.reachableFrom hg, hgh.boundaryNode?]
    | backward => simp only [hgh.reaching hg, hgh.boundaryNode?]
  rw [start, start, hcovered]

lemma solve_of_alike (hg : g.Wired) (cap : ℕ) (s : Store α) :
    p.solve h cap s = p.solve g cap s := by
  simp only [solve, p.start_of_alike hgh hg, p.passes_of_alike hgh]

end Problem

end Flow

end GenKill
