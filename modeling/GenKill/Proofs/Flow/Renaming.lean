import GenKill.Proofs.Flow.Greatest
import Mathlib.Logic.Equiv.Defs

namespace GenKill.Flow

variable {α : Type} [Ord α]

structure Renames (d : Direction) (g g' : Graph) (s s' : Store α) (π : NodeId ≃ NodeId) :
    Prop where
  mem : ∀ n, π n ∈ g'.nodeIds ↔ n ∈ g.nodeIds
  openEnd : ∀ n, d.boundaryNode? g' = some (π n) ↔ d.boundaryNode? g = some n
  edge : ∀ m n, d.Edge g' (π m) (π n) ↔ d.Edge g m n
  gen : ∀ n, (s'.sets (π n)).gen = (s.sets n).gen
  kill : ∀ n, (s'.sets (π n)).kill = (s.sets n).kill

def Flows.rename (x : Flows α) (π : NodeId ≃ NodeId) : Flows α where
  taken n := x.taken (π n)
  passed n := x.passed (π n)

namespace Renames

variable {d : Direction} {g g' : Graph} {s s' : Store α} {π : NodeId ≃ NodeId}

lemma symm (h : Renames d g g' s s' π) : Renames d g' g s' s π.symm where
  mem n := by rw [← h.mem, π.apply_symm_apply]
  openEnd n := by rw [← h.openEnd, π.apply_symm_apply]
  edge m n := by rw [← h.edge, π.apply_symm_apply, π.apply_symm_apply]
  gen n := by rw [← h.gen, π.apply_symm_apply]
  kill n := by rw [← h.kill, π.apply_symm_apply]

lemma forall_sources (h : Renames d g g' s s' π) {n : NodeId} {P : NodeId → Prop} :
    (∀ m ∈ d.sources g' (π n), P m) ↔ ∀ m ∈ d.sources g n, P (π m) := by
  constructor
  · exact fun hall m hm => hall (π m) ((h.edge m n).mpr hm)
  · intro hall m hm
    rw [← π.apply_symm_apply m] at hm ⊢
    exact hall (π.symm m) ((h.edge _ n).mp hm)

lemma sources_eq_nil (h : Renames d g g' s s' π) {n : NodeId} :
    d.sources g' (π n) = [] ↔ d.sources g n = [] := by
  simp only [List.eq_nil_iff_forall_not_mem]
  exact h.forall_sources (P := fun _ => False)

lemma covers_of_covers (h : Renames d g g' s s' π) {n : NodeId} (hn : d.Covers g n) :
    d.Covers g' (π n) := by
  obtain ⟨o, ho, hpath⟩ := hn
  refine ⟨π o, (h.openEnd o).mpr ho, ?_⟩
  induction hpath with
  | refl => exact .refl
  | @tail m n _ hmn ih => exact ih.tail ((h.edge m n).mpr hmn)

lemma covers_iff (h : Renames d g g' s s' π) {n : NodeId} :
    d.Covers g' (π n) ↔ d.Covers g n := by
  refine ⟨fun hn => ?_, h.covers_of_covers⟩
  rw [← π.symm_apply_apply n]
  exact h.symm.covers_of_covers hn

end Renames

namespace Problem

variable [Std.TransOrd α] {p : Problem α} {g g' : Graph} {s s' : Store α} {π : NodeId ≃ NodeId}
variable {value : TokenSet α} {x : Flows α} {e : α}

lemma Solves.rename (hp : p.meet = .intersection) [Std.LawfulEqOrd α]
    (h : Renames p.direction g g' s s' π) (hx : p.Solves g' s' x) : p.Solves g s (x.rename π) where
  taken := by
    intro n hn
    refine Std.ExtTreeSet.ext_mem fun {e} => ?_
    change e ∈ x.taken (π n) ↔ _
    rw [hx.taken _ ((h.mem n).mpr hn), mem_met hp, mem_met hp]
    simp only [h.openEnd, h.sources_eq_nil, h.forall_sources]
    rfl
  passed := by
    intro n hn
    change x.passed (π n) = _
    rw [hx.passed _ ((h.mem n).mpr hn)]
    exact transfer_congr (h.gen n) (h.kill n) _

section Runs

variable [Std.LawfulEqOrd α] (hs : p.Seeded g s value) (hs' : p.Seeded g' s' value) {cap cap' : ℕ}
  (hc : (p.solve g cap s).convergence.converged = true)
  (hc' : (p.solve g' cap' s').convergence.converged = true)

include hs hc hc' in
lemma passed_le_of_not_covers (h : Renames p.direction g g' s s' π) {n : NodeId}
    (hn : n ∈ g.nodeIds) (hcn : ¬ p.direction.Covers g n)
    (he : e ∈ ((p.solve g cap s).store.flows p.direction).passed n) :
    e ∈ ((p.solve g' cap' s').store.flows p.direction).passed (π n) := by
  by_contra hno
  have hx := (solves_of_converged hc').rename hs.meet h
  obtain ⟨k, hstore, -⟩ := solve_store_of_converged hc
  rw [hstore] at he
  exact hs.lacks_of_notMem_passed hx (k + 1) hn hcn hno he

include hs hs' hc hc'

lemma agree_rename (h : Renames p.direction g g' s s' π) :
    p.Agree g (((p.solve g' cap' s').store.flows p.direction).rename π)
      ((p.solve g cap s).store.flows p.direction) := by
  refine hs.agree_of_passed hc ((solves_of_converged hc').rename hs.meet h) ?_ ?_
  · intro n hn hb hnil
    exact hs'.taken_of_sources_eq_nil hc' ((h.mem n).mpr hn) (mt (h.openEnd n).mp hb)
      (h.sources_eq_nil.mpr hnil)
  · intro n hn hcn
    refine Std.ExtTreeSet.ext_mem fun {e} => ⟨fun he => ?_, ?_⟩
    · have hle := passed_le_of_not_covers hs' hc' hc h.symm ((h.mem n).mpr hn)
        (mt h.covers_iff.mp hcn) he
      rwa [π.symm_apply_apply] at hle
    · exact passed_le_of_not_covers hs hc hc' h hn hcn

lemma below_rename (h : Renames p.direction g g' s s' π)
    (hgreat : p.Greatest g s ((p.solve g cap s).store.flows p.direction)) :
    (((p.solve g' cap' s').store.flows p.direction).rename π).Below g
      ((p.solve g cap s).store.flows p.direction) :=
  hgreat.2 _ ((solves_of_converged hc').rename hs.meet h) (agree_rename hs hs' hc hc' h)

lemma flows_eq_of_greatest (h : Renames p.direction g g' s s' π)
    (hgreat : p.Greatest g s ((p.solve g cap s).store.flows p.direction))
    (hgreat' : p.Greatest g' s' ((p.solve g' cap' s').store.flows p.direction)) {n : NodeId}
    (hn : n ∈ g.nodeIds) :
    ((p.solve g' cap' s').store.flows p.direction).taken (π n) =
      ((p.solve g cap s).store.flows p.direction).taken n ∧
    ((p.solve g' cap' s').store.flows p.direction).passed (π n) =
      ((p.solve g cap s).store.flows p.direction).passed n := by
  have hle := below_rename hs hs' hc hc' h hgreat n hn
  have hge := below_rename hs' hs hc' hc h.symm hgreat' (π n) ((h.mem n).mpr hn)
  simp only [Flows.rename, π.symm_apply_apply] at hle hge
  constructor
  · exact Std.ExtTreeSet.ext_mem fun {e} => ⟨hle.1 e, hge.1 e⟩
  · exact Std.ExtTreeSet.ext_mem fun {e} => ⟨hle.2 e, hge.2 e⟩

end Runs

end Problem

end GenKill.Flow
