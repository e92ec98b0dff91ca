import GenKill.Proofs.Analysis.Convergence
import GenKill.Proofs.Analysis.Greatest
import GenKill.Proofs.Flow.Apart

namespace GenKill.Analysis

open GenKill.Flow

/-- At the nodes that stand apart, what an analysis over every path has found grows with each pass, and
does not change after one pass more than there are nodes. From then on, and whenever the run has
converged, it is the least solution of the equations at these nodes. -/
theorem apart_grows_to_least {a : Analysis} (ha : a.meet = .intersection) (b : Boundary) {g : Graph}
    (hg : g.Built) (hclosed : g.closed = true) (facts : FactTable) (cap : ℕ) :
    let run := a.solve b cap g facts
    (run.start :: run.trail).IsChain (fun x y => ∀ n, a.direction.Apart g n →
      (x.sets n).Below (y.sets n)) ∧
    (∀ i j x y, g.size ≤ i → i ≤ j → run.trail[i]? = some x → run.trail[j]? = some y →
      ∀ n, a.direction.Apart g n → y.sets n = x.sets n) ∧
    (run.convergence.converged = true ∨ g.size + 1 ≤ run.convergence.iterations →
      (a.problem b facts).LeastApart g (a.prepared g facts) (a.found b cap g facts)) := by
  intro run
  have hs : (a.problem b facts).Seeded g (a.prepared g facts) (expressions facts) :=
    seeded ha b hg hclosed
  refine ⟨?_, ?_, hs.leastApart_solve⟩
  · exact Problem.isChain_passes cap _ fun k n hn => hs.below_succ_apart hn k
  · intro i j x y hi hij hx hy n hn
    rw [Problem.eq_after_of_getElem?_passes hx, Problem.eq_after_of_getElem?_passes hy]
    exact hs.sets_after_apart hn hi hij

lemma expressions_circling : expressions circlingFacts = .ofList [.expr "a + b"] := by
  have hall : circlingFacts.allExpressions = ["a + b"] := by
    rw [FactTable.allExpressions, List.mergeSort_of_pairwise (by decide)]
    decide
  rw [expressions, hall]
  rfl

theorem circling_apart_least :
    let run := available.solve .universal 7 Graph.circling circlingFacts
    run.convergence = ⟨false, 7, .forward, .intersection⟩ ∧
    Direction.forward.Apart Graph.circling 4 ∧
    (available.found .universal 7 Graph.circling circlingFacts).passed 4 = .ofList [.expr "a + b"] ∧
    (available.problem .universal circlingFacts).LeastApart Graph.circling
      (available.prepared Graph.circling circlingFacts)
      (available.found .universal 7 Graph.circling circlingFacts) := by
  intro run
  have hrun : run.convergence = ⟨false, 7, .forward, .intersection⟩ := by
    simp only [run, solve_available expressions_circling]
    decide +kernel
  refine ⟨hrun, ⟨by decide, Graph.not_covers_circling⟩, ?_, ?_⟩
  · rw [found, solve_available expressions_circling]
    decide +kernel
  · apply (apart_grows_to_least rfl .universal Graph.circling_built rfl circlingFacts 7).2.2
    right
    change _ ≤ run.convergence.iterations
    rw [hrun]
    decide

end GenKill.Analysis
