import GenKill.Proofs.Analysis.EveryPath
import GenKill.Proofs.Flow.Renaming
import GenKill.Proofs.Graph.Renumbering

namespace GenKill

open GenKill.Flow Filter

namespace Graph

def countingBack : Graph where
  statements := [⟨"x = x + 1", 2⟩, ⟨"x = 1", 1⟩]
  closed := true
  edges := [(0, 2), (2, 1), (1, 1), (1, 3)]

lemma countingBack_built : countingBack.Built := by
  have hopen : Built { statements := countingBack.statements, edges := [(0, 2), (2, 1), (1, 1)] } :=
    (Built.empty.statements rfl countingBack.statements).edges [(0, 2), (2, 1), (1, 1)] rfl
  exact hopen.close.edges [(1, 3)] rfl

def fedLate : Graph where
  statements := [⟨"x = 1", 1⟩, ⟨"c = a + b", 2⟩]
  closed := true
  edges := [(0, 1), (1, 1), (2, 1)]

lemma fedLate_built : fedLate.Built := by
  have hopen : Built { statements := fedLate.statements, edges := fedLate.edges } :=
    (Built.empty.statements rfl fedLate.statements).edges fedLate.edges rfl
  exact hopen.close

def fedEarly : Graph where
  statements := [⟨"c = a + b", 2⟩, ⟨"x = 1", 1⟩]
  closed := true
  edges := [(0, 2), (2, 2), (1, 2)]

end Graph

namespace Analysis

def countingBackFacts : FactTable where
  entries :=
    [(1, { kind := .assign, defined := some "x", used := ["x"], expressions := ["x + 1"] }),
      (2, { kind := .assign, defined := some "x" })]

def found (a : Analysis) (b : Boundary) (cap : ℕ) (g : Graph) (facts : FactTable) : Flows Token :=
  (a.solve b cap g facts).store.flows a.direction

section Renumbering

variable {a : Analysis} {g g' : Graph} {facts facts' : FactTable} {π : NodeId ≃ NodeId}

lemma expressions_renumbering (h : Graph.Renumbering g g' facts facts' π) :
    expressions facts' = expressions facts := by
  refine Std.ExtTreeSet.ext_mem fun {e} => ?_
  simp only [mem_expressions]
  refine exists_congr fun text => ?_
  rw [← π.exists_congr_right]
  simp only [h.fact]

lemma problem_renumbering (b : Boundary) (h : Graph.Renumbering g g' facts facts' π)
    (ha : a.meet = .intersection) : a.problem b facts' = a.problem b facts := by
  simp only [problem, everything_of_intersection ha, expressions_renumbering h]

lemma renames_prepared (ha : a.meet = .intersection) (h : Graph.Renumbering g g' facts facts' π) :
    Renames a.direction g g' (a.prepared g facts) (a.prepared g' facts') π where
  mem := h.mem_nodeIds
  openEnd := by
    intro n
    cases a.direction with
    | forward =>
      have hentry := h.entry n
      simpa [Direction.boundaryNode?, eq_comm] using hentry
    | backward => exact h.exit n
  edge := by
    intro m n
    cases a.direction with
    | forward =>
      simp only [Direction.edge_forward]
      exact h.edge m n
    | backward =>
      simp only [Direction.edge_backward]
      exact h.edge n m
  gen := by
    intro n
    refine Std.ExtTreeSet.ext_mem fun {e} => ?_
    simp only [mem_gen_of_intersection ha, h.node, h.fact]
  kill := by
    intro n
    refine Std.ExtTreeSet.ext_mem fun {e} => ?_
    simp only [mem_kill_of_intersection ha, h.node, h.fact, expressions_renumbering h]

end Renumbering

/-- A run over every path that converged has found the greatest of the solutions that agree with it
where the open end does not lead, exactly if every gap that lasts where it leads has a walk behind it
that cuts the token off. Where this holds, the order in which nodes were added does not matter. -/
theorem greatest_iff_lasting_cut {a : Analysis} (ha : a.meet = .intersection) (b : Boundary)
    {g : Graph} (hg : g.Built) (hclosed : g.closed = true) (facts : FactTable) (cap : ℕ)
    (hc : (a.solve b cap g facts).convergence.converged = true) :
    ((a.problem b facts).Greatest g (a.prepared g facts) (a.found b cap g facts) ↔
      ∀ e ∈ expressions facts, ∀ n, a.direction.Covers g n →
        (a.problem b facts).Lasting g (a.prepared g facts) e n →
          (a.problem b facts).Cut g (a.prepared g facts) e n) ∧
    ∀ (g' : Graph) (facts' : FactTable) (π : NodeId ≃ NodeId) (cap' : ℕ),
      g.Renumbering g' facts facts' π → g'.Built →
      (a.solve b cap' g' facts').convergence.converged = true →
      (a.problem b facts).Greatest g (a.prepared g facts) (a.found b cap g facts) →
      (a.problem b facts').Greatest g' (a.prepared g' facts') (a.found b cap' g' facts') →
      ∀ n ∈ g.nodeIds,
        (a.found b cap' g' facts').taken (π n) = (a.found b cap g facts).taken n ∧
        (a.found b cap' g' facts').passed (π n) = (a.found b cap g facts).passed n := by
  have hs : (a.problem b facts).Seeded g (a.prepared g facts) (expressions facts) :=
    seeded ha b hg hclosed
  refine ⟨hs.greatest_iff hc, ?_⟩
  intro g' facts' π cap' hπ hg' hc' hgreat hgreat' n hn
  have hs' : (a.problem b facts').Seeded g' (a.prepared g' facts') (expressions facts') :=
    seeded ha b hg' (hπ.closed hclosed)
  rw [problem_renumbering b hπ ha, expressions_renumbering hπ] at hs'
  rw [solve_eq, problem_renumbering b hπ ha] at hc'
  simp only [found, solve_eq, problem_renumbering b hπ ha] at hgreat hgreat' ⊢
  exact Problem.flows_eq_of_greatest hs hs' hc hc' (renames_prepared ha hπ) hgreat hgreat' hn

section Counting

lemma counting_renumbering :
    Graph.counting.Renumbering Graph.countingBack countingFacts countingBackFacts
      (Equiv.swap 1 2) :=
  Graph.renumbering_swap _ _ true [(0, 1), (1, 2), (2, 2), (2, 3)] _ _

lemma counting_covers_source {m n : NodeId} (h : Direction.forward.Edge Graph.counting m n) :
    Direction.forward.Covers Graph.counting m :=
  counting_covers (Direction.mem_nodeIds_of_source Graph.counting_built.wired h).1

lemma countingBack_covers_source {m n : NodeId}
    (h : Direction.forward.Edge Graph.countingBack m n) :
    Direction.forward.Covers Graph.countingBack m := by
  have hrenames := renames_prepared (a := available) rfl counting_renumbering
  have hedge := (hrenames.symm.edge m n).mpr h
  rw [← (Equiv.swap (1 : NodeId) 2).apply_symm_apply m]
  exact hrenames.covers_of_covers (counting_covers_source hedge)

theorem counting_greatest :
    (available.problem .universal countingFacts).Greatest Graph.counting
      (available.prepared Graph.counting countingFacts)
      (available.found .universal 6 Graph.counting countingFacts) ∧
    (available.found .universal 6 Graph.countingBack countingBackFacts).taken 1 =
      (available.found .universal 6 Graph.counting countingFacts).taken 2 := by
  have hs : (available.problem .universal countingFacts).Seeded Graph.counting
      (available.prepared Graph.counting countingFacts) (expressions countingFacts) :=
    seeded rfl .universal Graph.counting_built rfl
  have hs' : (available.problem .universal countingBackFacts).Seeded Graph.countingBack
      (available.prepared Graph.countingBack countingBackFacts) (expressions countingBackFacts) :=
    seeded rfl .universal Graph.countingBack_built rfl
  have hc : (available.solve .universal 6 Graph.counting countingFacts).convergence.converged =
      true := hs.solve_converged (fun _ _ _ h => counting_covers_source h) (by decide)
  have hc' : (available.solve .universal 6 Graph.countingBack
      countingBackFacts).convergence.converged = true :=
    hs'.solve_converged (fun _ _ _ h => countingBack_covers_source h) (by decide)
  obtain ⟨hiff, hsame⟩ := greatest_iff_lasting_cut (a := available) rfl .universal
    Graph.counting_built rfl countingFacts 6 hc
  obtain ⟨hiff', -⟩ := greatest_iff_lasting_cut (a := available) rfl .universal
    Graph.countingBack_built rfl countingBackFacts 6 hc'
  have hgreat := hiff.mpr fun e _ n _ hlast =>
    absurd hlast (Problem.not_lasting_of_covers fun _ _ h => counting_covers_source h)
  have hgreat' := hiff'.mpr fun e _ n _ hlast =>
    absurd hlast (Problem.not_lasting_of_covers fun _ _ h => countingBack_covers_source h)
  refine ⟨hgreat, ?_⟩
  exact (hsame _ _ _ 6 counting_renumbering Graph.countingBack_built hc' hgreat hgreat' 2
    (by decide)).1

end Counting

section Available

variable {facts : FactTable} {es : TokenSet Token}

def equippedWith (es : TokenSet Token) (g : Graph) (facts : FactTable) : Store Token :=
  g.numbered.foldl (fun store x => store.update x.1 fun sets =>
    { sets with
      gen := .ofList ((facts.fact x.1).expressions.map .expr)
      kill := (facts.fact x.1).target.elim sets.kill fun v => es.filter (·.mentions v) })
    (Store.ofIds g.nodeIds)

lemma problem_available (h : expressions facts = es) :
    available.problem .universal facts = ⟨.forward, .intersection, es, some es⟩ := by
  rw [← h]
  rfl

lemma prepared_available (h : expressions facts = es) (g : Graph) :
    available.prepared g facts = equippedWith es g facts := by
  rw [← h]
  rfl

lemma solve_of_expressions {a : Analysis} (ha : a.meet = .intersection) (b : Boundary)
    (h : expressions facts = es) (cap : ℕ) (g : Graph) :
    a.solve b cap g facts = Problem.solve ⟨a.direction, .intersection, a.boundary b es, some es⟩ g cap
      (equippedWith es g facts) := by
  rw [← h]
  cases a with
  | reaching => cases ha
  | live => cases ha
  | available => rfl
  | busy => rfl

lemma solve_available (h : expressions facts = es) (cap : ℕ) (g : Graph) :
    available.solve .universal cap g facts =
      Problem.solve ⟨.forward, .intersection, es, some es⟩ g cap (equippedWith es g facts) :=
  solve_of_expressions rfl .universal h cap g

end Available

section Fed

def fedLateFacts : FactTable where
  entries :=
    [(1, { kind := .assign, defined := some "x" }),
      (2, { kind := .assign, defined := some "c", used := ["a", "b"], expressions := ["a + b"] })]

def fedEarlyFacts : FactTable where
  entries :=
    [(1, { kind := .assign, defined := some "c", used := ["a", "b"], expressions := ["a + b"] }),
      (2, { kind := .assign, defined := some "x" })]

def fedSum : Flows Token where
  taken n := if n = 0 ∨ n = 1 then .ofList [.expr "a + b"] else ∅
  passed n := if n = 3 then ∅ else .ofList [.expr "a + b"]

lemma expressions_fedLate : expressions fedLateFacts = .ofList [.expr "a + b"] := by
  have hall : fedLateFacts.allExpressions = ["a + b"] := by
    rw [FactTable.allExpressions, List.mergeSort_of_pairwise (by decide)]
    decide
  rw [expressions, hall]
  rfl

lemma fedLate_renumbering :
    Graph.fedLate.Renumbering Graph.fedEarly fedLateFacts fedEarlyFacts (Equiv.swap 1 2) :=
  Graph.renumbering_swap _ _ true [(0, 1), (1, 1), (2, 1)] _ _

lemma expressions_fedEarly : expressions fedEarlyFacts = .ofList [.expr "a + b"] := by
  rw [expressions_renumbering fedLate_renumbering, expressions_fedLate]

lemma fedSum_solves : (available.problem .universal fedLateFacts).Solves Graph.fedLate
    (available.prepared Graph.fedLate fedLateFacts) fedSum := by
  rw [problem_available expressions_fedLate, prepared_available expressions_fedLate]
  exact ⟨by decide +kernel, by decide +kernel⟩

lemma fedSum_agree : (available.problem .universal fedLateFacts).Agree Graph.fedLate fedSum
    (available.found .universal 100 Graph.fedLate fedLateFacts) := by
  have hrest : ∀ n ∈ Graph.fedLate.nodeIds, n ∉ [0, 1] →
      fedSum.taken n = (available.found .universal 100 Graph.fedLate fedLateFacts).taken n ∧
      fedSum.passed n = (available.found .universal 100 Graph.fedLate fedLateFacts).passed n := by
    rw [found, solve_available expressions_fedLate]
    decide +kernel
  have hreach : ∀ n ∈ [0, 1], n ∈ Graph.fedLate.reachableFrom 0 := by decide
  intro n hn hcn
  refine hrest n hn fun h => hcn ?_
  exact (Direction.covers_forward_iff Graph.fedLate_built.wired).mpr (hreach n h)

lemma fed_runs :
    (available.solve .universal 100 Graph.fedLate fedLateFacts).convergence.converged = true ∧
    (available.solve .universal 100 Graph.fedEarly fedEarlyFacts).convergence.converged = true ∧
    Token.expr "a + b" ∉ (available.found .universal 100 Graph.fedLate fedLateFacts).taken 1 ∧
    Token.expr "a + b" ∈ (available.found .universal 100 Graph.fedEarly fedEarlyFacts).taken 2 := by
  simp only [found, solve_available expressions_fedLate, solve_available expressions_fedEarly]
  decide +kernel

theorem fedLate_not_greatest :
    Graph.fedLate.Built ∧ Graph.fedLate.closed = true ∧
    (available.solve .universal 100 Graph.fedLate fedLateFacts).convergence.converged = true ∧
    (¬ (available.problem .universal fedLateFacts).Greatest Graph.fedLate
      (available.prepared Graph.fedLate fedLateFacts)
      (available.found .universal 100 Graph.fedLate fedLateFacts)) ∧
    Graph.fedLate.Renumbering Graph.fedEarly fedLateFacts fedEarlyFacts (Equiv.swap 1 2) ∧
    (available.solve .universal 100 Graph.fedEarly fedEarlyFacts).convergence.converged = true ∧
    Token.expr "a + b" ∉ (available.found .universal 100 Graph.fedLate fedLateFacts).taken 1 ∧
    Token.expr "a + b" ∈ (available.found .universal 100 Graph.fedEarly fedEarlyFacts).taken 2 := by
  obtain ⟨hlate, hearly, hno, hsum⟩ := fed_runs
  refine ⟨Graph.fedLate_built, rfl, hlate, ?_, fedLate_renumbering, hearly, hno, hsum⟩
  rintro ⟨-, hgreat⟩
  exact hno ((hgreat fedSum fedSum_solves fedSum_agree 1 (by decide)).1 _ (by decide))

end Fed

end Analysis

end GenKill
