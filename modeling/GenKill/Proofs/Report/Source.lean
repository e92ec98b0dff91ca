import GenKill.Proofs.Report.Results

namespace GenKill

open GenKill.Flow

namespace Source

def Defines (p : Profile) (source : String) (k : ℕ) (v : String) : Prop :=
  ∃ s, (statements p source)[k]? = some s ∧ (Fact.ofStatement p s.text).defined = some v

def Uses (p : Profile) (source : String) (k : ℕ) (v : String) : Prop :=
  ∃ s, (statements p source)[k]? = some s ∧ v ∈ (Fact.ofStatement p s.text).used

end Source

namespace Graph

variable {p : Profile} {source : String} {v : String}

lemma node?_ofSource {n : NodeId} {s : Statement} :
    (ofSource p source).node? n = some (.statement s) ↔
      ∃ k, n = Int.ofNat (k + 1) ∧ (Source.statements p source)[k]? = some s := by
  rw [node?_eq_statement, ofSource, statements_ofStatements]

lemma ofNat_mem_nodeIds_ofSource {k : ℕ} (hk : k < (Source.statements p source).length) :
    Int.ofNat (k + 1) ∈ (ofSource p source).nodeIds := by
  rw [ofSource, mem_nodeIds_ofStatements, Int.ofNat_eq_natCast]
  omega

lemma exists_fact_ofSource {P : Fact → Prop} {n : NodeId} :
    (∃ s, (ofSource p source).node? n = some (.statement s) ∧
      P ((FactTable.ofGraph p (ofSource p source)).fact n)) ↔
      ∃ k, n = Int.ofNat (k + 1) ∧
        ∃ s, (Source.statements p source)[k]? = some s ∧ P (Fact.ofStatement p s.text) := by
  constructor
  · rintro ⟨s, hs, hP⟩
    rw [FactTable.fact_ofGraph hs] at hP
    obtain ⟨k, hk, hs⟩ := node?_ofSource.mp hs
    exact ⟨k, hk, s, hs, hP⟩
  · rintro ⟨k, hk, s, hs, hP⟩
    have hs := node?_ofSource.mpr ⟨k, hk, hs⟩
    refine ⟨s, hs, ?_⟩
    rwa [FactTable.fact_ofGraph hs]

lemma writes_ofSource {n : NodeId} :
    (ofSource p source).Writes (FactTable.ofGraph p (ofSource p source)) v n ↔
      ∃ k, n = Int.ofNat (k + 1) ∧ Source.Defines p source k v := by
  refine (exists_fact_ofSource (P := fun f => f.target = some v)).trans ?_
  simp only [Fact.target_ofStatement, Source.Defines]

lemma reads_ofSource {n : NodeId} :
    (ofSource p source).Reads (FactTable.ofGraph p (ofSource p source)) v n ↔
      ∃ k, n = Int.ofNat (k + 1) ∧ Source.Uses p source k v :=
  exists_fact_ofSource (P := fun f => v ∈ f.used)

end Graph

namespace Analysis

variable {p : Profile} {source : String} {b : Boundary} {cap : ℕ} {k : ℕ} {v : String}

lemma exists_site_ofSource (hcap : 0 < cap) (hk : k < (Source.statements p source).length) :
    (∃ line, Token.site v line ∈ ((reaching.solve b cap (Graph.ofSource p source)
      (FactTable.ofGraph p (Graph.ofSource p source))).store.sets (Int.ofNat (k + 1))).before) ↔
      ∃ j < k, Source.Defines p source j v := by
  refine (exists_site_mem_before_iff hcap (Graph.ofNat_mem_nodeIds_ofSource hk)).trans ?_
  change (∃ m : Int, m < _ ∧ (Graph.ofSource p source).Writes _ v m) ↔ _
  simp only [Graph.writes_ofSource]
  constructor
  · rintro ⟨_, hlt, j, rfl, h⟩
    exact ⟨j, by simpa using hlt, h⟩
  · rintro ⟨j, hj, h⟩
    exact ⟨_, by simpa using hj, j, rfl, h⟩

lemma var_mem_after_ofSource (hcap : 0 < cap) (hk : k < (Source.statements p source).length) :
    Token.var v ∈ ((live.solve b cap (Graph.ofSource p source)
      (FactTable.ofGraph p (Graph.ofSource p source))).store.sets (Int.ofNat (k + 1))).after ↔
      ∃ j > k, Source.Uses p source j v ∧ ∀ i, k < i → i < j → ¬ Source.Defines p source i v := by
  refine (var_mem_after_ofStatements hcap (Graph.ofNat_mem_nodeIds_ofSource hk)).trans ?_
  change (∃ m : Int, _ < m ∧ (Graph.ofSource p source).Reads _ v m ∧
    ∀ x : Int, _ → x < m → ¬ (Graph.ofSource p source).Writes _ v x) ↔ _
  simp only [Graph.writes_ofSource, Graph.reads_ofSource]
  constructor
  · rintro ⟨_, hlt, ⟨j, rfl, hu⟩, hclear⟩
    refine ⟨j, by simpa using hlt, hu, fun i hki hij hd => ?_⟩
    exact hclear (Int.ofNat (i + 1)) (by simpa using hki) (by simpa using hij) ⟨i, rfl, hd⟩
  · rintro ⟨j, hj, hu, hclear⟩
    refine ⟨_, by simpa using hj, ⟨j, rfl, hu⟩, ?_⟩
    rintro _ hx hxm ⟨i, rfl, hd⟩
    exact hclear i (by simpa using hx) (by simpa using hxm) hd

lemma length_definitionsOf_ofSource (hcap : 0 < cap) {n : NodeId} {s : Statement}
    (hn : (Graph.ofSource p source).node? n = some (.statement s)) :
    (Issue.definitionsOf v ((reaching.solve b cap (Graph.ofSource p source)
      (FactTable.ofGraph p (Graph.ofSource p source))).store.sets n).before).length ≤ 1 := by
  apply Issue.length_definitionsOf_le_one
  intro k l hk hl
  exact line_eq_of_site_mem_before (Source.statements_pairwise p source) hcap
    (Graph.statement_mem_nodeIds hn) hk hl

lemma records_result_ofSource {x : Analysis} {hints : Bool} {cap' : ℕ} {facts : FactTable}
    (hcap : 0 < cap) (hcap' : 0 < cap') :
    (x.result hints (Graph.ofSource p source) facts
      (x.solve b cap (Graph.ofSource p source) facts)).records =
    (x.result hints (Graph.ofSource p source) facts
      (x.solve b cap' (Graph.ofSource p source) facts)).records := by
  have hsets : ∀ n, (x.solve b cap (Graph.ofSource p source) facts).store.sets n =
      (x.solve b cap' (Graph.ofSource p source) facts).store.sets n := by
    intro n
    have hstraight := x.direction.straight_ofStatements (Source.statements p source)
    rw [solve_eq, solve_eq]
    exact (Problem.store_of_straight (p := x.problem b facts) hstraight hcap n).trans
      (Problem.store_of_straight (p := x.problem b facts) hstraight hcap' n).symm
  simp only [result, hsets]

lemma convergence_ofSource (x : Analysis) {facts : FactTable} (hcap : 2 ≤ cap) :
    (x.solve b cap (Graph.ofSource p source) facts).convergence.converged = true ∧
      (x.solve b cap (Graph.ofSource p source) facts).convergence.iterations ≤ 2 := by
  have hstraight := x.direction.straight_ofStatements (Source.statements p source)
  exact ⟨Problem.converged_of_straight (p := x.problem b facts) hstraight hcap,
    Problem.iterations_of_straight (p := x.problem b facts) hstraight cap⟩

end Analysis

end GenKill
