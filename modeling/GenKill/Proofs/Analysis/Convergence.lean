import GenKill.Proofs.Analysis.EveryPath
import GenKill.Proofs.Flow.Convergence

namespace GenKill

open GenKill.Flow Filter

namespace Graph

def circling : Graph where
  statements := [⟨"x = 1", 1⟩, ⟨"y = 2", 2⟩, ⟨"z = 3", 3⟩, ⟨"c = a + b", 4⟩]
  closed := true
  edges := [(0, 1), (1, 3), (3, 2), (2, 1), (4, 3)]

lemma circling_built : circling.Built := by
  have hopen : Built { statements := circling.statements, edges := circling.edges } :=
    (Built.empty.statements rfl circling.statements).edges circling.edges rfl
  exact hopen.close

lemma circling_edge {m n : NodeId} (h : Direction.forward.Edge circling m n) :
    m = 0 ∧ n = 1 ∨ m = 1 ∧ n = 3 ∨ m = 3 ∧ n = 2 ∨ m = 2 ∧ n = 1 ∨ m = 4 ∧ n = 3 := by
  have h : (m, n) ∈ circling.edges := mem_predecessors.mp h
  simpa [circling] using h

lemma circling_covers_iff {n : NodeId} :
    Direction.forward.Covers circling n ↔ n ∈ circling.reachableFrom 0 :=
  Direction.covers_forward_iff circling_built.wired

lemma not_covers_circling : ¬ Direction.forward.Covers circling 4 := by
  rw [circling_covers_iff]
  decide

section Walks

variable {clear : NodeId → Prop}

lemma circling_walk (h : ∀ n ∈ [1, 2, 3], clear n) (k : ℕ) :
    Walk .forward circling clear 3 3 (2 * k) := by
  induction k with
  | zero => exact .start
  | succ k ih =>
    have h2 : Walk .forward circling clear 3 2 (2 * k + 1) :=
      ih.back (Direction.edge_of_mem (by decide)) (by decide) (h 2 (by decide))
    have h1 : Walk .forward circling clear 3 1 (2 * k + 2) :=
      h2.back (Direction.edge_of_mem (by decide)) (by decide) (h 1 (by decide))
    exact h1.ahead (Direction.edge_of_mem (by decide)) (by decide) (h 3 (by decide))

lemma circling_walk_parity {n : NodeId} {k : ℕ} (h : Walk .forward circling clear 3 n k) :
    (n = 3 ∨ n = 1) ∧ k % 2 = 0 ∨ n = 2 ∧ k % 2 = 1 := by
  induction h with
  | start => decide
  | @ahead a b k _ hab hp _ ih =>
    rcases circling_edge hab with ⟨rfl, rfl⟩ | ⟨rfl, rfl⟩ | ⟨rfl, rfl⟩ | ⟨rfl, rfl⟩ | ⟨rfl, rfl⟩
    · exact absurd ih (by simp)
    · simpa using ih
    · exact absurd hp (by decide)
    · exact absurd hp (by decide)
    · exact absurd hp (by decide)
  | @back a b k _ hab hp _ ih =>
    rcases circling_edge hab with ⟨rfl, rfl⟩ | ⟨rfl, rfl⟩ | ⟨rfl, rfl⟩ | ⟨rfl, rfl⟩ | ⟨rfl, rfl⟩
    · exact absurd (by decide) hp
    · exact absurd (by decide) hp
    · have hk : k % 2 = 0 := by simpa using ih
      exact Or.inr ⟨rfl, by omega⟩
    · have hk : k % 2 = 1 := by simpa using ih
      exact Or.inl ⟨Or.inr rfl, by omega⟩
    · exact absurd ih (by simp)

end Walks

end Graph

namespace Analysis

variable {a : Analysis} {g : Graph}

/-- An analysis over every path converges under all high enough caps exactly if each expression is
kept from a node for good, or is in the end kept from it by every pass or by none. -/
theorem exists_cap_iff_steady (ha : a.meet = .intersection) (b : Boundary) (hg : g.Built)
    (hclosed : g.closed = true) (facts : FactTable) :
    (∃ k, ∀ cap ≥ k, (a.solve b cap g facts).convergence.converged = true) ↔
      ∀ e ∈ expressions facts, ∀ n ∈ g.nodeIds,
        (a.problem b facts).Steady g (a.prepared g facts) e n :=
  (seeded ha b hg hclosed).exists_cap_iff

def circlingFacts : FactTable where
  entries :=
    [(4, { kind := .assign, defined := some "c", used := ["a", "b"], expressions := ["a + b"] })]

section Circling

lemma sum_mem_expressions_circling : Token.expr "a + b" ∈ expressions circlingFacts :=
  mem_expressions.mpr ⟨"a + b", 4, by decide, rfl⟩

lemma circling_relies :
    ∀ n ∈ [1, 2, 3], (available.problem .universal circlingFacts).Relies Graph.circling
      (available.prepared Graph.circling circlingFacts) (.expr "a + b") n := by
  intro n hn
  have hfact : ∀ n ∈ [1, 2, 3], Direction.forward.boundaryNode? Graph.circling ≠ some n ∧
      (circlingFacts.fact n).expressions = [] := by decide
  refine ⟨(hfact n hn).1, fun hgen => ?_⟩
  obtain ⟨_, text, -, ht, -⟩ := (mem_gen_of_intersection rfl).mp hgen
  rw [(hfact n hn).2] at ht
  exact absurd ht List.not_mem_nil

lemma circling_not_bars :
    ∀ n ∈ [0, 1, 2, 3, 4], ¬ (available.problem .universal circlingFacts).Bars Graph.circling
      (available.prepared Graph.circling circlingFacts) (.expr "a + b") n := by
  rintro n hn ⟨hgen, hkill | hsource⟩
  · obtain ⟨_, v, -, hv, -, hm⟩ := (mem_kill_of_intersection rfl).mp hkill
    have htarget : ∀ n ∈ [0, 1, 2, 3, 4], ∀ v ∈ (circlingFacts.fact n).target,
        Token.mentions v (.expr "a + b") = false := by decide
    exact absurd (hm.symm.trans (htarget n hn v hv)) (by decide)
  · split at hsource
    case isTrue => exact hsource sum_mem_expressions_circling
    case isFalse hb =>
      have hfour : ∀ n ∈ [0, 1, 2, 3, 4], Direction.forward.boundaryNode? Graph.circling ≠ some n →
        Direction.forward.sources Graph.circling n = [] → n = 4 := by decide
      obtain rfl := hfour n hn hb hsource.1
      exact hgen ((mem_gen_of_intersection rfl).mpr ⟨⟨"c = a + b", 4⟩, "a + b", rfl, by decide, rfl⟩)

lemma circling_not_starved :
    ¬ (available.problem .universal circlingFacts).Starved Graph.circling
      (available.prepared Graph.circling circlingFacts) (.expr "a + b") 3 := by
  rintro ⟨m, hbars, k, hw⟩
  have hclosed : ∀ n ∈ [0, 1, 2, 3, 4], ∀ m ∈ Direction.forward.sources Graph.circling n,
    m ∈ [0, 1, 2, 3, 4] := by decide
  exact circling_not_bars m (hw.start_of_closed hclosed (by decide)) hbars

lemma circling_gapped_iff (k : ℕ) :
    (available.problem .universal circlingFacts).Gapped Graph.circling
      (available.prepared Graph.circling circlingFacts) (.expr "a + b") k 3 ↔ k % 2 = 0 := by
  constructor
  · rintro ⟨m, hm, a, hma, -, -, hw⟩
    rcases Graph.circling_edge hma with
      ⟨rfl, rfl⟩ | ⟨rfl, rfl⟩ | ⟨rfl, rfl⟩ | ⟨rfl, rfl⟩ | ⟨rfl, rfl⟩
    · exact absurd (Graph.circling_covers_iff.mpr (by decide)) hm
    · exact absurd (Graph.circling_covers_iff.mpr (by decide)) hm
    · exact absurd (Graph.circling_covers_iff.mpr (by decide)) hm
    · exact absurd (Graph.circling_covers_iff.mpr (by decide)) hm
    · simpa using Graph.circling_walk_parity hw
  · intro hk
    obtain ⟨j, rfl⟩ := Nat.dvd_of_mod_eq_zero hk
    exact ⟨4, Graph.not_covers_circling, 3, Direction.edge_of_mem (by decide), by decide,
      circling_relies 3 (by decide), Graph.circling_walk circling_relies j⟩

lemma circling_not_steady :
    ¬ (available.problem .universal circlingFacts).Steady Graph.circling
      (available.prepared Graph.circling circlingFacts) (.expr "a + b") 3 := by
  rintro (hstarved | hall | hnone)
  · exact circling_not_starved hstarved
  · obtain ⟨k, hk⟩ := eventually_atTop.mp hall
    have hodd := (circling_gapped_iff (2 * k + 1)).mp (hk (2 * k + 1) (by omega))
    omega
  · obtain ⟨k, hk⟩ := eventually_atTop.mp hnone
    exact hk (2 * k) (by omega) ((circling_gapped_iff (2 * k)).mpr (by omega))

end Circling

theorem circling_not_exists_cap :
    ¬ ∃ k, ∀ cap ≥ k,
      (available.solve .universal cap Graph.circling circlingFacts).convergence.converged = true := by
  rw [exists_cap_iff_steady rfl .universal Graph.circling_built rfl]
  intro hsteady
  exact circling_not_steady (hsteady _ sum_mem_expressions_circling 3 (by decide))

theorem circling_never_converges :
    Graph.circling.Built ∧ Graph.circling.closed = true ∧ ∀ cap,
      (available.solve .universal cap Graph.circling circlingFacts).convergence.converged =
        false := by
  refine ⟨Graph.circling_built, rfl, fun cap => ?_⟩
  rw [Bool.eq_false_iff]
  intro hc
  exact circling_not_steady ((seeded rfl .universal Graph.circling_built rfl).steady_of_converged hc
    sum_mem_expressions_circling (by decide))

end Analysis

end GenKill
