import GenKill.Proofs.Flow.Seeded
import Mathlib.Order.Filter.AtTopBot.Group
import Mathlib.Order.Filter.Finite

/-! When runs over all paths converge. A node that is not covered begins without any token, and on
its first visit may be too late to hide this from a node before it in the order of visits. The gap
then goes round with the passes, and the run converges unless it comes back for ever. -/

namespace GenKill.Flow.Problem

open Filter

variable {α : Type} [Ord α] [Std.TransOrd α] {p : Problem α} {g : Graph} {s : Store α}
variable {value : TokenSet α} {e : α}

/-- A walk leads to `n` from a node that never passes the token on. -/
def Starved (p : Problem α) (g : Graph) (s : Store α) (e : α) (n : NodeId) : Prop :=
  ∃ m, p.Bars g s e m ∧ ∃ k, Walk p.direction g (p.Relies g s e) m n k

/-- A walk with `k` edges back leads to `n` behind an edge back from a node that is not covered. -/
def Gapped (p : Problem α) (g : Graph) (s : Store α) (e : α) (k : ℕ) (n : NodeId) : Prop :=
  ∃ m, ¬ p.direction.Covers g m ∧ ∃ a, p.direction.Edge g m a ∧ ¬ p.direction.Precedes m a ∧
    p.Relies g s e a ∧ Walk p.direction g (p.Relies g s e) a n k

/-- The token is kept from `n` for good, or from some pass on the gaps come to `n` with every pass
or with none. -/
def Steady (p : Problem α) (g : Graph) (s : Store α) (e : α) (n : NodeId) : Prop :=
  p.Starved g s e n ∨
    (∀ᶠ k in atTop, p.Gapped g s e k n) ∨ ∀ᶠ k in atTop, ¬ p.Gapped g s e k n

lemma relies_start : p.Relies g (p.start g s) e = p.Relies g s e := by
  funext n
  unfold Relies
  rw [gen_start]

namespace Seeded

variable (h : p.Seeded g s value)

include h

lemma bars_start (n : NodeId) : p.Bars g (p.start g s) e n ↔ p.Bars g s e n := by
  unfold Bars
  rw [gen_start, kill_start]
  by_cases hb : p.direction.boundaryNode? g = some n
  · simp only [if_pos hb]
  · simp only [if_neg hb]
    by_cases hc : p.direction.Covers g n
    · simp only [hc.sources_ne_nil hb, false_and]
    · rw [h.sets_start_of_not_covers hc]

lemma lacks_succ_iff_gapped (he : e ∈ value) {n : NodeId} (hn : n ∈ g.nodeIds) (t : ℕ) :
    p.Lacks g (p.start g s) e (t + 1) n ↔
      (∃ m, p.Bars g s e m ∧ ∃ k ≤ t, Walk p.direction g (p.Relies g s e) m n k) ∨
      p.Gapped g s e t n := by
  rw [h.signal.iff_walk h.wired t hn, relies_start, Gapped]
  simp only [h.bars_start, h.lacks_zero_iff, he, and_true]

lemma steady_iff (he : e ∈ value) {n : NodeId} (hn : n ∈ g.nodeIds) :
    p.Steady g s e n ↔ (∀ᶠ t in atTop, p.Lacks g (p.start g s) e t n) ∨
      ∀ᶠ t in atTop, ¬ p.Lacks g (p.start g s) e t n := by
  have hshift : ∀ P : ℕ → Prop, (∀ᶠ t in atTop, P t) ↔ ∀ᶠ t in atTop, P (t + 1) := by
    intro P
    rw [← eventually_map (m := (· + 1)) (P := P), map_add_atTop_eq_nat]
  rw [hshift, hshift fun t => ¬ p.Lacks g (p.start g s) e t n]
  by_cases hst : p.Starved g s e n
  · refine iff_of_true (Or.inl hst) (Or.inl ?_)
    obtain ⟨m, hm, k, hw⟩ := hst
    filter_upwards [eventually_ge_atTop k] with t ht
    exact (h.lacks_succ_iff_gapped he hn t).mpr (Or.inl ⟨m, hm, k, ht, hw⟩)
  · have hgap : ∀ t, p.Lacks g (p.start g s) e (t + 1) n ↔ p.Gapped g s e t n := by
      intro t
      rw [h.lacks_succ_iff_gapped he hn, or_iff_right]
      rintro ⟨m, hm, k, -, hw⟩
      exact hst ⟨m, hm, k, hw⟩
    simp only [Steady, hst, false_or, hgap]

variable [Std.LawfulEqOrd α]

lemma steady_of_converged {cap : ℕ} (hc : (p.solve g cap s).convergence.converged = true)
    (he : e ∈ value) {n : NodeId} (hn : n ∈ g.nodeIds) : p.Steady g s e n := by
  obtain ⟨k, -, hk⟩ := solve_converged_iff.mp hc
  have hsame : ∀ t ≥ k, p.Lacks g (p.start g s) e t n ↔ p.Lacks g (p.start g s) e k n := by
    intro t ht
    rw [Lacks, Shows, sets_after_of_settled hk ht, Lacks, Shows]
  rw [h.steady_iff he hn]
  by_cases hl : p.Lacks g (p.start g s) e k n
  · refine Or.inl ?_
    filter_upwards [eventually_ge_atTop k] with t ht
    exact (hsame t ht).mpr hl
  · refine Or.inr ?_
    filter_upwards [eventually_ge_atTop k] with t ht
    exact mt (hsame t ht).mp hl

lemma eventually_passed_eq (hsteady : ∀ e ∈ value, ∀ n ∈ g.nodeIds, p.Steady g s e n) :
    ∀ᶠ t in atTop, ∀ n ∈ g.nodeIds, p.direction.passed ((p.after g (p.start g s) (t + 1)).sets n) =
      p.direction.passed ((p.after g (p.start g s) t).sets n) := by
  have hone : ∀ n ∈ g.nodeIds, ∀ e ∈ value, ∀ᶠ t in atTop,
      p.Lacks g (p.start g s) e (t + 1) n ↔ p.Lacks g (p.start g s) e t n := by
    intro n hn e he
    rcases (h.steady_iff he hn).mp (hsteady e he n hn) with hall | hall
    · obtain ⟨k, hk⟩ := eventually_atTop.mp hall
      filter_upwards [eventually_ge_atTop k] with t ht
      exact iff_of_true (hk (t + 1) (Nat.le_succ_of_le ht)) (hk t ht)
    · obtain ⟨k, hk⟩ := eventually_atTop.mp hall
      filter_upwards [eventually_ge_atTop k] with t ht
      exact iff_of_false (hk (t + 1) (Nat.le_succ_of_le ht)) (hk t ht)
  have htokens : {e | e ∈ value}.Finite := by
    refine value.toList.finite_toSet.subset fun e he => ?_
    exact Std.ExtTreeSet.mem_toList.mpr he
  have hall : ∀ᶠ t in atTop, ∀ n ∈ {n | n ∈ g.nodeIds}, ∀ e ∈ {e | e ∈ value},
      p.Lacks g (p.start g s) e (t + 1) n ↔ p.Lacks g (p.start g s) e t n := by
    refine (eventually_all_finite g.nodeIds.finite_toSet).mpr fun n hn => ?_
    exact (eventually_all_finite htokens).mpr (hone n hn)
  filter_upwards [hall] with t ht n hn
  refine Std.ExtTreeSet.ext_mem fun {e} => not_iff_not.mp ?_
  by_cases he : e ∈ value
  · exact ht n hn e he
  · exact iff_of_true (h.lacks_of_notMem he hn (t + 1)) (h.lacks_of_notMem he hn t)

lemma exists_cap_iff :
    (∃ k, ∀ cap ≥ k, (p.solve g cap s).convergence.converged = true) ↔
      ∀ e ∈ value, ∀ n ∈ g.nodeIds, p.Steady g s e n := by
  constructor
  · rintro ⟨k, hk⟩ e he n hn
    exact h.steady_of_converged (hk k le_rfl) he hn
  · intro hsteady
    obtain ⟨k, hk⟩ := eventually_atTop.mp (h.eventually_passed_eq hsteady)
    refine ⟨k + 2, fun cap hcap => solve_converged_iff.mpr ⟨k + 1, hcap, ?_⟩⟩
    exact settled_of_passed_eq h.wired (hk k le_rfl) (hk (k + 1) (Nat.le_succ k))

end Seeded

end GenKill.Flow.Problem
