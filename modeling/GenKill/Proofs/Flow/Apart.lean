import GenKill.Proofs.Flow.Equations
import GenKill.Proofs.Flow.Monotone
import GenKill.Proofs.Flow.Seeded

/-! The nodes that stand apart: the open end does not lead to them, and no seed is put there. All that
flows into them comes from such nodes, so a run over all paths treats them as a graph of their own. It
builds up the least solution of their equations from below, whether it converges elsewhere or not. -/

namespace GenKill.Flow

variable {α : Type} [Ord α] [Std.TransOrd α]

def Direction.Apart (d : Direction) (g : Graph) (n : NodeId) : Prop :=
  n ∈ g.nodeIds ∧ ¬ d.Covers g n

lemma Direction.Apart.source {d : Direction} {g : Graph} {m n : NodeId} (hg : g.Wired)
    (h : d.Apart g n) (hm : m ∈ d.sources g n) : d.Apart g m :=
  ⟨(mem_nodeIds_of_source hg hm).1, not_covers_source h.2 m hm⟩

lemma Direction.Apart.ne_boundaryNode? {d : Direction} {g : Graph} {n : NodeId} (h : d.Apart g n) :
    d.boundaryNode? g ≠ some n :=
  fun hb => h.2 ⟨n, hb, .refl⟩

namespace Problem

variable {p : Problem α} {g : Graph} {s : Store α} {value : TokenSet α} {x y : Flows α} {e : α}

structure SolvesApart (p : Problem α) (g : Graph) (s : Store α) (x : Flows α) : Prop where
  taken : ∀ n, p.direction.Apart g n → ∀ e, e ∈ x.taken n ↔
    p.direction.sources g n ≠ [] ∧ ∀ m ∈ p.direction.sources g n, e ∈ x.passed m
  passed : ∀ n, p.direction.Apart g n → ∀ e, e ∈ x.passed n ↔
    e ∈ (s.sets n).gen ∨ e ∈ x.taken n ∧ e ∉ (s.sets n).kill

def LeastApart (p : Problem α) (g : Graph) (s : Store α) (x : Flows α) : Prop :=
  p.SolvesApart g s x ∧ ∀ y, p.SolvesApart g s y → ∀ n, p.direction.Apart g n →
    (∀ e ∈ x.taken n, e ∈ y.taken n) ∧ ∀ e ∈ x.passed n, e ∈ y.passed n

namespace Seeded

variable (h : p.Seeded g s value) {n : NodeId} (hn : p.direction.Apart g n)

include h hn

lemma mem_taken_apart (t : ℕ) :
    e ∈ p.direction.taken ((p.after g (p.start g s) (t + 1)).sets n) ↔
      p.direction.sources g n ≠ [] ∧ ∀ m ∈ p.direction.sources g n,
        if p.direction.Precedes m n then p.Shows g (p.start g s) e (t + 1) m
        else p.Shows g (p.start g s) e t m := by
  by_cases hm : p.direction.sources g n = []
  · rw [taken_of_sources_nil h.meet hn.1 hn.ne_boundaryNode? hm, h.sets_start_of_not_covers hn.2,
      h.taken]
    simp [hm]
  · rw [mem_taken_intersection h.meet hn.1 hn.ne_boundaryNode? hm]
    simp [hm]

section Growth

lemma shows_succ_of_shows_apart {t : ℕ} (hs : p.Shows g (p.start g s) e t n) :
    p.Shows g (p.start g s) e (t + 1) n := by
  by_contra hl
  exact h.lacks_of_lacks_succ_of_not_covers hn.1 hn.2 t hl hs

lemma mem_taken_succ_apart {t : ℕ}
    (he : e ∈ p.direction.taken ((p.after g (p.start g s) t).sets n)) :
    e ∈ p.direction.taken ((p.after g (p.start g s) (t + 1)).sets n) := by
  cases t with
  | zero =>
    change e ∈ p.direction.taken ((p.start g s).sets n) at he
    rw [h.sets_start_of_not_covers hn.2, h.taken] at he
    exact absurd he Std.ExtTreeSet.not_mem_empty
  | succ t =>
    rw [h.mem_taken_apart hn] at he ⊢
    refine he.imp_right fun hread m hm => ?_
    have hsource := hn.source h.wired hm
    have hshow := hread m hm
    split at hshow
    case isTrue hp =>
      rw [if_pos hp]
      exact h.shows_succ_of_shows_apart hsource hshow
    case isFalse hp =>
      rw [if_neg hp]
      exact h.shows_succ_of_shows_apart hsource hshow

lemma below_succ_apart (t : ℕ) :
    ((p.after g (p.start g s) t).sets n).Below ((p.after g (p.start g s) (t + 1)).sets n) := by
  apply Sets.Below.of_taken_passed p.direction
  · rw [gen_after, gen_after]
  · rw [kill_after, kill_after]
  · exact fun e he => h.mem_taken_succ_apart hn he
  · exact fun e he => h.shows_succ_of_shows_apart hn he

end Growth

section Rest

variable {t : ℕ} (ht : g.size ≤ t)

include ht

lemma shows_succ_iff_apart :
    p.Shows g (p.start g s) e (t + 1) n ↔ p.Shows g (p.start g s) e t n := by
  refine not_iff_not.mp (Signal.stable h.wired h.signal (S := fun n => ¬ p.direction.Covers g n)
    (fun _ hn => Direction.not_covers_source hn) ?_ ht n hn.1 hn.2)
  exact fun n hn hc => Or.inr (h.lacks_of_lacks_succ_of_not_covers hn hc)

lemma mem_taken_iff_apart :
    e ∈ p.direction.taken ((p.after g (p.start g s) (t + 1)).sets n) ↔
      p.direction.sources g n ≠ [] ∧
        ∀ m ∈ p.direction.sources g n, p.Shows g (p.start g s) e (t + 1) m := by
  rw [h.mem_taken_apart hn]
  refine and_congr_right' (forall₂_congr fun m hm => ?_)
  rw [h.shows_succ_iff_apart (hn.source h.wired hm) ht, ite_self]

lemma sets_succ_apart [Std.LawfulEqOrd α] :
    (p.after g (p.start g s) (t + 2)).sets n = (p.after g (p.start g s) (t + 1)).sets n := by
  apply p.direction.sets_ext
  · rw [gen_after, gen_after]
  · rw [kill_after, kill_after]
  · apply Std.ExtTreeSet.ext_mem
    intro e
    rw [h.mem_taken_iff_apart hn (Nat.le_succ_of_le ht), h.mem_taken_iff_apart hn ht]
    refine and_congr_right' (forall₂_congr fun m hm => ?_)
    exact h.shows_succ_iff_apart (hn.source h.wired hm) (Nat.le_succ_of_le ht)
  · apply Std.ExtTreeSet.ext_mem
    intro e
    exact h.shows_succ_iff_apart hn (Nat.le_succ_of_le ht)

lemma sets_after_apart [Std.LawfulEqOrd α] {u : ℕ} (htu : t ≤ u) :
    (p.after g (p.start g s) (u + 1)).sets n = (p.after g (p.start g s) (t + 1)).sets n := by
  induction u, htu using Nat.le_induction with
  | base => rfl
  | succ u htu ih => rw [h.sets_succ_apart hn (ht.trans htu), ih]

end Rest

omit hn in
lemma solvesApart_after {t : ℕ} (ht : g.size ≤ t) :
    p.SolvesApart g s ((p.after g (p.start g s) (t + 1)).flows p.direction) where
  taken n hn e := h.mem_taken_iff_apart hn ht
  passed n hn e := by
    have hshow := shows_succ_iff (p := p) (s := p.start g s) (e := e) hn.1 t
    rwa [gen_start, kill_start] at hshow

lemma of_shows_apart {P : NodeId → Prop}
    (hgen : ∀ n, p.direction.Apart g n → e ∈ (s.sets n).gen → P n)
    (hpass : ∀ n, p.direction.Apart g n → p.direction.sources g n ≠ [] →
      (∀ m ∈ p.direction.sources g n, P m) → e ∉ (s.sets n).kill → P n)
    {t : ℕ} (he : p.Shows g (p.start g s) e t n) : P n := by
  refine pass_induction (d := p.direction) h.wired (P := fun t n => p.direction.Apart g n →
    p.Shows g (p.start g s) e t n → P n) ?_ ?_ t n hn.1 hn he
  · intro n _ hn he
    exact absurd he (h.lacks_zero_iff.mpr fun hv => hn.2 hv.1)
  · intro t n hmem ih hn he
    rw [shows_succ_iff hmem, gen_start, kill_start, h.mem_taken_apart hn] at he
    rcases he with he | ⟨⟨hne, hread⟩, hkill⟩
    · exact hgen n hn he
    · refine hpass n hn hne (fun m hm => ?_) hkill
      have hsource := hn.source h.wired hm
      have ihm := ih m hm
      have hshow := hread m hm
      split at hshow
      case isTrue hp =>
        rw [if_pos hp] at ihm
        exact ihm hsource hshow
      case isFalse hp =>
        rw [if_neg hp] at ihm
        exact ihm hsource hshow

lemma mem_passed_of_shows_apart (hy : p.SolvesApart g s y) {t : ℕ}
    (he : p.Shows g (p.start g s) e t n) : e ∈ y.passed n := by
  refine h.of_shows_apart hn (P := fun n => e ∈ y.passed n) ?_ ?_ he
  · exact fun n hn hgen => (hy.passed n hn e).mpr (Or.inl hgen)
  · intro n hn hne hall hkill
    exact (hy.passed n hn e).mpr (Or.inr ⟨(hy.taken n hn e).mpr ⟨hne, hall⟩, hkill⟩)

omit hn in
lemma leastApart_after {t : ℕ} (ht : g.size ≤ t) :
    p.LeastApart g s ((p.after g (p.start g s) (t + 1)).flows p.direction) := by
  refine ⟨h.solvesApart_after ht, fun y hy n hn => ⟨fun e he => ?_, fun e he => ?_⟩⟩
  · obtain ⟨hne, hshows⟩ := (h.mem_taken_iff_apart hn ht).mp he
    rw [hy.taken n hn]
    exact ⟨hne, fun m hm => h.mem_passed_of_shows_apart (hn.source h.wired hm) hy (hshows m hm)⟩
  · exact h.mem_passed_of_shows_apart hn hy he

omit hn in
lemma leastApart_solve [Std.LawfulEqOrd α] {cap : ℕ}
    (hdone : (p.solve g cap s).convergence.converged = true ∨
      g.size + 1 ≤ (p.solve g cap s).convergence.iterations) :
    p.LeastApart g s ((p.solve g cap s).store.flows p.direction) := by
  obtain ⟨t, ht, hsets⟩ : ∃ t ≥ g.size, ∀ n, (p.solve g cap s).store.sets n =
      (p.after g (p.start g s) (t + 1)).sets n := by
    rcases hdone with hc | hlong
    · obtain ⟨k, hk, hs⟩ := solve_converged_iff.mp hc
      have hlate : k ≤ cap + g.size + 1 := by omega
      refine ⟨cap + g.size, Nat.le_add_left _ _, fun n => ?_⟩
      rw [sets_solve, sets_after_of_settled hs hk.le, sets_after_of_settled hs hlate]
    · have hle : (p.solve g cap s).convergence.iterations ≤ cap :=
        Int.ofNat_le.mpr (length_passes_le cap (p.start g s))
      obtain ⟨t, rfl⟩ : ∃ t, cap = t + 1 := ⟨cap - 1, by omega⟩
      exact ⟨t, by omega, fun n => sets_solve (t + 1) s n⟩
  have hflows : (p.solve g cap s).store.flows p.direction =
      (p.after g (p.start g s) (t + 1)).flows p.direction := by
    simp only [Store.flows, hsets]
  rw [hflows]
  exact h.leastApart_after ht

end Seeded

end Problem

end GenKill.Flow
