import GenKill.Proofs.Flow.Run
import GenKill.Proofs.Flow.Walk

/-! One token in a run. Under a union its presence spreads along the flow, under an intersection its
absence does. -/

namespace GenKill.Flow.Problem

variable {α : Type} [Ord α] [Std.TransOrd α] {p : Problem α} {g : Graph} {s : Store α} {e : α}

def Shows (p : Problem α) (g : Graph) (s : Store α) (e : α) (t : ℕ) (n : NodeId) : Prop :=
  e ∈ p.direction.passed ((p.after g s t).sets n)

lemma mem_seen {t : ℕ} {n m : NodeId} :
    e ∈ p.seen (p.after g s t) (p.after g s (t + 1)) n m ↔
      if p.direction.Precedes m n then p.Shows g s e (t + 1) m else p.Shows g s e t m := by
  unfold seen
  split <;> rfl

lemma taken_boundary {n : NodeId} (hn : n ∈ g.nodeIds)
    (hb : p.direction.boundaryNode? g = some n) (t : ℕ) :
    p.direction.taken ((p.after g s (t + 1)).sets n) = p.boundary := by
  rw [taken_after_succ hn, met, if_pos hb]

lemma shows_succ_iff {n : NodeId} (hn : n ∈ g.nodeIds) (t : ℕ) :
    p.Shows g s e (t + 1) n ↔ e ∈ (s.sets n).gen ∨
      e ∈ p.direction.taken ((p.after g s (t + 1)).sets n) ∧ e ∉ (s.sets n).kill :=
  mem_passed_after_succ hn s t

section Union

def Emits (p : Problem α) (g : Graph) (s : Store α) (e : α) (n : NodeId) : Prop :=
  e ∈ (s.sets n).gen ∨
    p.direction.boundaryNode? g = some n ∧ e ∈ p.boundary ∧ e ∉ (s.sets n).kill

def Carries (p : Problem α) (g : Graph) (s : Store α) (e : α) (n : NodeId) : Prop :=
  p.direction.boundaryNode? g ≠ some n ∧ e ∉ (s.sets n).kill

lemma mem_taken_union (hp : p.meet = .union) {n : NodeId} (hn : n ∈ g.nodeIds)
    (hb : p.direction.boundaryNode? g ≠ some n) (t : ℕ) :
    e ∈ p.direction.taken ((p.after g s (t + 1)).sets n) ↔ ∃ m ∈ p.direction.sources g n,
      if p.direction.Precedes m n then p.Shows g s e (t + 1) m else p.Shows g s e t m := by
  rw [taken_after_succ hn, met, if_neg hb, hp, mem_combine_union]
  simp only [List.mem_map, exists_exists_and_eq_and, mem_seen]

lemma signal_union (hp : p.meet = .union) :
    Signal p.direction g (p.Emits g s e) (p.Carries g s e) (p.Shows g s e) := by
  intro t n hn
  rw [shows_succ_iff hn]
  by_cases hb : p.direction.boundaryNode? g = some n
  · rw [taken_boundary hn hb]
    simp [Emits, Carries, hb]
  · rw [mem_taken_union hp hn hb]
    simp only [Emits, Carries, hb, false_and, or_false, ne_eq, not_false_eq_true, true_and]
    rw [and_comm]

variable [Std.LawfulEqOrd α]

lemma mem_taken_union_iff_path (hp : p.meet = .union) (hg : g.Wired)
    (h0 : ∀ n, p.direction.passed ((p.start g s).sets n) = ∅) {cap : ℕ}
    (hc : (p.solve g cap s).convergence.converged = true) {n : NodeId} (hn : n ∈ g.nodeIds)
    (hb : p.direction.boundaryNode? g ≠ some n) :
    e ∈ p.direction.taken ((p.solve g cap s).store.sets n) ↔
      ∃ m, p.Emits g (p.start g s) e m ∧ ∃ inner,
        (m :: inner ++ [n]).IsChain (p.direction.Edge g) ∧
        ∀ x ∈ inner, p.Carries g (p.start g s) e x := by
  obtain ⟨k, hstore, hs⟩ := solve_store_of_converged hc
  have hsame : ∀ u ≥ k, ∀ m, p.Shows g (p.start g s) e u m ↔ p.Shows g (p.start g s) e k m := by
    intro u hu m
    rw [Shows, sets_after_of_settled hs hu, Shows]
  have hwalk : ∀ m ∈ g.nodeIds, p.Shows g (p.start g s) e k m ↔
      ∃ a, p.Emits g (p.start g s) e a ∧
        ∃ j, Walk p.direction g (p.Carries g (p.start g s) e) a m j := by
    intro m hm
    refine (signal_union hp).iff_walk_of_agree hg ?_ (fun u hu n _ => hsame u hu n) hm
    intro n hmem
    change e ∈ p.direction.passed ((p.start g s).sets n) at hmem
    rw [h0 n] at hmem
    exact Std.ExtTreeSet.not_mem_empty hmem
  rw [hstore, mem_taken_union hp hn hb]
  simp only [hsame (k + 1) (Nat.le_succ k), ite_self]
  constructor
  · rintro ⟨a, han, ha⟩
    obtain ⟨m, hm, hw⟩ := (hwalk a (Direction.mem_nodeIds_of_source hg han).1).mp ha
    exact ⟨m, hm, Walk.exists_iff_path.mp ⟨a, han, hw⟩⟩
  · rintro ⟨m, hm, hpath⟩
    obtain ⟨a, han, hw⟩ := Walk.exists_iff_path.mpr hpath
    exact ⟨a, han, (hwalk a (Direction.mem_nodeIds_of_source hg han).1).mpr ⟨m, hm, hw⟩⟩

end Union

section Intersection

def Lacks (p : Problem α) (g : Graph) (s : Store α) (e : α) (t : ℕ) (n : NodeId) : Prop :=
  ¬ p.Shows g s e t n

def Bars (p : Problem α) (g : Graph) (s : Store α) (e : α) (n : NodeId) : Prop :=
  e ∉ (s.sets n).gen ∧ (e ∈ (s.sets n).kill ∨
    if p.direction.boundaryNode? g = some n then e ∉ p.boundary
    else p.direction.sources g n = [] ∧ e ∉ p.direction.taken (s.sets n))

def Relies (p : Problem α) (g : Graph) (s : Store α) (e : α) (n : NodeId) : Prop :=
  p.direction.boundaryNode? g ≠ some n ∧ e ∉ (s.sets n).gen

lemma mem_taken_intersection (hp : p.meet = .intersection) {n : NodeId} (hn : n ∈ g.nodeIds)
    (hb : p.direction.boundaryNode? g ≠ some n) (hm : p.direction.sources g n ≠ []) (t : ℕ) :
    e ∈ p.direction.taken ((p.after g s (t + 1)).sets n) ↔ ∀ m ∈ p.direction.sources g n,
      if p.direction.Precedes m n then p.Shows g s e (t + 1) m else p.Shows g s e t m := by
  rw [taken_after_succ hn, met, if_neg hb, hp,
    mem_combine_intersection (mt List.map_eq_nil_iff.mp hm)]
  simp only [List.forall_mem_map, mem_seen]

lemma taken_of_sources_nil (hp : p.meet = .intersection) {n : NodeId} (hn : n ∈ g.nodeIds)
    (hb : p.direction.boundaryNode? g ≠ some n) (hm : p.direction.sources g n = []) (t : ℕ) :
    p.direction.taken ((p.after g s t).sets n) = p.direction.taken (s.sets n) := by
  induction t with
  | zero => rfl
  | succ t ih =>
    rw [taken_after_succ hn, met, if_neg hb, hp, hm]
    exact ih

lemma lacks_succ_iff {n : NodeId} (hn : n ∈ g.nodeIds) (t : ℕ) :
    p.Lacks g s e (t + 1) n ↔ e ∉ (s.sets n).gen ∧
      (e ∈ (s.sets n).kill ∨ e ∉ p.direction.taken ((p.after g s (t + 1)).sets n)) := by
  rw [Lacks, shows_succ_iff hn, not_or, not_and_or, not_not, or_comm (a := e ∉ _)]

lemma signal_intersection (hp : p.meet = .intersection) :
    Signal p.direction g (p.Bars g s e) (p.Relies g s e) (p.Lacks g s e) := by
  intro t n hn
  rw [lacks_succ_iff hn]
  by_cases hb : p.direction.boundaryNode? g = some n
  · rw [taken_boundary hn hb]
    simp [Bars, Relies, hb]
  by_cases hm : p.direction.sources g n = []
  · rw [taken_of_sources_nil hp hn hb hm]
    simp [Bars, Relies, hb, hm]
  · rw [mem_taken_intersection hp hn hb hm]
    simp only [Bars, Relies, hb, hm, if_false, false_and, or_false, ne_eq, not_false_eq_true,
      true_and, not_forall, exists_prop, Lacks, ← and_or_left, apply_ite Not]

end Intersection

end GenKill.Flow.Problem
