import GenKill.Proofs.Flow.Token

namespace GenKill.Flow

variable {α : Type} [Ord α]

structure Flows (α : Type) [Ord α] where
  taken : NodeId → TokenSet α
  passed : NodeId → TokenSet α

def Store.flows (d : Direction) (s : Store α) : Flows α where
  taken n := d.taken (s.sets n)
  passed n := d.passed (s.sets n)

variable [Std.TransOrd α]

def Flows.Below (g : Graph) (x y : Flows α) : Prop :=
  ∀ n ∈ g.nodeIds, (∀ e ∈ x.taken n, e ∈ y.taken n) ∧ ∀ e ∈ x.passed n, e ∈ y.passed n

namespace Problem

variable {p : Problem α} {g : Graph} {s : Store α} {x y : Flows α} {e : α}

structure Solves (p : Problem α) (g : Graph) (s : Store α) (x : Flows α) : Prop where
  taken : ∀ n ∈ g.nodeIds, x.taken n = p.met g x.passed (x.taken n) n
  passed : ∀ n ∈ g.nodeIds, x.passed n = transfer (s.sets n) (x.taken n)

lemma transfer_congr {a b : Sets α} (hg : a.gen = b.gen) (hk : a.kill = b.kill)
    (taken : TokenSet α) : transfer a taken = transfer b taken := by
  simp only [transfer, hg, hk]

lemma solves_congr {t : Store α} (hg : ∀ n, (t.sets n).gen = (s.sets n).gen)
    (hk : ∀ n, (t.sets n).kill = (s.sets n).kill) : p.Solves g t x ↔ p.Solves g s x := by
  have ht : ∀ n, transfer (t.sets n) = transfer (s.sets n) :=
    fun n => funext (transfer_congr (hg n) (hk n))
  constructor
  · exact fun h => ⟨h.taken, fun n hn => ht n ▸ h.passed n hn⟩
  · exact fun h => ⟨h.taken, fun n hn => (ht n).symm ▸ h.passed n hn⟩

lemma solves_of_settled [Std.LawfulEqOrd α] {k : ℕ}
    (hs : settled g (p.after g s k) (p.after g s (k + 1)) = true) :
    p.Solves g s ((p.after g s (k + 1)).flows p.direction) := by
  have hsame := sets_eq_of_settled hs
  constructor
  · intro n hn
    have hseen : p.seen (p.after g s k) (p.after g s (k + 1)) n =
        ((p.after g s (k + 1)).flows p.direction).passed := by
      funext m
      simp only [seen, hsame, ite_self, Store.flows]
    change p.direction.taken ((p.after g s (k + 1)).sets n) = _
    rw [taken_after_succ hn, hseen, ← hsame n]
    rfl
  · intro n hn
    change p.direction.passed ((p.after g s (k + 1)).sets n) = _
    rw [after_succ, passed_pass hn]
    exact transfer_congr (gen_after s k n) (kill_after s k n) _

lemma solves_of_converged [Std.LawfulEqOrd α] {cap : ℕ}
    (hc : (p.solve g cap s).convergence.converged = true) :
    p.Solves g s ((p.solve g cap s).store.flows p.direction) := by
  obtain ⟨k, hstore, hs⟩ := solve_store_of_converged hc
  rw [hstore]
  exact (solves_congr (gen_start s) (kill_start s)).mp (solves_of_settled hs)

namespace Solves

lemma taken_boundary (hx : p.Solves g s x) {n : NodeId} (hn : n ∈ g.nodeIds)
    (hb : p.direction.boundaryNode? g = some n) : x.taken n = p.boundary := by
  rw [hx.taken n hn, met, if_pos hb]

lemma mem_passed (hx : p.Solves g s x) {n : NodeId} (hn : n ∈ g.nodeIds) :
    e ∈ x.passed n ↔ e ∈ (s.sets n).gen ∨ e ∈ x.taken n ∧ e ∉ (s.sets n).kill := by
  rw [hx.passed n hn, mem_transfer]

lemma mem_taken_union (hp : p.meet = .union) (hx : p.Solves g s x) {n : NodeId}
    (hn : n ∈ g.nodeIds) (hb : p.direction.boundaryNode? g ≠ some n) :
    e ∈ x.taken n ↔ ∃ m ∈ p.direction.sources g n, e ∈ x.passed m := by
  rw [hx.taken n hn, met, if_neg hb, hp, mem_combine_union]
  simp only [List.mem_map, exists_exists_and_eq_and]

lemma signal_union (hp : p.meet = .union) (hx : p.Solves g s x) :
    Signal p.direction g (p.Emits g s e) (p.Carries g s e) fun _ n => e ∈ x.passed n := by
  intro t n hn
  simp only [ite_self]
  rw [hx.mem_passed hn]
  by_cases hb : p.direction.boundaryNode? g = some n
  · simp [hx.taken_boundary hn hb, Emits, Carries, hb]
  · simp [hx.mem_taken_union hp hn hb, Emits, Carries, hb, and_comm]

end Solves

end Problem

end GenKill.Flow
