import GenKill.Proofs.Flow.Token
import GenKill.Proofs.Graph.Chain

namespace GenKill.Flow

namespace Direction

structure Straight (d : Direction) (g : Graph) : Prop where
  first : ∀ n : Int, d.boundaryNode? g = some n → ∀ m ∈ g.nodeIds, ¬ d.Precedes m n
  next : ∀ n : Int, n ∈ g.nodeIds → d.boundaryNode? g ≠ some n → ∃ m : Int, m ∈ g.nodeIds ∧
    (∀ x : Int, x ∈ d.sources g n ↔ x = m) ∧
    ∀ x : Int, x ∈ g.nodeIds → (d.Precedes x n ↔ x = m ∨ d.Precedes x m)

lemma straight_ofStatements (d : Direction) (ss : List Statement) :
    d.Straight (Graph.ofStatements ss) := by
  cases d with
  | forward =>
    constructor
    · intro n hn m hm
      have hzero : 0 = n := Option.some.inj hn
      rw [Graph.mem_nodeIds_ofStatements] at hm
      simp only [Precedes]
      omega
    · intro n hn hb
      have hne : n ≠ 0 := fun h => hb (congrArg some h.symm)
      rw [Graph.mem_nodeIds_ofStatements] at hn
      refine ⟨n - 1, Graph.mem_nodeIds_ofStatements.mpr (by omega), fun x => ?_, fun x _ => ?_⟩
      · rw [sources, Graph.mem_predecessors, Graph.mem_edges_ofStatements]
        omega
      · simp only [Precedes]
        omega
  | backward =>
    have hlast : ∀ n : Int, backward.boundaryNode? (Graph.ofStatements ss) = some n ↔
        n = ss.length + 1 := by
      intro n
      rw [boundaryNode?, Graph.exitId?_eq_some, Graph.closed_ofStatements,
        Graph.statements_ofStatements]
      simp
    constructor
    · intro n hn m hm
      rw [hlast] at hn
      rw [Graph.mem_nodeIds_ofStatements] at hm
      simp only [Precedes]
      omega
    · intro n hn hb
      rw [Ne, hlast] at hb
      rw [Graph.mem_nodeIds_ofStatements] at hn
      refine ⟨n + 1, Graph.mem_nodeIds_ofStatements.mpr (by omega), fun x => ?_, fun x _ => ?_⟩
      · rw [sources, Graph.mem_successors, Graph.mem_edges_ofStatements]
        omega
      · simp only [Precedes]
        omega

end Direction

namespace Problem

variable {α : Type} [Ord α] [Std.TransOrd α] {p : Problem α} {g : Graph} {s : Store α} {e : α}

lemma mem_taken_of_source {m n : NodeId} (hn : n ∈ g.nodeIds)
    (hb : p.direction.boundaryNode? g ≠ some n)
    (hsource : ∀ x, x ∈ p.direction.sources g n ↔ x = m) (hpre : p.direction.Precedes m n) (t : ℕ) :
    e ∈ p.direction.taken ((p.after g s (t + 1)).sets n) ↔ p.Shows g s e (t + 1) m := by
  have hne : p.direction.sources g n ≠ [] := List.ne_nil_of_mem ((hsource m).mpr rfl)
  cases hp : p.meet with
  | union =>
    rw [mem_taken_union hp hn hb]
    simp [hsource, hpre]
  | intersection =>
    rw [mem_taken_intersection hp hn hb hne]
    simp [hsource, hpre]

/-- The token comes to `n` from the last node before it that makes or destroys the token, or if
there is none, from the open end. -/
def Arrives (p : Problem α) (g : Graph) (s : Store α) (e : α) (n : NodeId) : Prop :=
  (∃ m ∈ g.nodeIds, p.direction.Precedes m n ∧ e ∈ (s.sets m).gen ∧
    ∀ x ∈ g.nodeIds, p.direction.Precedes m x → p.direction.Precedes x n → e ∉ (s.sets x).kill) ∨
  e ∈ p.boundary ∧ ∀ x ∈ g.nodeIds, p.direction.Precedes x n → e ∉ (s.sets x).kill

lemma arrives_next {m n : NodeId} (hm : m ∈ g.nodeIds)
    (hpre : ∀ x ∈ g.nodeIds, p.direction.Precedes x n ↔ x = m ∨ p.direction.Precedes x m) :
    p.Arrives g s e n ↔
      e ∈ (s.sets m).gen ∨ p.Arrives g s e m ∧ e ∉ (s.sets m).kill := by
  have hmn : p.direction.Precedes m n := (hpre m hm).mpr (Or.inl rfl)
  have hbefore : ∀ x ∈ g.nodeIds, p.direction.Precedes x m → p.direction.Precedes x n :=
    fun x hx hxm => (hpre x hx).mpr (Or.inr hxm)
  constructor
  · rintro (⟨a, ha, han, hgen, hclear⟩ | ⟨he, hclear⟩)
    · rcases (hpre a ha).mp han with rfl | ham
      · exact Or.inl hgen
      · refine Or.inr ⟨Or.inl ⟨a, ha, ham, hgen, ?_⟩, hclear m hm ham hmn⟩
        exact fun x hx hax hxm => hclear x hx hax (hbefore x hx hxm)
    · refine Or.inr ⟨Or.inr ⟨he, ?_⟩, hclear m hm hmn⟩
      exact fun x hx hxm => hclear x hx (hbefore x hx hxm)
  · rintro (hgen | ⟨⟨a, ha, ham, hgen, hclear⟩ | ⟨he, hclear⟩, hkill⟩)
    · refine Or.inl ⟨m, hm, hmn, hgen, fun x hx hmx hxn => ?_⟩
      rcases (hpre x hx).mp hxn with rfl | hxm
      · exact absurd hmx Direction.Precedes.irrefl
      · exact absurd hmx hxm.asymm
    · refine Or.inl ⟨a, ha, hbefore a ha ham, hgen, fun x hx hax hxn => ?_⟩
      rcases (hpre x hx).mp hxn with rfl | hxm
      · exact hkill
      · exact hclear x hx hax hxm
    · refine Or.inr ⟨he, fun x hx hxn => ?_⟩
      rcases (hpre x hx).mp hxn with rfl | hxm
      · exact hkill
      · exact hclear x hx hxm

section Straight

variable (hg : p.direction.Straight g)

include hg

lemma mem_taken_of_straight (t : ℕ) :
    ∀ n ∈ g.nodeIds, e ∈ p.direction.taken ((p.after g s (t + 1)).sets n) ↔ p.Arrives g s e n := by
  refine order_induction (d := p.direction) fun n hn ih => ?_
  by_cases hb : p.direction.boundaryNode? g = some n
  · have hno := hg.first n hb
    rw [taken_boundary hn hb]
    constructor
    · exact fun he => Or.inr ⟨he, fun x hx hxn => absurd hxn (hno x hx)⟩
    · rintro (⟨m, hm, hmn, -⟩ | ⟨he, -⟩)
      · exact absurd hmn (hno m hm)
      · exact he
  · obtain ⟨m, hm, hsource, hpre⟩ := hg.next n hn hb
    have hmn : p.direction.Precedes m n := (hpre m hm).mpr (Or.inl rfl)
    rw [mem_taken_of_source hn hb hsource hmn, shows_succ_iff hm, ih m hm hmn,
      arrives_next hm hpre]

lemma sets_after_of_straight [Std.LawfulEqOrd α] (t : ℕ) (n : NodeId) :
    (p.after g s (t + 1)).sets n = (p.after g s 1).sets n := by
  by_cases hn : n ∈ g.nodeIds
  · have htaken : ∀ e, e ∈ p.direction.taken ((p.after g s (t + 1)).sets n) ↔
        e ∈ p.direction.taken ((p.after g s 1).sets n) := by
      intro e
      rw [mem_taken_of_straight hg t n hn, mem_taken_of_straight hg 0 n hn]
    apply p.direction.sets_ext
    · rw [gen_after, gen_after]
    · rw [kill_after, kill_after]
    · exact Std.ExtTreeSet.ext_mem htaken
    · refine Std.ExtTreeSet.ext_mem fun e => ?_
      rw [mem_passed_after_succ hn, mem_passed_after_succ hn, htaken]
  · induction t with
    | zero => rfl
    | succ t ih => rw [after_succ, sets_pass_of_notMem hn, ih]

variable [Std.LawfulEqOrd α]

lemma settled_of_straight : settled g (p.after g s 1) (p.after g s 2) = true := by
  rw [settled_iff]
  exact fun n _ => (sets_after_of_straight hg 1 n).symm

lemma store_of_straight {cap : ℕ} (hcap : 0 < cap) (n : NodeId) :
    (p.solve g cap s).store.sets n = (p.after g (p.start g s) 1).sets n := by
  obtain ⟨k, hstore, -⟩ := solve_store_eq_after (p := p) (g := g) hcap (s := s)
  rw [hstore, sets_after_of_straight hg]

lemma mem_taken_solve_of_straight {cap : ℕ} (hcap : 0 < cap) {n : NodeId} (hn : n ∈ g.nodeIds) :
    e ∈ p.direction.taken ((p.solve g cap s).store.sets n) ↔ p.Arrives g s e n := by
  rw [store_of_straight hg hcap, mem_taken_of_straight hg 0 n hn]
  simp only [Arrives, gen_start, kill_start]

lemma converged_of_straight {cap : ℕ} (hcap : 2 ≤ cap) :
    (p.solve g cap s).convergence.converged = true :=
  solve_converged_iff.mpr ⟨1, hcap, settled_of_straight hg⟩

lemma iterations_of_straight (cap : ℕ) : (p.solve g cap s).convergence.iterations ≤ 2 :=
  solve_iterations_le (settled_of_straight hg)

end Straight

end Problem

end GenKill.Flow
