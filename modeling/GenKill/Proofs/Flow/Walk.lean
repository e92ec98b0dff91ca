import GenKill.Proofs.Flow.Signal
import Mathlib.Data.List.Chain

/-! Walks along the flow. An edge that goes back in the order of visits costs a pass, so the walks
with a given number of such edges tell where marks are after a given number of passes. -/

namespace GenKill.Flow

def Direction.Edge (d : Direction) (g : Graph) (m n : NodeId) : Prop := m ∈ d.sources g n

lemma Direction.edge_forward (g : Graph) :
    Direction.forward.Edge g = fun m n => (m, n) ∈ g.edges := by
  funext m n
  exact propext Graph.mem_predecessors

lemma Direction.edge_backward (g : Graph) :
    Direction.backward.Edge g = fun m n => (n, m) ∈ g.edges := by
  funext m n
  exact propext Graph.mem_successors

lemma Direction.edge_of_mem {g : Graph} {m n : NodeId} (h : (m, n) ∈ g.edges) :
    Direction.forward.Edge g m n := Graph.mem_predecessors.mpr h

/-- Walks from `m` whose other nodes are all clear, with the number of their edges that go back in
the order of visits. -/
inductive Walk (d : Direction) (g : Graph) (clear : NodeId → Prop) (m : NodeId) :
    NodeId → ℕ → Prop
  | start : Walk d g clear m m 0
  | ahead {a b : NodeId} {k : ℕ} : Walk d g clear m a k → d.Edge g a b → d.Precedes a b →
      clear b → Walk d g clear m b k
  | back {a b : NodeId} {k : ℕ} : Walk d g clear m a k → d.Edge g a b → ¬ d.Precedes a b →
      clear b → Walk d g clear m b (k + 1)

variable {d : Direction} {g : Graph} {lit clear : NodeId → Prop} {X : ℕ → NodeId → Prop}

namespace Walk

lemma step {m a b : NodeId} {k : ℕ} (h : Walk d g clear m a k) (hab : d.Edge g a b)
    (hb : clear b) : ∃ k, Walk d g clear m b k := by
  by_cases hp : d.Precedes a b
  · exact ⟨k, h.ahead hab hp hb⟩
  · exact ⟨k + 1, h.back hab hp hb⟩

lemma start_mem {m n : NodeId} {k : ℕ} (h : Walk d g clear m n k) (hg : g.Wired)
    (hn : n ∈ g.nodeIds) : m ∈ g.nodeIds := by
  induction h with
  | start => exact hn
  | ahead _ hab _ _ ih => exact ih (Direction.mem_nodeIds_of_source hg hab).1
  | back _ hab _ _ ih => exact ih (Direction.mem_nodeIds_of_source hg hab).1

lemma start_of_closed {S : NodeId → Prop} (hS : ∀ n, S n → ∀ m ∈ d.sources g n, S m)
    {m n : NodeId} {k : ℕ} (h : Walk d g clear m n k) (hn : S n) : S m := by
  induction h with
  | start => exact hn
  | ahead _ hab _ _ ih => exact ih (hS _ hn _ hab)
  | back _ hab _ _ ih => exact ih (hS _ hn _ hab)

lemma restart {clear' : NodeId → Prop} {m n : NodeId} {k : ℕ} (h : Walk d g clear m n k)
    (hclear : ∀ b, clear b → b = m ∨ clear' b) : ∃ k, Walk d g clear' m n k := by
  induction h with
  | start => exact ⟨0, .start⟩
  | @ahead a b k _ hab _ hb ih | @back a b k _ hab _ hb ih =>
    rcases hclear b hb with rfl | hb'
    · exact ⟨0, .start⟩
    · obtain ⟨j, hw⟩ := ih
      exact hw.step hab hb'

lemma exists_iff_path {m n : NodeId} :
    (∃ a, d.Edge g a n ∧ ∃ k, Walk d g clear m a k) ↔
      ∃ inner, (m :: inner ++ [n]).IsChain (d.Edge g) ∧ ∀ x ∈ inner, clear x := by
  constructor
  · rintro ⟨a, han, k, hw⟩
    induction hw generalizing n with
    | start => exact ⟨[], by simpa using han, by simp⟩
    | @ahead a b k _ hab _ hb ih | @back a b k _ hab _ hb ih =>
      obtain ⟨inner, hchain, hclear⟩ := ih hab
      refine ⟨inner ++ [b], ?_, ?_⟩
      · rw [← List.cons_append, List.append_assoc, List.singleton_append,
          List.isChain_split]
        exact ⟨hchain, by simpa using han⟩
      · intro x hx
        rcases List.mem_append.mp hx with hx | hx
        · exact hclear x hx
        · rw [List.mem_singleton.mp hx]
          exact hb
  · rintro ⟨inner, hchain, hclear⟩
    induction inner using List.reverseRecOn generalizing n with
    | nil => exact ⟨m, by simpa using hchain, 0, .start⟩
    | append_singleton inner b ih =>
      rw [← List.cons_append, List.append_assoc, List.singleton_append,
        List.isChain_split] at hchain
      obtain ⟨a, hab, k, hw⟩ := ih hchain.1 fun x hx => hclear x (by simp [hx])
      have hbn : d.Edge g b n := by simpa using hchain.2
      exact ⟨b, hbn, hw.step hab (hclear b (by simp))⟩

end Walk

namespace Signal

lemma carry (hg : g.Wired) (hX : Signal d g lit clear X) {m n : NodeId} {k t : ℕ}
    (hm : X (t + 1) m) (h : Walk d g clear m n k) : X (t + k + 1) n := by
  induction h with
  | start => exact hm
  | @ahead a b k _ hab hp hb ih =>
    apply (hX (t + k) b (Direction.mem_nodeIds_of_source hg hab).2).mpr
    exact Or.inr ⟨hb, a, hab, by rwa [if_pos hp]⟩
  | @back a b k _ hab hp hb ih =>
    apply (hX (t + k + 1) b (Direction.mem_nodeIds_of_source hg hab).2).mpr
    exact Or.inr ⟨hb, a, hab, by rwa [if_neg hp]⟩

lemma iff_walk (hg : g.Wired) (hX : Signal d g lit clear X) (t : ℕ) {n : NodeId}
    (hn : n ∈ g.nodeIds) :
    X (t + 1) n ↔ (∃ m, lit m ∧ ∃ k ≤ t, Walk d g clear m n k) ∨
      ∃ m, X 0 m ∧ ∃ a, d.Edge g m a ∧ ¬ d.Precedes m a ∧ clear a ∧ Walk d g clear a n t := by
  constructor
  · revert n
    suffices h : ∀ t, ∀ n ∈ g.nodeIds, ∀ u, t = u + 1 → X t n →
        (∃ m, lit m ∧ ∃ k ≤ u, Walk d g clear m n k) ∨
        ∃ m, X 0 m ∧ ∃ a, d.Edge g m a ∧ ¬ d.Precedes m a ∧ clear a ∧ Walk d g clear a n u from
      fun n hn => h (t + 1) n hn t rfl
    refine pass_induction (d := d) hg (fun n _ u hu => absurd hu (by omega)) ?_
    intro t n hn ih u hu hXn
    obtain rfl : t = u := by omega
    rcases (hX t n hn).mp hXn with hl | ⟨hc, a, ha, hXa⟩
    · exact Or.inl ⟨n, hl, 0, Nat.zero_le t, .start⟩
    have iha := ih a ha
    split at hXa
    case isTrue hp =>
      rw [if_pos hp] at iha
      rcases iha t rfl hXa with ⟨m, hm, k, hk, hw⟩ | ⟨m, hm, c, hmc, hback, hcl, hw⟩
      · exact Or.inl ⟨m, hm, k, hk, hw.ahead ha hp hc⟩
      · exact Or.inr ⟨m, hm, c, hmc, hback, hcl, hw.ahead ha hp hc⟩
    case isFalse hp =>
      rw [if_neg hp] at iha
      cases t with
      | zero => exact Or.inr ⟨a, hXa, n, ha, hp, hc, .start⟩
      | succ t =>
        rcases iha t rfl hXa with ⟨m, hm, k, hk, hw⟩ | ⟨m, hm, c, hmc, hback, hcl, hw⟩
        · exact Or.inl ⟨m, hm, k + 1, Nat.succ_le_succ hk, hw.back ha hp hc⟩
        · exact Or.inr ⟨m, hm, c, hmc, hback, hcl, hw.back ha hp hc⟩
  · rintro (⟨m, hm, k, hk, hw⟩ | ⟨m, hm, a, hma, hback, ha, hw⟩)
    · have hXm : X (t - k + 1) m := (hX (t - k) m (hw.start_mem hg hn)).mpr (Or.inl hm)
      have hXn := hX.carry hg hXm hw
      rwa [Nat.sub_add_cancel hk] at hXn
    · have hXa : X (0 + 1) a := by
        apply (hX 0 a (Direction.mem_nodeIds_of_source hg hma).2).mpr
        exact Or.inr ⟨ha, m, hma, by rwa [if_neg hback]⟩
      have hXn := hX.carry hg hXa hw
      rwa [Nat.zero_add] at hXn

lemma iff_walk_of_agree (hg : g.Wired) (hX : Signal d g lit clear X) (h0 : ∀ n, ¬ X 0 n) {t : ℕ}
    (ht : ∀ u ≥ t, ∀ n ∈ g.nodeIds, X u n ↔ X t n) {n : NodeId} (hn : n ∈ g.nodeIds) :
    X t n ↔ ∃ m, lit m ∧ ∃ k, Walk d g clear m n k := by
  constructor
  · intro h
    rw [← ht (t + 1) (Nat.le_succ t) n hn, hX.iff_walk hg t hn] at h
    rcases h with ⟨m, hm, k, -, hw⟩ | ⟨m, hm, -⟩
    · exact ⟨m, hm, k, hw⟩
    · exact absurd hm (h0 m)
  · rintro ⟨m, hm, k, hw⟩
    rw [← ht (t + k + 1) (by omega) n hn, hX.iff_walk hg (t + k) hn]
    exact Or.inl ⟨m, hm, k, by omega, hw⟩

end Signal

end GenKill.Flow
