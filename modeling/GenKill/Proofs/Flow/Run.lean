import GenKill.Proofs.Flow.Pass
import Mathlib.Data.List.Forall2
import Mathlib.Data.Nat.Init

namespace GenKill.Flow.Problem

variable {α : Type} [Ord α] [Std.TransOrd α]
variable {p : Problem α} {g : Graph}

def after (p : Problem α) (g : Graph) (s : Store α) (t : ℕ) : Store α := (p.pass g)^[t] s

lemma after_succ (s : Store α) (t : ℕ) : p.after g s (t + 1) = p.pass g (p.after g s t) :=
  Function.iterate_succ_apply' _ t s

lemma after_pass (s : Store α) (t : ℕ) : p.after g (p.pass g s) t = p.after g s (t + 1) :=
  (Function.iterate_succ_apply _ t s).symm

omit [Std.TransOrd α] in
lemma sets_start_cases (s : Store α) (n : NodeId) :
    (p.start g s).sets n = s.sets n ∨
      ∃ value, p.initial = some value ∧ (p.start g s).sets n = Store.seedSets value (s.sets n) := by
  unfold start
  split
  case h_1 => exact Or.inl rfl
  case h_2 value hv _ =>
    rw [Store.sets_seedAll]
    split
    · exact Or.inr ⟨value, hv, rfl⟩
    · exact Or.inl rfl
  case h_3 value _ hv _ =>
    rw [Store.sets_seed]
    split
    · exact Or.inr ⟨value, hv, rfl⟩
    · exact Or.inl rfl

omit [Std.TransOrd α] in
@[simp] lemma gen_start (s : Store α) (n : NodeId) :
    ((p.start g s).sets n).gen = (s.sets n).gen := by
  rcases sets_start_cases (p := p) (g := g) s n with h | ⟨value, -, h⟩ <;> rw [h]
  rfl

omit [Std.TransOrd α] in
@[simp] lemma kill_start (s : Store α) (n : NodeId) :
    ((p.start g s).sets n).kill = (s.sets n).kill := by
  rcases sets_start_cases (p := p) (g := g) s n with h | ⟨value, -, h⟩ <;> rw [h]
  rfl

@[simp] lemma gen_after (s : Store α) (t : ℕ) (n : NodeId) :
    ((p.after g s t).sets n).gen = (s.sets n).gen := by
  induction t with
  | zero => rfl
  | succ t ih => rw [after_succ, gen_pass, ih]

@[simp] lemma kill_after (s : Store α) (t : ℕ) (n : NodeId) :
    ((p.after g s t).sets n).kill = (s.sets n).kill := by
  induction t with
  | zero => rfl
  | succ t ih => rw [after_succ, kill_pass, ih]

lemma taken_after_succ {n : NodeId} (hn : n ∈ g.nodeIds) (s : Store α) (t : ℕ) :
    p.direction.taken ((p.after g s (t + 1)).sets n) =
      p.met g (p.seen (p.after g s t) (p.after g s (t + 1)) n)
        (p.direction.taken ((p.after g s t).sets n)) n := by
  rw [after_succ, taken_pass hn]

lemma mem_passed_after_succ {n : NodeId} (hn : n ∈ g.nodeIds) (s : Store α) (t : ℕ) {e : α} :
    e ∈ p.direction.passed ((p.after g s (t + 1)).sets n) ↔ e ∈ (s.sets n).gen ∨
      e ∈ p.direction.taken ((p.after g s (t + 1)).sets n) ∧ e ∉ (s.sets n).kill := by
  rw [after_succ, passed_pass hn, mem_transfer, gen_after, kill_after]

lemma met_of_sources_ne_nil {n : NodeId} (h : p.direction.sources g n ≠ [])
    (passed : NodeId → TokenSet α) (old old' : TokenSet α) :
    p.met g passed old n = p.met g passed old' n := by
  unfold met
  cases hs : p.direction.sources g n with
  | nil => exact absurd hs h
  | cons m rest => cases p.meet <;> rfl

lemma taken_after_of_sources_nil {n : NodeId} (hn : n ∈ g.nodeIds)
    (h : p.direction.sources g n = []) (s : Store α) (t : ℕ) :
    p.direction.taken ((p.after g s (t + 2)).sets n) =
      p.direction.taken ((p.after g s (t + 1)).sets n) := by
  rw [taken_after_succ hn s (t + 1), taken_after_succ hn s t, met, met, h]
  cases p.meet with
  | union => rfl
  | intersection => split <;> rfl

variable [Std.LawfulEqOrd α]

lemma settled_iff {s t : Store α} :
    settled g s t = true ↔ ∀ n ∈ g.nodeIds, s.sets n = t.sets n := by
  simp [settled]

lemma passes_succ (cap : ℕ) (s : Store α) :
    p.passes g (cap + 1) s =
      if settled g s (p.pass g s) = true then ([p.pass g s], true)
      else (p.pass g s :: (p.passes g cap (p.pass g s)).1, (p.passes g cap (p.pass g s)).2) :=
  rfl

lemma passes_converged_iff {cap : ℕ} {s : Store α} :
    (p.passes g cap s).2 = true ↔
      ∃ k < cap, settled g (p.after g s k) (p.after g s (k + 1)) = true := by
  induction cap generalizing s with
  | zero => simp [passes]
  | succ cap ih =>
    unfold passes
    by_cases h : settled g s (p.pass g s) = true
    · simp only [h, if_true, true_iff]
      exact ⟨0, Nat.succ_pos cap, h⟩
    · simp only [h, Bool.false_eq_true, if_false, ih]
      constructor
      · rintro ⟨k, hk, hs⟩
        rw [after_pass, after_pass] at hs
        exact ⟨k + 1, Nat.succ_lt_succ hk, hs⟩
      · rintro ⟨k, hk, hs⟩
        cases k with
        | zero => exact absurd hs h
        | succ k =>
          refine ⟨k, Nat.lt_of_succ_lt_succ hk, ?_⟩
          rwa [after_pass, after_pass]

lemma passes_getLast? {cap : ℕ} (hcap : 0 < cap) {s : Store α} :
    ∃ k, (p.passes g cap s).1.getLast? = some (p.after g s (k + 1)) ∧
      ((p.passes g cap s).2 = true →
        settled g (p.after g s k) (p.after g s (k + 1)) = true) := by
  induction cap generalizing s with
  | zero => omega
  | succ cap ih =>
    unfold passes
    by_cases h : settled g s (p.pass g s) = true
    · simp only [h, if_true]
      exact ⟨0, rfl, fun _ => h⟩
    · simp only [h, Bool.false_eq_true, if_false]
      rcases Nat.eq_zero_or_pos cap with rfl | hpos
      · exact ⟨0, rfl, fun hc => by simp [passes] at hc⟩
      · obtain ⟨k, hk, hs⟩ := ih hpos (s := p.pass g s)
        rw [after_pass, after_pass] at hs
        refine ⟨k + 1, ?_, hs⟩
        rw [List.getLast?_cons, hk, Option.getD_some, after_pass]

lemma length_passes_le_of_settled {cap k : ℕ} {s : Store α}
    (hs : settled g (p.after g s k) (p.after g s (k + 1)) = true) :
    (p.passes g cap s).1.length ≤ k + 1 := by
  induction cap generalizing s k with
  | zero => simp [passes]
  | succ cap ih =>
    unfold passes
    by_cases h : settled g s (p.pass g s) = true
    · simp [h]
    · simp only [h, Bool.false_eq_true, if_false, List.length_cons]
      cases k with
      | zero => exact absurd hs h
      | succ k =>
        rw [← after_pass, ← after_pass] at hs
        have hle := ih hs
        omega

lemma length_passes_le (cap : ℕ) (s : Store α) : (p.passes g cap s).1.length ≤ cap := by
  induction cap generalizing s with
  | zero => exact Nat.le_refl 0
  | succ cap ih =>
    rw [passes_succ]
    split
    case isTrue => simp
    case isFalse => simpa using ih (p.pass g s)

lemma eq_after_of_getElem?_passes {cap i : ℕ} {s t : Store α}
    (h : (p.passes g cap s).1[i]? = some t) : t = p.after g s (i + 1) := by
  induction cap generalizing s i with
  | zero => cases h
  | succ cap ih =>
    rw [passes_succ] at h
    split at h
    case isTrue =>
      cases i with
      | zero => exact (Option.some.inj h).symm
      | succ i => cases h
    case isFalse =>
      cases i with
      | zero => exact (Option.some.inj h).symm
      | succ i => rw [ih h, after_pass]

lemma solve_converged_iff {cap : ℕ} {s : Store α} :
    (p.solve g cap s).convergence.converged = true ↔
      ∃ k < cap, settled g (p.after g (p.start g s) k) (p.after g (p.start g s) (k + 1)) = true :=
  passes_converged_iff

lemma solve_store_eq_after {cap : ℕ} (hcap : 0 < cap) {s : Store α} :
    ∃ k, (p.solve g cap s).store = p.after g (p.start g s) (k + 1) ∧
      ((p.solve g cap s).convergence.converged = true →
        settled g (p.after g (p.start g s) k) (p.after g (p.start g s) (k + 1)) = true) := by
  obtain ⟨k, hk, hs⟩ := passes_getLast? (p := p) (g := g) hcap (s := p.start g s)
  refine ⟨k, ?_, hs⟩
  change (p.passes g cap (p.start g s)).1.getLast?.getD _ = _
  rw [hk, Option.getD_some]

lemma solve_store_of_converged {cap : ℕ} {s : Store α}
    (hc : (p.solve g cap s).convergence.converged = true) :
    ∃ k, (p.solve g cap s).store = p.after g (p.start g s) (k + 1) ∧
      settled g (p.after g (p.start g s) k) (p.after g (p.start g s) (k + 1)) = true := by
  obtain ⟨j, hj, -⟩ := solve_converged_iff.mp hc
  obtain ⟨k, hstore, hs⟩ := solve_store_eq_after (p := p) (g := g) (Nat.zero_lt_of_lt hj) (s := s)
  exact ⟨k, hstore, hs hc⟩

lemma solve_iterations_le {cap k : ℕ} {s : Store α}
    (hs : settled g (p.after g (p.start g s) k) (p.after g (p.start g s) (k + 1)) = true) :
    (p.solve g cap s).convergence.iterations ≤ k + 1 := by
  have hle : (p.passes g cap (p.start g s)).1.length ≤ k + 1 := length_passes_le_of_settled hs
  change ((p.passes g cap (p.start g s)).1.length : Int) ≤ k + 1
  omega

lemma sets_eq_of_settled {s : Store α} {k : ℕ}
    (hs : settled g (p.after g s k) (p.after g s (k + 1)) = true) (n : NodeId) :
    (p.after g s (k + 1)).sets n = (p.after g s k).sets n := by
  by_cases hn : n ∈ g.nodeIds
  · exact (settled_iff.mp hs n hn).symm
  · rw [after_succ, sets_pass_of_notMem hn]

lemma sets_after_of_settled {s : Store α} {k : ℕ}
    (hs : settled g (p.after g s k) (p.after g s (k + 1)) = true) {t : ℕ} (ht : k ≤ t)
    (n : NodeId) : (p.after g s t).sets n = (p.after g s k).sets n := by
  induction t, ht using Nat.le_induction generalizing n with
  | base => rfl
  | succ t _ ih =>
    rw [after_succ, sets_pass_congr ih, ← after_succ, sets_eq_of_settled hs]

lemma sets_getLast_passes (cap : ℕ) (s : Store α) (n : NodeId) :
    ((p.passes g cap s).1.getLast?.getD s).sets n = (p.after g s cap).sets n := by
  induction cap generalizing s with
  | zero => rfl
  | succ cap ih =>
    rw [passes_succ]
    split
    case isTrue h =>
      change (p.after g s 1).sets n = _
      rw [sets_after_of_settled (k := 0) h (Nat.zero_le 1),
        sets_after_of_settled (k := 0) h (Nat.zero_le (cap + 1))]
    case isFalse => rw [List.getLast?_cons, Option.getD_some, ih, after_pass]

lemma sets_solve (cap : ℕ) (s : Store α) (n : NodeId) :
    (p.solve g cap s).store.sets n = (p.after g (p.start g s) cap).sets n :=
  sets_getLast_passes cap (p.start g s) n

lemma solve_induction {P : Store α → Prop} {s : Store α} (h0 : P (p.start g s))
    (hs : ∀ t, P t → P (p.pass g t)) (cap : ℕ) : P (p.solve g cap s).store := by
  have hafter : ∀ k, P (p.after g (p.start g s) k) := by
    intro k
    induction k with
    | zero => exact h0
    | succ k ih =>
      rw [after_succ]
      exact hs _ ih
  rcases Nat.eq_zero_or_pos cap with rfl | hcap
  · exact h0
  · obtain ⟨k, hk, -⟩ := solve_store_eq_after (p := p) (g := g) hcap (s := s)
    rw [hk]
    exact hafter (k + 1)

lemma settled_of_passed_eq (hg : g.Wired) {s : Store α} {t : ℕ}
    (h1 : ∀ n ∈ g.nodeIds, p.direction.passed ((p.after g s (t + 1)).sets n) =
      p.direction.passed ((p.after g s t).sets n))
    (h2 : ∀ n ∈ g.nodeIds, p.direction.passed ((p.after g s (t + 2)).sets n) =
      p.direction.passed ((p.after g s (t + 1)).sets n)) :
    settled g (p.after g s (t + 1)) (p.after g s (t + 2)) = true := by
  rw [settled_iff]
  intro n hn
  have htaken : p.direction.taken ((p.after g s (t + 2)).sets n) =
      p.direction.taken ((p.after g s (t + 1)).sets n) := by
    by_cases hs : p.direction.sources g n = []
    · exact taken_after_of_sources_nil hn hs s t
    · rw [taken_after_succ hn s (t + 1), taken_after_succ hn s t,
        met_of_sources_ne_nil hs _ _ (p.direction.taken ((p.after g s t).sets n))]
      refine met_congr (fun m hm => ?_) _
      have hmem := (Direction.mem_nodeIds_of_source hg hm).1
      unfold seen
      split
      · exact h2 m hmem
      · exact h1 m hmem
  apply p.direction.sets_ext
  · rw [gen_after, gen_after]
  · rw [kill_after, kill_after]
  · exact htaken.symm
  · exact (h2 n hn).symm

section Tokens

variable {V : α → Prop} {s : Store α}

def Within (p : Problem α) (V : α → Prop) (s : Store α) : Prop :=
  ∀ n e, e ∈ (s.sets n).gen ∨ e ∈ p.direction.taken (s.sets n) ∨
    e ∈ p.direction.passed (s.sets n) → V e

omit [Std.LawfulEqOrd α] in
lemma Within.visit (h : p.Within V s) (hb : ∀ e ∈ p.boundary, V e) (n : NodeId) :
    p.Within V (p.visit g s n) := by
  have htaken : ∀ e ∈ p.takenAt g s n, V e := by
    intro e he
    unfold takenAt at he
    split at he
    case isTrue => exact hb e he
    case isFalse =>
      rcases mem_of_mem_combine he with he | ⟨x, hx, he⟩
      · exact h n e (Or.inr (Or.inl he))
      · obtain ⟨m, -, rfl⟩ := List.mem_map.mp hx
        exact h m e (Or.inr (Or.inr he))
  intro m e he
  rw [sets_visit] at he
  split at he
  case isFalse => exact h m e he
  case isTrue =>
    rw [Direction.gen_put, Direction.taken_put, Direction.passed_put, mem_transfer] at he
    rcases he with he | he | he | ⟨he, -⟩
    · exact h n e (Or.inl he)
    · exact htaken e he
    · exact h n e (Or.inl he)
    · exact htaken e he

omit [Std.LawfulEqOrd α] in
lemma Within.start (h : p.Within V s) (hv : ∀ value, p.initial = some value → ∀ e ∈ value, V e) :
    p.Within V (p.start g s) := by
  intro n e he
  rcases sets_start_cases (p := p) (g := g) s n with hn | ⟨value, hi, hn⟩
  · rw [hn] at he
    exact h n e he
  · rw [hn, Direction.taken_seedSets, Direction.passed_seedSets, or_self] at he
    rcases he with he | he
    · exact h n e (Or.inl he)
    · exact hv value hi e he

lemma Within.solve (h : p.Within V (p.start g s)) (hb : ∀ e ∈ p.boundary, V e) (cap : ℕ) :
    p.Within V (p.solve g cap s).store := by
  refine solve_induction h (fun t ht => ?_) cap
  exact List.foldlRecOn _ _ ht fun t ht n _ => ht.visit hb n

end Tokens

section Simulation

variable {β : Type} [Ord β] [Std.TransOrd β] [Std.LawfulEqOrd β]
variable {q : Problem β} {h : Graph} {R : Store α → Store β → Prop}

structure Simulates (p : Problem α) (g : Graph) (q : Problem β) (h : Graph)
    (R : Store α → Store β → Prop) : Prop where
  pass : ∀ s t, R s t → R (p.pass g s) (q.pass h t)
  settled : ∀ s s' t t', R s t → R s' t' → settled h t t' = settled g s s'

namespace Simulates

variable (hsim : Simulates p g q h R)

include hsim

lemma passes (cap : ℕ) {s : Store α} {t : Store β} (hst : R s t) :
    List.Forall₂ R (p.passes g cap s).1 (q.passes h cap t).1 ∧
      (q.passes h cap t).2 = (p.passes g cap s).2 := by
  induction cap generalizing s t with
  | zero => exact ⟨.nil, rfl⟩
  | succ cap ih =>
    have hnew := hsim.pass s t hst
    rw [passes_succ, passes_succ, hsim.settled s _ t _ hst hnew]
    split
    case isTrue => exact ⟨.cons hnew .nil, rfl⟩
    case isFalse => exact ⟨.cons hnew (ih hnew).1, (ih hnew).2⟩

lemma trail (cap : ℕ) {s : Store α} {t : Store β} (hst : R (p.start g s) (q.start h t)) :
    List.Forall₂ R (p.solve g cap s).trail (q.solve h cap t).trail :=
  (hsim.passes cap hst).1

lemma store (cap : ℕ) {s : Store α} {t : Store β} (hst : R (p.start g s) (q.start h t)) :
    R (p.solve g cap s).store (q.solve h cap t).store := by
  have hlast : ∀ {l : List (Store α)} {l' : List (Store β)} {s : Store α} {t : Store β}, R s t →
      List.Forall₂ R l l' → R (l.getLast?.getD s) (l'.getLast?.getD t) := by
    intro l l' s t hst hl
    induction hl generalizing s t with
    | nil => exact hst
    | cons hab _ ih => simpa only [List.getLast?_cons, Option.getD_some] using ih hab
  exact hlast hst (hsim.trail cap hst)

lemma converged (cap : ℕ) {s : Store α} {t : Store β} (hst : R (p.start g s) (q.start h t)) :
    (q.solve h cap t).convergence.converged = (p.solve g cap s).convergence.converged :=
  (hsim.passes cap hst).2

lemma iterations (cap : ℕ) {s : Store α} {t : Store β} (hst : R (p.start g s) (q.start h t)) :
    (q.solve h cap t).convergence.iterations = (p.solve g cap s).convergence.iterations :=
  congrArg Nat.cast (hsim.trail cap hst).length_eq.symm

end Simulates

end Simulation

end GenKill.Flow.Problem
