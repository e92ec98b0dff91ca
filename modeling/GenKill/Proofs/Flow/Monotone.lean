import GenKill.Proofs.Flow.Run
import Mathlib.Data.List.Chain

/-! Runs side by side. A node that takes more passes more on, so two stores that are ordered stay so
with every visit, on any graph, and the last stores of two runs are ordered even if one of them stops
before the other. -/

namespace GenKill.Flow

variable {α : Type} [Ord α] [Std.TransOrd α]

structure Sets.Below (x y : Sets α) : Prop where
  gen : x.gen = y.gen
  kill : x.kill = y.kill
  before : ∀ e ∈ x.before, e ∈ y.before
  after : ∀ e ∈ x.after, e ∈ y.after

namespace Sets.Below

variable {x y z : Sets α}

lemma refl (x : Sets α) : x.Below x := ⟨rfl, rfl, fun _ h => h, fun _ h => h⟩

lemma trans (hxy : x.Below y) (hyz : y.Below z) : x.Below z where
  gen := hxy.gen.trans hyz.gen
  kill := hxy.kill.trans hyz.kill
  before e he := hyz.before e (hxy.before e he)
  after e he := hyz.after e (hxy.after e he)

lemma taken (h : x.Below y) (d : Direction) : ∀ e ∈ d.taken x, e ∈ d.taken y := by
  cases d with
  | forward => exact h.before
  | backward => exact h.after

lemma passed (h : x.Below y) (d : Direction) : ∀ e ∈ d.passed x, e ∈ d.passed y := by
  cases d with
  | forward => exact h.after
  | backward => exact h.before

lemma of_taken_passed (d : Direction) (hg : x.gen = y.gen) (hk : x.kill = y.kill)
    (ht : ∀ e ∈ d.taken x, e ∈ d.taken y) (hp : ∀ e ∈ d.passed x, e ∈ d.passed y) : x.Below y := by
  cases d with
  | forward => exact ⟨hg, hk, ht, hp⟩
  | backward => exact ⟨hg, hk, hp, ht⟩

lemma put (h : x.Below y) (d : Direction) {taken taken' passed passed' : TokenSet α}
    (ht : ∀ e ∈ taken, e ∈ taken') (hp : ∀ e ∈ passed, e ∈ passed') :
    (d.put x taken passed).Below (d.put y taken' passed') := by
  cases d with
  | forward => exact ⟨h.gen, h.kill, ht, hp⟩
  | backward => exact ⟨h.gen, h.kill, hp, ht⟩

lemma transfer (h : x.Below y) {taken taken' : TokenSet α} (ht : ∀ e ∈ taken, e ∈ taken') :
    ∀ e ∈ transfer x taken, e ∈ transfer y taken' := by
  intro e he
  rw [mem_transfer, h.gen, h.kill] at he
  exact mem_transfer.mpr (he.imp_right fun hx => ⟨ht e hx.1, hx.2⟩)

end Sets.Below

def Store.Below (s t : Store α) : Prop := ∀ n, (s.sets n).Below (t.sets n)

lemma Store.Below.refl (s : Store α) : s.Below s := fun n => Sets.Below.refl (s.sets n)

lemma Store.Below.trans {s t u : Store α} (hst : s.Below t) (htu : t.Below u) : s.Below u :=
  fun n => (hst n).trans (htu n)

lemma Meet.combine_mono (m : Meet) {nodes : List NodeId} {f f' : NodeId → TokenSet α}
    {identity identity' : TokenSet α} (h : ∀ n ∈ nodes, ∀ e ∈ f n, e ∈ f' n)
    (hi : ∀ e ∈ identity, e ∈ identity') :
    ∀ e ∈ m.combine (nodes.map f) identity, e ∈ m.combine (nodes.map f') identity' := by
  intro e he
  cases m with
  | union =>
    simp only [mem_combine_union, List.mem_map, exists_exists_and_eq_and] at he ⊢
    obtain ⟨n, hn, hen⟩ := he
    exact ⟨n, hn, h n hn e hen⟩
  | intersection =>
    cases nodes with
    | nil => exact hi e he
    | cons n nodes =>
      rw [mem_combine_intersection (by simp), List.forall_mem_map] at he ⊢
      exact fun m hm => h m hm e (he m hm)

namespace Problem

variable {p : Problem α} {g : Graph} {s t : Store α}

def withBoundary (p : Problem α) (value : TokenSet α) : Problem α := { p with boundary := value }

section Boundary

variable {value : TokenSet α} (hv : ∀ e ∈ p.boundary, e ∈ value)

include hv

lemma takenAt_mono (h : s.Below t) (n : NodeId) :
    ∀ e ∈ p.takenAt g s n, e ∈ (p.withBoundary value).takenAt g t n := by
  unfold takenAt
  change ∀ e ∈ ite (p.direction.boundaryNode? g = some n) _ _,
    e ∈ ite (p.direction.boundaryNode? g = some n) _ _
  split
  case isTrue => exact hv
  case isFalse =>
    exact p.meet.combine_mono (fun m _ => (h m).passed p.direction) ((h n).taken p.direction)

lemma visit_mono (h : s.Below t) (n : NodeId) :
    (p.visit g s n).Below ((p.withBoundary value).visit g t n) := by
  intro m
  rw [sets_visit, sets_visit]
  split
  case isTrue =>
    have htaken := takenAt_mono (g := g) hv h n
    exact (h n).put p.direction htaken ((h n).transfer htaken)
  case isFalse => exact h m

lemma pass_mono (h : s.Below t) : (p.pass g s).Below ((p.withBoundary value).pass g t) :=
  List.foldl_rel h fun n _ _ _ h => visit_mono hv h n

lemma after_mono (h : s.Below t) (k : ℕ) :
    (p.after g s k).Below ((p.withBoundary value).after g t k) := by
  induction k with
  | zero => exact h
  | succ k ih =>
    rw [after_succ, after_succ]
    exact pass_mono hv ih

lemma solve_withBoundary_mono [Std.LawfulEqOrd α] (cap : ℕ) (s : Store α) :
    (p.solve g cap s).store.Below ((p.withBoundary value).solve g cap s).store := by
  intro n
  rw [sets_solve, sets_solve]
  exact after_mono hv (Store.Below.refl (p.start g s)) cap n

end Boundary

section Growing

variable (h : s.Below (p.pass g s))

include h

lemma after_below_succ (k : ℕ) : (p.after g s k).Below (p.after g s (k + 1)) := by
  have hsame : ∀ e ∈ p.boundary, e ∈ p.boundary := fun _ he => he
  rw [← after_pass]
  exact after_mono hsame h k

lemma after_below_after {k l : ℕ} (hkl : k ≤ l) : (p.after g s k).Below (p.after g s l) := by
  induction l, hkl using Nat.le_induction with
  | base => exact Store.Below.refl _
  | succ l _ ih => exact ih.trans (after_below_succ h l)

end Growing

lemma below_pass_of_empty (h0 : ∀ n, (s.sets n).before = ∅ ∧ (s.sets n).after = ∅) :
    s.Below (p.pass g s) := by
  intro n
  refine ⟨(gen_pass s n).symm, (kill_pass s n).symm, ?_, ?_⟩
  · simp [h0]
  · simp [h0]

lemma isChain_passes [Std.LawfulEqOrd α] {R : Store α → Store α → Prop} (cap : ℕ) (s : Store α)
    (h : ∀ k, R (p.after g s k) (p.after g s (k + 1))) :
    (s :: (p.passes g cap s).1).IsChain R := by
  induction cap generalizing s with
  | zero => exact List.isChain_singleton s
  | succ cap ih =>
    rw [passes_succ]
    split
    case isTrue => exact List.isChain_pair.mpr (h 0)
    case isFalse =>
      refine List.IsChain.cons_cons (h 0) (ih (p.pass g s) fun k => ?_)
      rw [after_pass, after_pass]
      exact h (k + 1)

end Problem

end GenKill.Flow
