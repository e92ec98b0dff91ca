import GenKill.Proofs.Flow.Equations
import GenKill.Token

/-! Problems over some path. From empty sets a run only ever adds tokens, each of which any solution
has to hold, and a token is at rest as soon as it has come along the longest path. -/

namespace GenKill.Flow.Problem

variable {α : Type} [Ord α] [Std.TransOrd α] {p : Problem α} {g : Graph} {s : Store α} {e : α}

section Union

variable (hp : p.meet = .union) (hg : g.Wired) (h0 : ∀ n, p.direction.passed (s.sets n) = ∅)

include h0 in
lemma not_shows_zero (n : NodeId) : ¬ p.Shows g s e 0 n := by
  change e ∉ p.direction.passed (s.sets n)
  simp [h0]

include hp hg h0

lemma shows_succ_of_shows (t : ℕ) {n : NodeId} (hn : n ∈ g.nodeIds) (h : p.Shows g s e t n) :
    p.Shows g s e (t + 1) n := by
  have hsignal : Signal p.direction g (p.Emits g s e) (p.Carries g s e) (p.Shows g s e) :=
    signal_union hp
  refine Signal.mono hg hsignal hsignal.shift (S := fun _ => True) (fun _ _ _ _ => trivial)
    (fun _ _ hl => hl) (fun _ _ hc => hc) ?_ t n hn trivial h
  intro m _ _ hm
  exact absurd hm (not_shows_zero h0 m)

lemma shows_stable {t : ℕ} (ht : g.size ≤ t) {n : NodeId} (hn : n ∈ g.nodeIds) :
    p.Shows g s e (t + 1) n ↔ p.Shows g s e t n := by
  refine Signal.stable hg (signal_union hp) (S := fun _ => True) (fun _ _ _ _ => trivial) ?_ ht n hn
    trivial
  intro m hm _
  exact Or.inl fun t h => shows_succ_of_shows hp hg h0 t hm h

lemma mem_passed_of_shows {x : Flows α} (hx : p.Solves g s x) (t : ℕ) {n : NodeId}
    (hn : n ∈ g.nodeIds) (h : p.Shows g s e t n) : e ∈ x.passed n := by
  refine Signal.mono hg (signal_union hp) (hx.signal_union hp) (S := fun _ => True)
    (fun _ _ _ _ => trivial) (fun _ _ hl => hl) (fun _ _ hc => hc) ?_ t n hn trivial h
  intro m _ _ hm
  exact absurd hm (not_shows_zero h0 m)

variable [Std.LawfulEqOrd α]

lemma settled_of_union :
    settled g (p.after g s (g.size + 1)) (p.after g s (g.size + 2)) = true := by
  have hpassed : ∀ t ≥ g.size, ∀ n ∈ g.nodeIds,
      p.direction.passed ((p.after g s (t + 1)).sets n) =
        p.direction.passed ((p.after g s t).sets n) := by
    intro t ht n hn
    apply Std.ExtTreeSet.ext_mem
    exact fun e => shows_stable hp hg h0 ht hn
  exact settled_of_passed_eq hg (hpassed g.size le_rfl) (hpassed (g.size + 1) (Nat.le_succ _))

omit h0 [Std.LawfulEqOrd α] in
lemma Solves.below_of_passed {x y : Flows α} (hx : p.Solves g s x) (hy : p.Solves g s y)
    (h : ∀ n ∈ g.nodeIds, ∀ e ∈ x.passed n, e ∈ y.passed n) : x.Below g y := by
  intro n hn
  refine ⟨fun e he => ?_, h n hn⟩
  by_cases hb : p.direction.boundaryNode? g = some n
  · rwa [hy.taken_boundary hn hb, ← hx.taken_boundary hn hb]
  · obtain ⟨m, hm, hem⟩ := (hx.mem_taken_union hp hn hb).mp he
    have hmem := (Direction.mem_nodeIds_of_source hg hm).1
    exact (hy.mem_taken_union hp hn hb).mpr ⟨m, hm, h m hmem e hem⟩

end Union

omit [Std.TransOrd α] in
lemma start_of_initial_none (hi : p.initial = none) (s : Store α) : p.start g s = s := by
  simp [start, hi]

theorem union_converges_to_least [Std.LawfulEqOrd α] (hg : g.Built) (p : Problem α)
    (hp : p.meet = .union) (hi : p.initial = none) (s : Store α)
    (h0 : ∀ n, (s.sets n).before = ∅ ∧ (s.sets n).after = ∅) :
    (∀ cap ≥ g.size + 2, (p.solve g cap s).convergence.converged = true ∧
      (p.solve g cap s).convergence.iterations ≤ g.size + 2) ∧
    ∀ cap, (p.solve g cap s).convergence.converged = true →
      p.Solves g s ((p.solve g cap s).store.flows p.direction) ∧
      ∀ x, p.Solves g s x → ((p.solve g cap s).store.flows p.direction).Below g x := by
  have hpassed : ∀ n, p.direction.passed (s.sets n) = ∅ := by
    intro n
    cases p.direction with
    | forward => exact (h0 n).2
    | backward => exact (h0 n).1
  have hstart : p.start g s = s := start_of_initial_none hi s
  have hsettled := settled_of_union hp hg.wired hpassed
  rw [← hstart] at hsettled
  constructor
  · intro cap hcap
    have hle : (p.solve g cap s).convergence.iterations ≤ (g.size + 1 : ℕ) + 1 :=
      solve_iterations_le hsettled
    exact ⟨solve_converged_iff.mpr ⟨g.size + 1, hcap, hsettled⟩, by omega⟩
  · intro cap hc
    have hsolves := solves_of_converged hc
    refine ⟨hsolves, fun x hx => hsolves.below_of_passed hp hg.wired hx ?_⟩
    intro n hn e he
    obtain ⟨k, hstore, -⟩ := solve_store_of_converged hc
    rw [hstore, hstart] at he
    exact mem_passed_of_shows hp hg.wired hpassed hx (k + 1) hn he

section Counting

def readInLoop : Store Token :=
  (Store.ofIds Graph.counting.nodeIds).update 2 fun s => { s with gen := .ofList [.var "x"] }

def asked : Problem Token where
  direction := .backward
  meet := .union
  boundary := .ofList [.var "y"]

theorem counting_union_least :
    (asked.solve Graph.counting 6 readInLoop).convergence.converged = true ∧
    (asked.solve Graph.counting 6 readInLoop).convergence.iterations ≤ 6 ∧
    ∀ x, asked.Solves Graph.counting readInLoop x →
      Token.var "x" ∈ x.taken 0 ∧ Token.var "y" ∈ x.taken 0 := by
  have h0 : ∀ n, (readInLoop.sets n).before = ∅ ∧ (readInLoop.sets n).after = ∅ := by
    intro n
    rw [readInLoop, Store.sets_update, Store.sets_ofIds]
    split <;> simp
  obtain ⟨hcap, hleast⟩ := union_converges_to_least Graph.counting_built asked rfl rfl readInLoop h0
  obtain ⟨hc, hle⟩ := hcap 6 (by decide)
  refine ⟨hc, hle, fun x hx => ?_⟩
  have hbelow := ((hleast 6 hc).2 x hx 0 (by decide)).1
  exact ⟨hbelow _ (by decide), hbelow _ (by decide)⟩

end Counting

end GenKill.Flow.Problem
