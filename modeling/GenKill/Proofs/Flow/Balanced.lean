import GenKill.Proofs.Flow.Least

namespace GenKill.Flow

variable {α : Type} [Ord α] [Std.TransOrd α]

omit [Std.TransOrd α] in
lemma Direction.put_self (d : Direction) (s : Sets α) : d.put s (d.taken s) (d.passed s) = s := by
  cases d <;> rfl

namespace Store

omit [Std.TransOrd α]

lemma insert_sets_self {s : Store α} {n : NodeId} (h : n ∈ s) : s.insert n (s.sets n) = s := by
  apply Std.ExtTreeMap.ext_getElem?
  intro m
  rw [getElem?_insert]
  split
  case isTrue hm =>
    subst hm
    rw [sets, Std.ExtTreeMap.getElem?_eq_some_getElem h, Option.getD_some]
  case isFalse => rfl

end Store

namespace Problem

variable {p : Problem α} {g : Graph} {s : Store α}

/-- Nodes without sources take nothing under a union; under an intersection they take what they have,
and so no equation speaks of them. -/
structure Balanced (p : Problem α) (g : Graph) (s : Store α) : Prop where
  boundary : ∀ n ∈ g.nodeIds, p.direction.boundaryNode? g = some n →
    p.direction.taken (s.sets n) = p.boundary
  union : p.meet = .union → ∀ n ∈ g.nodeIds, p.direction.boundaryNode? g ≠ some n →
    ∀ e, e ∈ p.direction.taken (s.sets n) ↔
      ∃ m ∈ p.direction.sources g n, e ∈ p.direction.passed (s.sets m)
  intersection : p.meet = .intersection → ∀ n ∈ g.nodeIds, p.direction.boundaryNode? g ≠ some n →
    p.direction.sources g n ≠ [] → ∀ e, e ∈ p.direction.taken (s.sets n) ↔
      ∀ m ∈ p.direction.sources g n, e ∈ p.direction.passed (s.sets m)
  passed : ∀ n ∈ g.nodeIds, ∀ e, e ∈ p.direction.passed (s.sets n) ↔
    e ∈ (s.sets n).gen ∨ e ∈ p.direction.taken (s.sets n) ∧ e ∉ (s.sets n).kill

lemma balanced_of_solves (h : p.Solves g s (s.flows p.direction)) : p.Balanced g s where
  boundary n hn hb := h.taken_boundary hn hb
  union hp n hn hb e := h.mem_taken_union hp hn hb
  intersection hp n hn hb hm e := by
    have htaken := h.taken n hn
    rw [met, if_neg hb, hp] at htaken
    change e ∈ (s.flows p.direction).taken n ↔ _
    rw [htaken, mem_combine_intersection (mt List.map_eq_nil_iff.mp hm), List.forall_mem_map]
    rfl
  passed n hn e := h.mem_passed hn

variable [Std.LawfulEqOrd α]

lemma Balanced.solves (h : p.Balanced g s) : p.Solves g s (s.flows p.direction) where
  taken := by
    intro n hn
    change p.direction.taken (s.sets n) =
      p.met g (fun m => p.direction.passed (s.sets m)) (p.direction.taken (s.sets n)) n
    rw [met]
    split
    case isTrue hb => exact h.boundary n hn hb
    case isFalse hb =>
      cases hp : p.meet with
      | union =>
        apply Std.ExtTreeSet.ext_mem
        intro e
        rw [h.union hp n hn hb, mem_combine_union]
        simp only [List.mem_map, exists_exists_and_eq_and]
      | intersection =>
        by_cases hm : p.direction.sources g n = []
        · rw [hm]
          rfl
        · apply Std.ExtTreeSet.ext_mem
          intro e
          rw [h.intersection hp n hn hb hm, mem_combine_intersection (mt List.map_eq_nil_iff.mp hm),
            List.forall_mem_map]
  passed := by
    intro n hn
    apply Std.ExtTreeSet.ext_mem
    intro e
    exact (h.passed n hn e).trans mem_transfer.symm

omit [Std.LawfulEqOrd α] in
lemma visit_eq_self (h : p.Solves g s (s.flows p.direction)) {n : NodeId} (hn : n ∈ g.nodeIds)
    (hs : n ∈ s) : p.visit g s n = s := by
  have htaken : p.takenAt g s n = p.direction.taken (s.sets n) := (h.taken n hn).symm
  have hpassed : transfer (s.sets n) (p.direction.taken (s.sets n)) = p.direction.passed (s.sets n) :=
    (h.passed n hn).symm
  simp only [visit, htaken, hpassed, Direction.put_self]
  exact Store.insert_sets_self hs

omit [Std.LawfulEqOrd α] in
lemma pass_eq_self (h : p.Solves g s (s.flows p.direction)) (hs : ∀ n ∈ g.nodeIds, n ∈ s) :
    p.pass g s = s := by
  refine List.foldlRecOn (motive := fun t => t = s) _ _ rfl fun t ht n hn => ?_
  have hmem := Direction.mem_order.mp hn
  rw [ht, visit_eq_self h hmem (hs n hmem)]

lemma passes_eq_of_pass_eq_self (h : p.pass g s = s) {cap : ℕ} (hcap : 0 < cap) :
    p.passes g cap s = ([s], true) := by
  obtain ⟨cap, rfl⟩ := Nat.exists_eq_succ_of_ne_zero hcap.ne'
  have hs : settled g s s = true := settled_iff.mpr fun _ _ => rfl
  simp only [passes, h, hs, if_true]

lemma getElem?_solve_of_notMem {n : NodeId} (hn : n ∉ g.nodeIds) (hi : p.initial = none) (cap : ℕ) :
    (p.solve g cap s).store[n]? = s[n]? := by
  refine solve_induction (P := fun t => t[n]? = s[n]?) ?_ (fun t ht => ?_) cap
  · rw [start_of_initial_none hi]
  · refine List.foldlRecOn (motive := fun t => t[n]? = s[n]?) _ _ ht fun t ht m hm => ?_
    have hne : m ≠ n := fun h => hn (Direction.mem_order.mp (h ▸ hm))
    rw [visit, Store.getElem?_insert, if_neg hne, ht]

theorem solve_balances_and_keeps_balanced (p : Problem α) (hi : p.initial = none) (g : Graph)
    (cap : ℕ) (s : Store α) :
    (∀ n, ((p.solve g cap s).store.sets n).gen = (s.sets n).gen ∧
      ((p.solve g cap s).store.sets n).kill = (s.sets n).kill) ∧
    (∀ n ∉ g.nodeIds, (p.solve g cap s).store[n]? = s[n]?) ∧
    ((p.solve g cap s).convergence.converged = true → p.Balanced g (p.solve g cap s).store) ∧
    (p.Balanced g s → (∀ n ∈ g.nodeIds, n ∈ s) → 0 < cap →
      (p.solve g cap s).store = s ∧
      (p.solve g cap s).convergence = ⟨true, 1, p.direction, p.meet⟩) := by
  have hgen : ∀ n, ((p.solve g cap s).store.sets n).gen = (s.sets n).gen := by
    intro n
    rw [sets_solve, gen_after, gen_start]
  have hkill : ∀ n, ((p.solve g cap s).store.sets n).kill = (s.sets n).kill := by
    intro n
    rw [sets_solve, kill_after, kill_start]
  refine ⟨fun n => ⟨hgen n, hkill n⟩, fun n hn => getElem?_solve_of_notMem hn hi cap, ?_, ?_⟩
  · intro hc
    exact balanced_of_solves ((solves_congr hgen hkill).mpr (solves_of_converged hc))
  · intro hb hs hcap
    have hstart : p.start g s = s := start_of_initial_none hi s
    have hpasses := passes_eq_of_pass_eq_self (pass_eq_self hb.solves hs) hcap
    rw [solve, hstart, hpasses]
    exact ⟨rfl, rfl⟩

theorem counting_solved_twice :
    let solved := (asked.solve Graph.counting 6 readInLoop).store
    (asked.solve Graph.counting 6 readInLoop).convergence.converged = true ∧
    asked.Balanced Graph.counting solved ∧ solved ≠ readInLoop ∧
    (asked.solve Graph.counting 1 solved).store = solved ∧
    (asked.solve Graph.counting 1 solved).convergence = ⟨true, 1, .backward, .union⟩ := by
  intro solved
  have hc : (asked.solve Graph.counting 6 readInLoop).convergence.converged = true := by
    decide
  have hb : asked.Balanced Graph.counting solved :=
    (solve_balances_and_keeps_balanced asked rfl Graph.counting 6 readInLoop).2.2.1 hc
  have hentries : ∀ n ∈ Graph.counting.nodeIds, n ∈ solved := by decide
  refine ⟨hc, hb, fun heq => ?_, (solve_balances_and_keeps_balanced asked rfl Graph.counting 1
    solved).2.2.2 hb hentries Nat.one_pos⟩
  have hsets : (solved.sets 0).after ≠ (readInLoop.sets 0).after := by decide
  exact hsets (by rw [heq])

end Problem

end GenKill.Flow
