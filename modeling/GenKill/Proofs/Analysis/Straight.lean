import GenKill.Proofs.Analysis.SomePath
import GenKill.Proofs.Flow.Straight

namespace GenKill

open GenKill.Flow

namespace Analysis

variable {ss : List Statement} {facts : FactTable} {b : Boundary} {cap : ℕ} {v : String}

lemma mem_taken_ofStatements {a : Analysis} (hcap : 0 < cap) {n : NodeId}
    (hn : n ∈ (Graph.ofStatements ss).nodeIds) {e : Token} :
    e ∈ a.direction.taken ((a.solve b cap (Graph.ofStatements ss) facts).store.sets n) ↔
      (a.problem b facts).Arrives (Graph.ofStatements ss)
        (a.prepared (Graph.ofStatements ss) facts) e n :=
  Problem.mem_taken_solve_of_straight (p := a.problem b facts)
    (a.direction.straight_ofStatements ss) hcap hn

lemma arrives_of_union {a : Analysis} (ha : a.meet = .union) {g : Graph} {n : NodeId} {e : Token} :
    (a.problem b facts).Arrives g (a.prepared g facts) e n ↔ ∃ m ∈ g.nodeIds,
      a.direction.Precedes m n ∧ e ∈ ((a.prepared g facts).sets m).gen ∧
      ∀ x ∈ g.nodeIds, a.direction.Precedes m x → a.direction.Precedes x n →
        e ∉ ((a.prepared g facts).sets x).kill := by
  rw [Problem.Arrives, boundary_of_union ha]
  simp [problem]

section Live

lemma var_mem_after_ofStatements (hcap : 0 < cap) {n : Int}
    (hn : n ∈ (Graph.ofStatements ss).nodeIds) :
    Token.var v ∈ ((live.solve b cap (Graph.ofStatements ss) facts).store.sets n).after ↔
      ∃ m : Int, n < m ∧ (Graph.ofStatements ss).Reads facts v m ∧
        ∀ x : Int, n < x → x < m → ¬ (Graph.ofStatements ss).Writes facts v x := by
  refine (mem_taken_ofStatements (a := live) hcap hn).trans ?_
  rw [arrives_of_union rfl]
  simp only [var_mem_gen_live, var_mem_kill_live, direction, Direction.Precedes]
  constructor
  · rintro ⟨m, -, hnm, hreads, hclear⟩
    refine ⟨m, hnm, hreads, fun x hnx hxm hw => ?_⟩
    obtain ⟨s, hs, -⟩ := id hw
    exact hclear x (Graph.statement_mem_nodeIds hs) hxm hnx hw
  · rintro ⟨m, hnm, hreads, hclear⟩
    obtain ⟨s, hs, -⟩ := id hreads
    exact ⟨m, Graph.statement_mem_nodeIds hs, hnm, hreads, fun x _ hxm hnx => hclear x hnx hxm⟩

end Live

section Reaching

lemma exists_site_arrives {n : Int} (hn : n ∈ (Graph.ofStatements ss).nodeIds)
    (h : ∃ m : Int, m < n ∧ (Graph.ofStatements ss).Writes facts v m) :
    ∃ line, (reaching.problem b facts).Arrives (Graph.ofStatements ss)
      (reaching.prepared (Graph.ofStatements ss) facts) (.site v line) n := by
  revert n
  have hstraight := Direction.forward.straight_ofStatements ss
  refine order_induction (d := .forward) fun n hn ih => ?_
  rintro ⟨m, hmn, hw⟩
  obtain ⟨s, hs, -⟩ := id hw
  have hm := Graph.statement_mem_nodeIds hs
  obtain ⟨a, ha, -, hpre⟩ := hstraight.next n hn fun h => hstraight.first n h m hm hmn
  by_cases hwa : (Graph.ofStatements ss).Writes facts v a
  · obtain ⟨t, ht, hv⟩ := hwa
    refine ⟨t.line, (Problem.arrives_next ha hpre).mpr (Or.inl ?_)⟩
    exact site_mem_gen_reaching.mpr ⟨t, ht, hv, rfl⟩
  · have hma : m < a := ((hpre m hm).mp hmn).resolve_left fun h => hwa (h ▸ hw)
    obtain ⟨line, hline⟩ := ih a ha ((hpre a ha).mpr (Or.inl rfl)) ⟨m, hma, hw⟩
    refine ⟨line, (Problem.arrives_next ha hpre).mpr (Or.inr ⟨hline, fun hkill => ?_⟩)⟩
    exact hwa (site_mem_kill_reaching.mp hkill).1

lemma exists_site_mem_before_iff (hcap : 0 < cap) {n : Int}
    (hn : n ∈ (Graph.ofStatements ss).nodeIds) :
    (∃ line, Token.site v line ∈
      ((reaching.solve b cap (Graph.ofStatements ss) facts).store.sets n).before) ↔
      ∃ m : Int, m < n ∧ (Graph.ofStatements ss).Writes facts v m := by
  have hmem : ∀ e, e ∈ ((reaching.solve b cap (Graph.ofStatements ss) facts).store.sets n).before ↔
      (reaching.problem b facts).Arrives (Graph.ofStatements ss)
        (reaching.prepared (Graph.ofStatements ss) facts) e n :=
    fun e => mem_taken_ofStatements (a := reaching) hcap hn
  simp only [hmem]
  refine ⟨?_, exists_site_arrives hn⟩
  rintro ⟨line, h⟩
  obtain ⟨m, -, hmn, hgen, -⟩ := (arrives_of_union rfl).mp h
  exact ⟨m, hmn, (site_mem_gen_reaching.mp hgen).writes⟩

lemma line_eq_of_site_mem_before (hlines : ss.Pairwise fun s t => s.line < t.line) (hcap : 0 < cap)
    {n : Int} (hn : n ∈ (Graph.ofStatements ss).nodeIds) {k l : Int}
    (hk : Token.site v k ∈
      ((reaching.solve b cap (Graph.ofStatements ss) facts).store.sets n).before)
    (hl : Token.site v l ∈
      ((reaching.solve b cap (Graph.ofStatements ss) facts).store.sets n).before) : k = l := by
  have hsame : ∀ line m m', (Graph.ofStatements ss).WritesAt facts v line m →
      (Graph.ofStatements ss).WritesAt facts v line m' → m = m' := by
    rintro _ m m' ⟨s, hs, -, rfl⟩ ⟨t, ht, -, hline⟩
    apply Graph.eq_of_line_eq _ hs ht hline.symm
    rwa [Graph.statements_ofStatements]
  obtain ⟨m, hm, hmn, hgen, hclear⟩ :=
    (arrives_of_union rfl).mp ((mem_taken_ofStatements (a := reaching) hcap hn).mp hk)
  obtain ⟨m', hm', hmn', hgen', hclear'⟩ :=
    (arrives_of_union rfl).mp ((mem_taken_ofStatements (a := reaching) hcap hn).mp hl)
  rw [site_mem_gen_reaching] at hgen hgen'
  rcases lt_trichotomy m m' with hlt | rfl | hlt
  · refine absurd (site_mem_kill_reaching.mpr ⟨hgen'.writes, fun h => ?_, m, hgen⟩)
      (hclear m' hm' hlt hmn')
    exact hlt.ne (hsame k m m' hgen h)
  · obtain ⟨s, hs, -, rfl⟩ := hgen
    obtain ⟨t, ht, -, rfl⟩ := hgen'
    obtain rfl : s = t := by simpa [hs] using ht
    rfl
  · refine absurd (site_mem_kill_reaching.mpr ⟨hgen.writes, fun h => ?_, m', hgen'⟩)
      (hclear' m hm hlt hmn)
    exact hlt.ne (hsame l m' m hgen' h)

end Reaching

end Analysis

end GenKill
