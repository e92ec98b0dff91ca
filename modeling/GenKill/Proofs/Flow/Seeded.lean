import GenKill.Proofs.Flow.Cover

namespace GenKill.Flow.Problem

variable {α : Type} [Ord α] [Std.TransOrd α] {p : Problem α} {g : Graph} {s : Store α}
variable {value : TokenSet α} {e : α}

structure Seeded (p : Problem α) (g : Graph) (s : Store α) (value : TokenSet α) : Prop where
  wired : g.Wired
  meet : p.meet = .intersection
  initial : p.initial = some value
  openEnd : ∃ o, p.direction.boundaryNode? g = some o
  boundary : ∀ e ∈ p.boundary, e ∈ value
  gen : ∀ n, ∀ e ∈ (s.sets n).gen, e ∈ value
  taken : ∀ n, p.direction.taken (s.sets n) = ∅
  passed : ∀ n, p.direction.passed (s.sets n) = ∅

def along (p : Problem α) (s : Store α) (nodes : List NodeId) : TokenSet α :=
  nodes.foldl (fun x m => transfer (s.sets m) x) p.boundary

lemma along_concat (nodes : List NodeId) (m : NodeId) :
    p.along s (nodes ++ [m]) = transfer (s.sets m) (p.along s nodes) := by
  simp [along]

lemma notMem_along_of_bars {before : List NodeId} {n : NodeId}
    (hbars : p.Bars g (p.start g s) e n) (ha : p.direction.Approach g before n) :
    e ∉ p.along s (before ++ [n]) := by
  obtain ⟨hgen, hbar⟩ := hbars
  rw [gen_start] at hgen
  rw [kill_start] at hbar
  rw [along_concat, mem_transfer, not_or]
  refine ⟨hgen, ?_⟩
  rintro ⟨hmem, hkill⟩
  rcases hbar with hk | hsource
  · exact hkill hk
  induction before using List.reverseRecOn with
  | nil =>
    rw [if_pos (Direction.approach_nil.mp ha)] at hsource
    exact hsource hmem
  | append_singleton before m _ =>
    obtain ⟨-, hmn, hb⟩ := Direction.approach_concat.mp ha
    rw [if_neg hb] at hsource
    exact List.ne_nil_of_mem hmn hsource.1

namespace Seeded

variable (h : p.Seeded g s value)

include h

lemma sets_start_of_covers {n : NodeId} (hn : p.direction.Covers g n) :
    (p.start g s).sets n = Store.seedSets value (s.sets n) := by
  obtain ⟨o, ho⟩ := h.openEnd
  rw [sets_start h.initial ho h.wired, if_pos hn]

lemma sets_start_of_not_covers {n : NodeId} (hn : ¬ p.direction.Covers g n) :
    (p.start g s).sets n = s.sets n := by
  obtain ⟨o, ho⟩ := h.openEnd
  rw [sets_start h.initial ho h.wired, if_neg hn]

lemma signal : Signal p.direction g (p.Bars g (p.start g s) e) (p.Relies g (p.start g s) e)
    (p.Lacks g (p.start g s) e) :=
  signal_intersection h.meet

lemma lacks_zero_iff {n : NodeId} :
    p.Lacks g (p.start g s) e 0 n ↔ ¬ (p.direction.Covers g n ∧ e ∈ value) := by
  change e ∉ p.direction.passed ((p.start g s).sets n) ↔ _
  by_cases hn : p.direction.Covers g n
  · rw [h.sets_start_of_covers hn, Direction.passed_seedSets]
    simp [hn]
  · rw [h.sets_start_of_not_covers hn, h.passed]
    simp [hn]

lemma lacks_of_lacks_succ_of_not_covers {n : NodeId} (hn : n ∈ g.nodeIds)
    (hc : ¬ p.direction.Covers g n) (t : ℕ) (hl : p.Lacks g (p.start g s) e (t + 1) n) :
    p.Lacks g (p.start g s) e t n :=
  Signal.mono h.wired h.signal.shift h.signal (S := fun n => ¬ p.direction.Covers g n)
    (fun _ hn => Direction.not_covers_source hn) (fun _ _ hl => hl) (fun _ _ hr => hr)
    (fun _ _ hc _ => h.lacks_zero_iff.mpr fun hv => hc hv.1) t n hn hc hl

lemma lacks_of_notMem {n : NodeId} (he : e ∉ value) (hn : n ∈ g.nodeIds) (t : ℕ) :
    p.Lacks g (p.start g s) e t n := by
  refine pass_induction (d := p.direction) h.wired (P := p.Lacks g (p.start g s) e)
    (fun n _ => h.lacks_zero_iff.mpr fun hv => he hv.2) ?_ t n hn
  intro t n hn ih
  have hgen : e ∉ (s.sets n).gen := fun hg => he (h.gen n e hg)
  rw [h.signal t n hn]
  by_cases hb : p.direction.boundaryNode? g = some n
  · refine Or.inl ⟨by rwa [gen_start], Or.inr ?_⟩
    rw [if_pos hb]
    exact fun hm => he (h.boundary e hm)
  cases hs : p.direction.sources g n with
  | nil =>
    have hc : ¬ p.direction.Covers g n := fun hc => hc.sources_ne_nil hb hs
    refine Or.inl ⟨by rwa [gen_start], Or.inr ?_⟩
    rw [if_neg hb, h.sets_start_of_not_covers hc, h.taken]
    exact ⟨hs, Std.ExtTreeSet.not_mem_empty⟩
  | cons m rest =>
    refine Or.inr ⟨⟨hb, by rwa [gen_start]⟩, m, List.mem_cons_self, ?_⟩
    exact ih m (hs ▸ List.mem_cons_self)

lemma notMem_along {nodes : List NodeId} (he : e ∉ value) : e ∉ p.along s nodes := by
  induction nodes using List.reverseRecOn with
  | nil => exact fun hm => he (h.boundary e hm)
  | append_singleton nodes m ih =>
    rw [along_concat, mem_transfer]
    rintro (hg | ⟨ha, -⟩)
    · exact he (h.gen m e hg)
    · exact ih ha

lemma mem_along_of_mem_taken [Std.LawfulEqOrd α] {cap : ℕ}
    (hc : (p.solve g cap s).convergence.converged = true) {before : List NodeId} {n : NodeId}
    (ha : p.direction.Approach g before n)
    (he : e ∈ p.direction.taken ((p.solve g cap s).store.sets n)) : e ∈ p.along s before := by
  obtain ⟨k, hstore, hs⟩ := solve_store_of_converged hc
  rw [hstore] at he
  induction before using List.reverseRecOn generalizing n with
  | nil =>
    have hb := Direction.approach_nil.mp ha
    rwa [taken_boundary (Direction.boundaryNode?_mem hb) hb] at he
  | append_singleton before m ih =>
    obtain ⟨ham, hmn, hb⟩ := Direction.approach_concat.mp ha
    obtain ⟨hm, hn⟩ := Direction.mem_nodeIds_of_source h.wired hmn
    rw [mem_taken_intersection h.meet hn hb (List.ne_nil_of_mem hmn)] at he
    have hshow : p.Shows g (p.start g s) e (k + 1) m := by
      have hsame : p.Shows g (p.start g s) e (k + 1) m ↔ p.Shows g (p.start g s) e k m := by
        rw [Shows, sets_eq_of_settled hs, Shows]
      have hread := he m hmn
      split at hread
      · exact hread
      · exact hsame.mpr hread
    rw [shows_succ_iff hm, gen_start, kill_start] at hshow
    rw [along_concat, mem_transfer]
    exact hshow.imp_right fun hx => ⟨ih ham hx.1, hx.2⟩

section Closed

variable (hR : ∀ n, p.direction.Covers g n → ∀ m ∈ p.direction.sources g n, p.direction.Covers g m)

include hR

lemma lacks_succ_of_lacks_of_covers {n : NodeId} (he : e ∈ value) (hn : n ∈ g.nodeIds)
    (hc : p.direction.Covers g n) (t : ℕ) (hl : p.Lacks g (p.start g s) e t n) :
    p.Lacks g (p.start g s) e (t + 1) n :=
  Signal.mono h.wired h.signal h.signal.shift (S := p.direction.Covers g) hR
    (fun _ _ hl => hl) (fun _ _ hr => hr)
    (fun _ _ hc hl => absurd ⟨hc, he⟩ (h.lacks_zero_iff.mp hl)) t n hn hc hl

lemma lacks_stable {t : ℕ} (ht : g.size ≤ t) {n : NodeId} (hn : n ∈ g.nodeIds) :
    p.Lacks g (p.start g s) e (t + 1) n ↔ p.Lacks g (p.start g s) e t n := by
  refine Signal.stable h.wired h.signal (S := fun _ => True) (fun _ _ _ _ => trivial) ?_ ht n hn
    trivial
  intro n hn _
  by_cases he : e ∈ value
  · by_cases hc : p.direction.Covers g n
    · exact Or.inl (h.lacks_succ_of_lacks_of_covers hR he hn hc)
    · exact Or.inr (h.lacks_of_lacks_succ_of_not_covers hn hc)
  · exact Or.inr fun t _ => h.lacks_of_notMem he hn t

lemma passed_stable [Std.LawfulEqOrd α] {t : ℕ} (ht : g.size ≤ t) {n : NodeId}
    (hn : n ∈ g.nodeIds) :
    p.direction.passed ((p.after g (p.start g s) (t + 1)).sets n) =
      p.direction.passed ((p.after g (p.start g s) t).sets n) :=
  Std.ExtTreeSet.ext_mem fun _ => not_iff_not.mp (h.lacks_stable hR ht hn)

lemma solve_converged [Std.LawfulEqOrd α] {cap : ℕ} (hcap : g.size + 2 ≤ cap) :
    (p.solve g cap s).convergence.converged = true := by
  rw [solve_converged_iff]
  refine ⟨g.size + 1, hcap, settled_of_passed_eq h.wired ?_ ?_⟩
  · exact fun n hn => h.passed_stable hR le_rfl hn
  · exact fun n hn => h.passed_stable hR (Nat.le_succ g.size) hn

lemma exists_approach_of_lacks (t : ℕ) {n : NodeId} (hn : n ∈ g.nodeIds)
    (hc : p.direction.Covers g n) (hl : p.Lacks g (p.start g s) e t n) :
    ∃ before, p.direction.Approach g before n ∧ e ∉ p.along s (before ++ [n]) := by
  refine pass_induction (d := p.direction) h.wired (P := fun t n => p.direction.Covers g n →
    p.Lacks g (p.start g s) e t n →
    ∃ before, p.direction.Approach g before n ∧ e ∉ p.along s (before ++ [n])) ?_ ?_ t n hn hc hl
  · intro n _ hc hl
    obtain ⟨before, ha⟩ := hc.exists_approach
    exact ⟨before, ha, h.notMem_along fun he => h.lacks_zero_iff.mp hl ⟨hc, he⟩⟩
  · intro t n hn ih hc hl
    rcases (h.signal t n hn).mp hl with hbars | ⟨⟨hb, hgen⟩, m, hm, hlm⟩
    · obtain ⟨before, ha⟩ := hc.exists_approach
      exact ⟨before, ha, notMem_along_of_bars hbars ha⟩
    · rw [gen_start] at hgen
      have ihm := ih m hm
      have hcm := hR n hc m hm
      obtain ⟨before, ha, hal⟩ : ∃ before, p.direction.Approach g before m ∧
          e ∉ p.along s (before ++ [m]) := by
        split at hlm
        case isTrue hp =>
          rw [if_pos hp] at ihm
          exact ihm hcm hlm
        case isFalse hp =>
          rw [if_neg hp] at ihm
          exact ihm hcm hlm
      refine ⟨before ++ [m], Direction.approach_concat.mpr ⟨ha, hm, hb⟩, ?_⟩
      rw [along_concat, mem_transfer, not_or]
      exact ⟨hgen, fun hmem => hal hmem.1⟩

lemma mem_taken_iff_forall_along [Std.LawfulEqOrd α] {cap : ℕ}
    (hc : (p.solve g cap s).convergence.converged = true) {n : NodeId}
    (hn : p.direction.Covers g n) :
    e ∈ p.direction.taken ((p.solve g cap s).store.sets n) ↔
      ∀ before, p.direction.Approach g before n → e ∈ p.along s before := by
  refine ⟨fun he before ha => h.mem_along_of_mem_taken hc ha he, fun hall => ?_⟩
  obtain ⟨k, hstore, hs⟩ := solve_store_of_converged hc
  have hmem : n ∈ g.nodeIds := hn.mem_nodeIds h.wired
  rw [hstore]
  by_cases hb : p.direction.boundaryNode? g = some n
  · rw [taken_boundary hmem hb]
    exact hall [] (Direction.approach_nil.mpr hb)
  · rw [mem_taken_intersection h.meet hmem hb (hn.sources_ne_nil hb)]
    intro m hm
    have hshow : ∀ t, p.Shows g (p.start g s) e t m := by
      intro t
      by_contra hl
      obtain ⟨before, ha, hal⟩ := h.exists_approach_of_lacks hR t
        (Direction.mem_nodeIds_of_source h.wired hm).1 (hR n hn m hm) hl
      exact hal (hall (before ++ [m]) (Direction.approach_concat.mpr ⟨ha, hm, hb⟩))
    split
    · exact hshow (k + 1)
    · exact hshow k

end Closed

end Seeded

end GenKill.Flow.Problem
