import GenKill.Proofs.Flow.Apart
import GenKill.Proofs.Flow.Convergence

/-! Problems over all paths. Among the solutions with given flows at the nodes that are not covered
there is a greatest one. A run that converged has found it unless a gap stays at a covered node that
no such node, and no node that bars the token, keeps it from. -/

namespace GenKill.Flow.Problem

open Filter

variable {α : Type} [Ord α] [Std.TransOrd α] {p : Problem α} {g : Graph} {s : Store α}
variable {value : TokenSet α} {x y : Flows α} {e : α}

def Agree (p : Problem α) (g : Graph) (x y : Flows α) : Prop :=
  ∀ n ∈ g.nodeIds, ¬ p.direction.Covers g n → x.taken n = y.taken n ∧ x.passed n = y.passed n

def Greatest (p : Problem α) (g : Graph) (s : Store α) (x : Flows α) : Prop :=
  p.Solves g s x ∧ ∀ y, p.Solves g s y → p.Agree g y x → y.Below g x

def Lasting (p : Problem α) (g : Graph) (s : Store α) (e : α) (n : NodeId) : Prop :=
  ∀ᶠ k in atTop, p.Gapped g s e k n

/-- A walk leads to `n` from a node that never passes the token on, or from one that is not covered
and at which the gaps last. -/
def Cut (p : Problem α) (g : Graph) (s : Store α) (e : α) (n : NodeId) : Prop :=
  ∃ m, (p.Bars g s e m ∨ ¬ p.direction.Covers g m ∧ p.Lasting g s e m) ∧
    ∃ k, Walk p.direction g (p.Relies g s e) m n k

lemma Starved.cut {n : NodeId} (h : p.Starved g s e n) : p.Cut g s e n := by
  obtain ⟨m, hm, hw⟩ := h
  exact ⟨m, Or.inl hm, hw⟩

lemma Cut.step {m n : NodeId} (h : p.Cut g s e m) (hmn : p.direction.Edge g m n)
    (hn : p.Relies g s e n) : p.Cut g s e n := by
  obtain ⟨a, ha, k, hw⟩ := h
  exact ⟨a, ha, hw.step hmn hn⟩

lemma not_lasting_of_covers (hcover : ∀ m n, p.direction.Edge g m n → p.direction.Covers g m)
    {n : NodeId} : ¬ p.Lasting g s e n := by
  intro h
  obtain ⟨k, m, hm, a, hma, -⟩ := h.exists
  exact hm (hcover m a hma)

section Solutions

variable (hp : p.meet = .intersection)

include hp

lemma mem_met {passed : NodeId → TokenSet α} {old : TokenSet α} {n : NodeId} :
    e ∈ p.met g passed old n ↔
      if p.direction.boundaryNode? g = some n then e ∈ p.boundary
      else if p.direction.sources g n = [] then e ∈ old
      else ∀ m ∈ p.direction.sources g n, e ∈ passed m := by
  unfold met
  split
  · rfl
  · rw [hp]
    split
    case isTrue h =>
      rw [h]
      rfl
    case isFalse h =>
      rw [mem_combine_intersection (mt List.map_eq_nil_iff.mp h)]
      simp

lemma Solves.mem_taken (hx : p.Solves g s x) {n : NodeId} (hn : n ∈ g.nodeIds)
    (hb : p.direction.boundaryNode? g ≠ some n) (hs : p.direction.sources g n ≠ []) :
    e ∈ x.taken n ↔ ∀ m ∈ p.direction.sources g n, e ∈ x.passed m := by
  rw [hx.taken n hn, mem_met hp, if_neg hb, if_neg hs]

lemma Solves.notMem_passed_of_source (hx : p.Solves g s x) {m n : NodeId} (hn : n ∈ g.nodeIds)
    (hmn : p.direction.Edge g m n) (hr : p.Relies g s e n) (hm : e ∉ x.passed m) :
    e ∉ x.passed n := by
  rw [hx.mem_passed hn, hx.mem_taken hp hn hr.1 (List.ne_nil_of_mem hmn)]
  rintro (hgen | ⟨hall, -⟩)
  · exact hr.2 hgen
  · exact hm (hall m hmn)

lemma Solves.notMem_passed_of_walk (hg : g.Wired) (hx : p.Solves g s x) {m n : NodeId} {k : ℕ}
    (hw : Walk p.direction g (p.Relies g s e) m n k) (hm : e ∉ x.passed m) : e ∉ x.passed n := by
  induction hw with
  | start => exact hm
  | @ahead a b k _ hab _ hb ih | @back a b k _ hab _ hb ih =>
    exact hx.notMem_passed_of_source hp (Direction.mem_nodeIds_of_source hg hab).2 hab hb ih

omit hp in
lemma Solves.notMem_passed_of_bars (hg : g.Wired) (hx : p.Solves g s x) {n : NodeId}
    (hc : p.direction.Covers g n) (hbars : p.Bars g s e n) : e ∉ x.passed n := by
  have hn := hc.mem_nodeIds hg
  obtain ⟨hgen, hbar⟩ := hbars
  rw [hx.mem_passed hn, not_or]
  refine ⟨hgen, fun ⟨ht, hkill⟩ => ?_⟩
  by_cases hb : p.direction.boundaryNode? g = some n
  · rw [if_pos hb] at hbar
    exact hbar.elim hkill fun h => h (hx.taken_boundary hn hb ▸ ht)
  · rw [if_neg hb] at hbar
    exact hbar.elim hkill fun h => hc.sources_ne_nil hb h.1

lemma Solves.below_of_agree (hg : g.Wired) (hx : p.Solves g s x) (hy : p.Solves g s y)
    (hagree : p.Agree g x y) (h : ∀ n ∈ g.nodeIds, ∀ e ∈ x.passed n, e ∈ y.passed n) :
    x.Below g y := by
  intro n hn
  refine ⟨fun e he => ?_, h n hn⟩
  by_cases hc : p.direction.Covers g n
  · by_cases hb : p.direction.boundaryNode? g = some n
    · rwa [hy.taken_boundary hn hb, ← hx.taken_boundary hn hb]
    · have hs := hc.sources_ne_nil hb
      rw [hy.mem_taken hp hn hb hs]
      intro m hm
      have hmem := (Direction.mem_nodeIds_of_source hg hm).1
      exact h m hmem e ((hx.mem_taken hp hn hb hs).mp he m hm)
  · rwa [← (hagree n hn hc).1]

end Solutions

namespace Seeded

variable (h : p.Seeded g s value)

include h

lemma notMem_passed_of_notMem (hx : p.Solves g s x) (he : e ∉ value) {n : NodeId}
    (hc : p.direction.Covers g n) : e ∉ x.passed n := by
  have hgen : ∀ n, e ∉ (s.sets n).gen := fun n hm => he (h.gen n e hm)
  obtain ⟨o, ho, hpath⟩ := hc
  have hmem := Direction.boundaryNode?_mem ho
  have hopen : e ∉ x.passed o := by
    rw [hx.mem_passed hmem, hx.taken_boundary hmem ho]
    rintro (hm | ⟨hm, -⟩)
    · exact hgen o hm
    · exact he (h.boundary e hm)
  induction hpath with
  | refl => exact hopen
  | @tail m n _ hmn ih =>
    by_cases hb : p.direction.boundaryNode? g = some n
    · rwa [Option.some.inj (hb.symm.trans ho)]
    · have hn := (Direction.mem_nodeIds_of_source h.wired hmn).2
      exact hx.notMem_passed_of_source h.meet hn hmn ⟨hb, hgen n⟩ ih

lemma bars_or_relies (hx : p.Solves g s x) {n : NodeId} (hn : n ∈ g.nodeIds)
    (he : e ∉ x.passed n) :
    p.Bars g s e n ∨ p.Relies g s e n ∧ ∃ m ∈ p.direction.sources g n, e ∉ x.passed m := by
  rw [hx.mem_passed hn, not_or, not_and_or, not_not] at he
  obtain ⟨hgen, ht | hkill⟩ := he
  · by_cases hb : p.direction.boundaryNode? g = some n
    · rw [hx.taken_boundary hn hb] at ht
      exact Or.inl ⟨hgen, Or.inr (by rwa [if_pos hb])⟩
    · by_cases hs : p.direction.sources g n = []
      · refine Or.inl ⟨hgen, Or.inr ?_⟩
        rw [if_neg hb, h.taken]
        exact ⟨hs, Std.ExtTreeSet.not_mem_empty⟩
      · rw [hx.mem_taken h.meet hn hb hs] at ht
        push Not at ht
        exact Or.inr ⟨⟨hb, hgen⟩, ht⟩
  · exact Or.inl ⟨hgen, Or.inl hkill⟩

lemma lacks_of_notMem_passed (hx : p.Solves g s x) (t : ℕ) {n : NodeId} (hn : n ∈ g.nodeIds)
    (hc : ¬ p.direction.Covers g n) (he : e ∉ x.passed n) : p.Lacks g (p.start g s) e t n := by
  refine fun hshow => he (h.of_shows_apart ⟨hn, hc⟩ (P := fun n => e ∈ x.passed n) ?_ ?_ hshow)
  · exact fun n hn hgen => (hx.mem_passed hn.1).mpr (Or.inl hgen)
  · intro n hn hne hall hkill
    rw [hx.mem_passed hn.1, hx.mem_taken h.meet hn.1 hn.ne_boundaryNode? hne]
    exact Or.inr ⟨hall, hkill⟩

variable [Std.LawfulEqOrd α] {cap : ℕ} (hc : (p.solve g cap s).convergence.converged = true)

include hc

lemma notMem_passed_iff (he : e ∈ value) {n : NodeId} (hn : n ∈ g.nodeIds) :
    e ∉ ((p.solve g cap s).store.flows p.direction).passed n ↔
      p.Starved g s e n ∨ p.Lasting g s e n := by
  obtain ⟨k, hstore, hs⟩ := solve_store_of_converged hc
  have hlacks : ∀ t ≥ k, p.Lacks g (p.start g s) e t n ↔
      e ∉ ((p.solve g cap s).store.flows p.direction).passed n := by
    intro t ht
    rw [hstore, Lacks, Shows, sets_after_of_settled hs ht, ← sets_eq_of_settled hs]
    rfl
  constructor
  · intro hl
    by_cases hst : p.Starved g s e n
    · exact Or.inl hst
    · refine Or.inr ?_
      filter_upwards [eventually_ge_atTop k] with t ht
      have hlt := (hlacks (t + 1) (Nat.le_succ_of_le ht)).mpr hl
      rcases (h.lacks_succ_iff_gapped he hn t).mp hlt with ⟨m, hm, j, -, hw⟩ | hgap
      · exact absurd ⟨m, hm, j, hw⟩ hst
      · exact hgap
  · rintro (⟨m, hm, j, hw⟩ | hlast)
    · apply (hlacks (k + j + 1) (by omega)).mp
      exact (h.lacks_succ_iff_gapped he hn (k + j)).mpr (Or.inl ⟨m, hm, j, by omega, hw⟩)
    · obtain ⟨t, ht, hgap⟩ := ((eventually_ge_atTop k).and hlast).exists
      apply (hlacks (t + 1) (by omega)).mp
      exact (h.lacks_succ_iff_gapped he hn t).mpr (Or.inr hgap)

lemma notMem_passed_of_cut (hx : p.Solves g s x)
    (hagree : p.Agree g x ((p.solve g cap s).store.flows p.direction)) (he : e ∈ value)
    {n : NodeId} (hn : n ∈ g.nodeIds) (hcut : p.Cut g s e n) : e ∉ x.passed n := by
  obtain ⟨m, hm, k, hw⟩ := hcut
  have hmem := hw.start_mem h.wired hn
  apply hx.notMem_passed_of_walk h.meet h.wired hw
  by_cases hcm : p.direction.Covers g m
  · exact hx.notMem_passed_of_bars h.wired hcm (hm.resolve_right fun h => h.1 hcm)
  · rw [(hagree m hmem hcm).2, h.notMem_passed_iff hc he hmem]
    exact hm.imp (fun hbars => ⟨m, hbars, 0, .start⟩) fun h => h.2

lemma mem_value_of_mem_passed {n : NodeId} (hn : n ∈ g.nodeIds)
    (he : e ∈ ((p.solve g cap s).store.flows p.direction).passed n) : e ∈ value := by
  obtain ⟨k, hstore, -⟩ := solve_store_of_converged hc
  rw [hstore] at he
  by_contra hno
  exact h.lacks_of_notMem hno hn (k + 1) he

lemma cut_iff (he : e ∈ value) {n : NodeId} (hn : n ∈ g.nodeIds) :
    p.Cut g s e n ↔
      p.Bars g s e n ∨ p.Relies g s e n ∧ ∃ m ∈ p.direction.sources g n, p.Cut g s e m := by
  constructor
  · rintro ⟨m, hm, k, hw⟩
    cases hw with
    | start =>
      rcases hm with hbars | ⟨hcn, hlast⟩
      · exact Or.inl hbars
      have hno := (h.notMem_passed_iff hc he hn).mpr (Or.inr hlast)
      refine (h.bars_or_relies (solves_of_converged hc) hn hno).imp_right ?_
      rintro ⟨hr, a, ha, hna⟩
      have hmem := (Direction.mem_nodeIds_of_source h.wired ha).1
      refine ⟨hr, a, ha, ?_⟩
      rcases (h.notMem_passed_iff hc he hmem).mp hna with hst | hla
      · exact hst.cut
      · exact ⟨a, Or.inr ⟨Direction.not_covers_source hcn a ha, hla⟩, 0, .start⟩
    | ahead hw hab _ hr => exact Or.inr ⟨hr, _, hab, m, hm, _, hw⟩
    | back hw hab _ hr => exact Or.inr ⟨hr, _, hab, m, hm, _, hw⟩
  · rintro (hbars | ⟨hr, m, hmn, hcut⟩)
    · exact ⟨n, Or.inl hbars, 0, .start⟩
    · exact hcut.step hmn hr

end Seeded

open Classical in
noncomputable def uncut (p : Problem α) (g : Graph) (s : Store α) (value : TokenSet α) :
    Flows α where
  taken := p.met g (fun m => value.filter fun e => ¬ p.Cut g s e m) ∅
  passed n := value.filter fun e => ¬ p.Cut g s e n

lemma mem_taken_uncut (hp : p.meet = .intersection) {n : NodeId} :
    e ∈ (p.uncut g s value).taken n ↔
      if p.direction.boundaryNode? g = some n then e ∈ p.boundary
      else p.direction.sources g n ≠ [] ∧
        ∀ m ∈ p.direction.sources g n, e ∈ (p.uncut g s value).passed m := by
  change e ∈ p.met g (p.uncut g s value).passed ∅ n ↔ _
  rw [mem_met hp]
  split
  · rfl
  · split
    case isTrue hs => simp [hs]
    case isFalse hs => simp [hs]

variable [Std.LawfulEqOrd α]

lemma mem_passed_uncut {n : NodeId} :
    e ∈ (p.uncut g s value).passed n ↔ e ∈ value ∧ ¬ p.Cut g s e n := by
  simp [uncut]

namespace Seeded

variable (h : p.Seeded g s value) {cap : ℕ}
  (hc : (p.solve g cap s).convergence.converged = true)

include h hc

lemma solves_uncut : p.Solves g s (p.uncut g s value) where
  taken := by
    intro n hn
    refine Std.ExtTreeSet.ext_mem fun {e} => ?_
    rw [mem_met h.meet]
    split
    case isTrue hb => rw [mem_taken_uncut h.meet, if_pos hb]
    case isFalse hb =>
      split
      case isTrue => rfl
      case isFalse hs => rw [mem_taken_uncut h.meet, if_neg hb, and_iff_right hs]
  passed := by
    intro n hn
    refine Std.ExtTreeSet.ext_mem fun {e} => ?_
    rw [mem_passed_uncut, mem_transfer, mem_taken_uncut h.meet]
    by_cases he : e ∈ value
    · rw [h.cut_iff hc he hn, Bars, Relies, h.taken]
      by_cases hb : p.direction.boundaryNode? g = some n
      · simp only [hb, he, if_true, ne_eq, not_true_eq_false, false_and, or_false, true_and]
        tauto
      · by_cases hs : p.direction.sources g n = []
        · simp [hb, hs, he]
        · simp only [hb, hs, he, if_false, false_and, or_false, true_and, mem_passed_uncut, ne_eq,
            not_false_eq_true]
          push Not
          tauto
    · refine iff_of_false (fun hm => he hm.1) ?_
      rintro (hm | ⟨hm, -⟩)
      · exact he (h.gen n e hm)
      · split at hm
        case isTrue => exact he (h.boundary e hm)
        case isFalse =>
          obtain ⟨m, hmn⟩ := List.exists_mem_of_ne_nil _ hm.1
          exact he (mem_passed_uncut.mp (hm.2 m hmn)).1

lemma taken_of_sources_eq_nil {n : NodeId} (hn : n ∈ g.nodeIds)
    (hb : p.direction.boundaryNode? g ≠ some n) (hs : p.direction.sources g n = []) :
    ((p.solve g cap s).store.flows p.direction).taken n = ∅ := by
  obtain ⟨k, hstore, -⟩ := solve_store_of_converged hc
  have hcn : ¬ p.direction.Covers g n := fun hcn => hcn.sources_ne_nil hb hs
  rw [hstore]
  change p.direction.taken ((p.after g (p.start g s) (k + 1)).sets n) = ∅
  rw [taken_of_sources_nil h.meet hn hb hs, h.sets_start_of_not_covers hcn, h.taken]

lemma agree_of_passed (hx : p.Solves g s x)
    (htaken : ∀ n ∈ g.nodeIds, p.direction.boundaryNode? g ≠ some n →
      p.direction.sources g n = [] → x.taken n = ∅)
    (hpassed : ∀ n ∈ g.nodeIds, ¬ p.direction.Covers g n →
      x.passed n = ((p.solve g cap s).store.flows p.direction).passed n) :
    p.Agree g x ((p.solve g cap s).store.flows p.direction) := by
  intro n hn hcn
  refine ⟨?_, hpassed n hn hcn⟩
  have hb : p.direction.boundaryNode? g ≠ some n := fun hb => hcn ⟨n, hb, .refl⟩
  by_cases hs : p.direction.sources g n = []
  · rw [htaken n hn hb hs, h.taken_of_sources_eq_nil hc hn hb hs]
  · refine Std.ExtTreeSet.ext_mem fun {e} => ?_
    rw [hx.mem_taken h.meet hn hb hs, (solves_of_converged hc).mem_taken h.meet hn hb hs]
    refine forall₂_congr fun m hm => ?_
    rw [hpassed m (Direction.mem_nodeIds_of_source h.wired hm).1
      (Direction.not_covers_source hcn m hm)]

lemma agree_uncut : p.Agree g (p.uncut g s value) ((p.solve g cap s).store.flows p.direction) := by
  refine h.agree_of_passed hc (h.solves_uncut hc) ?_ ?_
  · intro n _ hb hs
    refine Std.ExtTreeSet.ext_mem fun {e} => ?_
    rw [mem_taken_uncut h.meet, if_neg hb]
    simp [hs]
  · intro n hn hcn
    refine Std.ExtTreeSet.ext_mem fun {e} => ?_
    rw [mem_passed_uncut]
    constructor
    · rintro ⟨he, hcut⟩
      by_contra hno
      rcases (h.notMem_passed_iff hc he hn).mp hno with hst | hla
      · exact hcut hst.cut
      · exact hcut ⟨n, Or.inr ⟨hcn, hla⟩, 0, .start⟩
    · intro hm
      have he := h.mem_value_of_mem_passed hc hn hm
      exact ⟨he, fun hcut => h.notMem_passed_of_cut hc (solves_of_converged hc)
        (fun _ _ _ => ⟨rfl, rfl⟩) he hn hcut hm⟩

lemma greatest_iff :
    p.Greatest g s ((p.solve g cap s).store.flows p.direction) ↔
      ∀ e ∈ value, ∀ n, p.direction.Covers g n → p.Lasting g s e n → p.Cut g s e n := by
  have hsolves := solves_of_converged hc
  constructor
  · rintro ⟨-, hgreat⟩ e he n hcn hla
    have hn := hcn.mem_nodeIds h.wired
    by_contra hcut
    -- the solution that holds whatever is not cut is one of those that agree
    have hm := (hgreat _ (h.solves_uncut hc) (h.agree_uncut hc) n hn).2 e
      (mem_passed_uncut.mpr ⟨he, hcut⟩)
    exact (h.notMem_passed_iff hc he hn).mpr (Or.inr hla) hm
  · refine fun hcut => ⟨hsolves, fun y hy hagree => ?_⟩
    refine hy.below_of_agree h.meet h.wired hsolves hagree fun n hn e hm => ?_
    by_cases hcn : p.direction.Covers g n
    · have he : e ∈ value := by
        by_contra he
        exact h.notMem_passed_of_notMem hy he hcn hm
      by_contra hno
      apply h.notMem_passed_of_cut hc hy hagree he hn _ hm
      exact ((h.notMem_passed_iff hc he hn).mp hno).elim Starved.cut (hcut e he n hcn)
    · rwa [← (hagree n hn hcn).2]

end Seeded

end GenKill.Flow.Problem
