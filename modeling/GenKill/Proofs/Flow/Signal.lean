import GenKill.Proofs.Flow.Pass
import Mathlib.Data.Finset.Card
import Mathlib.Data.Nat.Init

/-! Marks that passes carry along the flow. A mark is set at the lit nodes, and a clear node has it
as soon as one of its sources has it. -/

namespace GenKill.Flow

def Signal (d : Direction) (g : Graph) (lit clear : NodeId → Prop) (X : ℕ → NodeId → Prop) :
    Prop :=
  ∀ t, ∀ n ∈ g.nodeIds, X (t + 1) n ↔
    lit n ∨ clear n ∧ ∃ m ∈ d.sources g n, if d.Precedes m n then X (t + 1) m else X t m

variable {d : Direction} {g : Graph}

lemma order_induction {P : NodeId → Prop}
    (h : ∀ n ∈ g.nodeIds, (∀ m ∈ g.nodeIds, d.Precedes m n → P m) → P n) :
    ∀ n ∈ g.nodeIds, P n := by
  have hl : ∀ l : List NodeId, l.Pairwise d.Precedes →
      (∀ n ∈ l, n ∈ g.nodeIds) → (∀ m ∈ g.nodeIds, m ∉ l → P m) → ∀ n ∈ l, P n := by
    intro l
    induction l with
    | nil => exact fun _ _ _ n hn => absurd hn List.not_mem_nil
    | cons a l ih =>
      intro hp hsub hdone
      obtain ⟨hal, hpl⟩ := List.pairwise_cons.mp hp
      have ha : P a := by
        apply h a (hsub a List.mem_cons_self)
        intro m hm hma
        apply hdone m hm
        rw [List.mem_cons, not_or]
        exact ⟨fun he => Direction.Precedes.irrefl (he ▸ hma), fun he => hma.asymm (hal m he)⟩
      intro n hn
      rcases List.mem_cons.mp hn with rfl | hn
      · exact ha
      · apply ih hpl (fun n hn => hsub n (List.mem_cons_of_mem a hn)) _ n hn
        intro m hm hml
        by_cases he : m = a
        · exact he ▸ ha
        · exact hdone m hm (by simp [he, hml])
  intro n hn
  refine hl (d.order g) (d.order_pairwise g) (fun n hn => Direction.mem_order.mp hn) ?_ n
    (Direction.mem_order.mpr hn)
  intro m hm hml
  exact absurd (Direction.mem_order.mpr hm) hml

lemma pass_induction (hg : g.Wired) {P : ℕ → NodeId → Prop} (h0 : ∀ n ∈ g.nodeIds, P 0 n)
    (hs : ∀ t, ∀ n ∈ g.nodeIds,
      (∀ m ∈ d.sources g n, if d.Precedes m n then P (t + 1) m else P t m) → P (t + 1) n)
    (t : ℕ) : ∀ n ∈ g.nodeIds, P t n := by
  induction t with
  | zero => exact h0
  | succ t ih =>
    refine order_induction (d := d) (P := P (t + 1)) ?_
    intro n hn hprev
    apply hs t n hn
    intro m hm
    have hmem := (Direction.mem_nodeIds_of_source hg hm).1
    split
    case isTrue hp => exact hprev m hmem hp
    case isFalse => exact ih m hmem

namespace Signal

variable {lit clear lit' clear' : NodeId → Prop} {X Y : ℕ → NodeId → Prop}

lemma shift (hX : Signal d g lit clear X) : Signal d g lit clear fun t => X (t + 1) :=
  fun t => hX (t + 1)

lemma mono (hg : g.Wired) (hX : Signal d g lit clear X) (hY : Signal d g lit' clear' Y)
    {S : NodeId → Prop} (hS : ∀ n, S n → ∀ m ∈ d.sources g n, S m)
    (hl : ∀ n, S n → lit n → lit' n) (hc : ∀ n, S n → clear n → clear' n)
    (h0 : ∀ n ∈ g.nodeIds, S n → X 0 n → Y 0 n) (t : ℕ) :
    ∀ n ∈ g.nodeIds, S n → X t n → Y t n := by
  refine pass_induction (d := d) hg (P := fun t n => S n → X t n → Y t n) h0 ?_ t
  intro t n hn ih hSn hXn
  rw [hY t n hn]
  rcases (hX t n hn).mp hXn with h | ⟨h, m, hm, hXm⟩
  · exact Or.inl (hl n hSn h)
  · refine Or.inr ⟨hc n hSn h, m, hm, ?_⟩
    have hm' := ih m hm
    split at hXm
    case isTrue hp =>
      rw [if_pos hp] at hm' ⊢
      exact hm' (hS n hSn m hm) hXm
    case isFalse hp =>
      rw [if_neg hp] at hm' ⊢
      exact hm' (hS n hSn m hm) hXm

lemma agree_succ (hg : g.Wired) (hX : Signal d g lit clear X)
    {S : NodeId → Prop} (hS : ∀ n, S n → ∀ m ∈ d.sources g n, S m) {k : ℕ}
    (hk : ∀ n ∈ g.nodeIds, S n → (X (k + 1) n ↔ X k n)) {t : ℕ} (ht : k ≤ t) :
    ∀ n ∈ g.nodeIds, S n → (X (t + 1) n ↔ X t n) := by
  induction t, ht using Nat.le_induction with
  | base => exact hk
  | succ t _ ih =>
    have hX1 : Signal d g lit clear fun u => X (t + 1 + u) := fun u => hX (t + 1 + u)
    have hX0 : Signal d g lit clear fun u => X (t + u) := fun u => hX (t + u)
    intro n hn hSn
    constructor
    · exact mono hg hX1 hX0 hS (fun _ _ h => h) (fun _ _ h => h)
        (fun n hn hSn => (ih n hn hSn).mp) 1 n hn hSn
    · exact mono hg hX0 hX1 hS (fun _ _ h => h) (fun _ _ h => h)
        (fun n hn hSn => (ih n hn hSn).mpr) 1 n hn hSn

lemma changes_once {x : ℕ → Prop} (hone : (∀ t, x t → x (t + 1)) ∨ ∀ t, x (t + 1) → x t) {i j : ℕ}
    (hij : i < j) (hi : ¬ (x (i + 1) ↔ x i)) : x (j + 1) ↔ x j := by
  rcases hone with hup | hdown
  · have hstay : ∀ u, i + 1 ≤ u → x u := by
      intro u hu
      induction u, hu using Nat.le_induction with
      | base =>
        by_contra hno
        exact hi ⟨fun h => absurd h hno, hup i⟩
      | succ u _ ih => exact hup u ih
    exact ⟨fun _ => hstay j hij, fun _ => hstay (j + 1) (by omega)⟩
  · have hstay : ∀ u, i + 1 ≤ u → ¬ x u := by
      intro u hu
      induction u, hu using Nat.le_induction with
      | base => exact fun h => hi ⟨fun _ => hdown i h, fun _ => h⟩
      | succ u _ ih => exact fun h => ih (hdown u h)
    exact ⟨fun h => absurd h (hstay (j + 1) (by omega)), fun h => absurd h (hstay j hij)⟩

lemma stable (hg : g.Wired) (hX : Signal d g lit clear X)
    {S : NodeId → Prop} (hS : ∀ n, S n → ∀ m ∈ d.sources g n, S m)
    (hone : ∀ n ∈ g.nodeIds, S n → (∀ t, X t n → X (t + 1) n) ∨ ∀ t, X (t + 1) n → X t n)
    {t : ℕ} (ht : g.size ≤ t) : ∀ n ∈ g.nodeIds, S n → (X (t + 1) n ↔ X t n) := by
  by_contra hnot
  -- every pass up to here changed some node, and there are more passes than nodes
  have hchange : ∀ k, ∃ n, k ≤ t → n ∈ g.nodeIds ∧ S n ∧ ¬ (X (k + 1) n ↔ X k n) := by
    intro k
    by_contra hno
    push Not at hno
    have hk : k ≤ t := (hno 0).1
    apply hnot
    apply agree_succ hg hX hS _ hk
    intro n hn hSn
    by_contra hne
    exact hne ((hno n).2 hn hSn)
  choose f hf using hchange
  have hcard : g.nodeIds.toFinset.card < (Finset.range (t + 1)).card := by
    rw [Finset.card_range]
    have hle := List.toFinset_card_le g.nodeIds
    rw [Graph.length_nodeIds] at hle
    omega
  have hmaps : ∀ k ∈ Finset.range (t + 1), f k ∈ g.nodeIds.toFinset := by
    intro k hk
    rw [Finset.mem_range, Nat.lt_succ_iff] at hk
    exact List.mem_toFinset.mpr (hf k hk).1
  obtain ⟨i, hi, j, hj, hij, hfij⟩ :=
    Finset.exists_ne_map_eq_of_card_lt_of_maps_to hcard hmaps
  rw [Finset.mem_range, Nat.lt_succ_iff] at hi hj
  have htwice : ∀ i j, i < j → i ≤ t → j ≤ t → f i ≠ f j := by
    intro i j hlt hi hj heq
    obtain ⟨hn, hSn, hni⟩ := hf i hi
    apply (hf j hj).2.2
    rw [← heq]
    exact changes_once (hone (f i) hn hSn) hlt hni
  rcases Nat.lt_or_gt_of_ne hij with h | h
  · exact htwice i j h hi hj hfij
  · exact htwice j i h hj hi hfij.symm

end Signal

end GenKill.Flow
