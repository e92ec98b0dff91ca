import GenKill.Graph.Basic
import GenKill.Proofs.Graph.Built
import Mathlib.Logic.Relation

namespace GenKill.Graph

variable {next : NodeId → List NodeId}

lemma mem_ofList_nodes {l : List NodeId} {n : NodeId} :
    n ∈ (Std.ExtTreeSet.ofList l : NodeSet) ↔ n ∈ l := by
  rw [Std.ExtTreeSet.mem_ofList]
  simp

lemma not_contains {seen : NodeSet} {n : NodeId} : (!seen.contains n) = true ↔ n ∉ seen := by
  rw [Bool.not_eq_true', ← Bool.not_eq_true, Std.ExtTreeSet.contains_iff_mem]

lemma mem_spread_of_mem {rounds : ℕ} {frontier : List NodeId} {seen : NodeSet} {n : NodeId}
    (h : n ∈ seen) : n ∈ spread next rounds frontier seen := by
  induction rounds generalizing frontier seen with
  | zero => exact h
  | succ rounds ih =>
    unfold spread
    split
    · exact h
    · exact ih (Std.ExtTreeSet.mem_union_of_left h)

lemma spread_sound {P : NodeId → Prop} (hnext : ∀ a, P a → ∀ b ∈ next a, P b) {rounds : ℕ}
    {frontier : List NodeId} {seen : NodeSet} (hf : ∀ a ∈ frontier, P a) (hs : ∀ a ∈ seen, P a) :
    ∀ a ∈ spread next rounds frontier seen, P a := by
  induction rounds generalizing frontier seen with
  | zero => exact hs
  | succ rounds ih =>
    unfold spread
    have hfresh : ∀ b ∈ (frontier.flatMap next).filter (fun n => !seen.contains n), P b := by
      intro b hb
      obtain ⟨a, ha, hab⟩ := List.mem_flatMap.mp (List.mem_filter.mp hb).1
      exact hnext a (hf a ha) b hab
    split
    · exact hs
    · apply ih hfresh
      intro b hb
      rcases Std.ExtTreeSet.mem_union_iff.mp hb with hb | hb
      · exact hs b hb
      · exact hfresh b (mem_ofList_nodes.mp hb)

def unseen (ids : List NodeId) (seen : NodeSet) : List NodeId := ids.filter fun n => !seen.contains n

lemma mem_unseen {ids : List NodeId} {seen : NodeSet} {n : NodeId} :
    n ∈ unseen ids seen ↔ n ∈ ids ∧ n ∉ seen := by
  rw [unseen, List.mem_filter, not_contains]

lemma length_unseen_lt {ids : List NodeId} {seen more : NodeSet} {n : NodeId} (hsub : ∀ a ∈ seen, a ∈ more)
    (hids : n ∈ ids) (hmore : n ∈ more) (hseen : n ∉ seen) :
    (unseen ids more).length < (unseen ids seen).length := by
  have heq : unseen ids more = (unseen ids seen).filter fun n => !more.contains n := by
    rw [unseen, unseen, List.filter_filter]
    refine List.filter_congr fun m _ => ?_
    rw [Bool.eq_iff_iff, Bool.and_eq_true, not_contains, not_contains]
    exact ⟨fun h => ⟨h, fun hm => h (hsub m hm)⟩, And.left⟩
  rw [heq, List.length_filter_lt_length_iff_exists]
  refine ⟨n, mem_unseen.mpr ⟨hids, hseen⟩, ?_⟩
  rwa [not_contains, not_not]

lemma spread_closed {ids : List NodeId} (hids : ∀ a, ∀ b ∈ next a, b ∈ ids) {rounds : ℕ}
    {frontier : List NodeId} {seen : NodeSet}
    (hf : ∀ a ∈ seen, a ∈ frontier ∨ ∀ b ∈ next a, b ∈ seen)
    (hr : (unseen ids seen).length ≤ rounds) :
    ∀ a ∈ spread next rounds frontier seen, ∀ b ∈ next a, b ∈ spread next rounds frontier seen := by
  induction rounds generalizing frontier seen with
  | zero =>
    intro a _ b hb
    by_contra hnot
    have hnil : unseen ids seen = [] := List.length_eq_zero_iff.mp (Nat.le_zero.mp hr)
    have hmem : b ∈ unseen ids seen := mem_unseen.mpr ⟨hids a b hb, hnot⟩
    rw [hnil] at hmem
    exact List.not_mem_nil hmem
  | succ rounds ih =>
    have hfrontier : ∀ a ∈ frontier, ∀ b ∈ next a, b ∈ seen ∨
        b ∈ (frontier.flatMap next).filter fun n => !seen.contains n := by
      intro a ha b hb
      by_cases hs : b ∈ seen
      · exact Or.inl hs
      · exact Or.inr (List.mem_filter.mpr ⟨List.mem_flatMap.mpr ⟨a, ha, hb⟩, not_contains.mpr hs⟩)
    unfold spread
    split
    case h_1 hnil =>
      intro a ha b hb
      rcases hf a ha with ha | hall
      · rcases hfrontier a ha b hb with h | h
        · exact h
        · rw [hnil] at h
          exact absurd h List.not_mem_nil
      · exact hall b hb
    case h_2 fresh hne =>
      apply ih
      · intro a ha
        rcases Std.ExtTreeSet.mem_union_iff.mp ha with ha | ha
        · refine Or.inr fun b hb => ?_
          rcases hf a ha with hfr | hall
          · rcases hfrontier a hfr b hb with h | h
            · exact Std.ExtTreeSet.mem_union_of_left h
            · exact Std.ExtTreeSet.mem_union_of_right (mem_ofList_nodes.mpr h)
          · exact Std.ExtTreeSet.mem_union_of_left (hall b hb)
        · exact Or.inl (mem_ofList_nodes.mp ha)
      · obtain ⟨n, hn⟩ := List.exists_mem_of_ne_nil _ hne
        obtain ⟨hmem, hseen⟩ := List.mem_filter.mp hn
        obtain ⟨a, -, hab⟩ := List.mem_flatMap.mp hmem
        have hlt := length_unseen_lt (fun _ => Std.ExtTreeSet.mem_union_of_left) (hids a n hab)
          (Std.ExtTreeSet.mem_union_of_right (mem_ofList_nodes.mpr hn)) (not_contains.mp hseen)
        omega

lemma mem_reach {g : Graph} (hnext : ∀ a, ∀ b ∈ next a, b ∈ g.nodeIds) {start n : NodeId} :
    n ∈ g.reach next start ↔ Relation.ReflTransGen (fun a b => b ∈ next a) start n := by
  have hstart : ∀ a, a ∈ (.ofList [start] : NodeSet) ↔ a = start := by
    intro a
    rw [mem_ofList_nodes, List.mem_singleton]
  constructor
  · apply spread_sound
    · exact fun a ha b hb => ha.tail hb
    · intro a ha
      rw [List.mem_singleton.mp ha]
    · intro a ha
      rw [(hstart a).mp ha]
  · intro h
    have hclosed : ∀ a ∈ g.reach next start, ∀ b ∈ next a, b ∈ g.reach next start := by
      apply spread_closed hnext
      · exact fun a ha => Or.inl (List.mem_singleton.mpr ((hstart a).mp ha))
      · exact Nat.le_trans (List.length_filter_le _ _) (Nat.le_of_eq g.length_nodeIds)
    induction h with
    | refl => exact mem_spread_of_mem ((hstart start).mpr rfl)
    | tail _ hb ih => exact hclosed _ ih _ hb

lemma mem_reachableFrom {g : Graph} (hg : g.Wired) {start n : NodeId} :
    n ∈ g.reachableFrom start ↔ Relation.ReflTransGen (fun a b => (a, b) ∈ g.edges) start n := by
  rw [reachableFrom, mem_reach fun a b hb => (hg _ (mem_successors.mp hb)).2]
  simp only [mem_successors]

lemma mem_reaching {g : Graph} (hg : g.Wired) {target n : NodeId} :
    n ∈ g.reaching target ↔ Relation.ReflTransGen (fun a b => (b, a) ∈ g.edges) target n := by
  rw [reaching, mem_reach fun a b hb => (hg _ (mem_predecessors.mp hb)).1]
  simp only [mem_predecessors]

end GenKill.Graph
