import GenKill.Proofs.Graph.Reach
import GenKill.Proofs.Graph.Session

/-! Search with a stack. Each turn takes a node from the stack and puts those of its neighbours there that
were not seen before. The search comes to an end in every graph, after one turn for each node that it
finds, and it finds the nodes to which paths lead. -/

namespace GenKill.Graph

structure Search where
  seen : NodeSet
  stack : List NodeId

namespace Search

def start (n : NodeId) : Search := ⟨.ofList [n], [n]⟩

def note (s : Search) (n : NodeId) : Search :=
  if s.seen.contains n then s else ⟨s.seen.insert n, n :: s.stack⟩

def turn? (next : NodeId → List NodeId) (s : Search) : Option Search :=
  match s.stack with
  | [] => none
  | n :: rest => some ((next n).foldl note ⟨s.seen, rest⟩)

inductive Ends (next : NodeId → List NodeId) : ℕ → Search → Search → Prop
  | stop {s : Search} (h : s.turn? next = none) : Ends next 0 s s
  | turn {k : ℕ} {s s' t : Search} (h : s.turn? next = some s') (hk : Ends next k s' t) :
    Ends next (k + 1) s t

section Note

variable {s : Search} {ns ids : List NodeId} {a n : NodeId}

lemma mem_insert_nodes {ns : NodeSet} : a ∈ ns.insert n ↔ a ∈ ns ∨ a = n := by
  rw [Std.ExtTreeSet.mem_insert, Std.LawfulEqCmp.compare_eq_iff_eq, or_comm, eq_comm (a := n)]

lemma mem_seen_note : a ∈ (s.note n).seen ↔ a ∈ s.seen ∨ a = n := by
  unfold note
  split
  case isTrue h =>
    rw [Std.ExtTreeSet.contains_iff_mem] at h
    exact ⟨Or.inl, fun ha => ha.elim id fun ha => ha ▸ h⟩
  case isFalse => exact mem_insert_nodes

lemma mem_stack_note : a ∈ (s.note n).stack ↔ a ∈ s.stack ∨ a = n ∧ n ∉ s.seen := by
  unfold note
  split
  case isTrue h => simp [Std.ExtTreeSet.contains_iff_mem.mp h]
  case isFalse h =>
    rw [Std.ExtTreeSet.contains_iff_mem] at h
    simp [h, or_comm]

lemma mem_seen_foldl : a ∈ (ns.foldl note s).seen ↔ a ∈ s.seen ∨ a ∈ ns := by
  induction ns generalizing s with
  | nil => simp
  | cons n ns ih => rw [List.foldl_cons, ih, mem_seen_note, List.mem_cons, or_assoc]

lemma mem_stack_foldl : a ∈ (ns.foldl note s).stack ↔ a ∈ s.stack ∨ a ∈ ns ∧ a ∉ s.seen := by
  induction ns generalizing s with
  | nil => simp
  | cons n ns ih =>
    rw [List.foldl_cons, ih, mem_stack_note, mem_seen_note, List.mem_cons]
    by_cases han : a = n
    · subst han
      tauto
    · tauto

lemma size_foldl (ns : List NodeId) (s : Search) :
    (ns.foldl note s).seen.size + s.stack.length = s.seen.size + (ns.foldl note s).stack.length := by
  induction ns generalizing s with
  | nil => rfl
  | cons n ns ih =>
    have hns := ih (s.note n)
    have hn : (s.note n).seen.size + s.stack.length = s.seen.size + (s.note n).stack.length := by
      unfold note
      split
      case isTrue => rfl
      case isFalse h =>
        rw [Std.ExtTreeSet.size_insert, if_neg h, List.length_cons]
        omega
    rw [List.foldl_cons]
    omega

def left (ids : List NodeId) (s : Search) : ℕ := (unseen ids s.seen).length + s.stack.length

lemma left_foldl_le (h : ∀ n ∈ ns, n ∈ ids) (s : Search) : (ns.foldl note s).left ids ≤ s.left ids := by
  induction ns generalizing s with
  | nil => exact Nat.le_refl _
  | cons n ns ih =>
    obtain ⟨hn, hns⟩ := List.forall_mem_cons.mp h
    apply Nat.le_trans (ih hns (s.note n))
    unfold note
    split
    case isTrue => exact Nat.le_refl _
    case isFalse hseen =>
      rw [Std.ExtTreeSet.contains_iff_mem] at hseen
      have hlt := length_unseen_lt (fun a ha => mem_insert_nodes.mpr (Or.inl ha)) hn
        (mem_insert_nodes.mpr (Or.inr rfl)) hseen
      simp only [left, List.length_cons]
      omega

end Note

section Turn

variable {next : NodeId → List NodeId} {ids : List NodeId} {first : NodeId} {s s' : Search}

structure Sound (next : NodeId → List NodeId) (first : NodeId) (s : Search) : Prop where
  started : first ∈ s.seen
  reached : ∀ a ∈ s.seen, Relation.ReflTransGen (fun m n => n ∈ next m) first a
  stacked : ∀ a ∈ s.stack, a ∈ s.seen
  closed : ∀ a ∈ s.seen, a ∈ s.stack ∨ ∀ b ∈ next a, b ∈ s.seen

lemma sound_start (next : NodeId → List NodeId) (first : NodeId) : (start first).Sound next first := by
  have hseen (a : NodeId) : a ∈ (start first).seen ↔ a = first := by
    rw [start, mem_ofList_nodes, List.mem_singleton]
  refine ⟨(hseen first).mpr rfl, fun a ha => ?_, fun a ha => ?_, fun a ha => Or.inl ?_⟩
  · rw [(hseen a).mp ha]
  · exact (hseen a).mpr (List.mem_singleton.mp ha)
  · exact List.mem_singleton.mpr ((hseen a).mp ha)

lemma exists_of_turn? (h : s.turn? next = some s') :
    ∃ n rest, s.stack = n :: rest ∧ s' = (next n).foldl note ⟨s.seen, rest⟩ := by
  unfold turn? at h
  split at h
  case h_1 => cases h
  case h_2 n rest hstack => exact ⟨n, rest, hstack, (Option.some.inj h).symm⟩

lemma Sound.turn (hs : s.Sound next first) (h : s.turn? next = some s') : s'.Sound next first := by
  obtain ⟨n, rest, hstack, rfl⟩ := exists_of_turn? h
  have hn : n ∈ s.seen := hs.stacked n (hstack ▸ List.mem_cons_self)
  refine ⟨mem_seen_foldl.mpr (Or.inl hs.started), fun a ha => ?_, fun a ha => ?_, fun a ha => ?_⟩
  · rcases mem_seen_foldl.mp ha with ha | ha
    · exact hs.reached a ha
    · exact (hs.reached n hn).tail ha
  · rcases mem_stack_foldl.mp ha with ha | ⟨ha, -⟩
    · exact mem_seen_foldl.mpr (Or.inl (hs.stacked a (hstack ▸ List.mem_cons_of_mem n ha)))
    · exact mem_seen_foldl.mpr (Or.inr ha)
  · by_cases hseen : a ∈ s.seen
    · rcases hs.closed a hseen with hmem | hall
      · rw [hstack, List.mem_cons] at hmem
        rcases hmem with rfl | hmem
        · exact Or.inr fun b hb => mem_seen_foldl.mpr (Or.inr hb)
        · exact Or.inl (mem_stack_foldl.mpr (Or.inl hmem))
      · exact Or.inr fun b hb => mem_seen_foldl.mpr (Or.inl (hall b hb))
    · have hnext : a ∈ next n := (mem_seen_foldl.mp ha).resolve_left hseen
      exact Or.inl (mem_stack_foldl.mpr (Or.inr ⟨hnext, hseen⟩))

lemma left_turn (hids : ∀ a, ∀ b ∈ next a, b ∈ ids) (h : s.turn? next = some s') :
    s'.left ids < s.left ids := by
  obtain ⟨n, rest, hstack, rfl⟩ := exists_of_turn? h
  have hle := left_foldl_le (hids n) ⟨s.seen, rest⟩
  have hlt : left ids ⟨s.seen, rest⟩ < s.left ids := by
    simp only [left, hstack, List.length_cons]
    omega
  omega

lemma size_turn (h : s.turn? next = some s') :
    s'.seen.size + s.stack.length = s.seen.size + s'.stack.length + 1 := by
  obtain ⟨n, rest, hstack, rfl⟩ := exists_of_turn? h
  have hsize := size_foldl (next n) ⟨s.seen, rest⟩
  rw [hstack, List.length_cons]
  simp only at hsize
  omega

end Turn

section Run

variable {next : NodeId → List NodeId} {ids : List NodeId} {first : NodeId} {s : Search}

lemma Sound.exists_ends (hids : ∀ a, ∀ b ∈ next a, b ∈ ids) (hs : s.Sound next first) :
    ∃ k t, Ends next k s t ∧ t.Sound next first ∧ t.stack = [] ∧
      t.seen.size + s.stack.length = s.seen.size + k := by
  -- a turn takes a node from the stack, and each that it puts there is one less to find
  induction hm : s.left ids using Nat.strongRecOn generalizing s with
  | ind m ih =>
    cases h : s.turn? next with
    | none =>
      have hstack : s.stack = [] := by
        unfold turn? at h
        split at h
        case h_1 hnil => exact hnil
        case h_2 => cases h
      refine ⟨0, s, .stop h, hs, hstack, ?_⟩
      rw [hstack]
      rfl
    | some s' =>
      have hlt : s'.left ids < m := hm ▸ left_turn hids h
      obtain ⟨k, t, hends, ht, hnil, hsize⟩ := ih _ hlt (hs.turn h) rfl
      have hturn := size_turn h
      exact ⟨k + 1, t, .turn h hends, ht, hnil, by omega⟩

lemma Sound.mem_seen_iff (hs : s.Sound next first) (hnil : s.stack = []) {a : NodeId} :
    a ∈ s.seen ↔ Relation.ReflTransGen (fun m n => n ∈ next m) first a := by
  refine ⟨hs.reached a, fun h => ?_⟩
  induction h with
  | refl => exact hs.started
  | @tail b c _ hc ih =>
    have hclosed := (hs.closed b ih).resolve_left (by simp [hnil])
    exact hclosed c hc

lemma ends_reach {g : Graph} (hnext : ∀ a, ∀ b ∈ next a, b ∈ g.nodeIds) (first : NodeId) :
    Ends next (g.reach next first).size (start first) ⟨g.reach next first, []⟩ := by
  obtain ⟨k, t, hends, ht, hnil, hsize⟩ := (sound_start next first).exists_ends hnext
  have hseen : t.seen = g.reach next first :=
    Std.ExtTreeSet.ext_mem fun a => by rw [ht.mem_seen_iff hnil, mem_reach hnext]
  have hone : (start first).seen.size = 1 := Std.ExtTreeSet.size_ofList (List.pairwise_singleton _ _)
  have hk : k = (g.reach next first).size := by
    have hstack : (start first).stack.length = 1 := rfl
    rw [← hseen]
    omega
  obtain ⟨seen, stack⟩ := t
  obtain rfl : seen = g.reach next first := hseen
  obtain rfl : stack = [] := hnil
  exact hk ▸ hends

end Run

end Search

/-- In a graph that was built, a node reaches those to which paths lead along its successors, and is reached
from those to which paths lead along its predecessors; each of the two says the same of the pair of nodes.
A search with a stack finds the same nodes, and ends after one turn for each. -/
theorem Built.reach_iff_path {g : Graph} (hg : g.Built) :
    (∀ a b, b ∈ g.reachableFrom a ↔ Relation.ReflTransGen (fun m n => n ∈ g.successors m) a b) ∧
    (∀ a b, b ∈ g.reaching a ↔ Relation.ReflTransGen (fun m n => n ∈ g.predecessors m) a b) ∧
    (∀ a b, b ∈ g.reachableFrom a ↔ a ∈ g.reaching b) ∧
    (∀ a, Search.Ends g.successors (g.reachableFrom a).size (.start a) ⟨g.reachableFrom a, []⟩) ∧
    ∀ a, Search.Ends g.predecessors (g.reaching a).size (.start a) ⟨g.reaching a, []⟩ := by
  have hsuccessors (a b : NodeId) (hb : b ∈ g.successors a) : b ∈ g.nodeIds :=
    (hg.wired _ (mem_successors.mp hb)).2
  have hpredecessors (a b : NodeId) (hb : b ∈ g.predecessors a) : b ∈ g.nodeIds :=
    (hg.wired _ (mem_predecessors.mp hb)).1
  refine ⟨fun a b => mem_reach hsuccessors, fun a b => mem_reach hpredecessors, fun a b => ?_,
    Search.ends_reach hsuccessors, Search.ends_reach hpredecessors⟩
  rw [mem_reachableFrom hg.wired, mem_reaching hg.wired]
  exact Relation.reflTransGen_swap.symm

theorem orphan_reach :
    let g := session [.add ⟨"a = 1", 1⟩, .add ⟨"b = 2", 2⟩, .connect 0 1, .close]
    g.Built ∧ g.edges = [(0, 1), (1, 3), (2, 3)] ∧ 3 ∈ g.reachableFrom 2 ∧ 2 ∈ g.reaching 3 ∧
    2 ∉ g.reachableFrom 0 ∧ Search.Ends g.predecessors 4 (.start 3) ⟨g.reaching 3, []⟩ := by
  intro g
  have hg : g.Built := session_built _
  obtain ⟨hforward, -, hboth, -, hends⟩ := hg.reach_iff_path
  have hexit : 3 ∈ g.reachableFrom 2 := (hforward 2 3).mpr (.single (by decide))
  have hsize : (g.reaching 3).size = 4 := by decide
  refine ⟨hg, by decide, hexit, (hboth 2 3).mp hexit, by decide, ?_⟩
  rw [← hsize]
  exact hends 3

end GenKill.Graph
