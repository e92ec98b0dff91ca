import GenKill.Proofs.Graph.Built
import Mathlib.Logic.Equiv.Basic

namespace GenKill.Graph

lemma node?_eq_entry {g : Graph} {n : NodeId} : g.node? n = some .entry ↔ n = entryId := by
  constructor
  · intro h
    unfold node? at h
    split at h
    case h_1 => rfl
    case h_2 =>
      split at h
      case h_1 => cases h
      case h_2 => split at h <;> cases h
    case h_3 => cases h
  · rintro rfl
    rfl

lemma node?_eq_exit {g : Graph} {n : NodeId} : g.node? n = some .exit ↔ g.exitId? = some n := by
  constructor
  · intro h
    unfold node? at h
    split at h
    case h_1 => cases h
    case h_2 =>
      split at h
      case h_1 => cases h
      case h_2 =>
        split at h
        case isTrue he => exact he
        case isFalse => cases h
    case h_3 => cases h
  · intro h
    obtain ⟨-, rfl⟩ := exitId?_eq_some.mp h
    simp only [node?, List.getElem?_length, h, if_true]

lemma mem_nodeIds_iff_node? {g : Graph} {n : NodeId} : n ∈ g.nodeIds ↔ ∃ x, g.node? n = some x := by
  refine ⟨fun hn => ?_, fun ⟨x, hx⟩ => mem_nodeIds_of_node? hx⟩
  obtain ⟨k, hk, rfl⟩ := List.mem_map.mp hn
  rw [List.mem_range] at hk
  cases k with
  | zero => exact ⟨.entry, rfl⟩
  | succ k =>
    cases hs : g.statements[k]? with
    | some s => exact ⟨.statement s, node?_eq_statement.mpr ⟨k, rfl, hs⟩⟩
    | none =>
      have hlen := List.getElem?_eq_none_iff.mp hs
      refine ⟨.exit, node?_eq_exit.mpr (exitId?_eq_some.mpr ?_)⟩
      unfold size at hk
      split at hk
      case isTrue hc =>
        obtain rfl : k = g.statements.length := by omega
        exact ⟨hc, rfl⟩
      case isFalse => omega

structure Renumbering (g g' : Graph) (facts facts' : FactTable) (π : NodeId ≃ NodeId) : Prop where
  node : ∀ n, g'.node? (π n) = g.node? n
  edge : ∀ m n, (π m, π n) ∈ g'.edges ↔ (m, n) ∈ g.edges
  fact : ∀ n, facts'.fact (π n) = facts.fact n

namespace Renumbering

variable {g g' : Graph} {facts facts' : FactTable} {π : NodeId ≃ NodeId}

lemma mem_nodeIds (h : Renumbering g g' facts facts' π) (n : NodeId) :
    π n ∈ g'.nodeIds ↔ n ∈ g.nodeIds := by
  rw [mem_nodeIds_iff_node?, mem_nodeIds_iff_node?, h.node]

lemma entry (h : Renumbering g g' facts facts' π) (n : NodeId) : π n = entryId ↔ n = entryId := by
  rw [← node?_eq_entry (g := g'), h.node, node?_eq_entry]

lemma exit (h : Renumbering g g' facts facts' π) (n : NodeId) :
    g'.exitId? = some (π n) ↔ g.exitId? = some n := by
  rw [← node?_eq_exit, h.node, node?_eq_exit]

lemma closed (h : Renumbering g g' facts facts' π) (hc : g.closed = true) : g'.closed = true := by
  have hexit := exitId?_eq_some.mpr ⟨hc, rfl⟩
  exact (exitId?_eq_some.mp ((h.exit _).mpr hexit)).1

end Renumbering

lemma renumbering_swap (s t : Statement) (closed : Bool) (edges : List (NodeId × NodeId))
    (f f' : Fact) :
    Renumbering ⟨[s, t], closed, edges⟩
      ⟨[t, s], closed, edges.map fun e => (Equiv.swap 1 2 e.1, Equiv.swap 1 2 e.2)⟩
      ⟨[(1, f), (2, f')]⟩ ⟨[(1, f'), (2, f)]⟩ (Equiv.swap 1 2) where
  node := by
    intro n
    by_cases h1 : n = 1
    · rw [h1, Equiv.swap_apply_left]
      rfl
    by_cases h2 : n = 2
    · rw [h2, Equiv.swap_apply_right]
      rfl
    rw [Equiv.swap_apply_of_ne_of_ne h1 h2]
    match n with
    | .ofNat 0 => rfl
    | .ofNat 1 => exact absurd rfl h1
    | .ofNat 2 => exact absurd rfl h2
    | .ofNat (k + 3) => rfl
    | .negSucc k => rfl
  edge := by
    intro m n
    simp
  fact := by
    intro n
    by_cases h1 : n = 1
    · rw [h1, Equiv.swap_apply_left]
      rfl
    by_cases h2 : n = 2
    · rw [h2, Equiv.swap_apply_right]
      rfl
    rw [Equiv.swap_apply_of_ne_of_ne h1 h2]
    simp [FactTable.fact, OrderedMap.get?, OrderedMap.find, Ne.symm h1, Ne.symm h2]

end GenKill.Graph
