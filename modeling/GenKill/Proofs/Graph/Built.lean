import GenKill.Graph.Basic
import Mathlib.Data.List.Basic
import Mathlib.Tactic.Common

namespace GenKill.Graph

inductive Built : Graph → Prop
  | empty : Built {}
  | statement {g h : Graph} {s : Statement} {n : NodeId} :
      Built g → g.addStatement s = .ok (h, n) → Built h
  | edge {g h : Graph} {a b : NodeId} : Built g → g.connect a b = .ok h → Built h
  | close {g : Graph} : Built g → Built g.close

lemma mem_nodeIds {g : Graph} {n : Int} : n ∈ g.nodeIds ↔ 0 ≤ n ∧ n < g.size := by
  simp only [nodeIds, List.mem_map, List.mem_range, Int.ofNat_eq_natCast]
  constructor
  · rintro ⟨k, hk, rfl⟩
    exact ⟨Int.natCast_nonneg k, Int.ofNat_lt.mpr hk⟩
  · rintro ⟨h0, hn⟩
    exact ⟨n.toNat, by omega, Int.toNat_of_nonneg h0⟩

lemma ofNat_mem_nodeIds {g : Graph} {k : ℕ} : Int.ofNat k ∈ g.nodeIds ↔ k < g.size := by
  rw [mem_nodeIds, Int.ofNat_eq_natCast]
  omega

lemma nodeIds_pairwise (g : Graph) : g.nodeIds.Pairwise fun a b : Int => a < b :=
  List.pairwise_map.mpr (List.pairwise_lt_range.imp Int.ofNat_lt.mpr)

@[simp] lemma length_nodeIds (g : Graph) : g.nodeIds.length = g.size := by
  simp [nodeIds]

lemma length_statements_lt_size (g : Graph) : g.statements.length < g.size := by
  unfold size
  split <;> omega

lemma entryId_mem_nodeIds (g : Graph) : entryId ∈ g.nodeIds :=
  ofNat_mem_nodeIds.mpr (Nat.zero_lt_of_lt g.length_statements_lt_size)

lemma exitId?_eq_some {g : Graph} {n : NodeId} :
    g.exitId? = some n ↔ g.closed = true ∧ n = Int.ofNat (g.statements.length + 1) := by
  by_cases hc : g.closed = true
  · simp only [exitId?, hc, if_true, Option.some.injEq, true_and]
    exact eq_comm
  · simp [exitId?, hc]

lemma exitId_mem_nodeIds {g : Graph} {n : NodeId} (h : g.exitId? = some n) : n ∈ g.nodeIds := by
  obtain ⟨hc, rfl⟩ := exitId?_eq_some.mp h
  apply ofNat_mem_nodeIds.mpr
  simp only [size, hc, if_true]
  omega

lemma node?_eq_statement {g : Graph} {n : NodeId} {s : Statement} :
    g.node? n = some (.statement s) ↔ ∃ k, n = Int.ofNat (k + 1) ∧ g.statements[k]? = some s := by
  constructor
  · intro h
    unfold node? at h
    split at h
    case h_1 => cases h
    case h_2 k =>
      split at h
      case h_1 t ht =>
        cases h
        exact ⟨k, rfl, ht⟩
      case h_2 => split at h <;> cases h
    case h_3 => cases h
  · rintro ⟨k, rfl, hk⟩
    simp only [node?, hk]

lemma eq_of_line_eq {g : Graph} (h : g.statements.Pairwise fun s t => s.line < t.line)
    {m n : NodeId} {s t : Statement} (hm : g.node? m = some (.statement s))
    (hn : g.node? n = some (.statement t)) (hl : s.line = t.line) : m = n := by
  obtain ⟨i, rfl, hs⟩ := node?_eq_statement.mp hm
  obtain ⟨j, rfl, ht⟩ := node?_eq_statement.mp hn
  obtain ⟨hi, rfl⟩ := List.getElem?_eq_some_iff.mp hs
  obtain ⟨hj, rfl⟩ := List.getElem?_eq_some_iff.mp ht
  rw [List.pairwise_iff_getElem] at h
  rcases Nat.lt_trichotomy i j with hij | rfl | hji
  · have := h i j hi hj hij
    omega
  · rfl
  · have := h j i hj hi hji
    omega

lemma mem_numbered {g : Graph} {n : NodeId} {s : Statement} :
    (n, s) ∈ g.numbered ↔ g.node? n = some (.statement s) := by
  rw [node?_eq_statement]
  simp only [numbered, List.mem_mapIdx, Prod.mk.injEq]
  constructor
  · rintro ⟨k, hk, rfl, rfl⟩
    exact ⟨k, rfl, List.getElem?_eq_getElem hk⟩
  · rintro ⟨k, rfl, hs⟩
    obtain ⟨hk, hs⟩ := List.getElem?_eq_some_iff.mp hs
    exact ⟨k, hk, rfl, hs⟩

lemma statement_mem_nodeIds {g : Graph} {n : NodeId} {s : Statement}
    (h : g.node? n = some (.statement s)) : n ∈ g.nodeIds := by
  obtain ⟨k, rfl, hk⟩ := node?_eq_statement.mp h
  obtain ⟨hk, -⟩ := List.getElem?_eq_some_iff.mp hk
  exact ofNat_mem_nodeIds.mpr (Nat.lt_of_le_of_lt hk g.length_statements_lt_size)

lemma statement_ne_exit {g : Graph} {n : NodeId} {s : Statement}
    (h : g.node? n = some (.statement s)) : g.exitId? ≠ some n := by
  obtain ⟨k, rfl, hk⟩ := node?_eq_statement.mp h
  obtain ⟨hk, -⟩ := List.getElem?_eq_some_iff.mp hk
  intro he
  have hkl : k + 1 = g.statements.length + 1 := Int.ofNat.inj (exitId?_eq_some.mp he).2
  omega

lemma statement_ne_entry {g : Graph} {n : NodeId} {s : Statement}
    (h : g.node? n = some (.statement s)) : n ≠ entryId := by
  obtain ⟨k, rfl, -⟩ := node?_eq_statement.mp h
  exact fun he => Nat.succ_ne_zero k (Int.ofNat.inj he)

lemma mem_nodeIds_of_node? {g : Graph} {n : NodeId} {x : Node} (h : g.node? n = some x) :
    n ∈ g.nodeIds := by
  cases x with
  | statement s => exact statement_mem_nodeIds h
  | entry =>
    unfold node? at h
    split at h
    case h_1 => exact g.entryId_mem_nodeIds
    case h_2 =>
      split at h
      case h_1 => cases h
      case h_2 => split at h <;> cases h
    case h_3 => cases h
  | exit =>
    unfold node? at h
    split at h
    case h_1 => cases h
    case h_2 k =>
      split at h
      case h_1 => cases h
      case h_2 =>
        split at h
        case isTrue he => exact exitId_mem_nodeIds he
        case isFalse => cases h
    case h_3 => cases h

def Wired (g : Graph) : Prop := ∀ e ∈ g.edges, e.1 ∈ g.nodeIds ∧ e.2 ∈ g.nodeIds

lemma nodeIds_addEdge (g : Graph) (a b : NodeId) : (g.addEdge a b).nodeIds = g.nodeIds := by
  unfold addEdge
  split <;> rfl

lemma Wired.addEdge {g : Graph} {a b : NodeId} (hg : g.Wired) (ha : a ∈ g.nodeIds)
    (hb : b ∈ g.nodeIds) : (g.addEdge a b).Wired := by
  intro e he
  rw [nodeIds_addEdge]
  rcases mem_edges_addEdge.mp he with he | rfl
  · exact hg e he
  · exact ⟨ha, hb⟩

lemma Wired.of_size_le {g h : Graph} (hg : g.Wired) (he : h.edges = g.edges)
    (hs : g.size ≤ h.size) : h.Wired := by
  have hn : ∀ n ∈ g.nodeIds, n ∈ h.nodeIds := by
    intro n hn
    rw [mem_nodeIds] at hn ⊢
    omega
  intro e hmem
  rw [he] at hmem
  exact ⟨hn _ (hg e hmem).1, hn _ (hg e hmem).2⟩

lemma Wired.addEdges {g : Graph} (hg : g.Wired) {exit : NodeId} (he : exit ∈ g.nodeIds)
    {sources : List NodeId} (hs : ∀ n ∈ sources, n ∈ g.nodeIds) :
    (sources.foldl (fun h n => h.addEdge n exit) g).Wired := by
  induction sources generalizing g with
  | nil => exact hg
  | cons n sources ih =>
    apply ih (hg.addEdge (hs n List.mem_cons_self) he)
    · rwa [nodeIds_addEdge]
    · intro m hm
      rw [nodeIds_addEdge]
      exact hs m (List.mem_cons_of_mem n hm)

lemma Wired.close {g : Graph} (hg : g.Wired) : g.close.Wired := by
  unfold Graph.close
  split
  case isTrue => exact hg
  case isFalse hc =>
    let closed : Graph := { g with closed := true }
    have hs : g.size ≤ closed.size := by simp [closed, size, hc]
    have hexit : Int.ofNat (g.statements.length + 1) ∈ closed.nodeIds :=
      exitId_mem_nodeIds (exitId?_eq_some.mpr ⟨rfl, rfl⟩)
    have hw : closed.Wired := hg.of_size_le rfl hs
    refine hw.addEdges hexit ?_
    intro n hn
    have hn : n ∈ g.nodeIds := (List.mem_filter.mp hn).1
    rw [mem_nodeIds] at hn ⊢
    omega

lemma Built.wired {g : Graph} (hg : g.Built) : g.Wired := by
  induction hg with
  | empty => exact fun e he => absurd he List.not_mem_nil
  | @statement g h s n _ heq ih =>
    unfold addStatement at heq
    split at heq
    case isTrue => cases heq
    case isFalse hc =>
      cases heq
      exact ih.of_size_le rfl (by simp [size, push, hc])
  | @edge g h a b _ heq ih =>
    unfold connect at heq
    split at heq
    case isTrue => cases heq
    case isFalse ha =>
      split at heq
      case isTrue => cases heq
      case isFalse hb =>
        cases heq
        obtain ⟨x, hx⟩ := Option.ne_none_iff_exists'.mp (mt Option.isNone_iff_eq_none.mpr ha)
        obtain ⟨y, hy⟩ := Option.ne_none_iff_exists'.mp (mt Option.isNone_iff_eq_none.mpr hb)
        exact ih.addEdge (mem_nodeIds_of_node? hx) (mem_nodeIds_of_node? hy)
  | close _ ih => exact ih.close

lemma Built.statements {g : Graph} (hg : g.Built) (ho : g.closed = false) (ss : List Statement) :
    Built { g with statements := g.statements ++ ss } := by
  induction ss generalizing g with
  | nil => simpa using hg
  | cons s ss ih =>
    have hadd : g.addStatement s = .ok (g.push s, Int.ofNat (g.statements.length + 1)) := by
      simp [addStatement, ho]
    simpa [push] using ih (hg.statement hadd) ho

lemma Built.edges {g h : Graph} (hg : g.Built) (edges : List (NodeId × NodeId))
    (he : edges.foldlM (fun g e => g.connect e.1 e.2) g = .ok h) : h.Built := by
  induction edges generalizing g with
  | nil =>
    cases he
    exact hg
  | cons e edges ih =>
    rw [List.foldlM_cons] at he
    cases hc : g.connect e.1 e.2 with
    | error err =>
      rw [hc] at he
      cases he
    | ok k =>
      rw [hc] at he
      exact ih (hg.edge hc) he

def counting : Graph where
  statements := [⟨"x = 1", 1⟩, ⟨"x = x + 1", 2⟩]
  closed := true
  edges := [(0, 1), (1, 2), (2, 2), (2, 3)]

lemma counting_built : counting.Built := by
  have hopen : Built { statements := counting.statements, edges := [(0, 1), (1, 2), (2, 2)] } :=
    (Built.empty.statements rfl counting.statements).edges [(0, 1), (1, 2), (2, 2)] rfl
  exact hopen.close.edges [(2, 3)] rfl

end GenKill.Graph
