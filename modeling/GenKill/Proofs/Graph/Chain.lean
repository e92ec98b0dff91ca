import GenKill.Graph.Source
import GenKill.Proofs.Graph.Built
import Mathlib.Data.List.Induction

namespace GenKill

namespace Graph

lemma mem_edges_addEdges {g : Graph} {exit : NodeId} {sources : List NodeId}
    {e : NodeId × NodeId} : e ∈ (sources.foldl (fun h n => h.addEdge n exit) g).edges ↔
      e ∈ g.edges ∨ e.1 ∈ sources ∧ e.2 = exit := by
  induction sources generalizing g with
  | nil => simp
  | cons n sources ih =>
    rw [List.foldl_cons, ih, mem_edges_addEdge, List.mem_cons, Prod.ext_iff]
    tauto

lemma statements_addEdge (g : Graph) (a b : NodeId) :
    (g.addEdge a b).statements = g.statements := by
  unfold addEdge
  split <;> rfl

lemma closed_addEdge (g : Graph) (a b : NodeId) : (g.addEdge a b).closed = g.closed := by
  unfold addEdge
  split <;> rfl

lemma statements_addEdges (g : Graph) (exit : NodeId) (sources : List NodeId) :
    (sources.foldl (fun h n => h.addEdge n exit) g).statements = g.statements := by
  induction sources generalizing g with
  | nil => rfl
  | cons n sources ih => rw [List.foldl_cons, ih, statements_addEdge]

lemma closed_addEdges (g : Graph) (exit : NodeId) (sources : List NodeId) :
    (sources.foldl (fun h n => h.addEdge n exit) g).closed = g.closed := by
  induction sources generalizing g with
  | nil => rfl
  | cons n sources ih => rw [List.foldl_cons, ih, closed_addEdge]

lemma statements_close (g : Graph) : g.close.statements = g.statements := by
  unfold close
  split
  · rfl
  · rw [statements_addEdges]

lemma closed_close (g : Graph) : g.close.closed = true := by
  unfold close
  split
  · assumption
  · rw [closed_addEdges]

lemma mem_edges_close {g : Graph} (hopen : g.closed = false) {a b : Int} :
    (a, b) ∈ g.close.edges ↔ (a, b) ∈ g.edges ∨
      (a ∈ g.nodeIds ∧ ∀ c, (a, c) ∉ g.edges) ∧ b = g.statements.length + 1 := by
  have hdangling : a ∈ g.dangling ↔ a ∈ g.nodeIds ∧ ∀ c, (a, c) ∉ g.edges := by
    simp only [dangling, List.mem_filter, List.isEmpty_iff, List.eq_nil_iff_forall_not_mem,
      mem_successors]
  simp only [close, hopen, Bool.false_eq_true, if_false, mem_edges_addEdges, hdangling]
  rfl

def chainEdges (n : ℕ) : List (NodeId × NodeId) :=
  (List.range n).map fun k => (Int.ofNat k, Int.ofNat (k + 1))

lemma chainEdges_succ (n : ℕ) :
    chainEdges (n + 1) = chainEdges n ++ [(Int.ofNat n, Int.ofNat (n + 1))] := by
  rw [chainEdges, List.range_succ, List.map_append, chainEdges]
  rfl

lemma mem_chainEdges {n : ℕ} {a b : Int} :
    (a, b) ∈ chainEdges n ↔ 0 ≤ a ∧ a < n ∧ b = a + 1 := by
  simp only [chainEdges, List.mem_map, List.mem_range, Prod.mk.injEq, Int.ofNat_eq_natCast]
  constructor
  · rintro ⟨k, hk, rfl, rfl⟩
    omega
  · rintro ⟨h0, hlt, rfl⟩
    obtain ⟨k, rfl⟩ := Int.eq_ofNat_of_zero_le h0
    exact ⟨k, by omega, rfl, rfl⟩

lemma edges_addEdge_chain {g : Graph} {n : ℕ} (h : g.edges = chainEdges n) :
    (g.addEdge (Int.ofNat n) (Int.ofNat (n + 1))).edges = chainEdges (n + 1) := by
  have hnew : (Int.ofNat n, Int.ofNat (n + 1)) ∉ g.edges := by
    rw [h, mem_chainEdges, Int.ofNat_eq_natCast]
    omega
  rw [addEdge, if_neg hnew, chainEdges_succ, ← h]

lemma foldl_extend (ss : List Statement) :
    (ss.foldl extend ({}, entryId)).1.statements = ss ∧
    (ss.foldl extend ({}, entryId)).1.closed = false ∧
    (ss.foldl extend ({}, entryId)).2 = Int.ofNat ss.length ∧
    (ss.foldl extend ({}, entryId)).1.edges = chainEdges ss.length := by
  induction ss using List.reverseRecOn with
  | nil => exact ⟨rfl, rfl, rfl, rfl⟩
  | append_singleton ss s ih =>
    obtain ⟨hstatements, hopen, hlast, hedges⟩ := ih
    rw [List.foldl_append, List.foldl_cons, List.foldl_nil]
    simp only [extend, statements_addEdge, closed_addEdge, push, hstatements, hopen, hlast,
      List.length_append, List.length_singleton, true_and]
    exact edges_addEdge_chain hedges

lemma dangling_chain {g : Graph} (hopen : g.closed = false)
    (hedges : g.edges = chainEdges g.statements.length) :
    g.dangling = [Int.ofNat g.statements.length] := by
  have hids : g.nodeIds = (List.range g.statements.length).map Int.ofNat ++
      [Int.ofNat g.statements.length] := by
    rw [nodeIds, size, hopen, if_neg Bool.false_ne_true, List.range_succ, List.map_append]
    rfl
  have hbefore : ∀ n ∈ (List.range g.statements.length).map Int.ofNat,
      ¬ (g.successors n).isEmpty = true := by
    intro n hn hnil
    obtain ⟨k, hk, rfl⟩ := List.mem_map.mp hn
    have hnext : Int.ofNat (k + 1) ∈ g.successors (Int.ofNat k) := by
      rw [mem_successors, hedges]
      exact List.mem_map.mpr ⟨k, hk, rfl⟩
    rw [List.isEmpty_iff.mp hnil] at hnext
    cases hnext
  have hlast : (g.successors (Int.ofNat g.statements.length)).isEmpty = true := by
    rw [List.isEmpty_iff, List.eq_nil_iff_forall_not_mem]
    intro b hb
    rw [mem_successors, hedges, mem_chainEdges, Int.ofNat_eq_natCast] at hb
    omega
  rw [dangling, hids, List.filter_append, List.filter_eq_nil_iff.mpr hbefore, List.nil_append,
    List.filter_singleton, hlast, cond_true]

lemma statements_ofStatements (ss : List Statement) : (ofStatements ss).statements = ss := by
  rw [ofStatements, statements_close, (foldl_extend ss).1]

lemma closed_ofStatements (ss : List Statement) : (ofStatements ss).closed = true :=
  closed_close _

lemma edges_ofStatements (ss : List Statement) :
    (ofStatements ss).edges = chainEdges (ss.length + 1) := by
  obtain ⟨hstatements, hopen, -, hedges⟩ := foldl_extend ss
  have hdangling := dangling_chain hopen (by rw [hedges, hstatements])
  rw [ofStatements, close, hopen, if_neg Bool.false_ne_true, hdangling, hstatements]
  exact edges_addEdge_chain hedges

lemma mem_edges_ofStatements {ss : List Statement} {a b : Int} :
    (a, b) ∈ (ofStatements ss).edges ↔ 0 ≤ a ∧ a ≤ ss.length ∧ b = a + 1 := by
  rw [edges_ofStatements, mem_chainEdges]
  omega

lemma mem_nodeIds_ofStatements {ss : List Statement} {n : Int} :
    n ∈ (ofStatements ss).nodeIds ↔ 0 ≤ n ∧ n ≤ ss.length + 1 := by
  rw [mem_nodeIds, size, statements_ofStatements, closed_ofStatements]
  simp only [if_true]
  omega

lemma wired_ofStatements (ss : List Statement) : (ofStatements ss).Wired := by
  rintro ⟨a, b⟩ he
  rw [mem_edges_ofStatements] at he
  rw [mem_nodeIds_ofStatements, mem_nodeIds_ofStatements]
  omega

end Graph

namespace Source

open Text

def commentBehind (inComment : Bool) (raw : List Char) : Bool :=
  let line := trim raw
  if line.isEmpty then inComment
  else (inComment || commentStart.isPrefixOf line) && !isInfix commentEnd line

def lineText? (p : Profile) (inComment : Bool) (raw : List Char) : Option (List Char) :=
  let line := trim raw
  if line.isEmpty || inComment || commentStart.isPrefixOf line then none else statementText? p line

lemma statementsFrom_cons (p : Profile) (inComment : Bool) (n : ℕ) (raw : List Char)
    (rest : List (List Char)) :
    statementsFrom p inComment n (raw :: rest) =
      ((lineText? p inComment raw).toList.map fun text => ⟨String.ofList text, n⟩) ++
        statementsFrom p (commentBehind inComment raw) (n + 1) rest := by
  simp only [statementsFrom, lineText?, commentBehind]
  by_cases hblank : (trim raw).isEmpty = true
  · simp [hblank]
  · by_cases hcomment : (inComment || commentStart.isPrefixOf (trim raw)) = true
    · simp [hblank, hcomment]
    · rw [Bool.not_eq_true] at hblank hcomment
      simp only [hblank, hcomment, Bool.false_or, Bool.false_and, Bool.false_eq_true, if_false]
      cases statementText? p (trim raw) <;> rfl

lemma statementsFrom_lines (p : Profile) (inComment : Bool) (n : ℕ) (lines : List (List Char)) :
    (statementsFrom p inComment n lines).Pairwise (fun s t => s.line < t.line) ∧
      ∀ s ∈ statementsFrom p inComment n lines, n ≤ s.line := by
  induction lines generalizing inComment n with
  | nil => simp [statementsFrom]
  | cons raw rest ih =>
    obtain ⟨hsorted, hle⟩ := ih (commentBehind inComment raw) (n + 1)
    rw [statementsFrom_cons]
    cases lineText? p inComment raw with
    | none => exact ⟨hsorted, fun s hs => Int.le_trans (by omega) (hle s hs)⟩
    | some text =>
      constructor
      · refine List.pairwise_cons.mpr ⟨fun s hs => ?_, hsorted⟩
        exact Int.lt_of_lt_of_le (Int.ofNat_lt.mpr n.lt_succ_self) (hle s hs)
      · intro s hs
        rcases List.mem_cons.mp hs with rfl | hs
        · exact Int.le_refl _
        · exact Int.le_trans (by omega) (hle s hs)

lemma statements_pairwise (p : Profile) (source : String) :
    (statements p source).Pairwise fun s t => s.line < t.line :=
  (statementsFrom_lines p false 1 _).1

end Source

end GenKill
