import GenKill.Proofs.Graph.Chain
import GenKill.Proofs.Graph.Renumbering
import Mathlib.Data.List.Nodup

namespace GenKill.Graph

inductive Command where
  | add (s : Statement)
  | connect (a b : NodeId)
  | close

def perform (g : Graph) : Command → Except Error Graph
  | .add s => (g.addStatement s).map (·.1)
  | .connect a b => g.connect a b
  | .close => .ok g.close

def step (g : Graph) (c : Command) : Graph := (g.perform c).toOption.getD g

def session (cs : List Command) : Graph := cs.foldl step {}

section Steps

variable (g : Graph)

lemma step_add (s : Statement) : g.step (.add s) = if g.closed then g else g.push s := by
  cases hc : g.closed <;> simp [step, perform, addStatement, hc, Except.map, Except.toOption]

lemma isNone_node? {n : NodeId} : (g.node? n).isNone = true ↔ n ∉ g.nodeIds := by
  rw [mem_nodeIds_iff_node?, ← Option.isSome_iff_exists, Bool.not_eq_true, Option.isSome_eq_false_iff]

lemma step_connect (a b : NodeId) :
    g.step (.connect a b) = if a ∈ g.nodeIds ∧ b ∈ g.nodeIds then g.addEdge a b else g := by
  simp only [step, perform, connect, isNone_node?]
  by_cases ha : a ∈ g.nodeIds
  · by_cases hb : b ∈ g.nodeIds <;> simp [ha, hb, Except.toOption]
  · simp [ha, Except.toOption]

lemma step_close : g.step .close = g.close := rfl

end Steps

lemma session_concat (cs : List Command) (c : Command) :
    session (cs ++ [c]) = (session cs).step c := by
  simp [session]

lemma session_induction {P : Graph → Prop} (hempty : P {}) (hstep : ∀ g c, P g → P (g.step c))
    (cs : List Command) : P (session cs) := by
  induction cs using List.reverseRecOn with
  | nil => exact hempty
  | append_singleton cs c ih =>
    rw [session_concat]
    exact hstep _ c ih

lemma Built.step {g : Graph} (hg : g.Built) (c : Command) : (g.step c).Built := by
  cases h : g.perform c with
  | error e => simpa [Graph.step, h, Except.toOption] using hg
  | ok k =>
    have hk : g.step c = k := by simp [Graph.step, h, Except.toOption]
    rw [hk]
    cases c with
    | add s =>
      cases hadd : g.addStatement s with
      | error e => simp [perform, hadd, Except.map] at h
      | ok p =>
        obtain rfl : p.1 = k := by simpa [perform, hadd, Except.map] using h
        exact hg.statement hadd
    | connect a b => exact hg.edge h
    | close =>
      cases h
      exact hg.close

lemma session_built (cs : List Command) : (session cs).Built :=
  session_induction .empty (fun _ c hg => hg.step c) cs

section Nodes

variable {g : Graph}

def nodes (g : Graph) : List Node :=
  .entry :: (g.statements.map .statement ++ if g.closed then [.exit] else [])

lemma length_nodes (g : Graph) : g.nodes.length = g.size := by
  cases hc : g.closed <;> simp [nodes, size, hc]

lemma node?_ofNat (g : Graph) (k : ℕ) : g.node? (Int.ofNat k) = g.nodes[k]? := by
  cases k with
  | zero => rfl
  | succ k =>
    rw [nodes, List.getElem?_cons_succ]
    cases hs : g.statements[k]? with
    | some s =>
      obtain ⟨hk, -⟩ := List.getElem?_eq_some_iff.mp hs
      rw [node?_eq_statement.mpr ⟨k, rfl, hs⟩, List.getElem?_append_left (by simpa using hk),
        List.getElem?_map, hs, Option.map_some]
    | none =>
      have hk : g.statements.length ≤ k := List.getElem?_eq_none_iff.mp hs
      rw [List.getElem?_append_right (by simpa using hk), List.length_map]
      simp only [node?, hs, exitId?_eq_some]
      cases hc : g.closed with
      | false => simp
      | true =>
        by_cases hlast : k = g.statements.length
        · simp [hlast]
        · have hid : ¬ Int.ofNat (k + 1) = Int.ofNat (g.statements.length + 1) :=
            fun h => hlast (Nat.succ.inj (Int.ofNat.inj h))
          rw [if_neg (fun h => hid h.2), if_pos rfl, List.getElem?_eq_none]
          rw [List.length_singleton]
          omega

lemma node?_eq (g : Graph) (n : Int) :
    g.node? n = if 0 ≤ n then g.nodes[n.toNat]? else none := by
  cases n with
  | ofNat k => simpa using g.node?_ofNat k
  | negSucc k => rfl

lemma map_node?_nodeIds (g : Graph) : g.nodeIds.map g.node? = g.nodes.map some := by
  rw [nodeIds, List.map_map, ← length_nodes]
  apply List.ext_getElem
  · simp
  · intro k hk _
    simp only [List.getElem_map, List.getElem_range, Function.comp_apply, node?_ofNat]
    exact List.getElem?_eq_getElem (by simpa using hk)

lemma exit_mem_nodes : .exit ∈ g.nodes ↔ g.closed = true := by
  cases hc : g.closed <;> simp [nodes, hc]

lemma nodes_push (ho : g.closed = false) (s : Statement) :
    (g.push s).nodes = g.nodes ++ [.statement s] := by
  simp [nodes, push, ho]

lemma nodes_addEdge (g : Graph) (a b : NodeId) : (g.addEdge a b).nodes = g.nodes := by
  simp only [nodes, statements_addEdge, closed_addEdge]

end Nodes

section Edges

variable {g : Graph}

lemma nodup_addEdge (h : g.edges.Nodup) (a b : NodeId) : (g.addEdge a b).edges.Nodup := by
  by_cases hab : (a, b) ∈ g.edges
  · simpa [addEdge, hab] using h
  · simpa [addEdge, hab] using h.concat hab

lemma nodup_addEdges (h : g.edges.Nodup) (exit : NodeId) (sources : List NodeId) :
    (sources.foldl (fun k n => k.addEdge n exit) g).edges.Nodup := by
  induction sources generalizing g with
  | nil => exact h
  | cons n sources ih => exact ih (nodup_addEdge h n exit)

lemma nodup_step (h : g.edges.Nodup) (c : Command) : (g.step c).edges.Nodup := by
  cases c with
  | add s =>
    rw [step_add]
    split
    · exact h
    · exact h
  | connect a b =>
    rw [step_connect]
    split
    · exact nodup_addEdge h a b
    · exact h
  | close =>
    rw [step_close, close]
    split
    · exact h
    · exact nodup_addEdges (g := { g with closed := true }) h _ _

lemma nodup_session (cs : List Command) : (session cs).edges.Nodup :=
  session_induction (P := fun g => g.edges.Nodup) List.nodup_nil (fun _ c h => nodup_step h c) cs

lemma nodup_successors (h : g.edges.Nodup) (n : NodeId) : (g.successors n).Nodup := by
  apply (h.filter _).map_on
  intro e he e' he' hsnd
  simp only [List.mem_filter, beq_iff_eq] at he he'
  exact Prod.ext (he.2.trans he'.2.symm) hsnd

lemma nodup_predecessors (h : g.edges.Nodup) (n : NodeId) : (g.predecessors n).Nodup := by
  apply (h.filter _).map_on
  intro e he e' he' hfst
  simp only [List.mem_filter, beq_iff_eq] at he he'
  exact Prod.ext hfst (he.2.trans he'.2.symm)

lemma closed_step (g : Graph) (c : Command) :
    (g.step c).closed = true ↔ g.closed = true ∨ c = .close := by
  cases c with
  | add s =>
    rw [step_add]
    cases hc : g.closed <;> simp [push, hc]
  | connect a b =>
    rw [step_connect]
    split
    · simp [closed_addEdge]
    · simp
  | close => simp [step_close, closed_close]

lemma closed_session {cs : List Command} : (session cs).closed = true ↔ .close ∈ cs := by
  induction cs using List.reverseRecOn with
  | nil => simp [session]
  | append_singleton cs c ih =>
    rw [session_concat, closed_step, ih, List.mem_append, List.mem_singleton, eq_comm (a := c)]

def Flowing (g : Graph) : Prop := ∀ n ∈ g.nodeIds, g.exitId? ≠ some n → ∃ b, (n, b) ∈ g.edges

lemma flowing_close (ho : g.closed = false) : g.close.Flowing := by
  intro (n : Int) hn hexit
  have hlast : ¬ n = g.statements.length + 1 := by
    intro h
    exact hexit (exitId?_eq_some.mpr ⟨g.closed_close, by rw [statements_close]; exact h⟩)
  have hbelow : n ∈ g.nodeIds := by
    simp only [mem_nodeIds, size, closed_close, statements_close, ho, if_true, Bool.false_eq_true,
      if_false] at hn ⊢
    omega
  by_cases hb : ∃ b, (n, b) ∈ g.edges
  · obtain ⟨b, hb⟩ := hb
    exact ⟨b, (mem_edges_close ho).mpr (Or.inl hb)⟩
  · exact ⟨_, (mem_edges_close ho).mpr (Or.inr ⟨⟨hbelow, not_exists.mp hb⟩, rfl⟩)⟩

lemma flowing_step (h : g.closed = true → g.Flowing) (c : Command)
    (hc : (g.step c).closed = true) : (g.step c).Flowing := by
  cases c with
  | add s =>
    rw [step_add] at hc ⊢
    split at hc
    case isTrue hclosed =>
      rw [if_pos hclosed]
      exact h hclosed
    case isFalse hopen => exact absurd hc hopen
  | connect a b =>
    rw [step_connect] at hc ⊢
    split at hc
    case isTrue hab =>
      rw [if_pos hab]
      rw [closed_addEdge] at hc
      intro n hn hexit
      rw [nodeIds_addEdge] at hn
      rw [exitId?, closed_addEdge, statements_addEdge] at hexit
      obtain ⟨b', hb'⟩ := h hc n hn hexit
      exact ⟨b', mem_edges_addEdge.mpr (Or.inl hb')⟩
    case isFalse hab =>
      rw [if_neg hab]
      exact h hc
  | close =>
    rw [step_close]
    cases ho : g.closed with
    | true => simpa [close, ho] using h ho
    | false => exact flowing_close ho

lemma flowing_session (cs : List Command) : (session cs).closed = true → (session cs).Flowing :=
  session_induction (P := fun g => g.closed = true → g.Flowing) (fun h => by cases h)
    (fun _ c h => flowing_step h c) cs

end Edges

end GenKill.Graph
