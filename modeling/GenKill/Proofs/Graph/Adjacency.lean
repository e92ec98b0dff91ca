import GenKill.Proofs.Graph.Session

namespace GenKill.Graph

structure Adjacency where
  nodes : List Node := [.entry]
  successors : NodeId → List NodeId := fun _ => []
  predecessors : NodeId → List NodeId := fun _ => []

namespace Adjacency

def enter (table : NodeId → List NodeId) (n m : NodeId) : NodeId → List NodeId :=
  if m ∈ table n then table else Function.update table n (table n ++ [m])

def join (x : Adjacency) (a b : NodeId) : Adjacency :=
  { x with successors := enter x.successors a b, predecessors := enter x.predecessors b a }

def ids (x : Adjacency) : List NodeId := (List.range x.nodes.length).map Int.ofNat

def step (x : Adjacency) : Command → Adjacency
  | .add s => if .exit ∈ x.nodes then x else { x with nodes := x.nodes ++ [.statement s] }
  | .connect a b => if a ∈ x.ids ∧ b ∈ x.ids then x.join a b else x
  | .close =>
    if .exit ∈ x.nodes then x
    else
      let dangling := x.ids.filter fun n => (x.successors n).isEmpty
      dangling.foldl (fun y n => y.join n (Int.ofNat x.nodes.length))
        { x with nodes := x.nodes ++ [.exit] }

end Adjacency

def adjacency (g : Graph) : Adjacency := ⟨g.nodes, g.successors, g.predecessors⟩

section Adjacency

variable (g : Graph)

lemma successors_addEdge (a b : NodeId) :
    (g.addEdge a b).successors = Adjacency.enter g.successors a b := by
  by_cases h : (a, b) ∈ g.edges
  · simp [addEdge, Adjacency.enter, mem_successors, h]
  · simp only [addEdge, Adjacency.enter, mem_successors, h, if_false]
    funext n
    by_cases hn : n = a
    · simp [successors, hn]
    · simp [successors, hn, Ne.symm hn]

lemma predecessors_addEdge (a b : NodeId) :
    (g.addEdge a b).predecessors = Adjacency.enter g.predecessors b a := by
  by_cases h : (a, b) ∈ g.edges
  · simp [addEdge, Adjacency.enter, mem_predecessors, h]
  · simp only [addEdge, Adjacency.enter, mem_predecessors, h, if_false]
    funext n
    by_cases hn : n = b
    · simp [predecessors, hn]
    · simp [predecessors, hn, Ne.symm hn]

lemma adjacency_addEdge (a b : NodeId) :
    (g.addEdge a b).adjacency = g.adjacency.join a b := by
  simp only [adjacency, Adjacency.join, nodes_addEdge, successors_addEdge, predecessors_addEdge]

lemma adjacency_addEdges (exit : NodeId) (sources : List NodeId) :
    (sources.foldl (fun h n => h.addEdge n exit) g).adjacency =
      sources.foldl (fun x n => x.join n exit) g.adjacency :=
  (List.foldl_hom adjacency fun h n => (adjacency_addEdge h n exit).symm).symm

lemma ids_adjacency : g.adjacency.ids = g.nodeIds := by
  simp only [Adjacency.ids, adjacency, length_nodes, nodeIds]

lemma adjacency_step (c : Command) : (g.step c).adjacency = g.adjacency.step c := by
  have hexit : .exit ∈ g.adjacency.nodes ↔ g.closed = true := exit_mem_nodes
  cases c with
  | add s =>
    rw [step_add]
    simp only [Adjacency.step, hexit]
    split
    case isTrue => rfl
    case isFalse hc =>
      simp only [adjacency, nodes_push (eq_false_of_ne_true hc)]
      rfl
  | connect a b =>
    rw [step_connect]
    simp only [Adjacency.step, ids_adjacency]
    split
    · exact adjacency_addEdge g a b
    · rfl
  | close =>
    simp only [step_close, close, Adjacency.step, hexit]
    split
    case isTrue => rfl
    case isFalse hc =>
      have hlen : g.adjacency.nodes.length = g.statements.length + 1 := by
        simp [adjacency, length_nodes, size, hc]
      have hnodes : ({ g with closed := true } : Graph).nodes = g.nodes ++ [.exit] := by
        simp [nodes, hc]
      simp only [ids_adjacency, hlen, adjacency_addEdges]
      simp only [adjacency, hnodes]
      rfl

lemma adjacency_session (cs : List Command) :
    (session cs).adjacency = cs.foldl Adjacency.step {} :=
  (List.foldl_hom adjacency fun g c => (adjacency_step g c).symm).symm

end Adjacency

structure Coherent (g : Graph) : Prop where
  ids : g.nodeIds = (List.range g.nodes.length).map Int.ofNat
  node : ∀ n : Int, g.node? n = if 0 ≤ n then g.nodes[n.toNat]? else none
  entry : ∀ n, g.node? n = some .entry ↔ n = entryId
  exit : ∀ m n, g.node? m = some .exit → g.node? n = some .exit → m = n
  mirror : ∀ a b, b ∈ g.successors a ↔ a ∈ g.predecessors b
  successors : ∀ n, (g.successors n).Nodup
  predecessors : ∀ n, (g.predecessors n).Nodup
  next : g.closed = false → ∀ s, ∃ h, g.addStatement s = .ok (h, Int.ofNat g.nodes.length) ∧
    h.nodes = g.nodes ++ [.statement s]

structure Finished (g : Graph) : Prop where
  exit : g.nodes.getLast? = some .exit
  successors : ∀ n ∈ g.nodeIds, g.node? n ≠ some .exit → g.successors n ≠ []
  add : ∀ s, g.perform (.add s) = .error .closed ∧ g.step (.add s) = g
  close : g.step .close = g

lemma session_finished {cs : List Command} (h : .close ∈ cs) : (session cs).Finished := by
  have hc := closed_session.mpr h
  refine ⟨?_, ?_, ?_, ?_⟩
  · simp [nodes, hc, List.getLast?_cons]
  · intro n hn hexit
    rw [Ne, node?_eq_exit] at hexit
    obtain ⟨b, hb⟩ := flowing_session cs hc n hn hexit
    exact List.ne_nil_of_mem (mem_successors.mpr hb)
  · intro s
    exact ⟨by simp [perform, addStatement, hc, Except.map], by rw [step_add, if_pos hc]⟩
  · simp [step_close, Graph.close, hc]

/-- After any commands a graph is coherent, and finished as soon as it was closed. It holds what two
tables would, each with a search of its own for edges that are there already. -/
theorem session_coherent (cs : List Command) :
    (session cs).Coherent ∧ (.close ∈ cs → (session cs).Finished) ∧
      (session cs).adjacency = cs.foldl Adjacency.step {} := by
  refine ⟨⟨?_, ?_, ?_, ?_, ?_, ?_, ?_, ?_⟩, session_finished, adjacency_session cs⟩
  · rw [length_nodes, nodeIds]
  · exact node?_eq _
  · exact fun n => node?_eq_entry
  · intro m n hm hn
    rw [node?_eq_exit] at hm hn
    exact Option.some.inj (hm.symm.trans hn)
  · intro a b
    rw [mem_successors, mem_predecessors]
  · exact nodup_successors (nodup_session cs)
  · exact nodup_predecessors (nodup_session cs)
  · intro ho s
    refine ⟨_, ?_, nodes_push ho s⟩
    simp [addStatement, length_nodes, size, ho]

end GenKill.Graph
