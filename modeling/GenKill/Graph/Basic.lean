import GenKill.Fact.Basic
import GenKill.Value.Basic
import Std.Data.ExtTreeSet

/-!
Control-flow graphs over statements. The entry is node `0`, the statements are numbered from `1` in
program order, and a closed graph has an exit as its last node.
-/

namespace GenKill

structure Statement where
  text : String
  line : Int
  deriving DecidableEq, Repr

inductive Node where
  | entry
  | exit
  | statement (s : Statement)
  deriving DecidableEq, Repr

namespace Node

def isSentinel : Node → Bool
  | statement _ => false
  | _ => true

def kindLabel : Node → String
  | entry => "entry"
  | exit => "exit"
  | statement _ => "statement"

def line : Node → Int
  | statement s => s.line
  | _ => 0

def text : Node → String
  | entry => "ENTRY"
  | exit => "EXIT"
  | statement s => s.text

def describe : Node → Except Value.Misuse String
  | statement s => do return s!"L{← (Value.int s.line).written}: {s.text}"
  | n => .ok n.text

end Node

structure Graph where
  statements : List Statement := []
  closed : Bool := false
  edges : List (NodeId × NodeId) := []
  deriving DecidableEq, Repr

namespace Graph

inductive Error where
  | closed
  | noNode (n : NodeId)
  deriving DecidableEq, Repr

def Error.message : Error → String
  | closed => "Cannot add statements after the graph is finalized"
  | noNode n => s!"no node {n}"

def size (g : Graph) : Nat := g.statements.length + if g.closed then 2 else 1

def nodeIds (g : Graph) : List NodeId := (List.range g.size).map Int.ofNat

def entryId : NodeId := 0

def exitId? (g : Graph) : Option NodeId :=
  if g.closed then some (Int.ofNat (g.statements.length + 1)) else none

def node? (g : Graph) (n : NodeId) : Option Node :=
  match n with
  | .ofNat 0 => some .entry
  | .ofNat (k + 1) =>
    match g.statements[k]? with
    | some s => some (.statement s)
    | none => if g.exitId? = some n then some .exit else none
  | .negSucc _ => none

def numbered (g : Graph) : List (NodeId × Statement) :=
  g.statements.mapIdx fun i s => (Int.ofNat (i + 1), s)

def successors (g : Graph) (n : NodeId) : List NodeId :=
  (g.edges.filter fun e => e.1 == n).map (·.2)

def predecessors (g : Graph) (n : NodeId) : List NodeId :=
  (g.edges.filter fun e => e.2 == n).map (·.1)

def edgesByNode (g : Graph) : List (NodeId × NodeId) :=
  g.nodeIds.flatMap fun n => (g.successors n).map fun m => (n, m)

def addEdge (g : Graph) (a b : NodeId) : Graph :=
  if (a, b) ∈ g.edges then g else { g with edges := g.edges ++ [(a, b)] }

def connect (g : Graph) (a b : NodeId) : Except Error Graph :=
  if (g.node? a).isNone then .error (.noNode a)
  else if (g.node? b).isNone then .error (.noNode b)
  else .ok (g.addEdge a b)

def push (g : Graph) (s : Statement) : Graph := { g with statements := g.statements ++ [s] }

def addStatement (g : Graph) (s : Statement) : Except Error (Graph × NodeId) :=
  if g.closed then .error .closed else .ok (g.push s, Int.ofNat (g.statements.length + 1))

def dangling (g : Graph) : List NodeId := g.nodeIds.filter fun n => (g.successors n).isEmpty

def close (g : Graph) : Graph :=
  if g.closed then g
  else
    let exit := Int.ofNat (g.statements.length + 1)
    g.dangling.foldl (fun h n => h.addEdge n exit) { g with closed := true }

theorem mem_successors {g : Graph} {n m : NodeId} : m ∈ g.successors n ↔ (n, m) ∈ g.edges := by
  simp [successors]

theorem mem_predecessors {g : Graph} {n m : NodeId} :
    m ∈ g.predecessors n ↔ (m, n) ∈ g.edges := by
  simp [predecessors]

theorem mem_edges_addEdge {g : Graph} {a b : NodeId} {e : NodeId × NodeId} :
    e ∈ (g.addEdge a b).edges ↔ e ∈ g.edges ∨ e = (a, b) := by
  by_cases h : (a, b) ∈ g.edges
  · simp only [addEdge, h, if_true]
    exact ⟨Or.inl, fun he => he.elim id fun he => he ▸ h⟩
  · simp [addEdge, h]

end Graph

abbrev NodeSet := Std.ExtTreeSet NodeId

namespace Graph

def spread (next : NodeId → List NodeId) : Nat → List NodeId → NodeSet → NodeSet
  | 0, _, seen => seen
  | rounds + 1, frontier, seen =>
    match (frontier.flatMap next).filter (fun n => !seen.contains n) with
    | [] => seen
    | fresh => spread next rounds fresh (seen ∪ .ofList fresh)

/-- The nodes reachable from `start`. A path without repetition has fewer edges than there are
nodes, so that many rounds are enough. -/
def reach (g : Graph) (next : NodeId → List NodeId) (start : NodeId) : NodeSet :=
  spread next g.size [start] (.ofList [start])

def reachableFrom (g : Graph) (start : NodeId) : NodeSet := g.reach g.successors start

def reaching (g : Graph) (target : NodeId) : NodeSet := g.reach g.predecessors target

end Graph

end GenKill
