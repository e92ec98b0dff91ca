import GenKill.Flow.Basic
import GenKill.Graph.Basic
import GenKill.Log

/-!
Round-robin solution of flow equations: passes over all nodes until one changes nothing, or until
the cap on their number is reached.
-/

namespace GenKill.Flow

variable {α : Type} [Ord α] [Std.TransOrd α] [Std.LawfulEqOrd α]

structure Problem (α : Type) [Ord α] where
  direction : Direction
  meet : Meet
  boundary : TokenSet α := ∅
  initial : Option (TokenSet α) := none

def transfer (s : Sets α) (taken : TokenSet α) : TokenSet α := s.gen ∪ (taken \ s.kill)

namespace Problem

def takenAt (p : Problem α) (g : Graph) (store : Store α) (n : NodeId) : TokenSet α :=
  if p.direction.boundaryNode? g = some n then p.boundary
  else p.meet.combine ((p.direction.sources g n).map fun m => p.direction.passed (store.sets m))
    (p.direction.taken (store.sets n))

def visit (p : Problem α) (g : Graph) (store : Store α) (n : NodeId) : Store α :=
  let taken := p.takenAt g store n
  store.insert n (p.direction.put (store.sets n) taken (transfer (store.sets n) taken))

def pass (p : Problem α) (g : Graph) (store : Store α) : Store α :=
  (p.direction.order g).foldl (p.visit g) store

def covered? (p : Problem α) (g : Graph) : Option NodeSet :=
  (p.direction.boundaryNode? g).map fun n =>
    match p.direction with
    | .forward => g.reachableFrom n
    | .backward => g.reaching n

def start (p : Problem α) (g : Graph) (store : Store α) : Store α :=
  match p.initial, p.covered? g with
  | none, _ => store
  | some value, none => store.seedAll value
  | some value, some nodes => store.seed value nodes.toList

def settled (g : Graph) (old new : Store α) : Bool :=
  g.nodeIds.all fun n => decide (old.sets n = new.sets n)

def passes (p : Problem α) (g : Graph) : Nat → Store α → List (Store α) × Bool
  | 0, _ => ([], false)
  | cap + 1, store =>
    let new := p.pass g store
    if settled g store new then ([new], true)
    else
      let (more, converged) := p.passes g cap new
      (new :: more, converged)

end Problem

structure Convergence where
  converged : Bool
  iterations : Int
  direction : Direction
  meet : Meet
  deriving DecidableEq, Repr

namespace Convergence

def passEntry (c : Convergence) (k : Nat) : Log.Entry :=
  let state := if c.converged && c.iterations == k then "stable" else "changed"
  ⟨.debug, .solver, s!"{c.direction.label}/{c.meet.label} pass {k}: {state}"⟩

def log (c : Convergence) : Log :=
  (List.range c.iterations.toNat).map (fun k => c.passEntry (k + 1)) ++
    if c.converged then []
    else [⟨.warning, .solver, s!"Dataflow did not converge after {c.iterations} passes " ++
      s!"({c.direction.label}, {c.meet.label}); results are approximate"⟩]

end Convergence

structure Run (α : Type) [Ord α] where
  start : Store α
  trail : List (Store α)
  convergence : Convergence

namespace Run

def store (r : Run α) : Store α := r.trail.getLast?.getD r.start

end Run

def Problem.solve (p : Problem α) (g : Graph) (cap : Nat) (store : Store α) : Run α :=
  let start := p.start g store
  let (trail, converged) := p.passes g cap start
  ⟨start, trail, ⟨converged, trail.length, p.direction, p.meet⟩⟩

end GenKill.Flow
