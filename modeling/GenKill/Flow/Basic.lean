import GenKill.Graph.Basic
import Std.Data.ExtTreeMap
import Std.Data.ExtTreeSet

namespace GenKill

abbrev TokenSet (α : Type) [Ord α] := Std.ExtTreeSet α

namespace TokenSet

variable {α : Type} [Ord α] [Std.TransOrd α]

def ofList (tokens : List α) : TokenSet α := Std.ExtTreeSet.ofList tokens

theorem mem_ofList [DecidableEq α] [Std.LawfulEqOrd α] {tokens : List α} {t : α} :
    t ∈ ofList tokens ↔ t ∈ tokens := by
  rw [ofList, Std.ExtTreeSet.mem_ofList]
  simp

end TokenSet

namespace Flow

variable {α : Type} [Ord α] [Std.TransOrd α] [Std.LawfulEqOrd α]

inductive Direction where
  | forward
  | backward
  deriving DecidableEq, Repr

def Direction.label : Direction → String
  | forward => "forward"
  | backward => "backward"

inductive Meet where
  | union
  | intersection
  deriving DecidableEq, Repr

def Meet.label : Meet → String
  | union => "union"
  | intersection => "intersection"

/-- The meet of some sets. The meet of no sets is empty for a union, and `identity` for an
intersection. -/
def Meet.combine (m : Meet) (sets : List (TokenSet α)) (identity : TokenSet α) : TokenSet α :=
  match m, sets with
  | union, sets => sets.foldl (· ∪ ·) ∅
  | intersection, [] => identity
  | intersection, s :: rest => rest.foldl (· ∩ ·) s

@[ext] structure Sets (α : Type) [Ord α] where
  gen : TokenSet α := ∅
  kill : TokenSet α := ∅
  before : TokenSet α := ∅
  after : TokenSet α := ∅

instance : DecidableEq (Sets α) := fun a b =>
  decidable_of_iff (a.gen = b.gen ∧ a.kill = b.kill ∧ a.before = b.before ∧ a.after = b.after)
    Sets.ext_iff.symm

namespace Direction

def taken (d : Direction) (s : Sets α) : TokenSet α :=
  match d with
  | forward => s.before
  | backward => s.after

def passed (d : Direction) (s : Sets α) : TokenSet α :=
  match d with
  | forward => s.after
  | backward => s.before

def put (d : Direction) (s : Sets α) (taken passed : TokenSet α) : Sets α :=
  match d with
  | forward => { s with before := taken, after := passed }
  | backward => { s with before := passed, after := taken }

def sources (d : Direction) (g : Graph) (n : NodeId) : List NodeId :=
  match d with
  | forward => g.predecessors n
  | backward => g.successors n

def order (d : Direction) (g : Graph) : List NodeId :=
  match d with
  | forward => g.nodeIds
  | backward => g.nodeIds.reverse

def boundaryNode? (d : Direction) (g : Graph) : Option NodeId :=
  match d with
  | forward => some Graph.entryId
  | backward => g.exitId?

end Direction

abbrev Store (α : Type) [Ord α] := Std.ExtTreeMap NodeId (Sets α)

namespace Store

def ofIds (ids : List NodeId) : Store α := ids.foldl (fun s n => s.insert n {}) ∅

def sets (s : Store α) (n : NodeId) : Sets α := (s[n]?).getD {}

def touch (s : Store α) (n : NodeId) : Store α := s.insert n (s.sets n)

def update (s : Store α) (n : NodeId) (f : Sets α → Sets α) : Store α := s.insert n (f (s.sets n))

def seedSets (value : TokenSet α) (sets : Sets α) : Sets α :=
  { sets with before := value, after := value }

def seed (s : Store α) (value : TokenSet α) (ids : List NodeId) : Store α :=
  ids.foldl (fun s n => s.update n (seedSets value)) s

def seedAll (s : Store α) (value : TokenSet α) : Store α := s.map fun _ => seedSets value

omit [Std.TransOrd α] [Std.LawfulEqOrd α] in
theorem sets_insert (s : Store α) (n m : NodeId) (new : Sets α) :
    sets (s.insert n new) m = if n = m then new else s.sets m := by
  simp only [sets, Std.ExtTreeMap.getElem?_insert, Std.LawfulEqCmp.compare_eq_iff_eq]
  split <;> rfl

end Store

end Flow

end GenKill
