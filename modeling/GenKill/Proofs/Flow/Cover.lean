import GenKill.Proofs.Flow.Token
import GenKill.Proofs.Graph.Reach

namespace GenKill.Flow

open Relation

namespace Direction

variable {d : Direction} {g : Graph}

def Covers (d : Direction) (g : Graph) (n : NodeId) : Prop :=
  ∃ o, d.boundaryNode? g = some o ∧ ReflTransGen (d.Edge g) o n

lemma Covers.tail {m n : NodeId} (h : d.Covers g m) (he : d.Edge g m n) : d.Covers g n := by
  obtain ⟨o, ho, hom⟩ := h
  exact ⟨o, ho, hom.tail he⟩

lemma not_covers_source {n : NodeId} (hn : ¬ d.Covers g n) : ∀ m ∈ d.sources g n, ¬ d.Covers g m :=
  fun _ hm hc => hn (hc.tail hm)

lemma boundaryNode?_mem {o : NodeId} (h : d.boundaryNode? g = some o) : o ∈ g.nodeIds := by
  cases d with
  | forward => exact Option.some.inj h ▸ g.entryId_mem_nodeIds
  | backward => exact Graph.exitId_mem_nodeIds h

lemma exists_boundaryNode? (d : Direction) {g : Graph} (h : g.closed = true) :
    ∃ o, d.boundaryNode? g = some o := by
  cases d with
  | forward => exact ⟨_, rfl⟩
  | backward => exact ⟨_, Graph.exitId?_eq_some.mpr ⟨h, rfl⟩⟩

/-- A path along the flow that begins at the open end, does not come back to it, and ends in `n`
behind the nodes `before`. -/
structure Approach (d : Direction) (g : Graph) (before : List NodeId) (n : NodeId) : Prop where
  chain : (before ++ [n]).IsChain (d.Edge g)
  head : (before ++ [n]).head? = d.boundaryNode? g
  tail : ∀ m ∈ (before ++ [n]).tail, d.boundaryNode? g ≠ some m

lemma approach_nil {n : NodeId} : d.Approach g [] n ↔ d.boundaryNode? g = some n := by
  constructor
  · exact fun h => h.head.symm
  · exact fun h => ⟨List.isChain_singleton n, h.symm, by simp⟩

lemma approach_concat {before : List NodeId} {m n : NodeId} :
    d.Approach g (before ++ [m]) n ↔
      d.Approach g before m ∧ d.Edge g m n ∧ d.boundaryNode? g ≠ some n := by
  have hlist : before ++ [m] ++ [n] = before ++ m :: [n] := by simp
  have hhead : (before ++ m :: [n]).head? = (before ++ [m]).head? := by cases before <;> rfl
  have htail : (before ++ m :: [n]).tail = (before ++ [m]).tail ++ [n] := by cases before <;> simp
  constructor
  · rintro ⟨hchain, hh, ht⟩
    rw [hlist] at hchain hh ht
    rw [htail] at ht
    obtain ⟨hm, hmn⟩ := List.isChain_split.mp hchain
    refine ⟨⟨hm, hhead.symm.trans hh, fun x hx => ht x (by simp [hx])⟩, ?_, ht n (by simp)⟩
    simpa using hmn
  · rintro ⟨⟨hchain, hh, ht⟩, hmn, hn⟩
    constructor
    · rw [hlist]
      exact List.isChain_split.mpr ⟨hchain, by simpa using hmn⟩
    · rw [hlist, hhead, hh]
    · rw [hlist, htail]
      intro x hx
      rcases List.mem_append.mp hx with hx | hx
      · exact ht x hx
      · rwa [List.mem_singleton.mp hx]

lemma Covers.mem_nodeIds {n : NodeId} (h : d.Covers g n) (hg : g.Wired) : n ∈ g.nodeIds := by
  obtain ⟨o, ho, hpath⟩ := h
  cases hpath with
  | refl => exact boundaryNode?_mem ho
  | tail _ hmn => exact (mem_nodeIds_of_source hg hmn).2

lemma Covers.exists_approach {n : NodeId} (h : d.Covers g n) : ∃ before, d.Approach g before n := by
  obtain ⟨o, ho, hpath⟩ := h
  induction hpath with
  | refl => exact ⟨[], approach_nil.mpr ho⟩
  | @tail m n _ hmn ih =>
    by_cases hn : d.boundaryNode? g = some n
    · exact ⟨[], approach_nil.mpr hn⟩
    · obtain ⟨before, hb⟩ := ih
      exact ⟨before ++ [m], approach_concat.mpr ⟨hb, hmn, hn⟩⟩

lemma Covers.sources_ne_nil {n : NodeId} (h : d.Covers g n) (hn : d.boundaryNode? g ≠ some n) :
    d.sources g n ≠ [] := by
  obtain ⟨o, ho, hpath⟩ := h
  cases hpath with
  | refl => exact absurd ho hn
  | tail _ hmn => exact List.ne_nil_of_mem hmn

lemma covers_forward_iff {n : NodeId} (hg : g.Wired) :
    Direction.forward.Covers g n ↔ n ∈ g.reachableFrom Graph.entryId := by
  rw [Graph.mem_reachableFrom hg, ← edge_forward]
  constructor
  · rintro ⟨o, ho, h⟩
    rwa [Option.some.inj ho]
  · exact fun h => ⟨_, rfl, h⟩

end Direction

namespace Problem

variable {α : Type} [Ord α] [Std.TransOrd α] {p : Problem α} {g : Graph} {s : Store α}
variable {value : TokenSet α}

omit [Std.TransOrd α] in
lemma covered?_eq_some {o : NodeId} (ho : p.direction.boundaryNode? g = some o) (hg : g.Wired) :
    ∃ nodes, p.covered? g = some nodes ∧ ∀ n, n ∈ nodes ↔ p.direction.Covers g n := by
  unfold covered?
  rw [ho, Option.map_some]
  refine ⟨_, rfl, fun n => ?_⟩
  have hcovers : p.direction.Covers g n ↔ ReflTransGen (p.direction.Edge g) o n := by
    constructor
    · rintro ⟨o', ho', h⟩
      rwa [Option.some.inj (ho.symm.trans ho')]
    · exact fun h => ⟨o, ho, h⟩
  rw [hcovers]
  cases p.direction with
  | forward => rw [Direction.edge_forward, Graph.mem_reachableFrom hg]
  | backward => rw [Direction.edge_backward, Graph.mem_reaching hg]

omit [Std.TransOrd α] in
open Classical in
lemma sets_start (hv : p.initial = some value) {o : NodeId}
    (ho : p.direction.boundaryNode? g = some o) (hg : g.Wired) (n : NodeId) :
    (p.start g s).sets n =
      if p.direction.Covers g n then Store.seedSets value (s.sets n) else s.sets n := by
  obtain ⟨nodes, hnodes, hmem⟩ := covered?_eq_some ho hg
  unfold start
  rw [hv, hnodes]
  simp only [Store.sets_seed, Std.ExtTreeSet.mem_toList, hmem]

end Problem

end GenKill.Flow
