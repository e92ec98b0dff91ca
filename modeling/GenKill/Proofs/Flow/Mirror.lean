import GenKill.Proofs.Flow.Balanced
import GenKill.Proofs.Flow.Cover
import GenKill.Proofs.Graph.Mirror

/-! Runs against the flow. A run on the mirror of a closed graph takes the steps of the run in the other
direction on the graph itself, with the sets before and after each node exchanged. -/

namespace GenKill.Flow

variable {α : Type} [Ord α]

namespace Direction

def opposite : Direction → Direction
  | forward => backward
  | backward => forward

variable (d : Direction) (g : Graph)

lemma sources_mirror (n : NodeId) :
    d.opposite.sources g.mirror (g.across n) = (d.sources g n).map g.across := by
  cases d with
  | forward => exact g.successors_mirror n
  | backward => exact g.predecessors_mirror n

lemma order_mirror (hc : g.closed = true) :
    d.opposite.order g.mirror = (d.order g).map g.across := by
  cases d with
  | forward => rw [opposite, order, order, g.nodeIds_mirror, g.map_across_nodeIds hc]
  | backward =>
    rw [opposite, order, order, g.nodeIds_mirror, List.map_reverse, g.map_across_nodeIds hc,
      List.reverse_reverse]

lemma boundaryNode?_mirror (hc : g.closed = true) :
    d.opposite.boundaryNode? g.mirror = (d.boundaryNode? g).map g.across := by
  cases d <;> simp [opposite, boundaryNode?, Graph.exitId?, Graph.mirror, hc, Graph.across,
    Graph.entryId]

end Direction

def Sets.swap (s : Sets α) : Sets α := { s with before := s.after, after := s.before }

lemma Sets.swap_injective : Function.Injective (Sets.swap (α := α)) := by
  intro s t h
  obtain ⟨hg, hk, hb, ha⟩ := Sets.mk.inj h
  exact Sets.ext hg hk ha hb

namespace Direction

variable (d : Direction) (s : Sets α) (x y : TokenSet α)

lemma taken_swap : d.opposite.taken s.swap = d.taken s := by
  cases d <;> rfl

lemma passed_swap : d.opposite.passed s.swap = d.passed s := by
  cases d <;> rfl

lemma put_swap : d.opposite.put s.swap x y = (d.put s x y).swap := by
  cases d <;> rfl

end Direction

namespace Store

def mirror (g : Graph) (s : Store α) : Store α :=
  .ofList (s.toList.map fun e => (g.across e.1, e.2.swap))

variable (g : Graph) (s : Store α)

lemma getElem?_mirror (n : NodeId) : (s.mirror g)[g.across n]? = s[n]?.map Sets.swap := by
  cases h : s[n]? with
  | none =>
    apply Std.ExtTreeMap.getElem?_ofList_of_contains_eq_false
    simp only [List.map_map, Bool.eq_false_iff, ne_eq, List.contains_iff_mem, List.mem_map,
      Function.comp_apply, Prod.exists, g.across_injective.eq_iff, not_exists, not_and]
    rintro m x hmem rfl
    rw [Std.ExtTreeMap.mem_toList_iff_getElem?_eq_some, h] at hmem
    cases hmem
  | some x =>
    apply Std.ExtTreeMap.getElem?_ofList_of_mem (k := g.across n)
    · simp
    · rw [List.pairwise_map]
      refine Std.ExtTreeMap.distinct_keys_toList.imp fun {a b} hab => ?_
      simpa [g.across_injective.eq_iff] using hab
    · exact List.mem_map.mpr ⟨(n, x), Std.ExtTreeMap.mem_toList_iff_getElem?_eq_some.mpr h, rfl⟩

lemma eq_mirror {t : Store α} (h : ∀ n, t[g.across n]? = s[n]?.map Sets.swap) : t = s.mirror g := by
  apply Std.ExtTreeMap.ext_getElem?
  intro n
  rw [← g.across_across n, h, getElem?_mirror]

lemma sets_mirror (n : NodeId) : (s.mirror g).sets (g.across n) = (s.sets n).swap := by
  rw [sets, getElem?_mirror, sets]
  cases s[n]? <;> rfl

lemma insert_mirror (n : NodeId) (x : Sets α) :
    (s.mirror g).insert (g.across n) x.swap = mirror g (s.insert n x) := by
  apply eq_mirror
  intro m
  simp only [getElem?_insert, getElem?_mirror, g.across_injective.eq_iff]
  split <;> rfl

lemma seed_mirror (value : TokenSet α) {ids ids' : List NodeId}
    (hids : ∀ n, g.across n ∈ ids' ↔ n ∈ ids) :
    (s.mirror g).seed value ids' = (s.seed value ids).mirror g := by
  apply eq_mirror
  intro n
  rw [getElem?_seed, getElem?_seed, getElem?_mirror, sets_mirror]
  simp only [hids]
  split <;> rfl

end Store

namespace Problem

variable [Std.TransOrd α] {g : Graph} (p : Problem α) (s t : Store α)

def opposite (p : Problem α) : Problem α := { p with direction := p.direction.opposite }

section Closed

variable (hc : g.closed = true)

include hc

lemma takenAt_mirror (n : NodeId) :
    p.opposite.takenAt g.mirror (s.mirror g) (g.across n) = p.takenAt g s n := by
  have hopen : p.direction.opposite.boundaryNode? g.mirror = some (g.across n) ↔
      p.direction.boundaryNode? g = some n := by
    rw [Direction.boundaryNode?_mirror p.direction g hc]
    exact Option.map_injective g.across_injective |>.eq_iff' rfl
  simp only [takenAt, opposite, hopen, Direction.sources_mirror, List.map_map, Function.comp_def,
    Store.sets_mirror, Direction.passed_swap, Direction.taken_swap]

lemma visit_mirror (n : NodeId) :
    p.opposite.visit g.mirror (s.mirror g) (g.across n) = (p.visit g s n).mirror g := by
  simp only [visit, takenAt_mirror p s hc, Store.sets_mirror]
  rw [← Store.insert_mirror, ← Direction.put_swap]
  rfl

lemma pass_mirror : p.opposite.pass g.mirror (s.mirror g) = (p.pass g s).mirror g := by
  rw [pass, pass]
  change (p.direction.opposite.order g.mirror).foldl _ _ = _
  rw [Direction.order_mirror p.direction g hc, List.foldl_map]
  exact List.foldl_hom (Store.mirror g) fun t n => visit_mirror p t hc n

omit [Std.TransOrd α] in
lemma start_mirror : p.opposite.start g.mirror (s.mirror g) = (p.start g s).mirror g := by
  obtain ⟨o, ho⟩ := p.direction.exists_boundaryNode? hc
  have ho' : p.opposite.direction.boundaryNode? g.mirror = some (g.across o) := by
    rw [opposite, Direction.boundaryNode?_mirror p.direction g hc, ho, Option.map_some]
  obtain ⟨d, meet, boundary, initial⟩ := p
  cases initial with
  | none => rfl
  | some value =>
    simp only [start, covered?, ho, ho', Option.map_some]
    apply Store.seed_mirror
    intro n
    simp only [Std.ExtTreeSet.mem_toList]
    cases d with
    | forward => exact g.mem_reach_mirror g.predecessors_mirror o n
    | backward => exact g.mem_reach_mirror g.successors_mirror o n

lemma settled_mirror [Std.LawfulEqOrd α] :
    settled g.mirror (s.mirror g) (t.mirror g) = settled g s t := by
  have hsame : ∀ n, (s.mirror g).sets (g.across n) = (t.mirror g).sets (g.across n) ↔
      s.sets n = t.sets n := by
    intro n
    rw [Store.sets_mirror, Store.sets_mirror, Sets.swap_injective.eq_iff]
  rw [settled, settled, g.nodeIds_mirror, ← List.all_reverse, ← g.map_across_nodeIds hc,
    List.all_map]
  simp only [Function.comp_def, hsame]

lemma simulates_mirror [Std.LawfulEqOrd α] :
    Simulates p g p.opposite g.mirror fun s t => s.mirror g = t where
  pass s t h := by rw [← h, pass_mirror p s hc]
  settled s s' t t' h h' := by rw [← h, ← h', settled_mirror s s' hc]

end Closed

/-- The mirror of a graph has its nodes from the exit to the entry. A run on the mirror, in the other
direction and from the mirrored store, has the same answer, and its stores are the mirrors of those of
the run on the graph, pass by pass. -/
theorem solve_mirror [Std.LawfulEqOrd α] (p : Problem α) (g : Graph) (hc : g.closed = true) (cap : ℕ)
    (s : Store α) :
    let there := p.solve g cap s
    let here := p.opposite.solve g.mirror cap (s.mirror g)
    g.mirror.nodes = g.nodes.reverse.map Node.opposite ∧
    here.convergence = { there.convergence with direction := p.direction.opposite } ∧
    here.start = there.start.mirror g ∧
    here.trail = there.trail.map (Store.mirror g) ∧
    here.store = there.store.mirror g := by
  intro there here
  have hsim := simulates_mirror p hc
  have hstart := (start_mirror p s hc).symm
  refine ⟨g.nodes_mirror hc, ?_, hstart.symm, ?_, (hsim.store cap hstart).symm⟩
  · change Convergence.mk _ _ _ _ = Convergence.mk _ _ _ _
    rw [Convergence.mk.injEq]
    exact ⟨hsim.converged cap hstart, hsim.iterations cap hstart, rfl, rfl⟩
  · have htrail := List.forall₂_map_left_iff.mpr (hsim.trail cap hstart)
    rw [List.forall₂_eq_eq_eq] at htrail
    exact htrail.symm

def expected : Problem Token :=
  { asked with meet := .intersection, initial := some (.ofList [.var "x", .var "y"]) }

theorem counting_mirrored :
    let here := expected.opposite.solve Graph.counting.mirror 6 (readInLoop.mirror Graph.counting)
    Graph.counting.mirror.edges = [(2, 3), (1, 2), (1, 1), (0, 1)] ∧
    here.convergence = ⟨true, 2, .forward, .intersection⟩ ∧
    (here.store.sets 1).before = .ofList [.var "y"] ∧
    (here.store.sets 1).after = .ofList [.var "x", .var "y"] := by
  intro here
  obtain ⟨-, hconvergence, -, -, hstore⟩ :=
    solve_mirror expected Graph.counting rfl 6 readInLoop
  have hsets : here.store.sets 1 =
      ((expected.solve Graph.counting 6 readInLoop).store.sets 2).swap := by
    rw [hstore]
    exact Store.sets_mirror Graph.counting _ 2
  refine ⟨by decide, hconvergence.trans (by decide), ?_, ?_⟩
  · rw [hsets]
    decide
  · rw [hsets]
    decide

end Problem

end GenKill.Flow
