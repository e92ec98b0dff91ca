import GenKill.Proofs.Analysis.Prepared
import GenKill.Proofs.Flow.Seeded

/-! The analyses over every path. Where the open end of a graph is the only way into the nodes that
it reaches, they find at these nodes the expressions that all paths from it agree on. -/

namespace GenKill

open GenKill.Flow

lemma OrderedMap.mem_keys_of_get? {κ ν : Type} [DecidableEq κ] {m : OrderedMap κ ν} {k : κ} {v : ν}
    (h : m.get? k = some v) : k ∈ m.keys := by
  obtain ⟨entries⟩ := m
  change find k entries = some v at h
  change k ∈ entries.map (·.1)
  induction entries with
  | nil => cases h
  | cons e rest ih =>
    unfold find at h
    split at h
    case isTrue he => simp [he]
    case isFalse => exact List.mem_cons_of_mem _ (ih h)

namespace FactTable

lemma mem_allExpressions {t : FactTable} {text : String} :
    text ∈ t.allExpressions ↔ ∃ n, text ∈ (t.fact n).expressions := by
  rw [allExpressions, List.mem_eraseDups, List.mem_flatMap]
  simp only [List.mem_mergeSort]
  constructor
  · rintro ⟨n, -, hn⟩
    exact ⟨n, hn⟩
  · rintro ⟨n, hn⟩
    refine ⟨n, ?_, hn⟩
    cases hget : t.get? n with
    | none =>
      rw [fact, hget] at hn
      exact absurd hn List.not_mem_nil
    | some f => exact OrderedMap.mem_keys_of_get? hget

end FactTable

namespace Analysis

variable {a : Analysis} {g : Graph} {facts : FactTable}

lemma mem_expressions {e : Token} :
    e ∈ expressions facts ↔ ∃ text n, text ∈ (facts.fact n).expressions ∧ e = .expr text := by
  rw [expressions, TokenSet.mem_ofList, List.mem_map]
  simp only [FactTable.mem_allExpressions]
  constructor
  · rintro ⟨text, ⟨n, hn⟩, rfl⟩
    exact ⟨text, n, hn, rfl⟩
  · rintro ⟨text, n, hn, rfl⟩
    exact ⟨text, ⟨n, hn⟩, rfl⟩

lemma mem_gen_of_intersection (ha : a.meet = .intersection) {n : NodeId} {e : Token} :
    e ∈ ((a.prepared g facts).sets n).gen ↔ ∃ s text, g.node? n = some (.statement s) ∧
      text ∈ (facts.fact n).expressions ∧ e = .expr text := by
  have hgen : ∀ s f, a.gen s f = TokenSet.ofList (f.expressions.map Token.expr) := by
    intro s f
    cases a with
    | reaching => cases ha
    | live => cases ha
    | available => rfl
    | busy => rfl
  rw [mem_gen_prepared]
  simp only [hgen, TokenSet.mem_ofList, List.mem_map]
  constructor
  · rintro ⟨s, hs, text, ht, rfl⟩
    exact ⟨s, text, hs, ht, rfl⟩
  · rintro ⟨s, text, hs, ht, rfl⟩
    exact ⟨s, hs, text, ht, rfl⟩

lemma mem_kill_of_intersection (ha : a.meet = .intersection) {n : NodeId} {e : Token} :
    e ∈ ((a.prepared g facts).sets n).kill ↔ ∃ s v, g.node? n = some (.statement s) ∧
      (facts.fact n).target = some v ∧ e ∈ expressions facts ∧ e.mentions v = true := by
  have hkill : ∀ s v, e ∈ a.killBy g facts s v ↔ e ∈ expressions facts ∧ e.mentions v = true := by
    intro s v
    cases a with
    | reaching => cases ha
    | live => cases ha
    | available => simp [killBy]
    | busy => simp [killBy]
  rw [mem_kill_prepared]
  simp only [hkill]

lemma everything_of_intersection (ha : a.meet = .intersection) :
    a.everything facts = expressions facts := by
  unfold everything
  rw [ha]

lemma seeded (ha : a.meet = .intersection) (b : Boundary) (hg : g.Built) (hc : g.closed = true) :
    (a.problem b facts).Seeded g (a.prepared g facts) (expressions facts) where
  wired := hg.wired
  meet := ha
  initial := by
    change a.initial (a.everything facts) = _
    rw [everything_of_intersection ha, initial, ha]
  openEnd := a.direction.exists_boundaryNode? hc
  boundary := by
    change ∀ e ∈ a.boundary b (a.everything facts), _
    rw [everything_of_intersection ha]
    unfold boundary
    rw [ha]
    intro e he
    cases b with
    | universal => exact he
    | empty => exact absurd he Std.ExtTreeSet.not_mem_empty
  gen := by
    intro n e he
    obtain ⟨s, text, -, ht, rfl⟩ := (mem_gen_of_intersection ha).mp he
    exact mem_expressions.mpr ⟨text, n, ht, rfl⟩
  taken := taken_prepared a g facts a.direction
  passed := passed_prepared a g facts a.direction

/-- If all flow into the covered nodes comes from covered nodes, an analysis over every path
converges, and finds at a covered node what every path to it leaves of the value at the open end. -/
theorem mem_taken_iff_every_path (ha : a.meet = .intersection) (b : Boundary) (hg : g.Built)
    (hclosed : g.closed = true) (facts : FactTable)
    (hcover : ∀ m n, a.direction.Edge g m n → a.direction.Covers g n → a.direction.Covers g m)
    (cap : ℕ) (hcap : g.size + 2 ≤ cap) :
    (a.solve b cap g facts).convergence.converged = true ∧
    ∀ n, a.direction.Covers g n → ∀ e,
      e ∈ a.direction.taken ((a.solve b cap g facts).store.sets n) ↔
        ∀ before, a.direction.Approach g before n →
          e ∈ (a.problem b facts).along (a.prepared g facts) before := by
  have hs : (a.problem b facts).Seeded g (a.prepared g facts) (expressions facts) :=
    seeded ha b hg hclosed
  have hR : ∀ n, a.direction.Covers g n → ∀ m ∈ a.direction.sources g n, a.direction.Covers g m :=
    fun n hn m hm => hcover m n hm hn
  have hc := hs.solve_converged hR hcap
  exact ⟨hc, fun n hn e => hs.mem_taken_iff_forall_along hR hc hn⟩

lemma counting_covers {n : NodeId} (hn : n ∈ Graph.counting.nodeIds) :
    Direction.forward.Covers Graph.counting n := by
  have hreach : ∀ n ∈ Graph.counting.nodeIds, n ∈ Graph.counting.reachableFrom 0 := by decide
  exact (Direction.covers_forward_iff Graph.counting_built.wired).mpr (hreach n hn)

theorem counting_every_path :
    (available.solve .universal 6 Graph.counting countingFacts).convergence.converged = true ∧
    Token.expr "x + 1" ∉
      ((available.solve .universal 6 Graph.counting countingFacts).store.sets 2).before := by
  obtain ⟨hc, h⟩ := mem_taken_iff_every_path (a := available) rfl .universal Graph.counting_built
    rfl countingFacts (fun m n hmn _ => counting_covers
      (Direction.mem_nodeIds_of_source Graph.counting_built.wired hmn).1) 6 (by decide)
  refine ⟨hc, fun hmem => ?_⟩
  have hpath : Direction.forward.Approach Graph.counting ([0] ++ [1]) 2 := by
    constructor
    · rw [Direction.edge_forward]
      decide
    · rfl
    · decide
  have halong := (h 2 (counting_covers (by decide)) _).mp hmem ([0] ++ [1]) hpath
  rw [Problem.along_concat, mem_transfer] at halong
  rcases halong with hgen | ⟨-, hkill⟩
  · obtain ⟨_, text, -, ht, -⟩ := (mem_gen_of_intersection rfl).mp hgen
    exact absurd ht List.not_mem_nil
  · apply hkill
    rw [mem_kill_of_intersection rfl]
    refine ⟨⟨"x = 1", 1⟩, "x", rfl, by decide, ?_, by decide⟩
    exact mem_expressions.mpr ⟨"x + 1", 2, by decide, rfl⟩

end Analysis

end GenKill
