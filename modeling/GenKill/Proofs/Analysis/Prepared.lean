import GenKill.Analysis.Basic
import GenKill.Proofs.Flow.Run

namespace GenKill

open GenKill.Flow

namespace Analysis

def prepared (a : Analysis) (g : Graph) (facts : FactTable) : Store Token :=
  a.prepare g facts (Store.ofIds g.nodeIds)

lemma solve_eq (a : Analysis) (b : Boundary) (cap : ℕ) (g : Graph) (facts : FactTable) :
    a.solve b cap g facts = (a.problem b facts).solve g cap (a.prepared g facts) := rfl

def prepareOne (a : Analysis) (g : Graph) (facts : FactTable) (store : Store Token)
    (x : NodeId × Statement) : Store Token :=
  if a = reaching ∧ (facts.fact x.1).target = none then store
  else store.update x.1 (a.equip g facts x.2 (facts.fact x.1))

lemma prepare_eq (a : Analysis) (g : Graph) (facts : FactTable) (store : Store Token) :
    a.prepare g facts store = g.numbered.foldl (a.prepareOne g facts) store := rfl

lemma numbered_pairwise (g : Graph) : g.numbered.Pairwise fun x y => x.1 ≠ y.1 := by
  rw [List.pairwise_iff_getElem]
  intro i j hi hj hij heq
  simp only [Graph.numbered, List.getElem_mapIdx] at heq
  have : i + 1 = j + 1 := Int.ofNat.inj heq
  omega

variable (a : Analysis) (g : Graph) (facts : FactTable)

lemma sets_prepareOne_of_ne {store : Store Token} {x : NodeId × Statement} {n : NodeId}
    (h : x.1 ≠ n) : (a.prepareOne g facts store x).sets n = store.sets n := by
  unfold prepareOne
  split
  · rfl
  · rw [Store.sets_update, if_neg h]

lemma sets_prepareAll_of_ne {l : List (NodeId × Statement)} {n : NodeId} (h : ∀ x ∈ l, x.1 ≠ n)
    (store : Store Token) : (l.foldl (a.prepareOne g facts) store).sets n = store.sets n := by
  induction l generalizing store with
  | nil => rfl
  | cons x l ih =>
    rw [List.foldl_cons, ih fun y hy => h y (List.mem_cons_of_mem x hy),
      sets_prepareOne_of_ne a g facts (h x List.mem_cons_self)]

lemma sets_prepareOne_self {store : Store Token} {n : NodeId} {s : Statement}
    (h : store.sets n = {}) :
    (a.prepareOne g facts store (n, s)).sets n = a.equip g facts s (facts.fact n) {} := by
  unfold prepareOne
  split
  case isTrue hskip =>
    obtain ⟨rfl, hnone⟩ := hskip
    rw [h, equip, hnone]
    simp [gen, hnone]
  case isFalse => rw [Store.sets_update, if_pos rfl, h]

lemma sets_prepared_statement {n : NodeId} {s : Statement}
    (hn : g.node? n = some (.statement s)) :
    (a.prepared g facts).sets n = a.equip g facts s (facts.fact n) {} := by
  obtain ⟨earlier, later, hsplit⟩ := List.append_of_mem (Graph.mem_numbered.mpr hn)
  have hdistinct := numbered_pairwise g
  rw [hsplit] at hdistinct
  obtain ⟨-, hlater, hcross⟩ := List.pairwise_append.mp hdistinct
  rw [prepared, prepare_eq, hsplit, List.foldl_append, List.foldl_cons]
  rw [sets_prepareAll_of_ne a g facts fun x hx => (List.rel_of_pairwise_cons hlater hx).symm]
  apply sets_prepareOne_self
  rw [sets_prepareAll_of_ne a g facts fun x hx => hcross x hx (n, s) List.mem_cons_self]
  exact Store.sets_ofIds g.nodeIds n

lemma sets_prepared_other {n : NodeId} (hn : ∀ s, g.node? n ≠ some (.statement s)) :
    (a.prepared g facts).sets n = {} := by
  rw [prepared, prepare_eq, sets_prepareAll_of_ne]
  · exact Store.sets_ofIds g.nodeIds n
  · rintro ⟨m, s⟩ hx rfl
    exact hn s (Graph.mem_numbered.mp hx)

lemma mem_gen_prepared {n : NodeId} {e : Token} :
    e ∈ ((a.prepared g facts).sets n).gen ↔
      ∃ s, g.node? n = some (.statement s) ∧ e ∈ a.gen s (facts.fact n) := by
  by_cases h : ∃ s, g.node? n = some (.statement s)
  · obtain ⟨s, hs⟩ := h
    rw [sets_prepared_statement a g facts hs]
    simp [equip, hs]
  · rw [not_exists] at h
    rw [sets_prepared_other a g facts h]
    simp [h]

lemma mem_kill_prepared {n : NodeId} {e : Token} :
    e ∈ ((a.prepared g facts).sets n).kill ↔
      ∃ s v, g.node? n = some (.statement s) ∧ (facts.fact n).target = some v ∧
        e ∈ a.killBy g facts s v := by
  by_cases h : ∃ s, g.node? n = some (.statement s)
  · obtain ⟨s, hs⟩ := h
    rw [sets_prepared_statement a g facts hs]
    cases ht : (facts.fact n).target <;> simp [equip, hs, ht]
  · rw [not_exists] at h
    rw [sets_prepared_other a g facts h]
    simp [h]

lemma sides_prepared (n : NodeId) :
    ((a.prepared g facts).sets n).before = ∅ ∧ ((a.prepared g facts).sets n).after = ∅ := by
  by_cases h : ∃ s, g.node? n = some (.statement s)
  · obtain ⟨s, hs⟩ := h
    rw [sets_prepared_statement a g facts hs]
    exact ⟨rfl, rfl⟩
  · rw [not_exists] at h
    rw [sets_prepared_other a g facts h]
    exact ⟨rfl, rfl⟩

lemma taken_prepared (d : Direction) (n : NodeId) : d.taken ((a.prepared g facts).sets n) = ∅ := by
  cases d with
  | forward => exact (sides_prepared a g facts n).1
  | backward => exact (sides_prepared a g facts n).2

lemma passed_prepared (d : Direction) (n : NodeId) :
    d.passed ((a.prepared g facts).sets n) = ∅ := by
  cases d with
  | forward => exact (sides_prepared a g facts n).2
  | backward => exact (sides_prepared a g facts n).1

section Tokens

variable {a : Analysis} {g : Graph} {facts : FactTable} {e : Token}

def Tracks (a : Analysis) (g : Graph) (e : Token) : Prop :=
  match a with
  | reaching => ∃ name, ∃ s ∈ g.statements, e = .site name s.line
  | live => ∃ name, e = .var name
  | available | busy => ∃ text, e = .expr text

lemma mem_singleton {e t : Token} : e ∈ TokenSet.ofList [t] ↔ e = t := by
  rw [TokenSet.mem_ofList, List.mem_singleton]

lemma tracks_of_mem_gen {s : Statement} (hs : s ∈ g.statements) {f : Fact} (he : e ∈ a.gen s f) :
    a.Tracks g e := by
  cases a with
  | reaching =>
    cases ht : f.target with
    | none => simp [gen, ht] at he
    | some name =>
      rw [gen, ht, Option.elim_some, mem_singleton] at he
      exact ⟨name, s, hs, he⟩
  | live =>
    obtain ⟨name, -, rfl⟩ := List.mem_map.mp (TokenSet.mem_ofList.mp he)
    exact ⟨name, rfl⟩
  | available | busy =>
    obtain ⟨text, -, rfl⟩ := List.mem_map.mp (TokenSet.mem_ofList.mp he)
    exact ⟨text, rfl⟩

lemma tracks_of_mem_everything (he : e ∈ a.everything facts) : a.Tracks g e := by
  cases a with
  | reaching | live => exact absurd he Std.ExtTreeSet.not_mem_empty
  | available | busy =>
    obtain ⟨text, -, rfl⟩ := List.mem_map.mp (TokenSet.mem_ofList.mp he)
    exact ⟨text, rfl⟩

lemma everything_of_mem_boundary {b : Boundary} (he : e ∈ (a.problem b facts).boundary) :
    e ∈ a.everything facts := by
  change e ∈ a.boundary b (a.everything facts) at he
  unfold boundary at he
  split at he
  · exact he
  · exact absurd he Std.ExtTreeSet.not_mem_empty

lemma everything_of_mem_initial {b : Boundary} {value : TokenSet Token}
    (hv : (a.problem b facts).initial = some value) (he : e ∈ value) : e ∈ a.everything facts := by
  change a.initial (a.everything facts) = some value at hv
  unfold initial at hv
  split at hv
  · exact Option.some.inj hv ▸ he
  · cases hv

lemma tracks_of_mem_solve {b : Boundary} {cap : ℕ} {n : NodeId}
    (he : e ∈ ((a.solve b cap g facts).store.sets n).before ∨
      e ∈ ((a.solve b cap g facts).store.sets n).after) : a.Tracks g e := by
  have hprepared : (a.problem b facts).Within (a.Tracks g) (a.prepared g facts) := by
    intro n e he
    rw [taken_prepared, passed_prepared] at he
    rcases he with he | he | he
    · obtain ⟨s, hs, he⟩ := (mem_gen_prepared a g facts).mp he
      obtain ⟨k, -, hk⟩ := Graph.node?_eq_statement.mp hs
      exact tracks_of_mem_gen (List.mem_of_getElem? hk) he
    · exact absurd he Std.ExtTreeSet.not_mem_empty
    · exact absurd he Std.ExtTreeSet.not_mem_empty
  have hstart := hprepared.start (g := g) fun value hv e he =>
    tracks_of_mem_everything (everything_of_mem_initial hv he)
  have hsolve := hstart.solve (fun e he => tracks_of_mem_everything (everything_of_mem_boundary he)) cap
  refine hsolve n e (Or.inr ?_)
  cases hd : (a.problem b facts).direction with
  | forward => exact he
  | backward => exact he.symm

end Tokens

def countingFacts : FactTable where
  entries :=
    [(1, { kind := .assign, defined := some "x" }),
      (2, { kind := .assign, defined := some "x", used := ["x"], expressions := ["x + 1"] })]

end Analysis

end GenKill
