import GenKill.Flow.Solver
import GenKill.Proofs.Graph.Built
import Mathlib.Logic.Function.Iterate

/-! What one pass makes of a store. A node reads the nodes before it as the pass has left them, and
itself and the nodes behind it as the pass has found them. -/

namespace GenKill.Flow

variable {α : Type} [Ord α] [Std.TransOrd α]

section Meet

lemma mem_foldl_union {sets : List (TokenSet α)} {s : TokenSet α} {e : α} :
    e ∈ sets.foldl (· ∪ ·) s ↔ e ∈ s ∨ ∃ x ∈ sets, e ∈ x := by
  induction sets generalizing s with
  | nil => simp
  | cons x sets ih => simp [ih, or_assoc]

lemma mem_foldl_inter {sets : List (TokenSet α)} {s : TokenSet α} {e : α} :
    e ∈ sets.foldl (· ∩ ·) s ↔ e ∈ s ∧ ∀ x ∈ sets, e ∈ x := by
  induction sets generalizing s with
  | nil => simp
  | cons x sets ih => simp [ih, and_assoc]

lemma mem_combine_union {sets : List (TokenSet α)} {identity : TokenSet α} {e : α} :
    e ∈ Meet.union.combine sets identity ↔ ∃ x ∈ sets, e ∈ x := by
  simp [Meet.combine, mem_foldl_union]

lemma mem_combine_intersection {sets : List (TokenSet α)} {identity : TokenSet α} {e : α}
    (h : sets ≠ []) : e ∈ Meet.intersection.combine sets identity ↔ ∀ x ∈ sets, e ∈ x := by
  cases sets with
  | nil => exact absurd rfl h
  | cons x sets => simp [Meet.combine, mem_foldl_inter]

lemma mem_of_mem_combine {m : Meet} {sets : List (TokenSet α)} {identity : TokenSet α} {e : α}
    (h : e ∈ m.combine sets identity) : e ∈ identity ∨ ∃ x ∈ sets, e ∈ x := by
  cases m with
  | union => exact Or.inr (mem_combine_union.mp h)
  | intersection =>
    cases sets with
    | nil => exact Or.inl h
    | cons x sets =>
      have hx := (mem_combine_intersection (List.cons_ne_nil x sets)).mp h x List.mem_cons_self
      exact Or.inr ⟨x, List.mem_cons_self, hx⟩

lemma mem_transfer {s : Sets α} {taken : TokenSet α} {e : α} :
    e ∈ transfer s taken ↔ e ∈ s.gen ∨ e ∈ taken ∧ e ∉ s.kill := by
  simp [transfer]

end Meet

namespace Direction

def Precedes (d : Direction) (m n : Int) : Prop :=
  match d with
  | forward => m < n
  | backward => n < m

instance (d : Direction) (m n : Int) : Decidable (d.Precedes m n) :=
  match d with
  | forward => inferInstanceAs (Decidable (m < n))
  | backward => inferInstanceAs (Decidable (n < m))

lemma Precedes.asymm {d : Direction} {m n : Int} (h : d.Precedes m n) : ¬ d.Precedes n m := by
  cases d <;> simp only [Precedes] at h ⊢ <;> omega

lemma Precedes.irrefl {d : Direction} {n : Int} : ¬ d.Precedes n n := by
  cases d <;> simp [Precedes]

lemma order_pairwise (d : Direction) (g : Graph) : (d.order g).Pairwise d.Precedes := by
  cases d with
  | forward => exact g.nodeIds_pairwise
  | backward => exact List.pairwise_reverse.mpr g.nodeIds_pairwise

lemma mem_order {d : Direction} {g : Graph} {n : NodeId} : n ∈ d.order g ↔ n ∈ g.nodeIds := by
  cases d <;> simp [order]

lemma mem_nodeIds_of_source {d : Direction} {g : Graph} (hg : g.Wired) {m n : NodeId}
    (h : m ∈ d.sources g n) : m ∈ g.nodeIds ∧ n ∈ g.nodeIds := by
  cases d with
  | forward => exact hg _ (Graph.mem_predecessors.mp h)
  | backward => exact (hg _ (Graph.mem_successors.mp h)).symm

variable (d : Direction) (s : Sets α) (x y : TokenSet α)

omit [Std.TransOrd α]

@[simp] lemma taken_put : d.taken (d.put s x y) = x := by cases d <;> rfl

@[simp] lemma passed_put : d.passed (d.put s x y) = y := by cases d <;> rfl

@[simp] lemma gen_put : (d.put s x y).gen = s.gen := by cases d <;> rfl

@[simp] lemma kill_put : (d.put s x y).kill = s.kill := by cases d <;> rfl

@[simp] lemma taken_seedSets : d.taken (Store.seedSets x s) = x := by cases d <;> rfl

@[simp] lemma passed_seedSets : d.passed (Store.seedSets x s) = x := by cases d <;> rfl

lemma sets_ext {s t : Sets α} (hg : s.gen = t.gen) (hk : s.kill = t.kill)
    (ht : d.taken s = d.taken t) (hp : d.passed s = d.passed t) : s = t := by
  cases d with
  | forward => exact Sets.ext hg hk ht hp
  | backward => exact Sets.ext hg hk hp ht

end Direction

namespace Store

omit [Std.TransOrd α]

lemma getElem?_insert (s : Store α) (n m : NodeId) (new : Sets α) :
    (s.insert n new)[m]? = if n = m then some new else s[m]? := by
  simp only [Std.ExtTreeMap.getElem?_insert, Std.LawfulEqCmp.compare_eq_iff_eq]

lemma sets_update (s : Store α) (n m : NodeId) (f : Sets α → Sets α) :
    (s.update n f).sets m = if n = m then f (s.sets n) else s.sets m :=
  sets_insert s n m _

@[simp] lemma sets_ofIds (ids : List NodeId) (n : NodeId) : (ofIds ids : Store α).sets n = {} := by
  have hfold : ∀ (l : List NodeId) (s : Store α), s.sets n = {} →
      (l.foldl (fun s n => s.insert n {}) s).sets n = {} := by
    intro l
    induction l with
    | nil => exact fun s h => h
    | cons m l ih =>
      intro s h
      apply ih
      rw [sets_insert, h, ite_self]
  exact hfold ids ∅ (by simp [sets])

lemma getElem?_seed (s : Store α) (value : TokenSet α) (ids : List NodeId) (n : NodeId) :
    (s.seed value ids)[n]? = if n ∈ ids then some (seedSets value (s.sets n)) else s[n]? := by
  induction ids generalizing s with
  | nil => rfl
  | cons m ids ih =>
    refine (ih (s.update m (seedSets value))).trans ?_
    rw [update, getElem?_insert, sets_insert]
    by_cases hm : m = n
    · subst hm
      simp [seedSets]
    · simp [hm, Ne.symm hm]

lemma sets_seed (s : Store α) (value : TokenSet α) (ids : List NodeId) (n : NodeId) :
    (s.seed value ids).sets n = if n ∈ ids then seedSets value (s.sets n) else s.sets n := by
  rw [sets, getElem?_seed]
  split <;> rfl

lemma sets_seedAll (s : Store α) (value : TokenSet α) (n : NodeId) :
    (s.seedAll value).sets n = if n ∈ s then seedSets value (s.sets n) else s.sets n := by
  simp only [seedAll, sets, Std.ExtTreeMap.getElem?_map]
  by_cases hn : n ∈ s <;> simp [hn]

end Store

namespace Problem

variable {p : Problem α} {g : Graph}

def met (p : Problem α) (g : Graph) (passed : NodeId → TokenSet α) (old : TokenSet α)
    (n : NodeId) : TokenSet α :=
  if p.direction.boundaryNode? g = some n then p.boundary
  else p.meet.combine ((p.direction.sources g n).map passed) old

def seen (p : Problem α) (s t : Store α) (n m : NodeId) : TokenSet α :=
  p.direction.passed (if p.direction.Precedes m n then t.sets m else s.sets m)

lemma sets_visit (p : Problem α) (g : Graph) (s : Store α) (n m : NodeId) :
    (p.visit g s n).sets m =
      if n = m then p.direction.put (s.sets n) (p.takenAt g s n)
        (transfer (s.sets n) (p.takenAt g s n))
      else s.sets m :=
  Store.sets_insert s n m _

lemma sets_visits_of_notMem {l : List NodeId} {n : NodeId} (h : n ∉ l) (s : Store α) :
    (l.foldl (p.visit g) s).sets n = s.sets n := by
  induction l generalizing s with
  | nil => rfl
  | cons m l ih =>
    rw [List.mem_cons, not_or] at h
    rw [List.foldl_cons, ih h.2, sets_visit, if_neg (Ne.symm h.1)]

lemma sets_visits_of_mem {l : List NodeId} (hl : l.Pairwise p.direction.Precedes) {n : NodeId}
    (hn : n ∈ l) {s t : Store α} (ht : l.foldl (p.visit g) s = t) {x : TokenSet α}
    (hx : x = p.met g (p.seen s t n) (p.direction.taken (s.sets n)) n) :
    t.sets n = p.direction.put (s.sets n) x (transfer (s.sets n) x) := by
  obtain ⟨earlier, later, rfl⟩ := List.append_of_mem hn
  obtain ⟨-, hlater, hcross⟩ := List.pairwise_append.mp hl
  have hself : n ∉ earlier := fun h =>
    Direction.Precedes.irrefl (hcross n h n List.mem_cons_self)
  have hbehind : n ∉ later := fun h =>
    Direction.Precedes.irrefl (List.rel_of_pairwise_cons hlater h)
  let mid := earlier.foldl (p.visit g) s
  have hfold : later.foldl (p.visit g) (p.visit g mid n) = t := by
    rw [← ht, List.foldl_append, List.foldl_cons]
  have hsets : mid.sets n = s.sets n := sets_visits_of_notMem hself s
  -- when its turn comes, exactly the nodes before `n` have been visited
  have hmid : ∀ m, mid.sets m = if p.direction.Precedes m n then t.sets m else s.sets m := by
    intro m
    by_cases hm : m ∈ earlier
    · have hmn : m ≠ n := fun h => hself (h ▸ hm)
      have hml : m ∉ later := fun h =>
        Direction.Precedes.irrefl (hcross m hm m (List.mem_cons_of_mem n h))
      rw [if_pos (hcross m hm n List.mem_cons_self), ← hfold, sets_visits_of_notMem hml, sets_visit,
        if_neg hmn.symm]
    · have hms : mid.sets m = s.sets m := sets_visits_of_notMem hm s
      split
      case isFalse => exact hms
      case isTrue hpre =>
        have hmn : m ≠ n := fun h => Direction.Precedes.irrefl (h ▸ hpre)
        have hml : m ∉ later := fun h => hpre.asymm (List.rel_of_pairwise_cons hlater h)
        rw [← hfold, sets_visits_of_notMem hml, sets_visit, if_neg hmn.symm, hms]
  have hseen : p.seen s t n = fun m => p.direction.passed (mid.sets m) := by
    funext m
    rw [seen, hmid]
  have htaken : p.takenAt g mid n = x := by
    rw [hx, hseen, takenAt, met, hsets]
  rw [← hfold, sets_visits_of_notMem hbehind, sets_visit, if_pos rfl, hsets, htaken]

lemma sets_pass_of_notMem {n : NodeId} (hn : n ∉ g.nodeIds) (s : Store α) :
    (p.pass g s).sets n = s.sets n :=
  sets_visits_of_notMem (mt Direction.mem_order.mp hn) s

lemma sets_pass {n : NodeId} (hn : n ∈ g.nodeIds) (s : Store α) :
    (p.pass g s).sets n = p.direction.put (s.sets n)
      (p.met g (p.seen s (p.pass g s) n) (p.direction.taken (s.sets n)) n)
      (transfer (s.sets n)
        (p.met g (p.seen s (p.pass g s) n) (p.direction.taken (s.sets n)) n)) :=
  sets_visits_of_mem (p.direction.order_pairwise g) (Direction.mem_order.mpr hn) rfl rfl

lemma taken_pass {n : NodeId} (hn : n ∈ g.nodeIds) (s : Store α) :
    p.direction.taken ((p.pass g s).sets n) =
      p.met g (p.seen s (p.pass g s) n) (p.direction.taken (s.sets n)) n := by
  rw [sets_pass hn, Direction.taken_put]

lemma passed_pass {n : NodeId} (hn : n ∈ g.nodeIds) (s : Store α) :
    p.direction.passed ((p.pass g s).sets n) =
      transfer (s.sets n) (p.direction.taken ((p.pass g s).sets n)) := by
  rw [sets_pass hn, Direction.passed_put, Direction.taken_put]

@[simp] lemma gen_pass (s : Store α) (n : NodeId) :
    ((p.pass g s).sets n).gen = (s.sets n).gen := by
  by_cases hn : n ∈ g.nodeIds
  · rw [sets_pass hn, Direction.gen_put]
  · rw [sets_pass_of_notMem hn]

@[simp] lemma kill_pass (s : Store α) (n : NodeId) :
    ((p.pass g s).sets n).kill = (s.sets n).kill := by
  by_cases hn : n ∈ g.nodeIds
  · rw [sets_pass hn, Direction.kill_put]
  · rw [sets_pass_of_notMem hn]

lemma met_congr {passed passed' : NodeId → TokenSet α} {n : NodeId}
    (h : ∀ m ∈ p.direction.sources g n, passed m = passed' m) (old : TokenSet α) :
    p.met g passed old n = p.met g passed' old n := by
  unfold met
  rw [List.map_congr_left h]

lemma sets_pass_congr {s t : Store α} (h : ∀ n, s.sets n = t.sets n) (n : NodeId) :
    (p.pass g s).sets n = (p.pass g t).sets n := by
  have hvisits : ∀ (l : List NodeId) (s t : Store α), s.sets = t.sets →
      (l.foldl (p.visit g) s).sets = (l.foldl (p.visit g) t).sets := by
    intro l
    induction l with
    | nil => exact fun s t h => h
    | cons m l ih =>
      intro s t h
      apply ih
      funext n
      simp only [sets_visit, takenAt, h]
  exact congrFun (hvisits _ s t (funext h)) n

end Problem

end GenKill.Flow
