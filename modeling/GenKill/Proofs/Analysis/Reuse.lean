import GenKill.Proofs.Analysis.Greatest
import GenKill.Proofs.Analysis.SomePath

/-! Hints that a value can be used again. Every path computes the expression, and up to there no
statement in between writes one of its variables. The statement at the far end of that stretch may
do so itself, and then the value is out of date. -/

namespace GenKill

open GenKill.Flow

section Makers

variable {α : Type} [Ord α] [Std.TransOrd α] {p : Problem α} {g : Graph} {s : Store α} {x : Flows α}
variable {e : α}

lemma Flow.Problem.Solves.exists_maker (hp : p.meet = .intersection) (hg : g.Wired)
    (hx : p.Solves g s x) (he : e ∉ p.boundary) {before : List NodeId} {n : NodeId}
    (hchain : (before ++ [n]).IsChain (p.direction.Edge g))
    (hhead : (before ++ [n]).head? = p.direction.boundaryNode? g) (hmem : e ∈ x.taken n) :
    ∃ pre m rest, before = pre ++ m :: rest ∧ e ∈ (s.sets m).gen ∧
      ∀ y ∈ rest, e ∉ (s.sets y).gen ∧ e ∉ (s.sets y).kill := by
  induction before using List.reverseRecOn generalizing n with
  | nil =>
    have hb : p.direction.boundaryNode? g = some n := hhead.symm
    rw [hx.taken_boundary (Direction.boundaryNode?_mem hb) hb] at hmem
    exact absurd hmem he
  | append_singleton before m ih =>
    rw [List.append_assoc, List.singleton_append] at hchain hhead
    obtain ⟨hm, hmn⟩ := List.isChain_split.mp hchain
    have hedge : p.direction.Edge g m n := by simpa using hmn
    obtain ⟨hmg, hng⟩ := Direction.mem_nodeIds_of_source hg hedge
    have hb : p.direction.boundaryNode? g ≠ some n := by
      intro hb
      rw [hx.taken_boundary hng hb] at hmem
      exact he hmem
    have hpassed := (hx.mem_taken hp hng hb (List.ne_nil_of_mem hedge)).mp hmem m hedge
    by_cases hgen : e ∈ (s.sets m).gen
    · exact ⟨before, m, [], rfl, hgen, by simp⟩
    · obtain ⟨htaken, hkill⟩ := ((hx.mem_passed hmg).mp hpassed).resolve_left hgen
      have hh : (before ++ [m]).head? = p.direction.boundaryNode? g := by
        rw [← hhead]
        cases before <;> rfl
      obtain ⟨pre, k, rest, rfl, hk, hrest⟩ := ih hm hh htaken
      refine ⟨pre, k, rest ++ [m], by simp, hk, ?_⟩
      intro y hy
      rcases List.mem_append.mp hy with hy | hy
      · exact hrest y hy
      · rw [List.mem_singleton.mp hy]
        exact ⟨hgen, hkill⟩

end Makers

namespace Graph

variable {g : Graph} {facts : FactTable} {text : String}

def Computes (g : Graph) (facts : FactTable) (text : String) (n : NodeId) : Prop :=
  ∃ s, g.node? n = some (.statement s) ∧ text ∈ (facts.fact n).expressions

def Spoils (g : Graph) (facts : FactTable) (text : String) (n : NodeId) : Prop :=
  ∃ v, g.Writes facts v n ∧ (Token.expr text).mentions v = true

def FromEntry (g : Graph) (before : List NodeId) (n : NodeId) : Prop :=
  g.IsPath (before ++ [n]) ∧ (before ++ [n]).head? = some entryId

def ToExit (g : Graph) (n : NodeId) (behind : List NodeId) : Prop :=
  g.IsPath (n :: behind) ∧ (n :: behind).getLast? = g.exitId?

/-- A node of the path computes the expression, and neither it nor a later one spoils it. -/
def Offers (g : Graph) (facts : FactTable) (text : String) (path : List NodeId) : Prop :=
  ∃ pre m rest, path = pre ++ m :: rest ∧ g.Computes facts text m ∧
    ∀ x ∈ m :: rest, ¬ g.Spoils facts text x

/-- A node of the path computes the expression again, before its end and before a node spoils it. -/
def Repeats (g : Graph) (facts : FactTable) (text : String) (n : NodeId) (behind : List NodeId) :
    Prop :=
  ∃ pre m rest, behind = pre ++ m :: rest ∧ rest ≠ [] ∧ g.Computes facts text m ∧
    ∀ x ∈ n :: pre, ¬ g.Spoils facts text x

lemma not_offers_of_spoils (pre rest : List NodeId) {m : NodeId} (hm : g.Spoils facts text m)
    (hrest : ∀ x ∈ rest, ¬ g.Computes facts text x) :
    ¬ g.Offers facts text (pre ++ m :: rest) := by
  rintro ⟨pre', m', rest', heq, hcomputes, hclear⟩
  refine hclear m ?_ hm
  rcases List.append_eq_append_iff.mp heq with ⟨mid, -, hmid⟩ | ⟨mid, -, hmid⟩
  · cases mid with
    | nil =>
      obtain ⟨rfl, -⟩ := List.cons.inj hmid
      exact List.mem_cons_self
    | cons y mid =>
      obtain ⟨-, rfl⟩ := List.cons.inj hmid
      exact absurd hcomputes (hrest m' (by simp))
  · rw [hmid]
    simp

end Graph

namespace Issue

lemma redundant_injective : Function.Injective redundant := by
  intro s t h
  have hm := congrArg Issue.message h
  simp only [redundant, String.append_left_inj, String.append_right_inj] at hm
  exact hm

lemma hoistable_injective : Function.Injective hoistable := by
  intro s t h
  have hm := congrArg Issue.message h
  simp only [hoistable, String.append_left_inj, String.append_right_inj] at hm
  exact hm

lemma redundant_mem_ofAvailable {f : Fact} {before : TokenSet Token} {text : String} :
    redundant text ∈ ofAvailable f before ↔ text ∈ f.expressions ∧ Token.expr text ∈ before := by
  rw [ofAvailable, List.mem_map_of_injective redundant_injective, List.mem_filter]
  simp

lemma hoistable_mem_ofBusy {f : Fact} {after : TokenSet Token} {text : String} :
    hoistable text ∈ ofBusy f after ↔ text ∈ f.expressions ∧ Token.expr text ∈ after := by
  rw [ofBusy, List.mem_map_of_injective hoistable_injective, List.mem_filter]
  simp

end Issue

namespace Analysis

variable {a : Analysis} {g : Graph} {facts : FactTable} {cap : ℕ} {n : NodeId} {text : String}

lemma expr_mem_gen (ha : a.meet = .intersection) :
    Token.expr text ∈ ((a.prepared g facts).sets n).gen ↔ g.Computes facts text n := by
  rw [mem_gen_of_intersection ha]
  simp [Graph.Computes]

lemma expr_mem_kill (ha : a.meet = .intersection) (ht : Token.expr text ∈ expressions facts) :
    Token.expr text ∈ ((a.prepared g facts).sets n).kill ↔ g.Spoils facts text n := by
  rw [mem_kill_of_intersection ha]
  simp only [ht, true_and]
  constructor
  · rintro ⟨s, v, hs, hv, hm⟩
    exact ⟨v, ⟨s, hs, hv⟩, hm⟩
  · rintro ⟨v, ⟨s, hs, hv⟩, hm⟩
    exact ⟨s, v, hs, hv, hm⟩

lemma boundary_empty (a : Analysis) : (a.problem .empty facts).boundary = ∅ := by
  change a.boundary .empty _ = ∅
  unfold boundary
  cases a.meet <;> rfl

lemma exists_last_computes (ha : a.meet = .intersection) (hg : g.Built)
    (hc : (a.solve .empty cap g facts).convergence.converged = true) {before : List NodeId}
    (hchain : (before ++ [n]).IsChain (a.direction.Edge g))
    (hhead : (before ++ [n]).head? = a.direction.boundaryNode? g)
    (hmem : Token.expr text ∈ a.direction.taken ((a.solve .empty cap g facts).store.sets n)) :
    ∃ pre m rest, before = pre ++ m :: rest ∧ g.Computes facts text m ∧
      ∀ x ∈ rest, ¬ g.Computes facts text x ∧ ¬ g.Spoils facts text x := by
  have hsolves := Problem.solves_of_converged (p := a.problem .empty facts) hc
  obtain ⟨pre, m, rest, hsplit, hgen, hrest⟩ := hsolves.exists_maker ha hg.wired
    (by simp [boundary_empty]) hchain hhead hmem
  have hm : g.Computes facts text m := (expr_mem_gen ha).mp hgen
  have ht : Token.expr text ∈ expressions facts := by
    obtain ⟨s, -, hx⟩ := hm
    exact mem_expressions.mpr ⟨text, m, hx, rfl⟩
  refine ⟨pre, m, rest, hsplit, hm, fun x hx => ?_⟩
  rw [← expr_mem_gen ha, ← expr_mem_kill ha ht]
  exact hrest x hx

def Hints (a : Analysis) (cap : ℕ) (g : Graph) (facts : FactTable) (n : NodeId) (i : Issue) : Prop :=
  ∃ r ∈ (a.result true g facts (a.solve .empty cap g facts)).records, r.nodeId = n ∧ i ∈ r.issues

lemma hints_redundant : available.Hints cap g facts n (.redundant text) ↔ g.Computes facts text n ∧
    Token.expr text ∈ ((available.solve .empty cap g facts).store.sets n).before := by
  rw [Hints, exists_record_iff, Graph.Computes, exists_and_right]
  simp only [record, issues, if_true, Issue.redundant_mem_ofAvailable, exists_and_right, and_assoc]

lemma hints_hoistable : busy.Hints cap g facts n (.hoistable text) ↔ g.Computes facts text n ∧
    Token.expr text ∈ ((busy.solve .empty cap g facts).store.sets n).after := by
  rw [Hints, exists_record_iff, Graph.Computes, exists_and_right]
  simp only [record, issues, if_true, Issue.hoistable_mem_ofBusy, exists_and_right, and_assoc]

section Sums

def twoSums (first : String) : Graph where
  statements := [⟨first ++ " = a + b;", 1⟩, ⟨"c = a + b;", 2⟩]
  closed := true
  edges := [(0, 1), (1, 2), (2, 3)]

def twoSumsFacts (first : String) : FactTable where
  entries :=
    [(1, { kind := .assign, defined := some first, used := ["a", "b"], expressions := ["a + b"] }),
      (2, { kind := .assign, defined := some "c", used := ["a", "b"], expressions := ["a + b"] })]

lemma twoSums_built (first : String) : (twoSums first).Built := by
  have hopen : Graph.Built { statements := (twoSums first).statements, edges := [(0, 1), (1, 2)] } :=
    (Graph.Built.empty.statements rfl (twoSums first).statements).edges [(0, 1), (1, 2)] rfl
  exact hopen.close

lemma expressions_twoSums (first : String) :
    expressions (twoSumsFacts first) = .ofList [.expr "a + b"] := by
  have hkeys : (twoSumsFacts first).keys.mergeSort (· ≤ ·) = [1, 2] :=
    List.mergeSort_of_pairwise (l := [1, 2]) (by decide)
  have hall : (twoSumsFacts first).allExpressions = ["a + b"] := by
    rw [FactTable.allExpressions, hkeys]
    rfl
  rw [expressions, hall]
  rfl

lemma twoSums_runs : ∀ first ∈ ["a", "s"],
    ((available.solve .empty 100 (twoSums first) (twoSumsFacts first)).convergence.converged = true ∧
      Token.expr "a + b" ∈
        ((available.solve .empty 100 (twoSums first) (twoSumsFacts first)).store.sets 2).before) ∧
    (busy.solve .empty 100 (twoSums first) (twoSumsFacts first)).convergence.converged = true ∧
      Token.expr "a + b" ∈
        ((busy.solve .empty 100 (twoSums first) (twoSumsFacts first)).store.sets 1).after := by
  simp only [fun first => solve_of_expressions (a := available) rfl .empty (expressions_twoSums first),
    fun first => solve_of_expressions (a := busy) rfl .empty (expressions_twoSums first)]
  decide +kernel

lemma twoSums_redundant : ∀ first ∈ ["a", "s"],
    (available.solve .empty 100 (twoSums first) (twoSumsFacts first)).convergence.converged = true ∧
    available.Hints 100 (twoSums first) (twoSumsFacts first) 2 (.redundant "a + b") := by
  intro first hf
  obtain ⟨⟨hc, hsum⟩, -⟩ := twoSums_runs first hf
  exact ⟨hc, hints_redundant.mpr ⟨⟨_, rfl, List.mem_cons_self⟩, hsum⟩⟩

lemma twoSums_hoistable : ∀ first ∈ ["a", "s"],
    (busy.solve .empty 100 (twoSums first) (twoSumsFacts first)).convergence.converged = true ∧
    busy.Hints 100 (twoSums first) (twoSumsFacts first) 1 (.hoistable "a + b") := by
  intro first hf
  obtain ⟨-, hc, hsum⟩ := twoSums_runs first hf
  exact ⟨hc, hints_hoistable.mpr ⟨⟨_, rfl, List.mem_cons_self⟩, hsum⟩⟩

lemma twoSums_toExit (first : String) : (twoSums first).ToExit 1 [2, 3] :=
  ⟨by simp [Graph.IsPath, twoSums], rfl⟩

lemma twoSums_spoils : (twoSums "a").Spoils (twoSumsFacts "a") "a + b" 1 :=
  ⟨"a", ⟨_, rfl, by decide⟩, by decide⟩

lemma twoSums_not_spoils (n : NodeId) : ¬ (twoSums "s").Spoils (twoSumsFacts "s") "a + b" n := by
  rintro ⟨v, ⟨s, hs, hv⟩, hm⟩
  obtain ⟨k, rfl, hk⟩ := Graph.node?_eq_statement.mp hs
  match k with
  | 0 =>
    obtain rfl : "s" = v := Option.some.inj (Option.filter_eq_some_iff.mp hv).1
    exact absurd hm (by decide)
  | 1 =>
    obtain rfl : "c" = v := Option.some.inj (Option.filter_eq_some_iff.mp hv).1
    exact absurd hm (by decide)
  | k + 2 => cases hk

end Sums

/-- Before a computation that is called redundant, every path has computed the expression, and nothing
behind that has spoilt it. The value is still good on all paths exactly if none of these computations
spoils it itself. -/
theorem redundant_offers_iff (hg : g.Built) (facts : FactTable) (cap : ℕ)
    (hc : (available.solve .empty cap g facts).convergence.converged = true) {n : NodeId}
    {text : String} (hint : available.Hints cap g facts n (.redundant text)) :
    (∀ before, g.FromEntry before n → ∃ pre m rest, before = pre ++ m :: rest ∧
      g.Computes facts text m ∧ ∀ x ∈ rest, ¬ g.Spoils facts text x) ∧
    ((∀ before, g.FromEntry before n → g.Offers facts text before) ↔
      ¬ ∃ pre m rest, g.FromEntry (pre ++ m :: rest) n ∧ g.Computes facts text m ∧
        g.Spoils facts text m ∧ ∀ x ∈ rest, ¬ g.Computes facts text x) := by
  have hlast : ∀ before, g.FromEntry before n → ∃ pre m rest, before = pre ++ m :: rest ∧
      g.Computes facts text m ∧ ∀ x ∈ rest, ¬ g.Computes facts text x ∧ ¬ g.Spoils facts text x :=
    fun before hb => exists_last_computes (a := available) rfl hg hc
      (Graph.isChain_forward.mpr hb.1) hb.2 (hints_redundant.mp hint).2
  refine ⟨?_, ?_, ?_⟩
  · intro before hb
    obtain ⟨pre, m, rest, hsplit, hm, hrest⟩ := hlast before hb
    exact ⟨pre, m, rest, hsplit, hm, fun x hx => (hrest x hx).2⟩
  · rintro hall ⟨pre, m, rest, hb, -, hspoils, hrest⟩
    exact Graph.not_offers_of_spoils pre rest hspoils hrest (hall _ hb)
  · intro hnone before hb
    obtain ⟨pre, m, rest, rfl, hm, hrest⟩ := hlast before hb
    refine ⟨pre, m, rest, rfl, hm, List.forall_mem_cons.mpr ⟨?_, fun x hx => (hrest x hx).2⟩⟩
    intro hspoils
    exact hnone ⟨pre, m, rest, hb, hm, hspoils, fun x hx => (hrest x hx).1⟩

theorem fresh_sum_redundant :
    available.Hints 100 (twoSums "s") (twoSumsFacts "s") 2 (.redundant "a + b") ∧
    ∀ before, (twoSums "s").FromEntry before 2 →
      (twoSums "s").Offers (twoSumsFacts "s") "a + b" before := by
  obtain ⟨hc, hint⟩ := twoSums_redundant "s" (by decide)
  refine ⟨hint, ?_⟩
  apply (redundant_offers_iff (twoSums_built "s") (twoSumsFacts "s") 100 hc hint).2.mpr
  rintro ⟨pre, m, rest, -, -, hspoils, -⟩
  exact twoSums_not_spoils m hspoils

theorem stale_sum_redundant :
    (twoSums "a").Built ∧
    (available.solve .empty 100 (twoSums "a") (twoSumsFacts "a")).convergence.converged = true ∧
    available.Hints 100 (twoSums "a") (twoSumsFacts "a") 2 (.redundant "a + b") ∧
    (twoSums "a").FromEntry [0, 1] 2 ∧
    ¬ (twoSums "a").Offers (twoSumsFacts "a") "a + b" [0, 1] := by
  obtain ⟨hc, hint⟩ := twoSums_redundant "a" (by decide)
  refine ⟨twoSums_built "a", hc, hint, ⟨by simp [Graph.IsPath, twoSums], rfl⟩, ?_⟩
  exact Graph.not_offers_of_spoils [0] [] twoSums_spoils (by simp)

/-- Behind a computation that is called hoistable, every path computes the expression again before
anything in between spoils it. The later computations can use the value exactly if the statement does
not spoil it itself. -/
theorem hoistable_repeats_iff (hg : g.Built) (facts : FactTable) (cap : ℕ)
    (hc : (busy.solve .empty cap g facts).convergence.converged = true) {n : NodeId} {text : String}
    (hint : busy.Hints cap g facts n (.hoistable text)) (hexit : ∃ behind, g.ToExit n behind) :
    (∀ behind, g.ToExit n behind → ∃ pre m rest, behind = pre ++ m :: rest ∧ rest ≠ [] ∧
      g.Computes facts text m ∧ ∀ x ∈ pre, ¬ g.Spoils facts text x) ∧
    ((∀ behind, g.ToExit n behind → g.Repeats facts text n behind) ↔
      ¬ g.Spoils facts text n) := by
  have hnext : ∀ behind, g.ToExit n behind → ∃ pre m rest, behind = pre ++ m :: rest ∧ rest ≠ [] ∧
      g.Computes facts text m ∧ ∀ x ∈ pre, ¬ g.Spoils facts text x := by
    rintro behind ⟨hpath, hlast⟩
    have hchain : (behind.reverse ++ [n]).IsChain (Direction.backward.Edge g) := by
      apply Graph.isChain_backward.mpr
      simpa using hpath
    have hhead : (behind.reverse ++ [n]).head? = g.exitId? := by
      rw [← List.reverse_cons, List.head?_reverse, hlast]
    obtain ⟨pre, m, rest, hsplit, hm, hrest⟩ := exists_last_computes (a := busy) rfl hg hc hchain
      hhead (hints_hoistable.mp hint).2
    have hbehind : behind = rest.reverse ++ m :: pre.reverse := by
      rw [← List.reverse_inj, hsplit]
      simp
    refine ⟨rest.reverse, m, pre.reverse, hbehind, ?_, hm, ?_⟩
    · intro hnil
      obtain ⟨t, ht, -⟩ := hm
      apply Graph.statement_ne_exit ht
      rw [← hlast, hbehind, hnil, ← List.cons_append, List.getLast?_concat]
    · exact fun x hx => (hrest x (List.mem_reverse.mp hx)).2
  refine ⟨hnext, ?_, ?_⟩
  · intro hall
    obtain ⟨behind, hb⟩ := hexit
    obtain ⟨pre, m, rest, -, -, -, hclear⟩ := hall behind hb
    exact hclear n List.mem_cons_self
  · intro hn behind hb
    obtain ⟨pre, m, rest, hsplit, hne, hm, hclear⟩ := hnext behind hb
    exact ⟨pre, m, rest, hsplit, hne, hm, List.forall_mem_cons.mpr ⟨hn, hclear⟩⟩

theorem fresh_sum_hoistable :
    busy.Hints 100 (twoSums "s") (twoSumsFacts "s") 1 (.hoistable "a + b") ∧
    ∀ behind, (twoSums "s").ToExit 1 behind →
      (twoSums "s").Repeats (twoSumsFacts "s") "a + b" 1 behind := by
  obtain ⟨hc, hint⟩ := twoSums_hoistable "s" (by decide)
  refine ⟨hint, ?_⟩
  apply (hoistable_repeats_iff (twoSums_built "s") (twoSumsFacts "s") 100 hc hint
    ⟨[2, 3], twoSums_toExit "s"⟩).2.mpr
  exact twoSums_not_spoils 1

theorem stale_sum_hoistable :
    (twoSums "a").Built ∧ (twoSums "a").closed = true ∧
    (busy.solve .empty 100 (twoSums "a") (twoSumsFacts "a")).convergence.converged = true ∧
    busy.Hints 100 (twoSums "a") (twoSumsFacts "a") 1 (.hoistable "a + b") ∧
    (twoSums "a").ToExit 1 [2, 3] ∧
    ¬ (twoSums "a").Repeats (twoSumsFacts "a") "a + b" 1 [2, 3] := by
  obtain ⟨hc, hint⟩ := twoSums_hoistable "a" (by decide)
  refine ⟨twoSums_built "a", rfl, hc, hint, twoSums_toExit "a", ?_⟩
  rintro ⟨pre, m, rest, -, -, -, hclear⟩
  exact hclear 1 List.mem_cons_self twoSums_spoils

end Analysis

end GenKill
