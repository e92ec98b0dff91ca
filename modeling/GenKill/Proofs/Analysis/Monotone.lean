import GenKill.Proofs.Analysis.Issue
import GenKill.Proofs.Analysis.Reuse
import GenKill.Proofs.Flow.Monotone

/-! How results change with the value at the open end and with the cap on the passes. Hints and multiple
definitions come with larger sets, while a warning says that something is missing from them. -/

namespace GenKill

open GenKill.Flow

def Result.Reports (r : Result) (n : NodeId) (i : Issue) : Prop :=
  ∃ record ∈ r.records, record.nodeId = n ∧ i ∈ record.issues

instance (r : Result) (n : NodeId) (i : Issue) : Decidable (r.Reports n i) :=
  inferInstanceAs (Decidable (∃ record ∈ r.records, record.nodeId = n ∧ i ∈ record.issues))

namespace Issue

variable {f : Fact} {x y : TokenSet Token}

lemma mem_ofAvailable {i : Issue} : i ∈ ofAvailable f x ↔
    ∃ text ∈ f.expressions, Token.expr text ∈ x ∧ redundant text = i := by
  simp only [ofAvailable, List.mem_map, List.mem_filter, Std.ExtTreeSet.contains_iff_mem, and_assoc]

lemma mem_ofBusy {i : Issue} : i ∈ ofBusy f x ↔
    ∃ text ∈ f.expressions, Token.expr text ∈ x ∧ hoistable text = i := by
  simp only [ofBusy, List.mem_map, List.mem_filter, Std.ExtTreeSet.contains_iff_mem, and_assoc]

lemma one_lt_length_definitionsOf {v : String} :
    1 < (definitionsOf v x).length ↔
      ∃ l m, Token.site v l ∈ x ∧ Token.site v m ∈ x ∧ l ≠ m := by
  constructor
  · intro hlen
    by_contra hno
    push Not at hno
    exact absurd (length_definitionsOf_le_one hno) (Nat.not_le.mpr hlen)
  · rintro ⟨l, m, hl, hm, hne⟩
    by_contra hlen
    have hmem : ∀ line, Token.site v line ∈ x → Token.site v line ∈ definitionsOf v x :=
      fun line h => mem_definitionsOf.mpr ⟨line, rfl, h⟩
    obtain ⟨d, hd⟩ := List.length_eq_one_iff.mp
      (Nat.le_antisymm (Nat.not_lt.mp hlen) (List.length_pos_of_mem (hmem l hl)))
    have hl' := hmem l hl
    have hm' := hmem m hm
    rw [hd, List.mem_singleton] at hl' hm'
    exact hne (Token.site.inj (hl'.trans hm'.symm)).2

end Issue

namespace Analysis

variable {a : Analysis} {g : Graph} {facts : FactTable} {hints : Bool} {n : NodeId} {i : Issue}

lemma reports_result {run : Run Token} : (a.result hints g facts run).Reports n i ↔
    (∃ s, g.node? n = some (.statement s)) ∧
      i ∈ a.issues hints (facts.fact n) (run.store.sets n) := by
  rw [Result.Reports, exists_record_iff, ← exists_and_right]
  rfl

section Sets

variable {f : Fact} {x y : Sets Token} (h : x.Below y)

include h

lemma hint_of_below (ha : a.meet = .intersection) (hi : i ∈ a.issues hints f x) :
    i ∈ a.issues hints f y := by
  cases a with
  | reaching => cases ha
  | live => cases ha
  | available =>
    cases hints with
    | false => exact hi
    | true =>
      obtain ⟨text, htext, hx, rfl⟩ := Issue.mem_ofAvailable.mp hi
      exact Issue.mem_ofAvailable.mpr ⟨text, htext, h.before _ hx, rfl⟩
  | busy =>
    cases hints with
    | false => exact hi
    | true =>
      obtain ⟨text, htext, hx, rfl⟩ := Issue.mem_ofBusy.mp hi
      exact Issue.mem_ofBusy.mpr ⟨text, htext, h.after _ hx, rfl⟩

lemma uninitialized_of_below (hi : i ∈ a.issues hints f y) (hcode : i.code = "uninitialized-use") :
    i ∈ a.issues hints f x := by
  obtain rfl : a = reaching := eq_of_code hi (by simp [codes, hcode])
  simp only [issues, Issue.ofReaching, List.mem_append, Issue.mem_atUse,
    Issue.mem_atDefinition] at hi ⊢
  rcases hi with ⟨v, hv, hno, rfl⟩ | ⟨v, -, -, rfl⟩
  · exact Or.inl ⟨v, hv, fun line hx => hno line (h.before _ hx), rfl⟩
  · exact absurd hcode (by simp [Issue.multiplyDefined])

lemma deadStore_of_below (hi : i ∈ a.issues hints f y) (hcode : i.code = "dead-store") :
    i ∈ a.issues hints f x := by
  obtain rfl : a = live := eq_of_code hi (by simp [codes, hcode])
  obtain ⟨v, hv, hno, rfl⟩ := Issue.mem_ofLive.mp hi
  exact Issue.mem_ofLive.mpr ⟨v, hv, fun hx => hno (h.after _ hx), rfl⟩

lemma multiplyDefined_of_below (hi : i ∈ a.issues hints f x)
    (hcode : i.code = "multiple-definitions") : i ∈ a.issues hints f y := by
  obtain rfl : a = reaching := eq_of_code hi (by simp [codes, hcode])
  simp only [issues, Issue.ofReaching, List.mem_append, Issue.mem_atUse, Issue.mem_atDefinition,
    Issue.one_lt_length_definitionsOf] at hi ⊢
  rcases hi with ⟨v, -, -, rfl⟩ | ⟨v, hv, ⟨l, m, hl, hm, hne⟩, rfl⟩
  · exact absurd hcode (by simp [Issue.uninitialized])
  · exact Or.inr ⟨v, hv, ⟨l, m, h.before _ hl, h.before _ hm, hne⟩, rfl⟩

end Sets

lemma problem_universal (a : Analysis) (facts : FactTable) :
    (a.problem .empty facts).withBoundary (a.problem .universal facts).boundary =
      a.problem .universal facts := by
  cases a <;> rfl

lemma solve_empty_below (a : Analysis) (cap : ℕ) (g : Graph) (facts : FactTable) :
    (a.solve .empty cap g facts).store.Below (a.solve .universal cap g facts).store := by
  have hb : ∀ e ∈ (a.problem .empty facts).boundary, e ∈ (a.problem .universal facts).boundary := by
    have hempty : (a.problem .empty facts).boundary = ∅ := by cases a <;> rfl
    simp [hempty]
  rw [solve_eq, solve_eq, ← problem_universal]
  exact Problem.solve_withBoundary_mono hb cap _

theorem empty_boundary_finds_no_more (a : Analysis) (ha : a.meet = .intersection) (cap : ℕ)
    (g : Graph) (facts : FactTable) (hints : Bool) :
    (a.solve .empty cap g facts).store.Below (a.solve .universal cap g facts).store ∧
    ∀ n i, (a.result hints g facts (a.solve .empty cap g facts)).Reports n i →
      (a.result hints g facts (a.solve .universal cap g facts)).Reports n i := by
  have hbelow := solve_empty_below a cap g facts
  refine ⟨hbelow, fun n i hi => ?_⟩
  rw [reports_result] at hi ⊢
  exact ⟨hi.1, hint_of_below (hbelow n) ha hi.2⟩

theorem fresh_sum_redundant_universal :
    (available.result true (twoSums "s") (twoSumsFacts "s")
      (available.solve .empty 100 (twoSums "s") (twoSumsFacts "s"))).Reports 2
        (.redundant "a + b") ∧
    (available.result true (twoSums "s") (twoSumsFacts "s")
      (available.solve .universal 100 (twoSums "s") (twoSumsFacts "s"))).Reports 2
        (.redundant "a + b") := by
  have hint := (twoSums_redundant "s" (by simp)).2
  exact ⟨hint, (empty_boundary_finds_no_more available rfl 100 _ _ true).2 2 _ hint⟩

lemma prepared_below_pass (a : Analysis) (b : Boundary) (g : Graph) (facts : FactTable) :
    (a.prepared g facts).Below ((a.problem b facts).pass g (a.prepared g facts)) :=
  Problem.below_pass_of_empty (sides_prepared a g facts)

section Cap

variable (ha : a.meet = .union) (b : Boundary)

include ha

lemma solve_below_of_le {cap cap' : ℕ} (h : cap ≤ cap') :
    (a.solve b cap g facts).store.Below (a.solve b cap' g facts).store := by
  intro n
  rw [solve_eq, solve_eq, Problem.sets_solve, Problem.sets_solve, start_of_union ha]
  exact Problem.after_below_after (a.prepared_below_pass b g facts) h n

lemma isChain_trail (cap : ℕ) :
    ((a.solve b cap g facts).start :: (a.solve b cap g facts).trail).IsChain Store.Below := by
  change ((a.problem b facts).start g (a.prepared g facts) ::
    ((a.problem b facts).passes g cap
      ((a.problem b facts).start g (a.prepared g facts))).1).IsChain _
  rw [start_of_union ha]
  apply Problem.isChain_passes
  exact Problem.after_below_succ (a.prepared_below_pass b g facts)

end Cap

/-- An analysis over some path finds more with every pass. A lower cap can only add warnings, and only
take away that a variable is multiply defined. -/
theorem lower_cap_keeps_warnings (a : Analysis) (ha : a.meet = .union) (b : Boundary) (g : Graph)
    (facts : FactTable) (hints : Bool) (cap cap' : ℕ) (h : cap ≤ cap') :
    (a.solve b cap g facts).store.Below (a.solve b cap' g facts).store ∧
    ((a.solve b cap g facts).start :: (a.solve b cap g facts).trail).IsChain Store.Below ∧
    (∀ n i, i.code = "uninitialized-use" ∨ i.code = "dead-store" →
      (a.result hints g facts (a.solve b cap' g facts)).Reports n i →
      (a.result hints g facts (a.solve b cap g facts)).Reports n i) ∧
    ∀ n i, i.code = "multiple-definitions" →
      (a.result hints g facts (a.solve b cap g facts)).Reports n i →
      (a.result hints g facts (a.solve b cap' g facts)).Reports n i := by
  have hbelow : (a.solve b cap g facts).store.Below (a.solve b cap' g facts).store :=
    solve_below_of_le ha b h
  refine ⟨hbelow, isChain_trail ha b cap, ?_, ?_⟩
  · intro n i hcode hi
    rw [reports_result] at hi ⊢
    rcases hcode with hcode | hcode
    · exact ⟨hi.1, uninitialized_of_below (hbelow n) hi.2 hcode⟩
    · exact ⟨hi.1, deadStore_of_below (hbelow n) hi.2 hcode⟩
  · intro n i hcode hi
    rw [reports_result] at hi ⊢
    exact ⟨hi.1, multiplyDefined_of_below (hbelow n) hi.2 hcode⟩

def strayReadFacts : FactTable where
  entries :=
    [(1, { kind := .assign, defined := some "x" }),
      (2, { kind := .assign, defined := some "x", used := ["x", "y"] })]

theorem counting_lower_cap :
    let reported cap := (reaching.result false Graph.counting strayReadFacts
      (reaching.solve .empty cap Graph.counting strayReadFacts)).Reports 2
    (reported 5 (.uninitialized "y") ∧ reported 1 (.uninitialized "y")) ∧
    (reported 2 (.multiplyDefined "x") ∧ reported 5 (.multiplyDefined "x")) ∧
    ¬ reported 1 (.multiplyDefined "x") := by
  intro reported
  have hy : reported 5 (.uninitialized "y") := by decide +kernel
  have hx : reported 2 (.multiplyDefined "x") := by decide +kernel
  have hcap := fun cap => lower_cap_keeps_warnings reaching rfl .empty Graph.counting strayReadFacts
    false cap 5
  refine ⟨⟨hy, (hcap 1 (by decide)).2.2.1 2 _ (Or.inl rfl) hy⟩,
    ⟨hx, (hcap 2 (by decide)).2.2.2 2 _ rfl hx⟩, by decide⟩

end Analysis

end GenKill
