import GenKill.Proofs.Analysis.SomePath

/-! Chains from definitions to uses, seen from both ends: the definitions that reach a use, and the
variables that are live behind a definition. -/

namespace GenKill

open GenKill.Flow

namespace Graph

variable {g : Graph} {facts : FactTable} {v : String} {line : Int}

lemma IsPath.inner_edges {m n x : NodeId} {inner : List NodeId} (h : g.IsPath (m :: inner ++ [n]))
    (hx : x ∈ inner) : (∃ a, (a, x) ∈ g.edges) ∧ ∃ b, (x, b) ∈ g.edges := by
  induction inner generalizing m with
  | nil => exact absurd hx List.not_mem_nil
  | cons y inner ih =>
    obtain ⟨hmy, hy⟩ := List.isChain_cons_cons.mp h
    rcases List.mem_cons.mp hx with rfl | hx
    · refine ⟨⟨m, hmy⟩, ?_⟩
      cases inner with
      | nil => exact ⟨n, (List.isChain_cons_cons.mp hy).1⟩
      | cons z inner => exact ⟨z, (List.isChain_cons_cons.mp hy).1⟩
    · exact ih hy hx

lemma IsPath.ne_entry_of_mem_inner (hentry : g.predecessors entryId = []) {m n x : NodeId}
    {inner : List NodeId} (h : g.IsPath (m :: inner ++ [n])) (hx : x ∈ inner) : x ≠ entryId := by
  rintro rfl
  obtain ⟨a, ha⟩ := (h.inner_edges hx).1
  have hmem := mem_predecessors.mpr ha
  simp [hentry] at hmem

lemma IsPath.ne_exit_of_mem_inner (hexit : ∀ n, g.exitId? = some n → g.successors n = [])
    {m n x : NodeId} {inner : List NodeId} (h : g.IsPath (m :: inner ++ [n])) (hx : x ∈ inner) :
    g.exitId? ≠ some x := by
  intro he
  obtain ⟨b, hb⟩ := (h.inner_edges hx).2
  have hmem := mem_successors.mpr hb
  simp [hexit x he] at hmem

def SoleWriter (g : Graph) (facts : FactTable) (v : String) (line : Int) (n : NodeId) : Prop :=
  ∀ m, g.WritesAt facts v line m ↔ m = n

end Graph

namespace Analysis

variable {g : Graph} {facts : FactTable} {v : String} {line : Int} {n : NodeId}

lemma site_mem_before_iff_of_soleWriter (hg : g.Built) {b : Boundary} {cap : ℕ}
    (hc : (reaching.solve b cap g facts).convergence.converged = true)
    (hsole : g.SoleWriter facts v line n) {u : NodeId} (hu : u ∈ g.nodeIds)
    (hne : u ≠ Graph.entryId) :
    Token.site v line ∈ ((reaching.solve b cap g facts).store.sets u).before ↔
      ∃ inner, g.IsPath (n :: inner ++ [u]) ∧
        ∀ x ∈ inner, x ≠ Graph.entryId ∧ ¬ g.Writes facts v x := by
  have hb : ∀ x, Direction.forward.boundaryNode? g ≠ some x ↔ x ≠ Graph.entryId := by
    intro x
    simp [Direction.boundaryNode?, eq_comm]
  have hpath := mem_taken_iff_path (a := .reaching) rfl hg hc hu ((hb u).mpr hne)
    (e := .site v line)
  refine Iff.trans hpath ?_
  simp only [site_mem_gen_reaching, site_mem_kill_reaching, hsole _, exists_eq_left, direction, hb,
    ← Graph.isChain_forward, ← Walk.exists_iff_path]
  refine exists_congr fun a => and_congr_right fun _ => ⟨?_, ?_⟩
  · rintro ⟨k, hw⟩
    refine hw.restart fun x hx => ?_
    by_cases hxn : x = n
    · exact Or.inl hxn
    · exact Or.inr ⟨hx.1, fun hwrites => hx.2 ⟨hwrites, hxn, n, rfl⟩⟩
  · rintro ⟨k, hw⟩
    exact hw.restart fun x hx => Or.inr ⟨hx.1, fun hkill => hx.2 hkill.1⟩

lemma readLater_iff_reaches_use (hg : g.Built) (hentry : g.predecessors Graph.entryId = [])
    (hexit : ∀ n, g.exitId? = some n → g.successors n = []) {b : Boundary} {cap : ℕ}
    (hc : (reaching.solve b cap g facts).convergence.converged = true)
    (hsole : g.SoleWriter facts v line n) :
    g.ReadLater facts v n ↔ ∃ u, g.Reads facts v u ∧
      Token.site v line ∈ ((reaching.solve b cap g facts).store.sets u).before := by
  have hsite : ∀ u, g.Reads facts v u →
      (Token.site v line ∈ ((reaching.solve b cap g facts).store.sets u).before ↔
        ∃ inner, g.IsPath (n :: inner ++ [u]) ∧
          ∀ x ∈ inner, x ≠ Graph.entryId ∧ ¬ g.Writes facts v x) := by
    rintro u ⟨s, hs, -⟩
    exact site_mem_before_iff_of_soleWriter hg hc hsole (Graph.statement_mem_nodeIds hs)
      (Graph.statement_ne_entry hs)
  constructor
  · rintro ⟨inner, u, hu, hpath, hclear⟩
    refine ⟨u, hu, (hsite u hu).mpr ⟨inner, hpath, fun x hx => ?_⟩⟩
    exact ⟨hpath.ne_entry_of_mem_inner hentry hx, (hclear x hx).2⟩
  · rintro ⟨u, hu, hmem⟩
    obtain ⟨inner, hpath, hclear⟩ := (hsite u hu).mp hmem
    refine ⟨inner, u, hu, hpath, fun x hx => ?_⟩
    exact ⟨hpath.ne_exit_of_mem_inner hexit hx, (hclear x hx).2⟩

theorem deadStore_iff_reaches_no_use (hg : g.Built) (facts : FactTable)
    (hentry : g.predecessors Graph.entryId = [])
    (hexit : ∀ n, g.exitId? = some n → g.successors n = [])
    (hline : ∀ v line m n, g.WritesAt facts v line m → g.WritesAt facts v line n → m = n)
    (b b' : Boundary) (cap cap' : ℕ) (hints : Bool)
    (hreach : (reaching.solve b cap g facts).convergence.converged = true)
    (hlive : (live.solve b' cap' g facts).convergence.converged = true)
    {n : NodeId} {s : Statement} (hn : g.node? n = some (.statement s)) {v : String}
    (hv : (facts.fact n).target = some v) :
    (∃ r ∈ (live.result hints g facts (live.solve b' cap' g facts)).records, r.nodeId = n ∧
      ∃ i ∈ r.issues, i.Warns "dead-store" v) ↔
    ¬ ∃ u, g.Reads facts v u ∧
      Token.site v s.line ∈ ((reaching.solve b cap g facts).store.sets u).before := by
  have hwrites : g.WritesAt facts v s.line n := ⟨s, hn, hv, rfl⟩
  have hsole : g.SoleWriter facts v s.line n :=
    fun m => ⟨fun hm => hline v s.line m n hm hwrites, fun hm => hm ▸ hwrites⟩
  rw [exists_record_iff, ← readLater_iff_reaches_use hg hentry hexit hreach hsole,
    ← var_mem_live_iff_readLater hg hlive hn]
  simp only [hn, Option.some.injEq, Node.statement.injEq, exists_eq_left']
  change (∃ i ∈ Issue.ofLive _ _, _) ↔ _
  rw [Issue.exists_mem_ofLive_warns]
  exact and_iff_right hv

theorem counting_no_deadStore :
    (reaching.solve .universal 5 Graph.counting countingFacts).convergence.converged = true ∧
    (live.solve .universal 5 Graph.counting countingFacts).convergence.converged = true ∧
    ¬ ∃ r ∈ (live.result false Graph.counting countingFacts
        (live.solve .universal 5 Graph.counting countingFacts)).records, r.nodeId = 2 ∧
      ∃ i ∈ r.issues, i.Warns "dead-store" "x" := by
  obtain ⟨hreach, hlive, hx, -⟩ := counting_runs
  have hexit : ∀ n, Graph.counting.exitId? = some n → Graph.counting.successors n = [] := by
    intro n hn
    obtain rfl : 3 = n := Option.some.inj hn
    decide
  have hline : ∀ v line m n, Graph.counting.WritesAt countingFacts v line m →
      Graph.counting.WritesAt countingFacts v line n → m = n := by
    rintro v line m n ⟨s, hs, -, rfl⟩ ⟨t, ht, -, hline⟩
    exact Graph.eq_of_line_eq (by decide) hs ht hline.symm
  refine ⟨hreach, hlive, ?_⟩
  rw [deadStore_iff_reaches_no_use Graph.counting_built countingFacts (by decide) hexit hline
    .universal .universal 5 5 false hreach hlive (s := ⟨"x = x + 1", 2⟩) rfl (by decide), not_not]
  exact ⟨2, ⟨_, rfl, by decide⟩, hx⟩

end Analysis

end GenKill
