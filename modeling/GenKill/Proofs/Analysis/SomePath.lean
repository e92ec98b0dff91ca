import GenKill.Proofs.Analysis.Issue
import GenKill.Proofs.Analysis.Prepared
import GenKill.Proofs.Flow.Token

/-! The analyses over some path. A definition reaches a node along a path on which its variable is
not written again, and a variable is live behind a statement from which a path leads to a use before
it is written again. -/

namespace GenKill

open GenKill.Flow

namespace Graph

def IsPath (g : Graph) (nodes : List NodeId) : Prop := nodes.IsChain fun a b => (a, b) ∈ g.edges

lemma isChain_forward {g : Graph} {nodes : List NodeId} :
    nodes.IsChain (Direction.forward.Edge g) ↔ g.IsPath nodes := by
  rw [Direction.edge_forward, IsPath]

lemma isChain_backward {g : Graph} {nodes : List NodeId} :
    nodes.IsChain (Direction.backward.Edge g) ↔ g.IsPath nodes.reverse := by
  rw [Direction.edge_backward, IsPath, List.isChain_reverse]

def Writes (g : Graph) (facts : FactTable) (v : String) (n : NodeId) : Prop :=
  ∃ s, g.node? n = some (.statement s) ∧ (facts.fact n).target = some v

def WritesAt (g : Graph) (facts : FactTable) (v : String) (line : Int) (n : NodeId) : Prop :=
  ∃ s, g.node? n = some (.statement s) ∧ (facts.fact n).target = some v ∧ s.line = line

def Reads (g : Graph) (facts : FactTable) (v : String) (n : NodeId) : Prop :=
  ∃ s, g.node? n = some (.statement s) ∧ v ∈ (facts.fact n).used

/-- A path from a definition of the variable on the line to `n`, which in between meets neither the
entry nor another definition of the variable. -/
def DefinitionReaches (g : Graph) (facts : FactTable) (v : String) (line : Int) (n : NodeId) :
    Prop :=
  ∃ m inner, g.WritesAt facts v line m ∧ g.IsPath (m :: inner ++ [n]) ∧
    ∀ x ∈ inner, x ≠ entryId ∧ ¬ g.Writes facts v x

/-- A path from `n` to a use of the variable, which in between meets neither the exit nor a
definition of the variable. -/
def ReadLater (g : Graph) (facts : FactTable) (v : String) (n : NodeId) : Prop :=
  ∃ inner m, g.Reads facts v m ∧ g.IsPath (n :: inner ++ [m]) ∧
    ∀ x ∈ inner, g.exitId? ≠ some x ∧ ¬ g.Writes facts v x

lemma WritesAt.writes {g : Graph} {facts : FactTable} {v : String} {line : Int} {n : NodeId}
    (h : g.WritesAt facts v line n) : g.Writes facts v n := by
  obtain ⟨s, hs, hv, -⟩ := h
  exact ⟨s, hs, hv⟩

/-- If a path meets the variable only in definitions on the line, it has an end that begins with one
of these and meets no other, unless it meets none at all. -/
lemma exists_last_writesAt {g : Graph} {facts : FactTable} {v : String} {line : Int} {n : NodeId}
    {inner : List NodeId} (m : NodeId) (hpath : g.IsPath (m :: inner ++ [n]))
    (hline : ∀ x ∈ inner, g.Writes facts v x → g.WritesAt facts v line x) :
    (∀ x ∈ inner, ¬ g.Writes facts v x) ∨
      ∃ l rest, g.WritesAt facts v line l ∧ g.IsPath (l :: rest ++ [n]) ∧
        ∀ x ∈ rest, x ∈ inner ∧ ¬ g.Writes facts v x := by
  induction inner generalizing m with
  | nil => exact Or.inl (by simp)
  | cons x inner ih =>
    have hx : g.IsPath (x :: inner ++ [n]) := (List.isChain_cons_cons.mp hpath).2
    rcases ih x hx fun y hy => hline y (List.mem_cons_of_mem x hy) with
      hnone | ⟨l, rest, hl, hrest, hclear⟩
    · by_cases hw : g.Writes facts v x
      · refine Or.inr ⟨x, inner, hline x List.mem_cons_self hw, hx, ?_⟩
        exact fun y hy => ⟨List.mem_cons_of_mem x hy, hnone y hy⟩
      · exact Or.inl (List.forall_mem_cons.mpr ⟨hw, hnone⟩)
    · refine Or.inr ⟨l, rest, hl, hrest, ?_⟩
      exact fun y hy => ⟨List.mem_cons_of_mem x (hclear y hy).1, (hclear y hy).2⟩

end Graph

namespace Analysis

variable {g : Graph} {facts : FactTable}

lemma mem_sitesOf {v : String} {e : Token} :
    e ∈ sitesOf g facts v ↔ ∃ line, e = .site v line ∧ ∃ n, g.WritesAt facts v line n := by
  rw [sitesOf, TokenSet.mem_ofList]
  simp only [List.mem_map, List.mem_filter, beq_iff_eq, Prod.exists, Graph.mem_numbered,
    Graph.WritesAt]
  constructor
  · rintro ⟨n, s, ⟨hs, hv⟩, rfl⟩
    exact ⟨s.line, rfl, n, s, hs, hv, rfl⟩
  · rintro ⟨line, rfl, n, s, hs, hv, rfl⟩
    exact ⟨n, s, ⟨hs, hv⟩, rfl⟩

section Reaching

variable {v : String} {line : Int} {n : NodeId}

lemma site_mem_gen_reaching : Token.site v line ∈ ((reaching.prepared g facts).sets n).gen ↔
    g.WritesAt facts v line n := by
  rw [mem_gen_prepared]
  refine exists_congr fun s => and_congr_right fun _ => ?_
  cases ht : (facts.fact n).target with
  | none => simp [gen, ht]
  | some name =>
    simp only [gen, ht, Option.elim_some, mem_singleton, Token.site.injEq, Option.some.injEq]
    exact and_congr eq_comm eq_comm

lemma site_mem_kill_reaching : Token.site v line ∈ ((reaching.prepared g facts).sets n).kill ↔
    g.Writes facts v n ∧ ¬ g.WritesAt facts v line n ∧ ∃ m, g.WritesAt facts v line m := by
  rw [mem_kill_prepared]
  constructor
  · rintro ⟨s, name, hs, hv, hkill⟩
    rw [killBy, Std.ExtTreeSet.mem_diff_iff, mem_sitesOf, mem_singleton] at hkill
    obtain ⟨⟨line', heq, hm⟩, hne⟩ := hkill
    obtain ⟨rfl, rfl⟩ := Token.site.inj heq
    refine ⟨⟨s, hs, hv⟩, ?_, hm⟩
    rintro ⟨s', hs', -, rfl⟩
    obtain rfl : s = s' := by simpa [hs] using hs'
    exact hne rfl
  · rintro ⟨⟨s, hs, hv⟩, hnot, hm⟩
    refine ⟨s, v, hs, hv, ?_⟩
    rw [killBy, Std.ExtTreeSet.mem_diff_iff, mem_sitesOf, mem_singleton]
    refine ⟨⟨line, rfl, hm⟩, ?_⟩
    intro heq
    exact hnot ⟨s, hs, hv, (Token.site.inj heq).2.symm⟩

end Reaching

lemma start_of_union {a : Analysis} (ha : a.meet = .union) (b : Boundary) (store : Store Token) :
    (a.problem b facts).start g store = store := by
  cases a with
  | reaching => rfl
  | live => rfl
  | available => cases ha
  | busy => cases ha

lemma boundary_of_union {a : Analysis} (ha : a.meet = .union) (b : Boundary) :
    (a.problem b facts).boundary = ∅ := by
  cases a with
  | reaching => rfl
  | live => rfl
  | available => cases ha
  | busy => cases ha

lemma emits_of_union {a : Analysis} (ha : a.meet = .union) (b : Boundary) {e : Token}
    {n : NodeId} : (a.problem b facts).Emits g (a.prepared g facts) e n ↔
      e ∈ ((a.prepared g facts).sets n).gen := by
  rw [Problem.Emits, boundary_of_union ha]
  simp

lemma mem_taken_iff_path {a : Analysis} (ha : a.meet = .union) (hg : g.Built) {b : Boundary}
    {cap : ℕ} (hc : (a.solve b cap g facts).convergence.converged = true) {n : NodeId}
    (hn : n ∈ g.nodeIds) (hb : a.direction.boundaryNode? g ≠ some n) {e : Token} :
    e ∈ a.direction.taken ((a.solve b cap g facts).store.sets n) ↔
      ∃ m, e ∈ ((a.prepared g facts).sets m).gen ∧ ∃ inner,
        (m :: inner ++ [n]).IsChain (a.direction.Edge g) ∧
        ∀ x ∈ inner, a.direction.boundaryNode? g ≠ some x ∧
          e ∉ ((a.prepared g facts).sets x).kill := by
  have hstart : (a.problem b facts).start g (a.prepared g facts) = a.prepared g facts :=
    start_of_union ha b _
  have h0 : ∀ n, (a.problem b facts).direction.passed
      (((a.problem b facts).start g (a.prepared g facts)).sets n) = ∅ := by
    intro n
    rw [hstart, passed_prepared]
  have hpath := Problem.mem_taken_union_iff_path (e := e) (p := a.problem b facts) ha hg.wired h0
    hc hn hb
  simp only [hstart, emits_of_union ha] at hpath
  exact hpath

theorem site_mem_reaching_iff_path (hg : g.Built) (facts : FactTable) (b : Boundary) (cap : ℕ)
    (hc : (reaching.solve b cap g facts).convergence.converged = true) :
    (∀ n ∈ g.nodeIds, n ≠ Graph.entryId → ∀ v line,
      Token.site v line ∈ ((reaching.solve b cap g facts).store.sets n).before ↔
        g.DefinitionReaches facts v line n) ∧
    ((reaching.solve b cap g facts).store.sets Graph.entryId).before = ∅ := by
  constructor
  · intro n hn hne v line
    have hb : Direction.forward.boundaryNode? g ≠ some n := fun h => hne (Option.some.inj h).symm
    have hpath := mem_taken_iff_path (a := .reaching) rfl hg hc hn hb (e := .site v line)
    refine Iff.trans hpath ?_
    simp only [site_mem_gen_reaching, site_mem_kill_reaching]
    constructor
    · rintro ⟨m, hm, inner, hchain, hclear⟩
      -- an inner node that lets the token through although it writes `v` does so on the same line
      have hline : ∀ x ∈ inner, g.Writes facts v x → g.WritesAt facts v line x := by
        intro x hx hw
        by_contra hnot
        exact (hclear x hx).2 ⟨hw, hnot, m, hm⟩
      have hentry : ∀ x ∈ inner, x ≠ Graph.entryId :=
        fun x hx h => (hclear x hx).1 (congrArg some h.symm)
      have hpath : g.IsPath (m :: inner ++ [n]) := Graph.isChain_forward.mp hchain
      rcases Graph.exists_last_writesAt m hpath hline with hnone | ⟨l, rest, hl, hrest, hno⟩
      · exact ⟨m, inner, hm, hpath, fun x hx => ⟨hentry x hx, hnone x hx⟩⟩
      · exact ⟨l, rest, hl, hrest, fun x hx => ⟨hentry x (hno x hx).1, (hno x hx).2⟩⟩
    · rintro ⟨m, inner, hm, hpath, hclear⟩
      refine ⟨m, hm, inner, Graph.isChain_forward.mpr hpath, ?_⟩
      intro x hx
      exact ⟨fun h => (hclear x hx).1 (Option.some.inj h).symm, fun h => (hclear x hx).2 h.1⟩
  · obtain ⟨k, hstore, -⟩ := Problem.solve_store_of_converged (s := reaching.prepared g facts) hc
    rw [solve_eq, hstore]
    exact Problem.taken_boundary (p := reaching.problem b facts) g.entryId_mem_nodeIds rfl k

lemma counting_runs :
    (reaching.solve .universal 5 Graph.counting countingFacts).convergence.converged = true ∧
    (live.solve .universal 5 Graph.counting countingFacts).convergence.converged = true ∧
    Token.site "x" 2 ∈
      ((reaching.solve .universal 5 Graph.counting countingFacts).store.sets 2).before ∧
    Token.site "x" 1 ∉
      ((reaching.solve .universal 5 Graph.counting countingFacts).store.sets 3).before ∧
    Token.var "x" ∈ ((live.solve .universal 5 Graph.counting countingFacts).store.sets 2).after := by
  decide +kernel

theorem counting_reaching :
    (reaching.solve .universal 5 Graph.counting countingFacts).convergence.converged = true ∧
    Graph.counting.DefinitionReaches countingFacts "x" 2 2 ∧
    ¬ Graph.counting.DefinitionReaches countingFacts "x" 1 3 := by
  obtain ⟨hc, -, hx, hno, -⟩ := counting_runs
  have h := (site_mem_reaching_iff_path Graph.counting_built countingFacts .universal 5 hc).1
  refine ⟨hc, (h 2 (by decide) (by decide) "x" 2).mp hx, fun hr => ?_⟩
  exact hno ((h 3 (by decide) (by decide) "x" 1).mpr hr)

section Live

variable {v : String} {n : NodeId}

lemma var_mem_gen_live : Token.var v ∈ ((live.prepared g facts).sets n).gen ↔
    g.Reads facts v n := by
  rw [mem_gen_prepared]
  refine exists_congr fun s => and_congr_right fun _ => ?_
  rw [gen, TokenSet.mem_ofList, List.mem_map]
  simp

lemma var_mem_kill_live : Token.var v ∈ ((live.prepared g facts).sets n).kill ↔
    g.Writes facts v n := by
  rw [mem_kill_prepared]
  refine exists_congr fun s => ?_
  simp only [killBy, mem_singleton, Token.var.injEq]
  constructor
  · rintro ⟨name, hs, hv, rfl⟩
    exact ⟨hs, hv⟩
  · rintro ⟨hs, hv⟩
    exact ⟨v, hs, hv, rfl⟩

lemma var_mem_live_iff_readLater (hg : g.Built) {b : Boundary} {cap : ℕ}
    (hc : (live.solve b cap g facts).convergence.converged = true) {s : Statement}
    (hn : g.node? n = some (.statement s)) :
    Token.var v ∈ ((live.solve b cap g facts).store.sets n).after ↔ g.ReadLater facts v n := by
  have hpath := mem_taken_iff_path (a := .live) rfl hg hc (Graph.statement_mem_nodeIds hn)
    (Graph.statement_ne_exit hn) (e := .var v)
  refine Iff.trans hpath ?_
  simp only [var_mem_gen_live, var_mem_kill_live]
  constructor
  · rintro ⟨m, hm, inner, hchain, hclear⟩
    refine ⟨inner.reverse, m, hm, ?_, fun x hx => hclear x (List.mem_reverse.mp hx)⟩
    simpa using Graph.isChain_backward.mp hchain
  · rintro ⟨inner, m, hm, hpath, hclear⟩
    refine ⟨m, hm, inner.reverse, ?_, fun x hx => hclear x (List.mem_reverse.mp hx)⟩
    apply Graph.isChain_backward.mpr
    simpa using hpath

lemma mem_records_result {a : Analysis} {hints : Bool} {run : Run Token} {s : Statement}
    (hn : g.node? n = some (.statement s)) (r : Record) :
    r ∈ (a.result hints g facts run).records ∧ r.nodeId = n ↔
      r = a.record hints (facts.fact n) (run.store.sets n) n s := by
  simp only [result, List.mem_map, Prod.exists, Graph.mem_numbered]
  constructor
  · rintro ⟨⟨m, t, hm, rfl⟩, hid⟩
    obtain rfl : m = n := hid
    obtain rfl : s = t := by simpa [hn] using hm
    rfl
  · rintro rfl
    exact ⟨⟨n, s, hn, rfl⟩, rfl⟩

lemma exists_record_iff {a : Analysis} {hints : Bool} {run : Run Token} {P : Record → Prop} :
    (∃ r ∈ (a.result hints g facts run).records, r.nodeId = n ∧ P r) ↔
      ∃ s, g.node? n = some (.statement s) ∧
        P (a.record hints (facts.fact n) (run.store.sets n) n s) := by
  simp only [result, List.mem_map, Prod.exists, Graph.mem_numbered]
  constructor
  · rintro ⟨_, ⟨m, s, hs, rfl⟩, hid, hP⟩
    obtain rfl : m = n := hid
    exact ⟨s, hs, hP⟩
  · rintro ⟨s, hs, hP⟩
    exact ⟨_, ⟨n, s, hs, rfl⟩, rfl, hP⟩

lemma exists_deadStore_iff {f : Fact} {liveAfter : TokenSet Token} :
    (∃ i ∈ Issue.ofLive f liveAfter, i.severity = .warning ∧ i.code = "dead-store") ↔
      ∃ v, f.target = some v ∧ Token.var v ∉ liveAfter := by
  simp only [Issue.mem_ofLive]
  constructor
  · rintro ⟨i, ⟨v, hv, hl, rfl⟩, -⟩
    exact ⟨v, hv, hl⟩
  · rintro ⟨v, hv, hl⟩
    exact ⟨Issue.deadStore v, ⟨v, hv, hl, rfl⟩, rfl, rfl⟩

end Live

theorem live_iff_path_and_deadStore_iff (hg : g.Built) (facts : FactTable) (b : Boundary) (cap : ℕ)
    (hints : Bool) (hc : (live.solve b cap g facts).convergence.converged = true) {n : NodeId}
    {s : Statement} (hn : g.node? n = some (.statement s)) :
    (∀ v, Token.var v ∈ ((live.solve b cap g facts).store.sets n).after ↔
      g.ReadLater facts v n) ∧
    ∃ r, (∀ r', r' ∈ (live.result hints g facts (live.solve b cap g facts)).records ∧
        r'.nodeId = n ↔ r' = r) ∧
      ((∃ i ∈ r.issues, i.severity = .warning ∧ i.code = "dead-store") ↔
        ∃ v, g.Writes facts v n ∧ ¬ g.ReadLater facts v n) := by
  refine ⟨fun v => var_mem_live_iff_readLater hg hc hn, _, mem_records_result hn, ?_⟩
  change (∃ i ∈ Issue.ofLive _ _, _) ↔ _
  rw [exists_deadStore_iff]
  refine exists_congr fun v => ?_
  rw [var_mem_live_iff_readLater hg hc hn]
  refine and_congr_left fun _ => ?_
  exact ⟨fun h => ⟨s, hn, h⟩, fun ⟨_, _, h⟩ => h⟩

theorem counting_live :
    (live.solve .universal 5 Graph.counting countingFacts).convergence.converged = true ∧
    Graph.counting.ReadLater countingFacts "x" 2 ∧
    ∀ r ∈ (live.result true Graph.counting countingFacts
        (live.solve .universal 5 Graph.counting countingFacts)).records, r.nodeId = 2 →
      ¬ ∃ i ∈ r.issues, i.severity = .warning ∧ i.code = "dead-store" := by
  obtain ⟨-, hc, -, -, hlater⟩ := counting_runs
  obtain ⟨hlive, r, hr, hdead⟩ := live_iff_path_and_deadStore_iff Graph.counting_built countingFacts
    .universal 5 true hc (n := 2) (s := ⟨"x = x + 1", 2⟩) rfl
  have hx : Graph.counting.ReadLater countingFacts "x" 2 := (hlive "x").mp hlater
  refine ⟨hc, hx, fun r' hmem hid hwarn => ?_⟩
  obtain rfl := (hr r').mp ⟨hmem, hid⟩
  obtain ⟨v, ⟨_, _, hv⟩, hnot⟩ := hdead.mp hwarn
  obtain rfl : "x" = v := Option.some.inj (Eq.trans (by decide) hv)
  exact hnot hx

end Analysis

end GenKill
