import GenKill.Proofs.Report.Ending

namespace GenKill

open GenKill.Flow

namespace Report

def records (r : Report) : List (String × List Record) :=
  r.results.entries.map fun e => (e.1, e.2.records)

def Warned (r : Report) (code : String) (k : ℕ) (v : String) : Prop :=
  ∃ e ∈ r.results.entries, ∃ record ∈ e.2.records, record.nodeId = Int.ofNat (k + 1) ∧
    ∃ i ∈ record.issues, i.Warns code v

structure Explains (r : Report) (analyses : List Analysis) (p : Profile) (source : String) :
    Prop where
  names : ∀ name, name ∈ r.results.keys ↔ ∃ a ∈ analyses, a.name = name
  statements : ∀ e ∈ r.results.entries,
    e.2.records.map (fun record => (record.nodeId, record.line, record.statement)) =
      (Source.statements p source).mapIdx fun k s => (Int.ofNat (k + 1), s.line, s.text)
  uninitialized : ∀ k v, r.Warned "uninitialized-use" k v ↔ .reaching ∈ analyses ∧
    Source.Uses p source k v ∧ ∀ j < k, ¬ Source.Defines p source j v
  deadStore : ∀ k v, r.Warned "dead-store" k v ↔ .live ∈ analyses ∧
    Source.Defines p source k v ∧ ¬ ∃ j > k, Source.Uses p source j v ∧
      ∀ i, k < i → i < j → ¬ Source.Defines p source i v
  single : ∀ i ∈ r.issues, i.code ≠ "multiple-definitions"

end Report

namespace Analyzer

variable {a : Analyzer} {clock : Clock} {p : Profile} {source : String}

def sourceRun (a : Analyzer) (p : Profile) (source : String) (x : Analysis) : Run Token :=
  x.solve a.settings.boundary a.settings.passLimit (Graph.ofSource p source)
    (FactTable.ofGraph p (Graph.ofSource p source))

lemma mem_results_sourceReport {e : String × Result} :
    e ∈ (a.sourceReport clock p source).results.entries ↔ ∃ x ∈ a.settings.analyses,
      e = (x.name, x.result a.settings.hints.isPresent (Graph.ofSource p source)
        (FactTable.ofGraph p (Graph.ofSource p source)) (a.sourceRun p source x)) :=
  mem_results_report a clock

lemma warned_sourceReport {code : String} {k : ℕ} {v : String} :
    (a.sourceReport clock p source).Warned code k v ↔
      ∃ s, (Source.statements p source)[k]? = some s ∧ ∃ x ∈ a.settings.analyses,
        ∃ i ∈ x.issues a.settings.hints.isPresent (Fact.ofStatement p s.text)
          ((a.sourceRun p source x).store.sets (Int.ofNat (k + 1))), i.Warns code v := by
  constructor
  · rintro ⟨_, he, hwarned⟩
    obtain ⟨x, hx, rfl⟩ := mem_results_sourceReport.mp he
    obtain ⟨s, hs, i, hi, hw⟩ := Analysis.exists_record_iff.mp hwarned
    simp only [Analysis.record, FactTable.fact_ofGraph hs] at hi
    obtain ⟨k, hk, hs⟩ := Graph.node?_ofSource.mp hs
    obtain rfl := Nat.succ.inj (Int.ofNat.inj hk)
    exact ⟨s, hs, x, hx, i, hi, hw⟩
  · rintro ⟨s, hs, x, hx, i, hi, hw⟩
    have hs := Graph.node?_ofSource.mpr ⟨k, rfl, hs⟩
    refine ⟨_, mem_results_sourceReport.mpr ⟨x, hx, rfl⟩, Analysis.exists_record_iff.mpr ?_⟩
    rw [← FactTable.fact_ofGraph hs] at hi
    exact ⟨s, hs, i, hi, hw⟩

lemma warned_uninitialized_iff (hcap : 0 < a.settings.passLimit) {k : ℕ} {v : String} :
    (a.sourceReport clock p source).Warned "uninitialized-use" k v ↔
      .reaching ∈ a.settings.analyses ∧ Source.Uses p source k v ∧
        ∀ j < k, ¬ Source.Defines p source j v := by
  rw [warned_sourceReport]
  simp only [Analysis.exists_uninitialized_iff]
  constructor
  · rintro ⟨s, hs, _, hx, rfl, hu, hno⟩
    have hk := (List.getElem?_eq_some_iff.mp hs).1
    refine ⟨hx, ⟨s, hs, hu⟩, fun j hj hd => ?_⟩
    obtain ⟨line, hline⟩ := (Analysis.exists_site_ofSource hcap hk).mpr ⟨j, hj, hd⟩
    exact hno line hline
  · rintro ⟨hx, ⟨s, hs, hu⟩, hno⟩
    have hk := (List.getElem?_eq_some_iff.mp hs).1
    refine ⟨s, hs, _, hx, rfl, hu, fun line hline => ?_⟩
    obtain ⟨j, hj, hd⟩ := (Analysis.exists_site_ofSource hcap hk).mp ⟨line, hline⟩
    exact hno j hj hd

lemma warned_deadStore_iff (hcap : 0 < a.settings.passLimit) {k : ℕ} {v : String} :
    (a.sourceReport clock p source).Warned "dead-store" k v ↔
      .live ∈ a.settings.analyses ∧ Source.Defines p source k v ∧
        ¬ ∃ j > k, Source.Uses p source j v ∧ ∀ i, k < i → i < j → ¬ Source.Defines p source i v := by
  rw [warned_sourceReport]
  simp only [Analysis.exists_deadStore_warning_iff, Fact.target_ofStatement]
  constructor
  · rintro ⟨s, hs, _, hx, rfl, hd, hdead⟩
    have hk := (List.getElem?_eq_some_iff.mp hs).1
    exact ⟨hx, ⟨s, hs, hd⟩, fun h => hdead ((Analysis.var_mem_after_ofSource hcap hk).mpr h)⟩
  · rintro ⟨hx, ⟨s, hs, hd⟩, hdead⟩
    have hk := (List.getElem?_eq_some_iff.mp hs).1
    exact ⟨s, hs, _, hx, rfl, hd, fun h => hdead ((Analysis.var_mem_after_ofSource hcap hk).mp h)⟩

lemma code_ne_of_mem_issues (hcap : 0 < a.settings.passLimit) {i : Issue}
    (hi : i ∈ (a.sourceReport clock p source).issues) : i.code ≠ "multiple-definitions" := by
  intro hcode
  obtain ⟨x, -, record, hrecord, hi⟩ := (mem_issues_report a clock).mp hi
  obtain ⟨s, hs, hi⟩ := (Analysis.exists_record_iff (P := fun r => i ∈ r.issues)).mp
    ⟨record, hrecord, rfl, hi⟩
  obtain ⟨rfl, v, hlen⟩ := Analysis.multiplyDefined_of_code hi hcode
  have hle := Analysis.length_definitionsOf_ofSource hcap hs (b := a.settings.boundary) (v := v)
  exact absurd hlen (Nat.not_lt.mpr hle)

lemma explains_sourceReport (hcap : 0 < a.settings.passLimit) :
    (a.sourceReport clock p source).Explains a.settings.analyses p source where
  names := by
    intro name
    simp only [OrderedMap.keys, List.mem_map, mem_results_sourceReport]
    constructor
    · rintro ⟨_, ⟨x, hx, rfl⟩, rfl⟩
      exact ⟨x, hx, rfl⟩
    · rintro ⟨x, hx, rfl⟩
      exact ⟨_, ⟨x, hx, rfl⟩, rfl⟩
  statements := by
    intro e he
    obtain ⟨x, -, rfl⟩ := mem_results_sourceReport.mp he
    simp only [Analysis.result, Graph.numbered, Graph.ofSource, Graph.statements_ofStatements]
    apply List.ext_getElem
    · simp
    · intro k _ _
      simp [Analysis.record]
  uninitialized _ _ := warned_uninitialized_iff hcap
  deadStore _ _ := warned_deadStore_iff hcap
  single _ := code_ne_of_mem_issues hcap

def limited (a : Analyzer) (cap : ℕ) : Analyzer := { a with settings.passLimit := cap }

lemma records_sourceReport (a : Analyzer) :
    (a.sourceReport clock p source).records = (OrderedMap.ofList (a.settings.analyses.map fun x =>
      (x.name, (a.resultOf (Graph.ofSource p source)
        (FactTable.ofGraph p (Graph.ofSource p source)) x).records))).entries := by
  change List.map _ (a.report clock _ _ (a.runs _ _)).results.entries = _
  rw [results_report, OrderedMap.map_entries_ofList, List.map_map]
  rfl

lemma records_limited (hcap : 0 < a.settings.passLimit) {cap : ℕ} (hcap' : 0 < cap) :
    ((a.limited cap).sourceReport clock p source).records =
      (a.sourceReport clock p source).records := by
  rw [records_sourceReport, records_sourceReport]
  congr 2
  refine List.map_congr_left fun x _ => ?_
  exact congrArg _ (Analysis.records_result_ofSource hcap' hcap)

end Analyzer

namespace Settings

lemma pos_of_checkPassLimit {v : Value} {n : ℕ} (h : checkPassLimit v = .ok n) : 0 < n := by
  unfold checkPassLimit at h
  split at h
  case h_1 limit =>
    split at h
    case isTrue => cases h
    case isFalse hlimit =>
      cases h
      omega
  case h_2 => cases h

lemma passLimit_pos {d : Draft} {s : Settings} (h : check d = .ok s) : 0 < s.passLimit := by
  unfold check at h
  cases hlimit : checkPassLimit (d .passLimit) with
  | error e =>
    rw [hlimit] at h
    cases h
  | ok limit =>
    rw [hlimit] at h
    cases hboundary : checkBoundary (d .boundary) with
    | error e =>
      rw [hboundary] at h
      cases h
    | ok boundary =>
      rw [hboundary] at h
      cases hanalyses : checkAnalyses (d .analyses) with
      | error e =>
        rw [hanalyses] at h
        cases h
      | ok analyses =>
        rw [hanalyses] at h
        cases h
        exact pos_of_checkPassLimit hlimit

end Settings

namespace Analyzer

/-- Every source text gets a report that explains its statements, with the same records under any
limit, and from two passes on without errors; the program then never ends with code two. -/
theorem analyze_explains_source :
    (∀ (a : Analyzer) (d : Settings.Draft) (clock : Clock) (t : FileTree) (source : String)
      (language : Value) (lib : Library) (p : Profile),
      Settings.check d = .ok a.settings →
      (a.library.profile t (a.languageOr language)).outcome = .ok (lib, p) →
      ∃ r, (a.analyze clock t source language).outcome = .ok r ∧
        r.Explains a.settings.analyses p source ∧
        ∀ cap ≥ 1, ∃ r', ((a.limited cap).analyze clock t source language).outcome = .ok r' ∧
          r'.records = r.records ∧
          (2 ≤ cap → r'.errors = [] ∧ ∀ e ∈ r'.results.entries, ∃ c, e.2.convergence = some c ∧
            c.converged = true ∧ c.iterations ≤ 2)) ∧
    ∀ (o : CommandLine.Options) (env : CommandLine.Environment) (path : String),
      (∀ s, (o.settings env).outcome = .ok s → 2 ≤ s.passLimit) →
      (o.runAnalysis env path).ending ≠ .ok 2 := by
  refine ⟨?_, fun o env path => CommandLine.Options.ending_runAnalysis_ne_two⟩
  intro a d clock t source language lib p hd hp
  have hpos := Settings.passLimit_pos hd
  refine ⟨_, (analyze_eq_ok a clock).mpr ⟨lib, p, hp, rfl⟩, explains_sourceReport hpos, ?_⟩
  intro cap hcap
  refine ⟨_, (analyze_eq_ok (a.limited cap) clock).mpr ⟨lib, p, hp, rfl⟩,
    records_limited hpos hcap, fun htwo => ⟨errors_sourceReport htwo, fun e he => ?_⟩⟩
  obtain ⟨x, -, rfl⟩ := mem_results_sourceReport.mp he
  exact ⟨_, rfl, Analysis.convergence_ofSource x htwo⟩

end Analyzer

namespace Source

def unsetSum : String := "x = 1\ny = x + z"

def unsetSumProfile : Profile := { name := "c" }

lemma statements_unsetSum :
    statements unsetSumProfile unsetSum = [⟨"x = 1", 1⟩, ⟨"y = x + z", 2⟩] := by
  decide +kernel

lemma fact_unsetSum :
    Fact.ofStatement unsetSumProfile "x = 1" = ⟨.assign, some "x", [], []⟩ ∧
    Fact.ofStatement unsetSumProfile "y = x + z" =
      ⟨.assign, some "y", ["x", "z"], ["x + z"]⟩ := by
  decide +kernel

lemma defines_unsetSum {k : ℕ} {v : String} :
    Defines unsetSumProfile unsetSum k v ↔ k = 0 ∧ v = "x" ∨ k = 1 ∧ v = "y" := by
  rw [Defines, statements_unsetSum]
  rcases k with _ | _ | k
  · simp [fact_unsetSum, eq_comm]
  · simp [fact_unsetSum, eq_comm]
  · simp

lemma uses_unsetSum {k : ℕ} {v : String} :
    Uses unsetSumProfile unsetSum k v ↔ k = 1 ∧ (v = "x" ∨ v = "z") := by
  rw [Uses, statements_unsetSum]
  rcases k with _ | _ | k
  · simp [fact_unsetSum]
  · simp [fact_unsetSum]
  · simp

end Source

namespace Analyzer

theorem unsetSum_explained :
    Settings.check Settings.defaults.get = .ok Settings.defaults ∧
    (∃ r, (analyze ⟨Settings.defaults, { read := Yaml.read, profiles := [Source.unsetSumProfile] }⟩ ⟨"", 0⟩ {}
        Source.unsetSum (.text "c")).outcome = .ok r ∧
      r.Warned "uninitialized-use" 1 "z" ∧ r.Warned "dead-store" 1 "y" ∧
      ¬ r.Warned "dead-store" 0 "x") ∧
    (CommandLine.Options.runAnalysis {} { files := {}, clock := ⟨"", 0⟩ } "-").ending ≠ .ok 2 := by
  have hd : Settings.check Settings.defaults.get = .ok Settings.defaults := rfl
  refine ⟨hd, ?_, ?_⟩
  · obtain ⟨r, hr, h, -⟩ := analyze_explains_source.1
      ⟨Settings.defaults, { read := Yaml.read, profiles := [Source.unsetSumProfile] }⟩ Settings.defaults.get ⟨"", 0⟩ {}
      Source.unsetSum (.text "c") _ _ hd rfl
    have hun := h.uninitialized
    have hdead := h.deadStore
    simp only [Source.uses_unsetSum, Source.defines_unsetSum] at hun hdead
    refine ⟨r, hr, (hun 1 "z").mpr ⟨by decide, by simp, by simp⟩,
      (hdead 1 "y").mpr ⟨by decide, by simp, by simp⟩, fun hx => ?_⟩
    refine ((hdead 0 "x").mp hx).2.2 ⟨1, by decide, by simp, fun i hi hi' => ?_⟩
    omega
  · apply analyze_explains_source.2
    intro s hs
    obtain rfl : Settings.defaults = s := Except.ok.inj hs
    decide

end Analyzer

end GenKill
