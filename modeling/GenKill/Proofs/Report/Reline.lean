import GenKill.Proofs.Analysis.Reline
import GenKill.Proofs.Report.Results
import GenKill.Yaml.Document

namespace GenKill

open GenKill.Flow

def Report.reline (f : Int → Int) (r : Report) : Report :=
  { r with results := ⟨r.results.entries.map fun e => (e.1, e.2.reline f)⟩ }

namespace Source

variable {p : Profile} {source source' : String} {before behind : List (List Char)}
  {line : List Char}

lemma statements_insert (hs : HasLines source (before ++ behind))
    (hs' : HasLines source' (before ++ line :: behind)) (hline : IsPlain line)
    (hopen : commentOpen before = false) :
    statements p source' =
      (statements p source).map (Statement.reline (pushedDown before.length)) := by
  rw [statements_of_hasLines hs', statements_of_hasLines hs, statementsFrom_insert hopen hline]

lemma line_nonneg {s : Statement} (hs : s ∈ statements p source) : 0 ≤ s.line := by
  have hle := (statementsFrom_lines p false 1 (Text.lines source.toList)).2 s hs
  omega

end Source

namespace Analyzer

variable {f : Int → Int} (a : Analyzer) (clock : Clock)

lemma report_reline (hf : Increasing f) {g : Graph} (hg : g.Wired)
    (hlines : ∀ s ∈ g.statements, 0 ≤ s.line) (facts : FactTable) :
    a.report clock (g.reline f) facts (a.runs (g.reline f) facts) =
      (a.report clock g facts (a.runs g facts)).reline f := by
  have hresults : (a.report clock (g.reline f) facts (a.runs (g.reline f) facts)).results =
      ((a.report clock g facts (a.runs g facts)).reline f).results := by
    rw [Report.reline, results_report, results_report, OrderedMap.map_entries_ofList, List.map_map]
    simp only [resultOf, Analysis.result_reline hf hg hlines, Function.comp_def]
  have herrors : (a.report clock (g.reline f) facts (a.runs (g.reline f) facts)).errors =
      (a.report clock g facts (a.runs g facts)).errors := by
    simp only [report, runs, List.flatMap_map, Analysis.convergence_reline hf hg]
  exact congrArg₂ (Report.mk "" a.settings.language clock.timestamp) hresults herrors

lemma sourceReport_reline (hf : Increasing f) {p : Profile} {source source' : String}
    (h : Source.statements p source' = (Source.statements p source).map (Statement.reline f)) :
    a.sourceReport clock p source' =
      { (a.sourceReport clock p source).reline f with source := source' } := by
  have hgraph : Graph.ofSource p source' = (Graph.ofSource p source).reline f := by
    rw [Graph.ofSource, h, Graph.ofStatements_reline, Graph.ofSource]
  have hlines : ∀ s ∈ (Graph.ofSource p source).statements, 0 ≤ s.line := by
    intro s hs
    rw [Graph.ofSource, Graph.statements_ofStatements] at hs
    exact Source.line_nonneg hs
  have hwired : (Graph.ofSource p source).Wired := Graph.wired_ofStatements _
  simp only [sourceReport, hgraph, FactTable.ofGraph_reline, report_reline a clock hf hwired hlines]
  rfl

/-- Wherever no block comment is open, a blank line or a line comment can be put in. Apart from the
text of the source, this moves the lines of the statements behind it, in their records and in the
definitions that reach others, one further down. -/
theorem analyze_insert_plain_line (t : FileTree) (language : Value)
    (before behind : List (List Char)) (line : List Char) (source source' : String)
    (hs : Source.HasLines source (before ++ behind))
    (hs' : Source.HasLines source' (before ++ line :: behind)) (hline : Source.IsPlain line)
    (hopen : Source.commentOpen before = false) :
    (a.analyze clock t source' language).outcome =
      (a.analyze clock t source language).outcome.map fun r =>
        { r.reline (Source.pushedDown before.length) with source := source' } := by
  have hreport : ∀ p, a.sourceReport clock p source' =
      { (a.sourceReport clock p source).reline (Source.pushedDown before.length) with
        source := source' } := fun p =>
    sourceReport_reline a clock (Source.pushedDown_increasing _)
      (Source.statements_insert hs hs' hline hopen)
  rw [outcome_analyze, outcome_analyze]
  cases (a.library.profile t (a.languageOr language)).outcome with
  | ok x => exact congrArg Except.ok (hreport x.2)
  | error e => rfl

theorem noted_sum_reported :
    let a : Analyzer := ⟨Settings.defaults, { read := Yaml.read, profiles := [{ name := "c" }] }⟩
    let before := ["x = 1".toList]
    let behind := ["y = x + z".toList]
    let noted := Source.ofLines (before ++ "  // note".toList :: behind)
    Source.commentOpen before = false ∧ Source.IsPlain "  // note".toList ∧
    ∃ r, (a.analyze ⟨"", 0⟩ {} (Source.ofLines (before ++ behind)) (.text "c")).outcome = .ok r ∧
      (a.analyze ⟨"", 0⟩ {} noted (.text "c")).outcome =
        .ok { r.reline (Source.pushedDown 1) with source := noted } := by
  intro a before behind noted
  have hopen : Source.commentOpen before = false := by decide
  have hline : Source.IsPlain "  // note".toList := by decide
  refine ⟨hopen, hline, _, rfl, ?_⟩
  exact analyze_insert_plain_line a ⟨"", 0⟩ {} (.text "c") before behind "  // note".toList
    (Source.ofLines (before ++ behind)) noted (Source.hasLines_ofLines (by decide))
    (Source.hasLines_ofLines (by decide)) hline hopen

end Analyzer

end GenKill
