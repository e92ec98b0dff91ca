import GenKill.CommandLine.Run
import GenKill.Proofs.Report.Source

namespace GenKill

namespace Analyzer

variable {a : Analyzer} {clock : Clock} {t : FileTree} {r : Report}

lemma errors_sourceReport {p : Profile} {source : String} (hcap : 2 ≤ a.settings.passLimit) :
    (a.sourceReport clock p source).errors = [] :=
  errors_report a clock _ _ fun x => (Analysis.convergence_ofSource x hcap).1

lemma errors_analyze (hcap : 2 ≤ a.settings.passLimit) {source : String} {language : Value}
    (h : (a.analyze clock t source language).outcome = .ok r) : r.errors = [] := by
  obtain ⟨_, p, -, rfl⟩ := (analyze_eq_ok a clock).mp h
  exact errors_sourceReport hcap

lemma errors_analyzeFile (hcap : 2 ≤ a.settings.passLimit) {path : Path} {language : Value}
    (h : (a.analyzeFile clock t path language).outcome = .ok r) : r.errors = [] := by
  unfold analyzeFile at h
  split at h
  case h_1 =>
    obtain ⟨library, -, h⟩ := Traced.bind_eq_ok.mp h
    obtain ⟨source, -, h⟩ := Traced.bind_eq_ok.mp h
    exact errors_analyze (a := { a with library }) hcap h
  case h_2 =>
    obtain ⟨source, -, h⟩ := Traced.bind_eq_ok.mp h
    exact errors_analyze hcap h

end Analyzer

namespace CommandLine.Options

variable {o : Options} {env : Environment} {path : String}

lemma errors_report {r : Report}
    (hcap : ∀ s, (o.settings env).outcome = .ok s → 2 ≤ s.passLimit)
    (h : (o.report env path).outcome = .ok r) : r.errors = [] := by
  obtain ⟨s, hs, h⟩ := Traced.bind_eq_ok.mp h
  obtain ⟨a, ha, h⟩ := Traced.bind_eq_ok.mp h
  cases ha
  split at h
  case isTrue =>
    split at h
    case h_1 => exact Analyzer.errors_analyze (hcap s hs) h
    case h_2 => cases h
  case isFalse => exact Analyzer.errors_analyzeFile (hcap s hs) h

lemma exitCode_ne_two {r : Report} (h : r.errors = []) : exitCode r ≠ 2 := by
  simp only [exitCode, h, List.isEmpty_nil, Bool.not_true, Bool.false_eq_true, if_false]
  split <;> decide

lemma ending_write {content : String} {code n : ℕ}
    (h : (o.write env content code).ending = .ok n) : n = code := by
  unfold write at h
  split at h
  case h_1 => exact (Except.ok.inj h).symm
  case h_2 =>
    split at h
    case h_1 => exact (Except.ok.inj h).symm
    case h_2 => cases h

lemma ending_deliver_ne_two {r : Report} (h : r.errors = []) :
    (o.deliver env r).ending ≠ .ok 2 := by
  intro hend
  unfold deliver at hend
  split at hend
  case h_1 =>
    split at hend
    case h_1 => exact exitCode_ne_two h (ending_write hend).symm
    case h_2 => cases hend
  case h_2 => cases hend

lemma ending_analysisFailed_ne_two {e : Failure} :
    (o.analysisFailed env.files e).ending ≠ .ok 2 := by
  unfold analysisFailed failed
  split
  case h_1 => simp
  case h_2 =>
    split
    case isTrue => simp
    case isFalse => split <;> simp

lemma ending_runAnalysis_ne_two
    (hcap : ∀ s, (o.settings env).outcome = .ok s → 2 ≤ s.passLimit) :
    (o.runAnalysis env path).ending ≠ .ok 2 := by
  unfold runAnalysis concluded
  cases h : (o.report env path).outcome with
  | ok r => exact ending_deliver_ne_two (errors_report hcap h)
  | error e => exact ending_analysisFailed_ne_two

end CommandLine.Options

end GenKill
