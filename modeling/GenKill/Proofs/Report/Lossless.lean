import GenKill.Proofs.Report.Results
import GenKill.Proofs.Value.RoundTrip
import GenKill.Report.Export
import GenKill.Yaml.Document

/-! The JSON form of a report holds all of it: it is in ASCII, and it reads back as the report's data. -/

namespace GenKill

open Value

section Fields

variable {fields : List (String × Value)} {key : String} {v : Value}

structure Portables (fields : List (String × Value)) : Prop where
  nodup : (fields.map (·.1)).Nodup
  portable : ∀ f ∈ fields, f.2.Portable

lemma Portables.object (h : Portables fields) : (Value.object fields).Portable := .object h.nodup h.portable

lemma Portables.put (h : Portables fields) (key : String) (hv : v.Portable) :
    Portables (OrderedMap.put key v fields) := by
  refine ⟨OrderedMap.nodup_put h.nodup key v, fun f hf => ?_⟩
  rcases OrderedMap.mem_of_mem_put hf with rfl | hf
  · exact hv
  · exact h.portable f hf

lemma setEntry_fields (fields : List (String × Value)) (key : String) (v : Value) :
    setEntry (.text key) v (fields.map fun f => (.text f.1, f.2)) =
      (OrderedMap.put key v fields).map fun f => (.text f.1, f.2) := by
  induction fields with
  | nil => rfl
  | cons f rest ih =>
    by_cases hf : f.1 = key
    · simp [setEntry, OrderedMap.put, sameKey, hf]
    · simp [setEntry, OrderedMap.put, sameKey, hf, ih]

lemma portable_textList (items : List String) : (textList items).Portable := by
  apply Portable.list
  intro v hv
  obtain ⟨s, -, rfl⟩ := List.mem_map.mp hv
  exact .text s

lemma isWritable_list {items : List Value} :
    (Value.list items).isWritable = true ↔ ∀ v ∈ items, v.isWritable = true :=
  areWritable_iff

lemma isWritable_object : (Value.object fields).isWritable = true ↔ ∀ f ∈ fields, f.2.isWritable = true := by
  change entriesWritable (fields.map fun f => (.text f.1, f.2)) = true ↔ _
  induction fields with
  | nil => simp [entriesWritable]
  | cons f rest ih => simp [entriesWritable, ih]

lemma isWritable_textList (items : List String) : (textList items).isWritable = true := by
  rw [textList, isWritable_list]
  simp

end Fields

section Parts

lemma Issue.portable_toValue (i : Issue) : i.toValue.Portable := by
  refine .object (by simp) ?_
  simp only [List.forall_mem_cons]
  refine ⟨.text _, .text _, .text _, ?_, by simp⟩
  cases i.subject with
  | none => exact .null
  | some s => exact .text s

lemma Issue.isWritable_toValue (i : Issue) : i.toValue.isWritable = true := by
  rw [toValue, isWritable_object]
  cases i.subject <;> simp [isWritable]

namespace Record

variable (r : Record)

def fields : List (String × Value) :=
  OrderedMap.put "issues" (.list (r.issues.map Issue.toValue))
    (r.sets.entries.foldl (fun fields s => OrderedMap.put s.1 (textList s.2) fields)
      [("line", .int r.line), ("statement", .text r.statement)])

lemma toValue_eq : r.toValue = .object r.fields := by
  have hsets (sets : List (String × List String)) (fields : List (String × Value)) :
      sets.foldl (fun es s => setEntry (.text s.1) (textList s.2) es) (fields.map fun f => (.text f.1, f.2)) =
        (sets.foldl (fun fields s => OrderedMap.put s.1 (textList s.2) fields) fields).map
          fun f => (.text f.1, f.2) := by
    induction sets generalizing fields with
    | nil => rfl
    | cons s sets ih => rw [List.foldl_cons, setEntry_fields, ih, List.foldl_cons]
  rw [object, fields, ← setEntry_fields, ← hsets]
  rfl

lemma portable_toValue : r.toValue.Portable := by
  have hfixed : Portables [("line", .int r.line), ("statement", .text r.statement)] := by
    refine ⟨by simp, ?_⟩
    simp only [List.forall_mem_cons]
    exact ⟨.int _, .text _, by simp⟩
  have hissues : (Value.list (r.issues.map Issue.toValue)).Portable := by
    apply Portable.list
    intro v hv
    obtain ⟨i, -, rfl⟩ := List.mem_map.mp hv
    exact i.portable_toValue
  rw [toValue_eq]
  refine (Portables.put ?_ "issues" hissues).object
  exact List.foldlRecOn _ _ hfixed fun fields hfields s _ => hfields.put s.1 (portable_textList s.2)

def LineField (fields : List (String × Value)) : Prop :=
  ("line", .int r.line) ∈ fields ∧ ∀ f ∈ fields, f = ("line", .int r.line) ∨ f.2.isWritable = true

lemma LineField.put {r : Record} {fields : List (String × Value)} {key : String} {v : Value}
    (h : r.LineField fields) (hkey : key ≠ "line") (hv : v.isWritable = true) :
    r.LineField (OrderedMap.put key v fields) := by
  refine ⟨OrderedMap.mem_put_of_ne h.1 hkey.symm, fun f hf => ?_⟩
  rcases OrderedMap.mem_of_mem_put hf with rfl | hf
  · exact Or.inr hv
  · exact h.2 f hf

lemma isWritable_toValue {r : Record} (h : ∀ s ∈ r.sets.entries, s.1 ≠ "line") :
    r.toValue.isWritable = true ↔ Text.isWritable r.line = true := by
  have hissues : (Value.list (r.issues.map Issue.toValue)).isWritable = true := by
    rw [isWritable_list]
    intro v hv
    obtain ⟨i, -, rfl⟩ := List.mem_map.mp hv
    exact i.isWritable_toValue
  have hfixed : r.LineField [("line", .int r.line), ("statement", .text r.statement)] := by
    simp [LineField]
  have hfields : r.LineField r.fields :=
    LineField.put (List.foldlRecOn _ _ hfixed fun fields hfields s hs =>
      hfields.put (h s hs) (isWritable_textList s.2)) (by decide) hissues
  rw [toValue_eq, isWritable_object]
  constructor
  · intro hall
    rw [← isWritable_int]
    exact hall ("line", .int r.line) hfields.1
  · intro hline f hf
    rcases hfields.2 f hf with rfl | hf
    · rwa [isWritable_int]
    · exact hf

end Record

lemma Flow.Convergence.portable_toValue (c : Flow.Convergence) : c.toValue.Portable := by
  refine .object (by simp) ?_
  simp only [List.forall_mem_cons]
  exact ⟨.bool _, .int _, .text _, .text _, by simp⟩

lemma Flow.Convergence.isWritable_toValue (c : Flow.Convergence) :
    c.toValue.isWritable = true ↔ Text.isWritable c.iterations = true := by
  rw [toValue, isWritable_object]
  simp [isWritable]

lemma Result.portable_recordsValue (r : Result) : r.recordsValue.Portable := by
  apply Portable.list
  intro v hv
  obtain ⟨record, -, rfl⟩ := List.mem_map.mp hv
  exact record.portable_toValue

lemma Result.portable_convergenceValue (r : Result) : r.convergenceValue.Portable := by
  unfold convergenceValue
  cases r.convergence with
  | none => exact .null
  | some c => exact c.portable_toValue

lemma portable_byResult {results : OrderedMap String Result} {f : Result → Value}
    (hnodup : results.keys.Nodup) (h : ∀ r, (f r).Portable) :
    (Value.object (results.entries.map fun e => (e.1, f e.2))).Portable := by
  apply Portable.object
  · rwa [List.map_map]
  · intro e he
    obtain ⟨x, -, rfl⟩ := List.mem_map.mp he
    exact h x.2

lemma Report.portable_toValue {r : Report} {language : String} (hlanguage : r.language = .text language)
    (hnodup : r.results.keys.Nodup) : r.toValue.Portable := by
  have hsummary : r.summaryValue.Portable := by
    refine .object (by simp [Severity.all, Severity.label]) ?_
    intro f hf
    obtain ⟨s, -, rfl⟩ := List.mem_map.mp hf
    exact .int _
  refine .object (by simp) ?_
  simp only [List.forall_mem_cons]
  exact ⟨hlanguage ▸ .text language, .text _, .text _,
    portable_byResult hnodup Result.portable_recordsValue,
    portable_byResult hnodup Result.portable_convergenceValue, hsummary, portable_textList _, by simp⟩

lemma isWritable_byResult {results : OrderedMap String Result} {f : Result → Value} :
    (Value.object (results.entries.map fun e => (e.1, f e.2))).isWritable = true ↔
      ∀ x ∈ results.values, (f x).isWritable = true := by
  rw [isWritable_object, List.forall_mem_map, OrderedMap.values, List.forall_mem_map]

lemma Result.isWritable_recordsValue {r : Result}
    (h : ∀ record ∈ r.records, ∀ s ∈ record.sets.entries, s.1 ≠ "line") :
    r.recordsValue.isWritable = true ↔ ∀ record ∈ r.records, Text.isWritable record.line = true := by
  rw [recordsValue, isWritable_list, List.forall_mem_map]
  exact forall₂_congr fun record hrecord => Record.isWritable_toValue (h record hrecord)

lemma Result.isWritable_convergenceValue (r : Result) :
    r.convergenceValue.isWritable = true ↔ ∀ c ∈ r.convergence, Text.isWritable c.iterations = true := by
  unfold convergenceValue
  cases r.convergence with
  | none => simp [isWritable]
  | some c => simpa using c.isWritable_toValue

namespace Report

variable (r : Report)

/-- The lines of the records, the numbers of passes, and how many issues there are of each severity. -/
def numbers : List Int :=
  r.results.values.flatMap (fun x => x.records.map (·.line) ++ x.convergence.toList.map (·.iterations)) ++
    Severity.all.map fun s => (r.count s : Int)

lemma isWritable_toValue {r : Report} {language : String} (hlanguage : r.language = .text language)
    (h : ∀ x ∈ r.results.values, ∀ record ∈ x.records, ∀ s ∈ record.sets.entries, s.1 ≠ "line") :
    r.toValue.isWritable = true ↔ ∀ n ∈ r.numbers, Text.isWritable n = true := by
  have hrecords : (∀ x ∈ r.results.values, x.recordsValue.isWritable = true) ↔
      ∀ x ∈ r.results.values, ∀ record ∈ x.records, Text.isWritable record.line = true :=
    forall₂_congr fun x hx => Result.isWritable_recordsValue (h x hx)
  have hsummary : r.summaryValue.isWritable = true ↔
      ∀ s ∈ Severity.all, Text.isWritable (r.count s) = true := by
    rw [summaryValue, isWritable_object, List.forall_mem_map]
    rfl
  rw [toValue, isWritable_object]
  simp only [List.forall_mem_cons, isWritable_byResult, hrecords, Result.isWritable_convergenceValue,
    hsummary, hlanguage, isWritable_text, isWritable_textList]
  simp only [numbers, List.forall_mem_append, List.forall_mem_flatMap, List.forall_mem_map,
    Option.mem_toList]
  constructor
  · rintro ⟨-, -, -, hlines, hpasses, hcounts, -⟩
    exact ⟨fun x hx => ⟨hlines x hx, hpasses x hx⟩, hcounts⟩
  · rintro ⟨hresults, hcounts⟩
    exact ⟨trivial, trivial, trivial, fun x hx => (hresults x hx).1, fun x hx => (hresults x hx).2, hcounts,
      trivial, by simp⟩

end Report

end Parts

namespace Analyzer

inductive Produces (a : Analyzer) (clock : Clock) (r : Report) : Prop where
  | graph {g : Graph} {facts : FactTable} :
      (a.analyzeGraph clock g facts).outcome = .ok r → Produces a clock r
  | source {t : FileTree} {source : String} {language : Value} :
      (a.analyze clock t source language).outcome = .ok r → Produces a clock r
  | file {t : FileTree} {p : Path} {language : Value} :
      (a.analyzeFile clock t p language).outcome = .ok r → Produces a clock r

variable {a : Analyzer} {clock : Clock} {r : Report}

lemma exists_results_analyze {t : FileTree} {source : String} {language : Value}
    (h : (a.analyze clock t source language).outcome = .ok r) :
    ∃ g facts, r.results = (a.report clock g facts (a.runs g facts)).results := by
  obtain ⟨lib, p, -, rfl⟩ := (analyze_eq_ok a clock).mp h
  exact ⟨_, _, rfl⟩

lemma Produces.exists_results (h : a.Produces clock r) :
    ∃ g facts, r.results = (a.report clock g facts (a.runs g facts)).results := by
  cases h with
  | graph h => exact ⟨_, _, congrArg Report.results (eq_report_of_analyzeGraph a clock h)⟩
  | source h => exact exists_results_analyze h
  | file h =>
    unfold analyzeFile at h
    split at h
    case h_1 =>
      obtain ⟨library, -, h⟩ := Traced.bind_eq_ok.mp h
      obtain ⟨source, -, h⟩ := Traced.bind_eq_ok.mp h
      obtain ⟨g, facts, hr⟩ := exists_results_analyze h
      exact ⟨g, facts, hr⟩
    case h_2 =>
      obtain ⟨source, -, h⟩ := Traced.bind_eq_ok.mp h
      exact exists_results_analyze h

lemma Produces.nodup_results (h : a.Produces clock r) : r.results.keys.Nodup := by
  obtain ⟨g, facts, hr⟩ := h.exists_results
  rw [hr, results_report]
  exact OrderedMap.nodup_keys_ofList _

lemma line_notMem_shown (x : Analysis) (sets : Flow.Sets Token) : "line" ∉ (x.shown sets).map (·.1) := by
  cases x <;> simp [Analysis.shown, Analysis.exposed]

lemma Produces.name_ne_line (h : a.Produces clock r) :
    ∀ x ∈ r.results.values, ∀ record ∈ x.records, ∀ s ∈ record.sets.entries, s.1 ≠ "line" := by
  obtain ⟨g, facts, hr⟩ := h.exists_results
  intro x hx record hrecord s hs hname
  rw [hr] at hx
  obtain ⟨e, he, rfl⟩ := List.mem_map.mp hx
  obtain ⟨y, -, rfl⟩ := (mem_results_report a clock).mp he
  obtain ⟨z, -, rfl⟩ := List.mem_map.mp hrecord
  exact line_notMem_shown y _ (List.mem_map.mpr ⟨s, hs, hname⟩)

def blankIndent (indent : Option ℕ) : Value := indent.elim .null fun n => .int n

lemma ofValue_nat (n : ℕ) : Layout.ofValue (.int n) =
    if n < 2 ^ 63 then .ok (some (String.ofList (List.replicate n ' '))) else .error .notIndex := by
  change Layout.blanks n = _
  have hiff : (-Layout.countLimit : Int) ≤ n ∧ (n : Int) < Layout.countLimit ↔ n < 2 ^ 63 := by
    simp only [Layout.countLimit]
    omega
  simp only [Layout.blanks, hiff, Int.toNat_natCast]

lemma isBlank_ofValue {indent : Option ℕ} (h : ∀ n ∈ indent, n < 2 ^ 63) :
    ∃ layout, Layout.ofValue (blankIndent indent) = .ok layout ∧ layout.IsBlank := by
  cases indent with
  | none => exact ⟨none, rfl, by simp [Layout.IsBlank]⟩
  | some n =>
    refine ⟨_, (ofValue_nat n).trans (if_pos (h n rfl)), ?_⟩
    rintro _ ⟨⟩ c hc
    rw [String.toList_ofList] at hc
    obtain rfl := List.eq_of_mem_replicate hc
    rfl

lemma Produces.toJson_eq (h : a.Produces clock r) {language : String} (hlanguage : r.language = .text language)
    {indent : Value} {layout : Layout} (hlayout : Layout.ofValue indent = .ok layout) :
    r.toJson indent = if ∀ n ∈ r.numbers, Text.isWritable n = true
      then .ok (String.ofList (r.toValue.json layout 0)) else .error .tooLong := by
  have hportable := Report.portable_toValue hlanguage h.nodup_results
  rw [Report.toJson, hlayout]
  change r.toValue.toJson layout = _
  rw [Json.toJson_of_portable hportable]
  simp only [Report.isWritable_toValue hlanguage h.name_ne_line]

lemma toJson_of_great_indent (r : Report) {n : ℕ} (h : 2 ^ 63 ≤ n) : r.toJson (.int n) = .error .notIndex := by
  rw [Report.toJson, ofValue_nat, if_neg (Nat.not_lt.mpr h)]
  rfl

/-- A report in JSON is a text in ASCII that reads back as the data of the report, its keys in their order, if
its numbers and the indent are not too great; and otherwise there is no such text. -/
theorem report_reads_back (h : a.Produces clock r) {language : String}
    (hlanguage : r.language = .text language) (indent : Option ℕ) :
    ((∀ n ∈ indent, n < 2 ^ 63) → (∀ n ∈ r.numbers, n.natAbs < 10 ^ 4300) →
      ∃ text, r.toJson (blankIndent indent) = .ok text ∧ (∀ c ∈ text.toList, c.toNat < 0x80) ∧
        Json.decode text = some r.toValue) ∧
    ((∃ n ∈ indent, 2 ^ 63 ≤ n) ∨ (∃ n ∈ r.numbers, 10 ^ 4300 ≤ n.natAbs) →
      ∃ e, r.toJson (blankIndent indent) = .error e) := by
  constructor
  · intro hindent hnumbers
    obtain ⟨layout, hlayout, hblank⟩ := isBlank_ofValue hindent
    have hportable := Report.portable_toValue hlanguage h.nodup_results
    have hwritable : ∀ n ∈ r.numbers, Text.isWritable n = true := fun n hn =>
      Text.isWritable_iff.mpr (hnumbers n hn)
    refine ⟨_, (h.toJson_eq hlanguage hlayout).trans (if_pos hwritable), ?_, Json.decode_json hblank hportable⟩
    rw [String.toList_ofList]
    exact Json.ascii_json hblank hportable 0
  · intro hgreat
    by_cases hindent : ∀ n ∈ indent, n < 2 ^ 63
    · obtain ⟨layout, hlayout, -⟩ := isBlank_ofValue hindent
      refine ⟨.tooLong, (h.toJson_eq hlanguage hlayout).trans (if_neg fun hwritable => ?_)⟩
      rcases hgreat with ⟨n, hn, hle⟩ | ⟨n, hn, hle⟩
      · exact Nat.not_lt.mpr hle (hindent n hn)
      · exact Nat.not_lt.mpr hle (Text.isWritable_iff.mp (hwritable n hn))
    · push Not at hindent
      obtain ⟨n, hn, hle⟩ := hindent
      obtain rfl := Option.mem_def.mp hn
      exact ⟨.notIndex, toJson_of_great_indent r hle⟩

def clefAnalyzer : Analyzer := ⟨Settings.defaults, { read := Yaml.read }⟩

def clefGraph : Graph := .ofStatements [⟨"s = \"𝄞\t\"", 7⟩]

def clefReport : Report :=
  let facts := FactTable.ofGraph { name := "java" } clefGraph
  clefAnalyzer.report ⟨"", 0⟩ clefGraph facts (clefAnalyzer.runs clefGraph facts)

lemma produces_clefReport : clefAnalyzer.Produces ⟨"", 0⟩ clefReport := by
  have hlines : ∀ s ∈ clefGraph.statements, Text.isWritable s.line = true := by
    intro s hs
    obtain rfl := List.mem_singleton.mp hs
    exact Text.isWritable_of_le (by decide)
  exact .graph (congrArg Traced.outcome (analyzeGraph_eq_reported _ _ fun _ => hlines))

theorem clef_reads_back :
    clefAnalyzer.Produces ⟨"", 0⟩ clefReport ∧ clefReport.language = .text "java" ∧
    (∀ n ∈ some 2, n < 2 ^ 63) ∧ (∀ n ∈ clefReport.numbers, n.natAbs < 10 ^ 4300) ∧
    ∃ text, clefReport.toJson (.int 2) = .ok text ∧ (∀ c ∈ text.toList, c.toNat < 0x80) ∧
      Json.decode text = some clefReport.toValue := by
  have hlanguage : clefReport.language = .text "java" := rfl
  have hindent : ∀ n ∈ some 2, n < 2 ^ 63 := by decide
  have hsmall : ∀ n ∈ clefReport.numbers, n.natAbs ≤ 4300 := by decide +kernel
  have hnumbers : ∀ n ∈ clefReport.numbers, n.natAbs < 10 ^ 4300 := fun n hn =>
    Text.isWritable_iff.mp (Text.isWritable_of_le (hsmall n hn))
  exact ⟨produces_clefReport, hlanguage, hindent, hnumbers,
    (report_reads_back produces_clefReport hlanguage (some 2)).1 hindent hnumbers⟩

def distantAnalyzer : Analyzer := ⟨{ Settings.defaults with analyses := [.live] }, { read := Yaml.read }⟩

def distantGraph (line : Int) : Graph := .ofStatements [⟨"x", line⟩]

def distantReport (line : Int) : Report :=
  distantAnalyzer.report ⟨"", 0⟩ (distantGraph line) {} (distantAnalyzer.runs (distantGraph line) {})

lemma produces_distantReport (line : Int) : distantAnalyzer.Produces ⟨"", 0⟩ (distantReport line) := by
  refine .graph (congrArg Traced.outcome (analyzeGraph_eq_reported _ _ fun hreaching => ?_))
  exact absurd hreaching (by decide)

lemma mem_numbers_distantReport (line : Int) : line ∈ (distantReport line).numbers := by
  have hresult : distantAnalyzer.resultOf (distantGraph line) {} .live ∈ (distantReport line).results.values :=
    List.mem_map.mpr ⟨_, (mem_results_report _ _).mpr ⟨.live, by decide, rfl⟩, rfl⟩
  refine List.mem_append_left _ (List.mem_flatMap.mpr ⟨_, hresult, List.mem_append_left _ ?_⟩)
  exact List.mem_singleton.mpr rfl

theorem great_numbers_unwritten :
    (distantAnalyzer.Produces ⟨"", 0⟩ (distantReport (10 ^ 4300)) ∧
      (distantReport (10 ^ 4300)).language = .text "java" ∧
      (distantReport (10 ^ 4300)).toJson .null = .error .tooLong) ∧
    clefAnalyzer.Produces ⟨"", 0⟩ clefReport ∧ clefReport.language = .text "java" ∧
      clefReport.toJson (.int (10 ^ 30)) = .error .notIndex := by
  have hlong : ¬ ∀ n ∈ (distantReport (10 ^ 4300)).numbers, Text.isWritable n = true := fun hall =>
    Nat.not_lt.mpr (Text.pow_le_natAbs 4300) (Text.isWritable_iff.mp (hall (10 ^ 4300) (mem_numbers_distantReport _)))
  have hproduces := produces_distantReport (10 ^ 4300)
  have hlanguage : (distantReport (10 ^ 4300)).language = .text "java" := rfl
  have hnull : Layout.ofValue .null = .ok none := rfl
  exact ⟨⟨hproduces, hlanguage, (hproduces.toJson_eq hlanguage hnull).trans (if_neg hlong)⟩,
    produces_clefReport, rfl, toJson_of_great_indent clefReport (n := 10 ^ 30) (by decide)⟩

end Analyzer

end GenKill
