import GenKill.Analyzer
import GenKill.Proofs.Analysis.Straight
import GenKill.Proofs.Analysis.Texts
import GenKill.Proofs.Fact.Statement

namespace GenKill

open GenKill.Flow

namespace OrderedMap

variable {κ ν ω : Type} [DecidableEq κ]

lemma mem_put_self (k : κ) (v : ν) (l : List (κ × ν)) : (k, v) ∈ put k v l := by
  induction l with
  | nil => exact List.mem_singleton_self _
  | cons x rest ih =>
    rw [put]
    split
    case isTrue => exact List.mem_cons_self
    case isFalse => exact List.mem_cons_of_mem x ih

lemma mem_put_of_ne {k : κ} {v : ν} {l : List (κ × ν)} {e : κ × ν} (h : e ∈ l) (hne : e.1 ≠ k) :
    e ∈ put k v l := by
  induction l with
  | nil => cases h
  | cons x rest ih =>
    rw [put]
    split
    case isTrue hx =>
      rcases List.mem_cons.mp h with rfl | h
      · exact absurd hx hne
      · exact List.mem_cons_of_mem _ h
    case isFalse =>
      rcases List.mem_cons.mp h with rfl | h
      · exact List.mem_cons_self
      · exact List.mem_cons_of_mem x (ih h)

lemma mem_of_mem_put {k : κ} {v : ν} {l : List (κ × ν)} {e : κ × ν} (h : e ∈ put k v l) :
    e = (k, v) ∨ e ∈ l := by
  induction l with
  | nil => exact Or.inl (List.mem_singleton.mp h)
  | cons x rest ih =>
    rw [put] at h
    split at h
    · rcases List.mem_cons.mp h with rfl | h
      · exact Or.inl rfl
      · exact Or.inr (List.mem_cons_of_mem x h)
    · rcases List.mem_cons.mp h with rfl | h
      · exact Or.inr List.mem_cons_self
      · exact (ih h).imp id (List.mem_cons_of_mem x)

lemma mem_put {k : κ} {v : ν} {l : List (κ × ν)} (h : ∀ w, (k, w) ∈ l → w = v) {e : κ × ν} :
    e ∈ put k v l ↔ e = (k, v) ∨ e ∈ l := by
  refine ⟨mem_of_mem_put, ?_⟩
  rintro (rfl | he)
  · exact mem_put_self k v l
  · obtain ⟨k', w⟩ := e
    by_cases hk : k' = k
    · obtain rfl := hk
      obtain rfl := h w he
      exact mem_put_self k' w l
    · exact mem_put_of_ne he hk

lemma nodup_put {l : List (κ × ν)} (h : (l.map (·.1)).Nodup) (k : κ) (v : ν) :
    ((put k v l).map (·.1)).Nodup := by
  rw [keys_put]
  split
  case isTrue => exact h
  case isFalse hk =>
    rw [← List.concat_eq_append]
    exact h.concat hk

lemma map_put (f : ν → ω) (k : κ) (v : ν) (l : List (κ × ν)) :
    (put k v l).map (fun e => (e.1, f e.2)) = put k (f v) (l.map fun e => (e.1, f e.2)) := by
  induction l with
  | nil => rfl
  | cons x rest ih =>
    by_cases hk : x.1 = k
    · simp [put, hk]
    · simp [put, hk, ih]

lemma ofList_concat (l : List (κ × ν)) (e : κ × ν) :
    (ofList (l ++ [e])).entries = put e.1 e.2 (ofList l).entries := by
  rw [ofList, List.foldl_append]
  rfl

lemma nodup_keys_ofList (l : List (κ × ν)) : (ofList l).keys.Nodup := by
  induction l using List.reverseRecOn with
  | nil => exact List.nodup_nil
  | append_singleton l e ih =>
    rw [keys, ofList_concat]
    exact nodup_put ih e.1 e.2

lemma mem_entries_ofList {l : List (κ × ν)} (h : ∀ k v w, (k, v) ∈ l → (k, w) ∈ l → v = w)
    {e : κ × ν} : e ∈ (ofList l).entries ↔ e ∈ l := by
  induction l using List.reverseRecOn generalizing e with
  | nil => rfl
  | append_singleton l x ih =>
    have hl : ∀ k v w, (k, v) ∈ l → (k, w) ∈ l → v = w := fun k v w hv hw =>
      h k v w (List.mem_append_left _ hv) (List.mem_append_left _ hw)
    have hx : ∀ w, (x.1, w) ∈ (ofList l).entries → w = x.2 := fun w hw =>
      h x.1 w x.2 (List.mem_append_left _ ((ih hl).mp hw)) (by simp)
    rw [ofList_concat, mem_put hx, ih hl, List.mem_append, List.mem_singleton, or_comm]

lemma map_entries_ofList (f : ν → ω) (l : List (κ × ν)) :
    (ofList l).entries.map (fun e => (e.1, f e.2)) =
      (ofList (l.map fun e => (e.1, f e.2))).entries := by
  induction l using List.reverseRecOn with
  | nil => rfl
  | append_singleton l x ih =>
    rw [ofList_concat, map_put, ih, List.map_append, List.map_singleton, ofList_concat]

end OrderedMap

namespace Traced

variable {α β : Type}

lemma bind_eq_ok {t : Traced α} {f : α → Traced β} {b : β} :
    (t >>= f).outcome = .ok b ↔ ∃ a, t.outcome = .ok a ∧ (f a).outcome = .ok b := by
  change (t.bind f).outcome = _ ↔ _
  unfold bind
  cases t.outcome with
  | ok a => simp
  | error e => simp

lemma forM_of_ok {l : List α} {f : α → Traced Unit} {log : α → Log} (h : ∀ x ∈ l, f x = ⟨log x, .ok ()⟩) :
    l.forM f = ⟨l.flatMap log, .ok ()⟩ := by
  induction l with
  | nil => rfl
  | cons x l ih =>
    change (f x).bind (fun _ => l.forM f) = _
    rw [h x List.mem_cons_self, ih fun y hy => h y (List.mem_cons_of_mem x hy), List.flatMap_cons]
    rfl

end Traced

namespace Analysis

lemma name_injective : Function.Injective Analysis.name := by
  intro a b h
  cases a <;> cases b <;> first | rfl | exact absurd h (by decide)

lemma side_of_mem_exposed {a : Analysis} {sets : Sets Token} {x : String × TokenSet Token}
    (h : x ∈ a.exposed sets) : x.2 = sets.before ∨ x.2 = sets.after := by
  cases a <;> simp only [exposed, List.mem_cons, List.not_mem_nil, or_false] at h <;> grind

lemma Tracks.isWritable_line {a : Analysis} {g : Graph} {e : Token} (h : a.Tracks g e)
    (hlines : a = reaching → ∀ s ∈ g.statements, Text.isWritable s.line = true) :
    Text.isWritable e.line = true := by
  cases a with
  | reaching =>
    obtain ⟨name, s, hs, rfl⟩ := h
    exact hlines rfl s hs
  | live | available | busy =>
    obtain ⟨name, rfl⟩ := h
    exact Text.isWritable_of_le (n := 0) (by decide)

lemma checkWritten_solve {a : Analysis} {b : Boundary} {cap : ℕ} {g : Graph} {facts : FactTable}
    (h : a = reaching → ∀ s ∈ g.statements, Text.isWritable s.line = true) :
    a.checkWritten g (a.solve b cap g facts) = .ok () := by
  have hset {x : String × TokenSet Token} {n : NodeId}
      (hx : x ∈ a.exposed ((a.solve b cap g facts).store.sets n)) : discard (texts x.2) = .ok () := by
    have hall : x.2.toList.all (fun e => Text.isWritable e.line) = true := by
      rw [List.all_eq_true]
      intro e he
      rw [Std.ExtTreeSet.mem_toList] at he
      rcases side_of_mem_exposed hx with hside | hside
      · exact (tracks_of_mem_solve (Or.inl (hside ▸ he))).isWritable_line h
      · exact (tracks_of_mem_solve (Or.inr (hside ▸ he))).isWritable_line h
    rw [texts_eq, if_pos hall]
    rfl
  exact forM_of_ok fun x _ => forM_of_ok fun y hy => hset hy

end Analysis

namespace Analyzer

variable (a : Analyzer) (clock : Clock)

def resultOf (g : Graph) (facts : FactTable) (x : Analysis) : Result :=
  x.result a.settings.hints.isPresent g facts
    (x.solve a.settings.boundary a.settings.passLimit g facts)

lemma results_report (g : Graph) (facts : FactTable) :
    (a.report clock g facts (a.runs g facts)).results =
      OrderedMap.ofList (a.settings.analyses.map fun x => (x.name, a.resultOf g facts x)) := by
  simp only [report, runs, OrderedMap.ofList, List.foldl_map]
  rfl

lemma mem_results_report {g : Graph} {facts : FactTable} {e : String × Result} :
    e ∈ (a.report clock g facts (a.runs g facts)).results.entries ↔
      ∃ x ∈ a.settings.analyses, e = (x.name, a.resultOf g facts x) := by
  rw [results_report, OrderedMap.mem_entries_ofList, List.mem_map]
  · simp only [eq_comm]
  · intro k v w hv hw
    obtain ⟨x, -, hx⟩ := List.mem_map.mp hv
    obtain ⟨y, -, hy⟩ := List.mem_map.mp hw
    obtain ⟨rfl, rfl⟩ := Prod.mk.inj hx
    obtain ⟨hname, rfl⟩ := Prod.mk.inj hy
    rw [Analysis.name_injective hname]

lemma mem_issues_report {g : Graph} {facts : FactTable} {i : Issue} :
    i ∈ (a.report clock g facts (a.runs g facts)).issues ↔ ∃ x ∈ a.settings.analyses,
      ∃ record ∈ (a.resultOf g facts x).records, i ∈ record.issues := by
  simp only [Report.issues, Report.allIssues, List.mem_map, List.mem_flatMap, mem_results_report]
  constructor
  · rintro ⟨_, ⟨_, ⟨x, hx, rfl⟩, record, hrecord, _, hi, rfl⟩, rfl⟩
    exact ⟨x, hx, record, hrecord, hi⟩
  · rintro ⟨x, hx, record, hrecord, hi⟩
    exact ⟨(x.name, record, i), ⟨_, ⟨x, hx, rfl⟩, record, hrecord, i, hi, rfl⟩, rfl⟩

lemma errors_report (g : Graph) (facts : FactTable)
    (h : ∀ x : Analysis,
      (x.solve a.settings.boundary a.settings.passLimit g facts).convergence.converged = true) :
    (a.report clock g facts (a.runs g facts)).errors = [] := by
  simp [report, runs, runErrors, h]

lemma eq_report_of_analyzeGraph {g : Graph} {facts : FactTable} {r : Report}
    (h : (a.analyzeGraph clock g facts).outcome = .ok r) :
    r = a.report clock g facts (a.runs g facts) := by
  obtain ⟨-, -, h⟩ := Traced.bind_eq_ok.mp h
  obtain ⟨-, -, h⟩ := Traced.bind_eq_ok.mp h
  obtain ⟨-, -, h⟩ := Traced.bind_eq_ok.mp h
  exact (Except.ok.inj h).symm

lemma analyzeGraph_eq_reported {g : Graph} {facts : FactTable}
    (h : .reaching ∈ a.settings.analyses → ∀ s ∈ g.statements, Text.isWritable s.line = true) :
    a.analyzeGraph clock g facts = a.reported clock g facts := by
  have htraced : ∀ x ∈ a.runs g facts, x.1.traced g x.2 = ⟨x.1.log x.2.convergence, .ok ()⟩ := by
    intro x hx
    obtain ⟨y, hy, rfl⟩ := List.mem_map.mp hx
    rw [Analysis.traced, Analysis.checkWritten_solve fun hreaching => h (hreaching ▸ hy)]
    rfl
  have hruns := Traced.forM_of_ok htraced
  change (Traced.say _).bind (fun _ => ((a.runs g facts).forM fun x => x.1.traced g x.2).bind _) = _
  rw [hruns]
  rfl

def sourceReport (p : Profile) (source : String) : Report :=
  let g := Graph.ofSource p source
  let facts := FactTable.ofGraph p g
  { a.report clock g facts (a.runs g facts) with source, language := .text p.name }

lemma outcome_analyze (t : FileTree) (source : String) (language : Value) :
    (a.analyze clock t source language).outcome =
      (a.library.profile t (a.languageOr language)).outcome.map fun x =>
        a.sourceReport clock x.2 source := by
  change (Traced.bind _ _).outcome = _
  unfold Traced.bind
  cases (a.library.profile t (a.languageOr language)).outcome with
  | ok x => rfl
  | error e => rfl

lemma analyze_eq_ok {t : FileTree} {source : String} {language : Value} {r : Report} :
    (a.analyze clock t source language).outcome = .ok r ↔ ∃ lib p,
      (a.library.profile t (a.languageOr language)).outcome = .ok (lib, p) ∧
        a.sourceReport clock p source = r := by
  rw [outcome_analyze]
  cases (a.library.profile t (a.languageOr language)).outcome with
  | ok x => simp [Except.map, Prod.ext_iff]
  | error e => simp [Except.map]

end Analyzer

end GenKill
