import GenKill.Analysis.Basic
import Mathlib.Data.List.Basic
import Mathlib.Tactic.Common

namespace GenKill.Issue

def Warns (code name : String) (i : Issue) : Prop :=
  i.severity = .warning ∧ i.code = code ∧ i.subject = some name

lemma mem_ofLive {f : Fact} {liveAfter : TokenSet Token} {i : Issue} :
    i ∈ ofLive f liveAfter ↔
      ∃ v, f.target = some v ∧ Token.var v ∉ liveAfter ∧ i = deadStore v := by
  unfold ofLive
  cases f.target with
  | none => simp
  | some name =>
    by_cases hl : Token.var name ∈ liveAfter
    · simp [hl]
    · simp [hl]

lemma exists_mem_ofLive_warns {f : Fact} {liveAfter : TokenSet Token} {v : String} :
    (∃ i ∈ ofLive f liveAfter, i.Warns "dead-store" v) ↔
      f.target = some v ∧ Token.var v ∉ liveAfter := by
  simp only [mem_ofLive]
  constructor
  · rintro ⟨i, ⟨w, hw, hl, rfl⟩, -, -, hs⟩
    obtain rfl : w = v := Option.some.inj hs
    exact ⟨hw, hl⟩
  · rintro ⟨hv, hl⟩
    exact ⟨deadStore v, ⟨v, hv, hl, rfl⟩, rfl, rfl, rfl⟩

lemma mem_definitionsOf {v : String} {reaching : TokenSet Token} {e : Token} :
    e ∈ definitionsOf v reaching ↔ ∃ line, e = .site v line ∧ e ∈ reaching := by
  simp only [definitionsOf, List.mem_filter, Std.ExtTreeSet.mem_toList]
  cases e with
  | site name line =>
    simp only [Token.defines, beq_iff_eq, Token.site.injEq, exists_and_right]
    constructor
    · rintro ⟨he, rfl⟩
      exact ⟨⟨line, rfl, rfl⟩, he⟩
    · rintro ⟨⟨_, rfl, rfl⟩, he⟩
      exact ⟨he, rfl⟩
  | expr text => simp [Token.defines]
  | label text => simp [Token.defines]
  | var name => simp [Token.defines]

lemma definitionsOf_eq_nil {v : String} {reaching : TokenSet Token} :
    definitionsOf v reaching = [] ↔ ∀ line, Token.site v line ∉ reaching := by
  rw [List.eq_nil_iff_forall_not_mem]
  simp only [mem_definitionsOf]
  constructor
  · exact fun h line hl => h _ ⟨line, rfl, hl⟩
  · rintro h _ ⟨line, rfl, hl⟩
    exact h line hl

lemma length_definitionsOf_le_one {v : String} {reaching : TokenSet Token}
    (h : ∀ l m, Token.site v l ∈ reaching → Token.site v m ∈ reaching → l = m) :
    (definitionsOf v reaching).length ≤ 1 := by
  have hdistinct : (definitionsOf v reaching).Pairwise (· ≠ ·) := by
    apply List.Pairwise.filter
    apply Std.ExtTreeSet.distinct_toList.imp
    intro a b hab heq
    exact hab (by simp [heq])
  cases hd : definitionsOf v reaching with
  | nil => simp
  | cons a rest =>
    cases rest with
    | nil => simp
    | cons b rest =>
      have ha : a ∈ definitionsOf v reaching := by simp [hd]
      have hb : b ∈ definitionsOf v reaching := by simp [hd]
      obtain ⟨l, rfl, hl⟩ := mem_definitionsOf.mp ha
      obtain ⟨m, rfl, hm⟩ := mem_definitionsOf.mp hb
      rw [hd, h l m hl hm] at hdistinct
      exact absurd rfl (List.rel_of_pairwise_cons hdistinct List.mem_cons_self)

lemma mem_atUse {f : Fact} {reaching : TokenSet Token} {i : Issue} :
    i ∈ atUse f reaching ↔
      ∃ v ∈ f.used, (∀ line, Token.site v line ∉ reaching) ∧ i = uninitialized v := by
  simp only [atUse, List.mem_map, List.mem_filter, List.isEmpty_iff, definitionsOf_eq_nil]
  constructor
  · rintro ⟨v, ⟨hu, hno⟩, rfl⟩
    exact ⟨v, hu, hno, rfl⟩
  · rintro ⟨v, hu, hno, rfl⟩
    exact ⟨v, ⟨hu, hno⟩, rfl⟩

lemma mem_atDefinition {f : Fact} {reaching : TokenSet Token} {i : Issue} :
    i ∈ atDefinition f reaching ↔ ∃ v, f.target = some v ∧
      1 < (definitionsOf v reaching).length ∧ i = multiplyDefined v := by
  unfold atDefinition
  cases f.target with
  | none => simp
  | some name =>
    by_cases hlen : 1 < (definitionsOf name reaching).length
    · simp [hlen]
    · simp [hlen]

lemma exists_mem_ofReaching_warns {f : Fact} {reaching : TokenSet Token} {v : String} :
    (∃ i ∈ ofReaching f reaching, i.Warns "uninitialized-use" v) ↔
      v ∈ f.used ∧ ∀ line, Token.site v line ∉ reaching := by
  simp only [ofReaching, List.mem_append, mem_atUse, mem_atDefinition]
  constructor
  · rintro ⟨i, ⟨w, hu, hno, rfl⟩ | ⟨w, -, -, rfl⟩, hw, hcode, hs⟩
    · obtain rfl : w = v := Option.some.inj hs
      exact ⟨hu, hno⟩
    · cases hw
  · rintro ⟨hu, hno⟩
    exact ⟨uninitialized v, Or.inl ⟨v, hu, hno, rfl⟩, rfl, rfl, rfl⟩

end GenKill.Issue

namespace GenKill.Analysis

variable {a : Analysis} {hints : Bool} {f : Fact} {sets : Flow.Sets Token}

def codes : Analysis → List String
  | reaching => ["uninitialized-use", "multiple-definitions"]
  | live => ["dead-store"]
  | available => ["redundant-computation"]
  | busy => ["hoistable-expression"]

lemma code_mem_codes {i : Issue} (h : i ∈ a.issues hints f sets) : i.code ∈ a.codes := by
  cases a with
  | reaching =>
    simp only [issues, Issue.ofReaching, List.mem_append, Issue.mem_atUse,
      Issue.mem_atDefinition] at h
    rcases h with ⟨v, -, -, rfl⟩ | ⟨v, -, -, rfl⟩
    · simp [codes, Issue.uninitialized]
    · simp [codes, Issue.multiplyDefined]
  | live =>
    obtain ⟨v, -, -, rfl⟩ := Issue.mem_ofLive.mp h
    simp [codes, Issue.deadStore]
  | available =>
    cases hints with
    | false => cases h
    | true =>
      obtain ⟨text, -, rfl⟩ := List.mem_map.mp h
      simp [codes, Issue.redundant]
  | busy =>
    cases hints with
    | false => cases h
    | true =>
      obtain ⟨text, -, rfl⟩ := List.mem_map.mp h
      simp [codes, Issue.hoistable]

lemma eq_of_code {x : Analysis} {i : Issue} (h : i ∈ a.issues hints f sets) (hx : i.code ∈ x.codes) :
    a = x := by
  have hdisjoint : ∀ a x : Analysis, ∀ code ∈ a.codes, code ∈ x.codes → a = x := by
    intro a x
    cases a <;> cases x <;> decide
  exact hdisjoint a x i.code (code_mem_codes h) hx

lemma exists_uninitialized_iff {v : String} :
    (∃ i ∈ a.issues hints f sets, i.Warns "uninitialized-use" v) ↔
      a = reaching ∧ v ∈ f.used ∧ ∀ line, Token.site v line ∉ sets.before := by
  constructor
  · rintro ⟨i, hi, hw⟩
    obtain rfl : a = reaching := eq_of_code hi (by simp [codes, hw.2.1])
    exact ⟨rfl, Issue.exists_mem_ofReaching_warns.mp ⟨i, hi, hw⟩⟩
  · rintro ⟨rfl, h⟩
    exact Issue.exists_mem_ofReaching_warns.mpr h

lemma exists_deadStore_warning_iff {v : String} :
    (∃ i ∈ a.issues hints f sets, i.Warns "dead-store" v) ↔
      a = live ∧ f.target = some v ∧ Token.var v ∉ sets.after := by
  constructor
  · rintro ⟨i, hi, hw⟩
    obtain rfl : a = live := eq_of_code hi (by simp [codes, hw.2.1])
    exact ⟨rfl, Issue.exists_mem_ofLive_warns.mp ⟨i, hi, hw⟩⟩
  · rintro ⟨rfl, h⟩
    exact Issue.exists_mem_ofLive_warns.mpr h

lemma multiplyDefined_of_code {i : Issue} (h : i ∈ a.issues hints f sets)
    (hcode : i.code = "multiple-definitions") :
    a = reaching ∧ ∃ v, 1 < (Issue.definitionsOf v sets.before).length := by
  obtain rfl : a = reaching := eq_of_code h (by simp [codes, hcode])
  simp only [issues, Issue.ofReaching, List.mem_append, Issue.mem_atUse,
    Issue.mem_atDefinition] at h
  rcases h with ⟨v, -, -, rfl⟩ | ⟨v, -, hlen, -⟩
  · exact absurd hcode (by simp [Issue.uninitialized])
  · exact ⟨rfl, v, hlen⟩

end GenKill.Analysis
