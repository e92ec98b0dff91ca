import GenKill.Proofs.Graph.Reline
import GenKill.Proofs.Graph.Session
import GenKill.Proofs.Text.Trim
import Mathlib.Data.List.GetD

/-! The graph of a source text, read off its lines. A line gives a statement if it lies outside the
regions that block comments open, is not blank and holds more than scaffolding; and the graph is the
one chain of these statements. -/

namespace GenKill

open Text

namespace Source

variable {p : Profile} {ls : List (List Char)} {raw : List Char}

def Opens (raw : List Char) : Prop := commentStart <+: trim raw

def Ends (raw : List Char) : Prop := commentEnd <:+: trim raw

/-- A comment that a line up to line `i` opens, counted from `0`, has not ended before line `i`. -/
def InComment (ls : List (List Char)) (i : ℕ) : Prop :=
  ∃ j ≤ i, Opens (ls.getD j []) ∧ ∀ k, j ≤ k → k < i → ¬ Ends (ls.getD k [])

structure Holds (p : Profile) (ls : List (List Char)) (i : ℕ) (text : List Char) : Prop where
  outside : ¬ InComment ls i
  visible : trim (ls.getD i []) ≠ []
  statement : statementText? p (trim (ls.getD i [])) = some text

section Comment

lemma commentBehind_iff {inComment : Bool} :
    commentBehind inComment raw = true ↔ (inComment = true ∨ Opens raw) ∧ ¬ Ends raw := by
  simp only [commentBehind, Opens, Ends]
  split
  case isTrue h =>
    rw [List.isEmpty_iff] at h
    simp [h, commentStart, commentEnd]
  case isFalse =>
    rw [Bool.and_eq_true, Bool.or_eq_true, Bool.not_eq_true', ← Bool.not_eq_true, isInfix_iff,
      List.isPrefixOf_iff_prefix]

lemma inComment_zero : InComment ls 0 ↔ Opens (ls.getD 0 []) := by
  simp [InComment]

lemma inComment_succ (i : ℕ) :
    InComment ls (i + 1) ↔ InComment ls i ∧ ¬ Ends (ls.getD i []) ∨ Opens (ls.getD (i + 1) []) := by
  constructor
  · rintro ⟨j, hj, hopens, hends⟩
    rcases Nat.lt_or_eq_of_le hj with hlt | rfl
    · refine Or.inl ⟨⟨j, Nat.le_of_lt_succ hlt, hopens, fun k hjk hk => hends k hjk (by omega)⟩, ?_⟩
      exact hends i (Nat.le_of_lt_succ hlt) i.lt_succ_self
    · exact Or.inr hopens
  · rintro (⟨⟨j, hj, hopens, hends⟩, hend⟩ | hopens)
    · refine ⟨j, by omega, hopens, fun k hjk hk => ?_⟩
      rcases Nat.lt_or_eq_of_le (Nat.le_of_lt_succ hk) with hlt | rfl
      · exact hends k hjk hlt
      · exact hend
    · exact ⟨i + 1, le_rfl, hopens, fun k hjk hk => by omega⟩

lemma inComment_iff {i : ℕ} (hi : i ≤ ls.length) :
    InComment ls i ↔ commentOpen (ls.take i) = true ∨ Opens (ls.getD i []) := by
  induction i with
  | zero => simp [inComment_zero, commentOpen]
  | succ i ih =>
    have hopen : commentOpen (ls.take (i + 1)) =
        commentBehind (commentOpen (ls.take i)) (ls.getD i []) := by
      rw [List.take_succ_eq_append_getElem hi, commentOpen, List.foldl_append,
        List.getD_eq_getElem _ _ hi]
      rfl
    rw [inComment_succ, ih (Nat.le_of_succ_le hi), hopen, commentBehind_iff]

end Comment

section Statement

lemma lineText?_eq_some {inComment : Bool} {text : List Char} :
    lineText? p inComment raw = some text ↔
      ¬ (inComment = true ∨ Opens raw) ∧ trim raw ≠ [] ∧ statementText? p (trim raw) = some text := by
  simp only [lineText?, Opens, ← List.isPrefixOf_iff_prefix]
  split
  case isTrue h =>
    simp only [Bool.or_eq_true, List.isEmpty_iff] at h
    simp only [reduceCtorEq, false_iff]
    tauto
  case isFalse h =>
    simp only [Bool.or_eq_true, List.isEmpty_iff] at h
    tauto

lemma mem_statementsFrom {inComment : Bool} {n : ℕ} {s : Statement} :
    s ∈ statementsFrom p inComment n ls ↔ ∃ i < ls.length, ∃ text,
      lineText? p ((ls.take i).foldl commentBehind inComment) (ls.getD i []) = some text ∧
        s = ⟨String.ofList text, Int.ofNat (n + i)⟩ := by
  induction ls generalizing inComment n with
  | nil => simp [statementsFrom]
  | cons raw ls ih =>
    rw [statementsFrom_cons, List.mem_append, ih]
    constructor
    · rintro (hs | ⟨i, hi, hs⟩)
      · obtain ⟨text, htext, rfl⟩ := List.mem_map.mp hs
        exact ⟨0, Nat.succ_pos _, text, Option.mem_toList.mp htext, rfl⟩
      · refine ⟨i + 1, Nat.succ_lt_succ hi, ?_⟩
        rwa [Nat.add_right_comm] at hs
    · rintro ⟨i, hi, hs⟩
      cases i with
      | zero =>
        obtain ⟨text, htext, rfl⟩ := hs
        exact Or.inl (List.mem_map.mpr ⟨text, Option.mem_toList.mpr htext, rfl⟩)
      | succ i =>
        refine Or.inr ⟨i, Nat.lt_of_succ_lt_succ hi, ?_⟩
        rwa [Nat.add_right_comm]

lemma Holds.lt_length {i : ℕ} {text : List Char} (h : Holds p ls i text) : i < ls.length := by
  by_contra hi
  apply h.visible
  rw [List.getD_eq_default _ _ (Nat.le_of_not_lt hi), trim_nil]

lemma mem_statements_iff {source : String} {s : Statement} :
    s ∈ statements p source ↔ ∃ i text, Holds p (lines source.toList) i text ∧
      s = ⟨String.ofList text, Int.ofNat (i + 1)⟩ := by
  rw [statements, mem_statementsFrom]
  constructor
  · rintro ⟨i, hi, text, hs, rfl⟩
    obtain ⟨hout, hvisible, htext⟩ := lineText?_eq_some.mp hs
    refine ⟨i, text, ⟨?_, hvisible, htext⟩, by rw [Nat.add_comm]⟩
    rwa [inComment_iff hi.le]
  · rintro ⟨i, text, h, rfl⟩
    have hout := h.outside
    rw [inComment_iff h.lt_length.le] at hout
    refine ⟨i, h.lt_length, text, lineText?_eq_some.mpr ⟨hout, h.visible, h.statement⟩, ?_⟩
    rw [Nat.add_comm]

lemma unbraced_isInfix (line : List Char) : unbraced line <:+: line :=
  (trim_isInfix.trans dropTrailing_isPrefix.isInfix).trans (List.dropWhile_suffix _).isInfix

lemma cutComment_isPrefix (line masked : List Char) : (cutComment line masked).1 <+: line := by
  unfold cutComment
  split
  · exact trimRight_isPrefix.trans (List.take_prefix _ line)
  · exact List.prefix_rfl

lemma statementText?_eq_some_iff {line text : List Char} : statementText? p line = some text ↔
    isCommentLine line = false ∧ p.isStructural (cutComment line (mask line)).2 = false ∧
    text = unbraced (cutComment line (mask line)).1 ∧ text.all (· == ';') = false ∧
    p.isStructural (unbraced (cutComment line (mask line)).2) = false := by
  simp only [statementText?, Option.ite_none_left_eq_some, Option.some.injEq, Bool.not_eq_true,
    Bool.or_eq_false_iff]
  constructor
  · rintro ⟨hline, hcut, ⟨hsemi, hbraces⟩, rfl⟩
    exact ⟨hline, hcut, rfl, hsemi, hbraces⟩
  · rintro ⟨hline, hcut, rfl, hsemi, hbraces⟩
    exact ⟨hline, hcut, ⟨hsemi, hbraces⟩, rfl⟩

lemma statementText?_eq_some {line text : List Char} (h : statementText? p line = some text) :
    text ≠ [] ∧ text = unbraced (cutComment line (mask line)).1 := by
  obtain ⟨-, -, heq, hsemi, -⟩ := statementText?_eq_some_iff.mp h
  refine ⟨?_, heq⟩
  rintro rfl
  cases hsemi

lemma Holds.trimmed {i : ℕ} {text : List Char} (h : Holds p ls i text) :
    text ≠ [] ∧ trim text = text ∧ text <:+: ls.getD i [] := by
  obtain ⟨hne, heq⟩ := statementText?_eq_some h.statement
  refine ⟨hne, ?_, ?_⟩
  · rw [heq, unbraced, trim_trim]
  · rw [heq]
    exact ((unbraced_isInfix _).trans (cutComment_isPrefix _ _).isInfix).trans trim_isInfix

end Statement

end Source

namespace Graph

theorem ofSource_chain (p : Profile) (source : String) :
    let g := ofSource p source
    let ls := lines source.toList
    let n := g.statements.length
    g.closed = true ∧
    g.nodeIds = (List.range (n + 2)).map Int.ofNat ∧
    g.nodeIds.map g.node? = (.entry :: (g.statements.map .statement ++ [.exit]) : List Node).map some ∧
    g.edges = (List.range (n + 1)).map (fun k => (Int.ofNat k, Int.ofNat (k + 1))) ∧
    g.statements.Pairwise (fun s t => s.line < t.line) ∧
    (∀ s ∈ g.statements, 1 ≤ s.line ∧ s.line ≤ ls.length) ∧
    (∀ s, s ∈ g.statements ↔ ∃ i text, Source.Holds p ls i text ∧
      s = ⟨String.ofList text, Int.ofNat (i + 1)⟩) ∧
    (∀ i text, Source.Holds p ls i text → text ≠ [] ∧ trim text = text ∧ text <:+: ls.getD i []) := by
  intro g ls n
  have hstatements : g.statements = Source.statements p source := statements_ofStatements _
  have hclosed : g.closed = true := closed_ofStatements _
  have hids : g.nodeIds = (List.range (n + 2)).map Int.ofNat := by
    rw [nodeIds, size, hclosed, if_pos rfl]
  refine ⟨hclosed, hids, ?_, ?_, ?_, ?_, ?_, fun i text h => h.trimmed⟩
  · rw [map_node?_nodeIds, nodes, if_pos hclosed]
  · have hn : n = (Source.statements p source).length := by rw [← hstatements]
    rw [hn]
    exact edges_ofStatements _
  · rw [hstatements]
    exact Source.statements_pairwise p source
  · intro s hs
    rw [hstatements, Source.mem_statements_iff] at hs
    obtain ⟨i, text, h, rfl⟩ := hs
    have hlt : i < ls.length := h.lt_length
    simp only [Int.ofNat_eq_natCast]
    omega
  · intro s
    rw [hstatements, Source.mem_statements_iff]

end Graph

end GenKill
