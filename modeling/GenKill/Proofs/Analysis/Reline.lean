import GenKill.Fact.Statement
import GenKill.Proofs.Analysis.SomePath
import GenKill.Proofs.Flow.Alike
import GenKill.Proofs.Flow.Image
import GenKill.Proofs.Graph.Reline
import Mathlib.Data.List.DropRight

/-! The analyses when statements move to other lines and stay in order. Lines are part of the tokens of
reaching definitions, and are found nowhere else; nothing but these numbers changes. -/

namespace GenKill

open GenKill.Flow

namespace Token

variable {f : Int → Int}

def reline (f : Int → Int) : Token → Token
  | site name line => site name (f line)
  | t => t

lemma keepsOrder_reline (hf : Increasing f) : TokenSet.KeepsOrder (reline f) := by
  have hline : ∀ x y : Int, compare (f x) (f y) = compare x y := by
    intro x y
    rcases Int.lt_trichotomy x y with h | rfl | h
    · rw [Int.compare_eq_lt.mpr h, Int.compare_eq_lt.mpr (hf x y h)]
    · rw [Int.compare_eq_eq.mpr rfl, Int.compare_eq_eq.mpr rfl]
    · rw [Int.compare_eq_gt.mpr h, Int.compare_eq_gt.mpr (hf y x h)]
  intro a b
  cases a <;> cases b <;> try rfl
  case site.site name x name' y =>
    change (compare 0 0).then ((compare name name').then (compare (f x) (f y))) = _
    rw [hline]
    rfl

def relineText (f : Int → Int) (text : String) : String :=
  String.ofList (text.toList.rdropWhile Char.isDigit) ++
    toString (f (Nat.ofDigitChars 10 (text.toList.rtakeWhile Char.isDigit) 0))

lemma toList_shown_site (name : String) (line : Int) :
    (site name line).shown.toList = name.toList ++ ['@', 'L'] ++ (toString line).toList := by
  simp only [shown, String.toList_append]
  rfl

lemma relineText_site (f : Int → Int) (name : String) (line : ℕ) :
    relineText f (site name line).shown = (site name (f line)).shown := by
  have hdigits : ∀ c ∈ (Nat.toDigits 10 line).reverse, c.isDigit = true := by
    intro c hc
    exact Nat.isDigit_of_mem_toDigits (by decide) (by decide) (List.mem_reverse.mp hc)
  have hrepr : (toString (line : Int)).toList = Nat.toDigits 10 line := Nat.toList_repr
  have hdrop : (site name line).shown.toList.rdropWhile Char.isDigit = name.toList ++ ['@', 'L'] := by
    rw [toList_shown_site, hrepr, List.rdropWhile, List.reverse_append,
      List.dropWhile_append_of_pos hdigits]
    simp
  have htake : (site name line).shown.toList.rtakeWhile Char.isDigit = Nat.toDigits 10 line := by
    rw [toList_shown_site, hrepr, List.rtakeWhile, List.reverse_append,
      List.takeWhile_append_of_pos hdigits]
    simp
  apply String.toList_injective
  rw [relineText, hdrop, htake, Nat.ofDigitChars_ten_toDigits, toList_shown_site]
  simp

end Token

lemma Issue.ofReaching_image {f : Int → Int} (hf : Increasing f) (fact : Fact)
    (s : TokenSet Token) :
    ofReaching fact (TokenSet.image (Token.reline f) s) = ofReaching fact s := by
  have hdefinitions : ∀ name, definitionsOf name (TokenSet.image (Token.reline f) s) =
      (definitionsOf name s).map (Token.reline f) := by
    intro name
    have hdefines : Token.defines name ∘ Token.reline f = Token.defines name := by
      funext t
      cases t <;> rfl
    rw [definitionsOf, TokenSet.toList_image (Token.keepsOrder_reline hf), List.filter_map,
      hdefines, definitionsOf]
  simp only [ofReaching, atUse, atDefinition, hdefinitions, List.isEmpty_map, List.length_map]

def Record.reline (f : Int → Int) (r : Record) : Record where
  nodeId := r.nodeId
  line := f r.line
  statement := r.statement
  sets := ⟨r.sets.entries.map fun e =>
    (e.1, if e.1 = "reaching" then e.2.map (Token.relineText f) else e.2)⟩
  issues := r.issues

def Result.reline (f : Int → Int) (r : Result) : Result :=
  { r with records := r.records.map (Record.reline f) }

namespace Graph

variable {f : Int → Int} {g : Graph}

lemma alike_reline : g.Alike (g.reline f) := ⟨List.length_map _, rfl, fun _ => Iff.rfl⟩

lemma node?_reline {n : NodeId} {s : Statement} :
    (g.reline f).node? n = some (.statement s) ↔
      ∃ s', g.node? n = some (.statement s') ∧ s'.reline f = s := by
  simp only [node?_eq_statement, reline, List.getElem?_map, Option.map_eq_some_iff]
  constructor
  · rintro ⟨k, hn, s', hs', rfl⟩
    exact ⟨s', ⟨k, hn, hs'⟩, rfl⟩
  · rintro ⟨s', ⟨k, hn, hs'⟩, rfl⟩
    exact ⟨k, hn, s', hs', rfl⟩

end Graph

lemma FactTable.ofGraph_reline (p : Profile) (g : Graph) (f : Int → Int) :
    ofGraph p (g.reline f) = ofGraph p g := by
  rw [ofGraph, Graph.numbered_reline, List.map_map]
  rfl

namespace Analysis

variable {f : Int → Int} {g : Graph} {facts : FactTable} {b : Boundary} {cap : ℕ}

section Lineless

variable {a : Analysis} (ha : a ≠ reaching)

include ha

lemma prepared_reline : a.prepared (g.reline f) facts = a.prepared g facts := by
  have hone : ∀ store x, a.prepareOne (g.reline f) facts store (x.1, Statement.reline f x.2) =
      a.prepareOne g facts store x := by
    intro store x
    cases a with
    | reaching => exact absurd rfl ha
    | live | available | busy => rfl
  simp only [prepared, prepare_eq, Graph.numbered_reline, Graph.alike_reline.nodeIds,
    List.foldl_map, hone]

lemma solve_reline (hg : g.Wired) : a.solve b cap (g.reline f) facts = a.solve b cap g facts := by
  rw [solve_eq, solve_eq, prepared_reline ha, Problem.solve_of_alike _ Graph.alike_reline hg]

lemma record_reline (hints : Bool) (fact : Fact) (sets : Sets Token) (n : NodeId) (s : Statement) :
    a.record hints fact sets n (s.reline f) = (a.record hints fact sets n s).reline f := by
  cases a with
  | reaching => exact absurd rfl ha
  | live | available | busy => rfl

end Lineless

section Lines

variable (hf : Increasing f)

lemma sitesOf_reline (name : String) :
    sitesOf (g.reline f) facts name = TokenSet.image (Token.reline f) (sitesOf g facts name) := by
  rw [sitesOf, sitesOf, TokenSet.image_ofList, Graph.numbered_reline, List.filter_map, List.map_map,
    List.map_map]
  rfl

lemma problem_image : (reaching.problem b facts).image (Token.reline f) = reaching.problem b facts := by
  have hboundary : TokenSet.image (Token.reline f) (reaching.problem b facts).boundary = ∅ :=
    TokenSet.image_empty
  rw [Problem.image, hboundary]
  rfl

include hf

lemma equip_reline (s : Statement) (fact : Fact) :
    reaching.equip (g.reline f) facts (s.reline f) fact {} =
      (reaching.equip g facts s fact {}).image (Token.reline f) := by
  have hsite : ∀ name, TokenSet.ofList [Token.site name (f s.line)] =
      TokenSet.image (Token.reline f) (TokenSet.ofList [Token.site name s.line]) := by
    intro name
    rw [TokenSet.image_ofList]
    rfl
  cases ht : fact.target with
  | none => simp [equip, gen, ht, Sets.image, TokenSet.image_empty]
  | some name =>
    simp only [equip, gen, killBy, ht, Option.elim_some, Sets.image, sitesOf_reline,
      TokenSet.image_sdiff (Token.keepsOrder_reline hf), TokenSet.image_empty, ← hsite]
    rfl

lemma prepared_reaching_image :
    (reaching.prepared g facts).Image (Token.reline f) (reaching.prepared (g.reline f) facts) := by
  intro n
  by_cases h : ∃ s, g.node? n = some (.statement s)
  · obtain ⟨s, hs⟩ := h
    rw [sets_prepared_statement _ _ _ hs,
      sets_prepared_statement _ _ _ (Graph.node?_reline.mpr ⟨s, hs, rfl⟩), equip_reline hf]
  · have hs : ∀ s, g.node? n ≠ some (.statement s) := fun s hs => h ⟨s, hs⟩
    rw [sets_prepared_other _ _ _ hs, sets_prepared_other, Sets.image_empty]
    intro s hs
    obtain ⟨s', hs', -⟩ := Graph.node?_reline.mp hs
    exact h ⟨s', hs'⟩

lemma solve_reaching_reline (hg : g.Wired) :
    (reaching.solve b cap g facts).store.Image (Token.reline f)
      (reaching.solve b cap (g.reline f) facts).store ∧
    (reaching.solve b cap (g.reline f) facts).convergence =
      (reaching.solve b cap g facts).convergence := by
  have hsim := Problem.simulates_image (p := reaching.problem b facts)
    (Token.keepsOrder_reline hf) g
  rw [problem_image] at hsim
  have hstart : ((reaching.problem b facts).start g (reaching.prepared g facts)).Image
      (Token.reline f)
      ((reaching.problem b facts).start g (reaching.prepared (g.reline f) facts)) :=
    prepared_reaching_image hf
  rw [solve_eq, solve_eq, Problem.solve_of_alike _ Graph.alike_reline hg]
  refine ⟨hsim.store cap hstart, ?_⟩
  exact congrArg₂ (fun c i => Convergence.mk c i .forward .union) (hsim.converged cap hstart)
    (hsim.iterations cap hstart)

lemma record_reaching_reline (hints : Bool) (fact : Fact) {sets : Sets Token}
    (hsites : ∀ e ∈ sets.before, ∃ name, ∃ line : ℕ, e = .site name line) (n : NodeId)
    (s : Statement) :
    reaching.record hints fact (sets.image (Token.reline f)) n (s.reline f) =
      (reaching.record hints fact sets n s).reline f := by
  have hshown : (TokenSet.image (Token.reline f) sets.before).toList.map Token.shown =
      (sets.before.toList.map Token.shown).map (Token.relineText f) := by
    rw [TokenSet.toList_image (Token.keepsOrder_reline hf), List.map_map, List.map_map]
    refine List.map_congr_left fun e he => ?_
    obtain ⟨name, line, rfl⟩ := hsites e (Std.ExtTreeSet.mem_toList.mp he)
    exact (Token.relineText_site f name line).symm
  have hissues : reaching.issues hints fact (sets.image (Token.reline f)) =
      reaching.issues hints fact sets := Issue.ofReaching_image hf fact sets.before
  have hsets : reaching.shown (sets.image (Token.reline f)) =
      [("reaching", (sets.before.toList.map Token.shown).map (Token.relineText f))] := by
    rw [← hshown]
    rfl
  rw [record, hissues, hsets]
  rfl

end Lines

lemma exists_site_of_mem_before (hlines : ∀ s ∈ g.statements, 0 ≤ s.line) {n : NodeId} {e : Token}
    (he : e ∈ ((reaching.solve b cap g facts).store.sets n).before) :
    ∃ name, ∃ line : ℕ, e = .site name line := by
  obtain ⟨name, s, hs, rfl⟩ := tracks_of_mem_solve (Or.inl he)
  obtain ⟨line, hline⟩ := Int.eq_ofNat_of_zero_le (hlines s hs)
  exact ⟨name, line, congrArg (Token.site name) hline⟩

lemma convergence_reline (hf : Increasing f) (hg : g.Wired) (a : Analysis) :
    (a.solve b cap (g.reline f) facts).convergence = (a.solve b cap g facts).convergence := by
  by_cases ha : a = reaching
  · obtain rfl := ha
    exact (solve_reaching_reline hf hg).2
  · rw [solve_reline ha hg]

lemma result_reline (hf : Increasing f) (hg : g.Wired) (hlines : ∀ s ∈ g.statements, 0 ≤ s.line)
    (a : Analysis) (hints : Bool) :
    a.result hints (g.reline f) facts (a.solve b cap (g.reline f) facts) =
      (a.result hints g facts (a.solve b cap g facts)).reline f := by
  have hrecord : ∀ n s, a.record hints (facts.fact n)
        ((a.solve b cap (g.reline f) facts).store.sets n) n (s.reline f) =
      (a.record hints (facts.fact n) ((a.solve b cap g facts).store.sets n) n s).reline f := by
    intro n s
    by_cases ha : a = reaching
    · obtain rfl := ha
      rw [(solve_reaching_reline hf hg).1 n]
      exact record_reaching_reline hf _ _ (fun e he => exists_site_of_mem_before hlines he) n s
    · rw [solve_reline ha hg, record_reline ha]
  rw [result, Graph.numbered_reline, convergence_reline hf hg]
  simp only [result, Result.reline, List.map_map, Function.comp_def, hrecord]

end Analysis

end GenKill
