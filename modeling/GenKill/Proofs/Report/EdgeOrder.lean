import GenKill.Analyzer
import GenKill.Proofs.Analysis.Prepared
import GenKill.Proofs.Flow.Alike
import GenKill.Proofs.Graph.Session
import GenKill.Yaml.Document

namespace GenKill

open GenKill.Flow

namespace Graph

def redraw (g : Graph) (edges : List (NodeId × NodeId)) : Graph := { g with edges }

variable {g : Graph} {edges : List (NodeId × NodeId)}

lemma eq_redraw {h : Graph} (hs : h.statements = g.statements) (hc : h.closed = g.closed) :
    h = g.redraw h.edges := by
  obtain ⟨ss, c, es⟩ := h
  obtain rfl : ss = g.statements := hs
  obtain rfl : c = g.closed := hc
  rfl

lemma alike_redraw (h : ∀ e, e ∈ edges ↔ e ∈ g.edges) : g.Alike (g.redraw edges) := ⟨rfl, rfl, h⟩

def drawing (ss : List Statement) (edges : List (NodeId × NodeId)) : List Command :=
  ss.map .add ++ edges.map (fun e => .connect e.1 e.2) ++ [.close]

lemma foldl_add (ss : List Statement) (ho : g.closed = false) :
    (ss.map .add).foldl step g = { g with statements := g.statements ++ ss } := by
  induction ss generalizing g with
  | nil => simp
  | cons s ss ih =>
    have hs : g.step (.add s) = g.push s := by simp [step_add, ho]
    have hp : (g.push s).closed = false := ho
    rw [List.map_cons, List.foldl_cons, hs, ih hp]
    simp [push]

lemma foldl_connect (edges : List (NodeId × NodeId)) :
    ∃ drawn, (edges.map fun e => .connect e.1 e.2).foldl step g = g.redraw drawn ∧
      ∀ e, e ∈ drawn ↔ e ∈ g.edges ∨ e ∈ edges ∧ e.1 ∈ g.nodeIds ∧ e.2 ∈ g.nodeIds := by
  induction edges using List.reverseRecOn with
  | nil => exact ⟨g.edges, rfl, by simp⟩
  | append_singleton edges e ih =>
    obtain ⟨drawn, hg, hdrawn⟩ := ih
    have hids : (g.redraw drawn).nodeIds = g.nodeIds := rfl
    rw [List.map_append, List.foldl_append, hg, List.map_singleton, List.foldl_cons, List.foldl_nil,
      step_connect, hids]
    split
    case isTrue he =>
      refine ⟨_, eq_redraw (statements_addEdge _ _ _) (closed_addEdge _ _ _), fun x => ?_⟩
      have hx : x ∈ (g.redraw drawn).edges ↔ _ := hdrawn x
      rw [mem_edges_addEdge, hx, List.mem_append, List.mem_singleton]
      constructor
      · rintro ((hx | ⟨hx, hn⟩) | rfl)
        · exact Or.inl hx
        · exact Or.inr ⟨Or.inl hx, hn⟩
        · exact Or.inr ⟨Or.inr rfl, he⟩
      · rintro (hx | ⟨hx | rfl, hn⟩)
        · exact Or.inl (Or.inl hx)
        · exact Or.inl (Or.inr ⟨hx, hn⟩)
        · exact Or.inr rfl
    case isFalse he =>
      refine ⟨drawn, rfl, fun x => ?_⟩
      rw [hdrawn, List.mem_append, List.mem_singleton]
      constructor
      · exact fun hx => hx.imp_right fun hx => ⟨Or.inl hx.1, hx.2⟩
      · rintro (hx | ⟨hx | rfl, hn⟩)
        · exact Or.inl hx
        · exact Or.inr ⟨hx, hn⟩
        · exact absurd hn he

lemma close_redraw (ho : g.closed = false) (h : ∀ e, e ∈ edges ↔ e ∈ g.edges) :
    ∃ drawn, (g.redraw edges).close = g.close.redraw drawn ∧ ∀ e, e ∈ drawn ↔ e ∈ g.close.edges := by
  refine ⟨(g.redraw edges).close.edges, eq_redraw ?_ ?_, ?_⟩
  · rw [statements_close, statements_close, redraw]
  · rw [closed_close, closed_close]
  · rintro ⟨a, b⟩
    have hr : (g.redraw edges).closed = false := ho
    rw [mem_edges_close hr, mem_edges_close ho]
    simp only [redraw, h]
    rfl

lemma session_drawing (ss : List Statement) {edges edges' : List (NodeId × NodeId)}
    (h : ∀ e, e ∈ edges ↔ e ∈ edges') :
    ∃ drawn, session (drawing ss edges) = (session (drawing ss edges')).redraw drawn ∧
      ∀ e, e ∈ drawn ↔ e ∈ (session (drawing ss edges')).edges := by
  have hsession : ∀ es, session (drawing ss es) =
      ((es.map fun e => .connect e.1 e.2).foldl step { statements := ss }).close := by
    intro es
    rw [session, drawing, List.foldl_append, List.foldl_append, foldl_add ss rfl]
    rfl
  obtain ⟨drawn, hg, hdrawn⟩ := foldl_connect (g := { statements := ss }) edges
  obtain ⟨drawn', hg', hdrawn'⟩ := foldl_connect (g := { statements := ss }) edges'
  rw [hsession, hsession, hg, hg']
  refine close_redraw (g := redraw { statements := ss } drawn') rfl fun e => ?_
  rw [hdrawn, h]
  exact (hdrawn' e).symm

end Graph

namespace Analyzer

variable {g : Graph} {edges : List (NodeId × NodeId)}

lemma analyzeGraph_redraw (a : Analyzer) (clock : Clock) (facts : FactTable) (hg : g.Wired)
    (h : ∀ e, e ∈ edges ↔ e ∈ g.edges) :
    a.analyzeGraph clock (g.redraw edges) facts = a.analyzeGraph clock g facts := by
  have hsolve : ∀ (x : Analysis) b cap, x.solve b cap (g.redraw edges) facts =
      x.solve b cap g facts := by
    intro x b cap
    exact (x.problem b facts).solve_of_alike (Graph.alike_redraw h) hg cap (x.prepared g facts)
  have hruns : a.runs (g.redraw edges) facts = a.runs g facts := by
    simp only [runs, hsolve]
  rw [analyzeGraph, analyzeGraph, hruns]
  rfl

theorem analyzeGraph_eq_of_same_edges (a : Analyzer) (clock : Clock) (ss : List Statement)
    (facts : FactTable) (edges edges' : List (NodeId × NodeId)) (h : ∀ e, e ∈ edges ↔ e ∈ edges') :
    a.analyzeGraph clock (Graph.session (Graph.drawing ss edges)) facts =
      a.analyzeGraph clock (Graph.session (Graph.drawing ss edges')) facts := by
  obtain ⟨drawn, hg, hdrawn⟩ := Graph.session_drawing ss h
  rw [hg]
  exact a.analyzeGraph_redraw clock facts (Graph.session_built _).wired hdrawn

theorem counting_redrawn :
    let drawn edges := Graph.session (Graph.drawing Graph.counting.statements edges)
    let a : Analyzer := ⟨{}, { read := Yaml.read }⟩
    drawn [(0, 1), (1, 2), (2, 2), (2, 1)] ≠ drawn [(2, 1), (1, 2), (2, 2), (0, 1), (1, 2)] ∧
    a.analyzeGraph ⟨"", 0⟩ (drawn [(0, 1), (1, 2), (2, 2), (2, 1)]) Analysis.countingFacts =
      a.analyzeGraph ⟨"", 0⟩ (drawn [(2, 1), (1, 2), (2, 2), (0, 1), (1, 2)])
        Analysis.countingFacts := by
  intro drawn a
  refine ⟨by decide, analyzeGraph_eq_of_same_edges _ _ _ _ _ _ fun e => ?_⟩
  simp only [List.mem_cons, List.not_mem_nil, or_false]
  tauto

end Analyzer

end GenKill
