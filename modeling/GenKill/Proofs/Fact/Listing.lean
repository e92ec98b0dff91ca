import GenKill.Proofs.Fact.Naming
import GenKill.Proofs.Graph.Chain
import Mathlib.Data.List.Infix

/-! The lists of a profile count as sets. Keywords are tried from the longest down, and of two keywords of
one length at most one begins a text: so the longest keyword that fits decides, wherever the profile
lists it. All other lists are only searched for members. -/

namespace GenKill

open Text

namespace Profile

structure SameEntries (p q : Profile) : Prop where
  typeKeywords : ∀ k, k ∈ p.typeKeywords ↔ k ∈ q.typeKeywords
  ignored : ∀ v, v ∈ p.ignored ↔ v ∈ q.ignored
  markers : ∀ m, m ∈ p.markers ↔ m ∈ q.markers
  structuralLines : ∀ l, l ∈ p.structuralLines ↔ l ∈ q.structuralLines

variable {p q : Profile}

lemma SameEntries.symm (h : p.SameEntries q) : q.SameEntries p where
  typeKeywords k := (h.typeKeywords k).symm
  ignored v := (h.ignored v).symm
  markers m := (h.markers m).symm
  structuralLines l := (h.structuralLines l).symm

lemma SameEntries.isStructural (h : p.SameEntries q) (line : List Char) :
    p.isStructural line = q.isStructural line := by
  rw [Bool.eq_iff_iff]
  simp only [Profile.isStructural, Bool.or_eq_true, List.any_eq_true, h.markers, h.structuralLines]

lemma SameEntries.contains_ignored (h : p.SameEntries q) (v : String) :
    p.ignored.contains v = q.ignored.contains v := by
  rw [Bool.eq_iff_iff, List.contains_iff_mem, List.contains_iff_mem, h.ignored]

end Profile

namespace Statement

section Keywords

variable {p q : Profile} {text : List Char} {read : List Char → Option Form} {f : Form} {k k' : String}

structure Decides (p : Profile) (read : List Char → Option Form) (k : String) : Prop where
  mem : k ∈ p.typeKeywords
  fits : (read k.toList).isSome = true
  longest : ∀ k' ∈ p.typeKeywords, (read k'.toList).isSome = true → k'.toList.length ≤ k.toList.length

lemma Decides.congr (h : p.SameEntries q) (hk : Decides p read k) : Decides q read k where
  mem := (h.typeKeywords k).mp hk.mem
  fits := hk.fits
  longest k' hk' := hk.longest k' ((h.typeKeywords k').mpr hk')

lemma Decides.unique (hread : ∀ k, (read k).isSome = true → k <+: text) (hk : Decides p read k)
    (hk' : Decides p read k') : k = k' := by
  have hlength : k.toList.length = k'.toList.length :=
    Nat.le_antisymm (hk'.longest k hk.mem hk.fits) (hk.longest k' hk'.mem hk'.fits)
  have hbegins : k.toList <+: k'.toList :=
    List.prefix_of_prefix_length_le (hread _ hk.fits) (hread _ hk'.fits) hlength.le
  exact String.toList_inj.mp (hbegins.eq_of_length hlength)

lemma keywords_pairwise (p : Profile) : (keywords p).Pairwise fun a b => b.length ≤ a.length := by
  have htrans (a b c : List Char) (hab : decide (b.length ≤ a.length) = true)
      (hbc : decide (c.length ≤ b.length) = true) : decide (c.length ≤ a.length) = true :=
    decide_eq_true ((of_decide_eq_true hbc).trans (of_decide_eq_true hab))
  have htotal (a b : List Char) :
      (decide (b.length ≤ a.length) || decide (a.length ≤ b.length)) = true := by
    simpa using Nat.le_total b.length a.length
  exact (List.pairwise_mergeSort htrans htotal _).imp fun h => of_decide_eq_true h

lemma exists_decides (h : (keywords p).findSome? read = some f) :
    ∃ k, Decides p read k ∧ read k.toList = some f := by
  have hsorted := keywords_pairwise p
  have hmem (k : List Char) := mem_keywords_iff (p := p) (k := k)
  obtain ⟨before, found, behind, hlist, hfound, hnone⟩ := List.findSome?_eq_some_iff.mp h
  rw [hlist] at hsorted hmem
  obtain ⟨k, hk, rfl⟩ := (hmem found).mp (by simp)
  refine ⟨k, ⟨hk, by rw [hfound]; rfl, fun k' hk' hfits => ?_⟩, hfound⟩
  obtain ⟨-, hsorted, -⟩ := List.pairwise_append.mp hsorted
  rcases List.mem_append.mp ((hmem k'.toList).mpr ⟨k', hk', rfl⟩) with hk' | hk'
  · rw [hnone _ hk'] at hfits
    cases hfits
  · rcases List.mem_cons.mp hk' with heq | hk'
    · rw [heq]
    · exact (List.pairwise_cons.mp hsorted).1 _ hk'

lemma findSome?_keywords_iff (hread : ∀ k, (read k).isSome = true → k <+: text) :
    (keywords p).findSome? read = some f ↔ ∃ k, Decides p read k ∧ read k.toList = some f := by
  refine ⟨exists_decides, ?_⟩
  rintro ⟨k, hk, hform⟩
  have hsome : ((keywords p).findSome? read).isSome = true :=
    List.findSome?_isSome_iff.mpr ⟨k.toList, mem_keywords_iff.mpr ⟨k, hk.mem, rfl⟩, hk.fits⟩
  obtain ⟨f', hform'⟩ := Option.isSome_iff_exists.mp hsome
  obtain ⟨k', hk', hread'⟩ := exists_decides hform'
  rw [hform', ← hread', ← hk.unique hread hk', hform]

lemma findSome?_keywords_congr (h : p.SameEntries q) (hread : ∀ k, (read k).isSome = true → k <+: text) :
    (keywords p).findSome? read = (keywords q).findSome? read := by
  apply Option.ext
  intro f
  rw [findSome?_keywords_iff hread, findSome?_keywords_iff hread]
  constructor
  · rintro ⟨k, hk, hform⟩
    exact ⟨k, hk.congr h, hform⟩
  · rintro ⟨k, hk, hform⟩
    exact ⟨k, hk.congr h.symm, hform⟩

lemma isPrefix_of_afterKeyword? {keyword rest : List Char} (h : afterKeyword? keyword text = some rest) :
    keyword <+: text := by
  obtain ⟨c, more, rfl, -⟩ := exists_eq_of_afterKeyword? h
  exact List.prefix_append keyword _

lemma isPrefix_of_declaration? (keyword : List Char) (h : (declaration? keyword text).isSome = true) :
    keyword <+: text := by
  obtain ⟨f, h⟩ := Option.isSome_iff_exists.mp h
  simp only [declaration?, Option.bind_eq_bind, Option.bind_eq_some_iff] at h
  obtain ⟨rest, h, -⟩ := h
  exact isPrefix_of_afterKeyword? h

lemma isPrefix_of_bareDeclaration? (keyword : List Char) (h : (bareDeclaration? keyword text).isSome = true) :
    keyword <+: text := by
  obtain ⟨f, h⟩ := Option.isSome_iff_exists.mp h
  simp only [bareDeclaration?, Option.bind_eq_bind, Option.bind_eq_some_iff] at h
  obtain ⟨rest, h, -⟩ := h
  exact isPrefix_of_afterKeyword? h

end Keywords

variable {p q : Profile}

lemma form_congr (h : p.SameEntries q) (text : List Char) : form p text = form q text := by
  have hignored : assignment? p.ignored text = assignment? q.ignored text := by
    simp only [assignment?, h.contains_ignored]
  rw [form, form, findSome?_keywords_congr h isPrefix_of_declaration?,
    findSome?_keywords_congr h isPrefix_of_bareDeclaration?, hignored]

lemma factOf_congr (h : p.SameEntries q) (text : List Char) (f : Form) : factOf p text f = factOf q text f := by
  have hused (text : List Char) : usedIn p text = usedIn q text := by
    simp only [usedIn, h.contains_ignored]
  cases f <;> simp only [factOf, hused]

lemma ofStatement_congr (h : p.SameEntries q) (statement : String) :
    Fact.ofStatement p statement = Fact.ofStatement q statement := by
  simp only [Fact.ofStatement, form_congr h, factOf_congr h]

end Statement

namespace Source

variable {p q : Profile}

lemma statementText?_congr (h : p.SameEntries q) (line : List Char) :
    statementText? p line = statementText? q line := by
  simp only [statementText?, h.isStructural]

lemma statementsFrom_congr (h : p.SameEntries q) (inComment : Bool) (n : ℕ) (ls : List (List Char)) :
    statementsFrom p inComment n ls = statementsFrom q inComment n ls := by
  induction ls generalizing inComment n with
  | nil => rfl
  | cons raw ls ih => simp only [statementsFrom_cons, lineText?, statementText?_congr h, ih]

end Source

namespace Profile

theorem SameEntries.same_graph_and_facts {p q : Profile} (h : p.SameEntries q) (source : String) :
    Graph.ofSource p source = Graph.ofSource q source ∧
    FactTable.ofGraph p (Graph.ofSource p source) = FactTable.ofGraph q (Graph.ofSource q source) ∧
    ∀ g, FactTable.ofGraph p g = FactTable.ofGraph q g := by
  have hgraph : Graph.ofSource p source = Graph.ofSource q source := by
    rw [Graph.ofSource, Source.statements, Source.statementsFrom_congr h]
    rfl
  have hfacts (g : Graph) : FactTable.ofGraph p g = FactTable.ofGraph q g := by
    simp only [FactTable.ofGraph, Statement.ofStatement_congr h]
  exact ⟨hgraph, by rw [hgraph, hfacts], hfacts⟩

def doubled (p : Profile) : Profile where
  name := p.name
  typeKeywords := p.typeKeywords.reverse ++ p.typeKeywords
  ignored := p.ignored.reverse ++ p.ignored
  markers := p.markers.reverse ++ p.markers
  structuralLines := p.structuralLines.reverse ++ p.structuralLines

lemma sameEntries_doubled (p : Profile) : p.SameEntries p.doubled := by
  constructor <;> simp [doubled]

theorem final_int_doubled :
    Profile.java.SameEntries (doubled .java) ∧
    (Graph.ofSource (doubled .java) "final int n = 1;").statements = [⟨"final int n = 1;", 1⟩] ∧
    (FactTable.ofGraph (doubled .java) (Graph.ofSource (doubled .java) "final int n = 1;")).fact 1 =
      ⟨.decl, some "n", [], []⟩ := by
  have h := sameEntries_doubled .java
  obtain ⟨hgraph, hfacts, -⟩ := h.same_graph_and_facts "final int n = 1;"
  have hfact : Fact.ofStatement .java "final int n = 1;" = ⟨.decl, some "n", [], []⟩ := by
    simp only [Fact.ofStatement, Statement.form, Statement.keywords_java]
    decide +kernel
  refine ⟨h, ?_, ?_⟩
  · rw [← hgraph]
    decide +kernel
  · rw [← hfacts, FactTable.fact_ofGraph (s := ⟨"final int n = 1;", 1⟩) (by decide +kernel), hfact]

end Profile

end GenKill
