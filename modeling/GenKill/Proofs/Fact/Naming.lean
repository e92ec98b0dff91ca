import GenKill.Profile.Basic
import GenKill.Proofs.Fact.Statement

/-! Names that are written and names that are read. A statement may define any word, except that a plain
assignment to an ignored word defines nothing. A text reads a word only if it begins with a letter of
the basic alphabet or an underscore and is not ignored. -/

namespace GenKill

open Text

def Profile.Reads (p : Profile) (v : String) : Prop := isName v.toList = true ∧ v ∉ p.ignored

instance (p : Profile) (v : String) : Decidable (p.Reads v) :=
  inferInstanceAs (Decidable (_ ∧ _))

namespace Statement

variable {p : Profile} {v : String}

lemma reads_of_mem_usedIn {text : List Char} (h : v ∈ usedIn p text) : p.Reads v := by
  simp only [usedIn, List.mem_eraseDups, List.mem_filter, List.mem_map, Bool.not_eq_true',
    List.contains_eq_mem, decide_eq_false_iff_not] at h
  obtain ⟨⟨name, hname, rfl⟩, hkept⟩ := h
  refine ⟨?_, hkept⟩
  rw [String.toList_ofList]
  exact isName_of_mem_namesIn hname

lemma usedIn_wholeWord (h : WholeWord v.toList) :
    usedIn p v.toList = if p.Reads v then [v] else [] := by
  rw [usedIn, h.emptyLiterals_eq, h.names_eq]
  by_cases hname : isName v.toList = true
  · by_cases hignored : v ∈ p.ignored
    · simp [Profile.Reads, hname, hignored]
    · simp [Profile.Reads, hname, hignored, List.eraseDups_cons]
  · simp [Profile.Reads, hname]

/-- A word that a statement defines is read off itself if texts may read it, and else no text reads
it. A plain assignment never defines an ignored word. -/
theorem usedIn_defined {p : Profile} {statement v : String}
    (h : (Fact.ofStatement p statement).defined = some v) :
    usedIn p v.toList = (if p.Reads v then [v] else []) ∧
    ((∃ text, v ∈ usedIn p text) ↔ p.Reads v) ∧
    ∀ target right, form p (clean statement.toList) = .assignment target right → v ∉ p.ignored := by
  have hfits := fits_form p (clean statement.toList)
  rw [Fact.ofStatement, defined_factOf, Option.map_eq_some_iff] at h
  obtain ⟨w, hw, rfl⟩ := h
  have hword : WholeWord (String.ofList w).toList := by
    rw [String.toList_ofList]
    exact hfits.word w hw
  have hused := usedIn_wholeWord (p := p) hword
  refine ⟨hused, ⟨fun ⟨text, ht⟩ => reads_of_mem_usedIn ht, fun hreads => ?_⟩, ?_⟩
  · refine ⟨(String.ofList w).toList, ?_⟩
    rw [hused, if_pos hreads]
    exact List.mem_singleton_self _
  · intro target right hform
    rw [hform] at hw
    cases hw
    exact hfits.heeds w right hform

section Java

lemma keywords_java : keywords .java =
    ["final double", "final String", "final long", "final int", "boolean", "double", "String",
      "short", "float", "long", "byte", "char", "int", "var"].map String.toList := by
  simp [keywords, Profile.java, List.mergeSort]

theorem total_defined_and_read :
    (Fact.ofStatement .java "int total = x + 1;").defined = some "total" ∧
    usedIn .java "total".toList = ["total"] := by
  have h : (Fact.ofStatement .java "int total = x + 1;").defined = some "total" := by
    simp only [Fact.ofStatement, form, keywords_java]
    decide +kernel
  refine ⟨h, ?_⟩
  rw [(usedIn_defined h).1, if_pos (by decide)]

theorem out_defined_and_not_read :
    (Fact.ofStatement .java "int out = 5;").defined = some "out" ∧
    usedIn .java "out".toList = [] ∧
    (Fact.ofStatement .java "é = 1;").defined = some "é" ∧
    usedIn .java "é".toList = [] := by
  simp only [Fact.ofStatement, form, keywords_java]
  decide +kernel

end Java

end Statement

end GenKill
