import GenKill.Fact.Statement
import GenKill.Proofs.Analysis.Prepared
import GenKill.Proofs.Text.WholeWord
import Mathlib.Data.List.TakeWhile

namespace GenKill

namespace Statement

def Form.target? : Form → Option (List Char)
  | declaration target _ => some target
  | compound target _ _ => some target
  | step target => some target
  | assignment target _ => some target
  | bareDeclaration => none
  | plain => none

def Form.Named (f : Form) : Prop := f.target? ≠ some []

lemma defined_factOf (p : Profile) (text : List Char) (f : Form) :
    (factOf p text f).defined = f.target?.map String.ofList := by
  cases f <;> rfl

structure Form.Fits (ignored : List String) (f : Form) : Prop where
  word : ∀ w, f.target? = some w → Text.WholeWord w
  heeds : ∀ w right, f = .assignment w right → String.ofList w ∉ ignored

lemma wholeWord_of_word? {text w rest : List Char} (h : word? text = some (w, rest)) :
    Text.WholeWord w := by
  unfold word? at h
  split at h
  case h_1 => cases h
  case h_2 hw =>
    cases h
    exact ⟨hw, fun c hc => List.mem_takeWhile_imp hc⟩

lemma exists_eq_of_afterKeyword? {keyword text rest : List Char} (h : afterKeyword? keyword text = some rest) :
    ∃ c more, text = keyword ++ c :: more ∧ Text.isBlank c = true := by
  simp only [afterKeyword?, Text.after?, Option.bind_eq_bind, Option.bind_eq_some_iff,
    Option.ite_none_right_eq_some, List.isPrefixOf_iff_prefix] at h
  obtain ⟨_, ⟨⟨behind, rfl⟩, ⟨⟩⟩, hblank, -⟩ := h
  rw [List.drop_left] at hblank
  cases behind with
  | nil => simp at hblank
  | cons c more => exact ⟨c, more, rfl, by simpa using hblank⟩

lemma mem_keywords_iff {p : Profile} {k : List Char} : k ∈ keywords p ↔ ∃ s ∈ p.typeKeywords, s.toList = k := by
  rw [keywords, List.mem_mergeSort, List.mem_map]

variable {ignored : List String} {keyword text : List Char} {f : Form}

lemma fits_of_word {w rest : List Char} (hw : word? text = some (w, rest))
    (hf : f.target? = some w) (hplain : ∀ w right, f ≠ .assignment w right) : f.Fits ignored where
  word w' hw' := by
    rw [← Option.some.inj (hf.symm.trans hw')]
    exact wholeWord_of_word? hw
  heeds w right h := absurd h (hplain w right)

lemma fits_of_target_none (hf : f.target? = none) : f.Fits ignored where
  word w hw := by
    rw [hf] at hw
    cases hw
  heeds w right h := by
    rw [h] at hf
    cases hf

lemma fits_declaration (h : declaration? keyword text = some f) : f.Fits ignored := by
  simp only [declaration?, Option.bind_eq_bind, Option.bind_eq_some_iff, Prod.exists] at h
  obtain ⟨_, -, w, _, hw, _, -, h⟩ := h
  cases h
  exact fits_of_word hw rfl nofun

lemma fits_bareDeclaration (h : bareDeclaration? keyword text = some f) : f.Fits ignored := by
  simp only [bareDeclaration?, Option.bind_eq_bind, Option.bind_eq_some_iff, Prod.exists] at h
  obtain ⟨_, -, _, _, -, h⟩ := h
  split at h
  case isTrue =>
    cases h
    exact fits_of_target_none rfl
  case isFalse => cases h

lemma fits_compound (h : compound? text = some f) : f.Fits ignored := by
  simp only [compound?, Option.bind_eq_bind, Option.bind_eq_some_iff, Prod.exists] at h
  obtain ⟨w, _, hw, h⟩ := h
  split at h
  case h_1 =>
    split at h
    case isTrue =>
      simp only [Option.bind_eq_some_iff] at h
      obtain ⟨_, -, h⟩ := h
      cases h
      exact fits_of_word hw rfl nofun
    case isFalse => cases h
  case h_2 => cases h

lemma fits_step (h : step? text = some f) : f.Fits ignored := by
  unfold step? at h
  split at h
  case h_1 w _ hw =>
    split at h
    case isTrue =>
      cases h
      exact fits_of_word hw rfl nofun
    case isFalse => cases h
  case h_2 =>
    split at h
    case h_1 w hw =>
      split at h
      case isTrue =>
        cases h
        exact fits_of_word hw rfl nofun
      case isFalse => cases h
    case h_2 => cases h

lemma fits_assignment (h : assignment? ignored text = some f) : f.Fits ignored := by
  simp only [assignment?, Option.bind_eq_bind, Option.bind_eq_some_iff, Prod.exists] at h
  obtain ⟨w, _, hw, right, -, h⟩ := h
  split at h
  case isTrue => cases h
  case isFalse hkept =>
    cases h
    refine ⟨fun w' hw' => ?_, fun w' right' heq => ?_⟩
    · cases hw'
      exact wholeWord_of_word? hw
    · cases heq
      simpa using hkept

lemma form_cases (p : Profile) (text : List Char) :
    (∃ k ∈ keywords p, declaration? k text = some (form p text)) ∨
    (∃ k ∈ keywords p, bareDeclaration? k text = some (form p text)) ∨
    compound? text = some (form p text) ∨ step? text = some (form p text) ∨
    assignment? p.ignored text = some (form p text) ∨ form p text = .plain := by
  unfold form
  cases h : ((keywords p).findSome? (declaration? · text)
    <|> (keywords p).findSome? (bareDeclaration? · text)
    <|> compound? text <|> step? text <|> assignment? p.ignored text) with
  | none => simp
  | some f =>
    simp only [Option.orElse_eq_orElse, Option.orElse_eq_or, Option.or_eq_some_iff] at h
    simp only [Option.getD_some]
    rcases h with h | ⟨-, h | ⟨-, h | ⟨-, h | ⟨-, h⟩⟩⟩⟩
    · exact Or.inl (List.exists_of_findSome?_eq_some h)
    · exact Or.inr (Or.inl (List.exists_of_findSome?_eq_some h))
    · exact Or.inr (Or.inr (Or.inl h))
    · exact Or.inr (Or.inr (Or.inr (Or.inl h)))
    · exact Or.inr (Or.inr (Or.inr (Or.inr (Or.inl h))))

lemma fits_form (p : Profile) (text : List Char) : (form p text).Fits p.ignored := by
  rcases form_cases p text with ⟨k, -, h⟩ | ⟨k, -, h⟩ | h | h | h | h
  · exact fits_declaration h
  · exact fits_bareDeclaration h
  · exact fits_compound h
  · exact fits_step h
  · exact fits_assignment h
  · rw [h]
    exact fits_of_target_none rfl

lemma named_form (p : Profile) (text : List Char) : (form p text).Named :=
  fun h => ((fits_form p text).word [] h).1 rfl

end Statement

lemma Fact.target_ofStatement (p : Profile) (text : String) :
    (ofStatement p text).target = (ofStatement p text).defined := by
  have hnamed := Statement.named_form p (Statement.clean text.toList)
  unfold target ofStatement
  rw [Statement.defined_factOf]
  cases ht : (Statement.form p (Statement.clean text.toList)).target? with
  | none => rfl
  | some target =>
    have hne : target ≠ [] := fun h => hnamed (h ▸ ht)
    simp [hne]

lemma OrderedMap.find_of_mem {κ ν : Type} [DecidableEq κ] {l : List (κ × ν)} {k : κ} {v : ν}
    (hdistinct : l.Pairwise fun x y => x.1 ≠ y.1) (h : (k, v) ∈ l) : find k l = some v := by
  induction l with
  | nil => cases h
  | cons e rest ih =>
    obtain ⟨he, hrest⟩ := List.pairwise_cons.mp hdistinct
    rcases List.mem_cons.mp h with rfl | h
    · simp [find]
    · rw [find, if_neg (he _ h), ih hrest h]

lemma FactTable.fact_ofGraph {p : Profile} {g : Graph} {n : NodeId} {s : Statement}
    (hn : g.node? n = some (.statement s)) :
    (ofGraph p g).fact n = Fact.ofStatement p s.text := by
  have hget : (ofGraph p g).get? n = some (Fact.ofStatement p s.text) := by
    apply OrderedMap.find_of_mem
    · exact List.pairwise_map.mpr (Analysis.numbered_pairwise g)
    · exact List.mem_map.mpr ⟨(n, s), Graph.mem_numbered.mpr hn, rfl⟩
  rw [fact, hget, Option.getD_some]

end GenKill
