import GenKill.Proofs.Fact.Operand
import GenKill.Proofs.Ordering

namespace GenKill

open Text

namespace Statement

/-- The text assigns to the word in a way that counts its old value: with an operator at the equals sign,
or by a step up or down. -/
inductive Updates (w : List Char) : List Char → Prop where
  | compound (blanks : List Char) (operator : Char) (rest : List Char) :
      (∀ c ∈ blanks, isBlank c = true) → isOperator operator = true →
      Updates w (w ++ blanks ++ operator :: '=' :: rest)
  | stepBehind (blanks step : List Char) :
      (∀ c ∈ blanks, isBlank c = true) → isStep step = true → Updates w (w ++ blanks ++ step)
  | stepBefore (blanks step : List Char) :
      (∀ c ∈ blanks, isBlank c = true) → isStep step = true → Updates w (step ++ blanks ++ w)

section Forms

variable {p : Profile} {keyword text w rest : List Char} {ignored : List String} {f : Form}

lemma eq_append_of_word? (h : word? text = some (w, rest)) : text = w ++ rest := by
  unfold word? at h
  split at h
  case h_1 => cases h
  case h_2 =>
    cases h
    exact List.takeWhile_append_dropWhile.symm

lemma updated?_of_declaration? (h : declaration? keyword text = some f) : f.updated? = none := by
  simp only [declaration?, Option.bind_eq_bind, Option.bind_eq_some_iff, Prod.exists] at h
  obtain ⟨_, -, _, _, -, _, -, h⟩ := h
  cases h
  rfl

lemma updated?_of_bareDeclaration? (h : bareDeclaration? keyword text = some f) : f.updated? = none := by
  simp only [bareDeclaration?, Option.bind_eq_bind, Option.bind_eq_some_iff, Prod.exists,
    Option.ite_none_right_eq_some] at h
  obtain ⟨_, -, _, _, -, -, h⟩ := h
  cases h
  rfl

lemma updated?_of_assignment? (h : assignment? ignored text = some f) : f.updated? = none := by
  simp only [assignment?, Option.bind_eq_bind, Option.bind_eq_some_iff, Prod.exists,
    Option.ite_none_left_eq_some] at h
  obtain ⟨_, _, -, _, -, -, h⟩ := h
  cases h
  rfl

lemma exists_eq_compound (h : compound? text = some f) :
    ∃ target operator right, f = .compound target operator right ∧ isOperator operator = true ∧
      Updates target text := by
  simp only [compound?, Option.bind_eq_bind, Option.bind_eq_some_iff, Prod.exists] at h
  obtain ⟨target, rest, hw, h⟩ := h
  obtain ⟨blanks, hrest, hblanks⟩ := exists_eq_append_dropWhile isBlank rest
  split at h
  case h_1 operator behind htrim =>
    simp only [Option.ite_none_right_eq_some, Option.bind_eq_some_iff] at h
    obtain ⟨hop, right, -, h⟩ := h
    cases h
    refine ⟨target, operator, right, rfl, hop, ?_⟩
    rw [trimLeft] at htrim
    rw [eq_append_of_word? hw, hrest, htrim, ← List.append_assoc]
    exact .compound blanks operator behind hblanks hop
  case h_2 => cases h

lemma exists_eq_step (h : step? text = some f) : ∃ target, f = .step target ∧ Updates target text := by
  unfold step? at h
  split at h
  case h_1 target rest hw =>
    obtain ⟨blanks, hrest, hblanks⟩ := exists_eq_append_dropWhile isBlank rest
    simp only [Option.ite_none_right_eq_some] at h
    obtain ⟨hstep, h⟩ := h
    cases h
    refine ⟨target, rfl, ?_⟩
    rw [eq_append_of_word? hw, hrest, ← List.append_assoc]
    exact .stepBehind blanks _ hblanks hstep
  case h_2 =>
    obtain ⟨blanks, hrest, hblanks⟩ := exists_eq_append_dropWhile isBlank (text.drop 2)
    split at h
    case h_1 target hw =>
      simp only [Option.ite_none_right_eq_some] at h
      obtain ⟨hstep, h⟩ := h
      cases h
      refine ⟨target, rfl, ?_⟩
      have htarget := eq_append_of_word? hw
      rw [List.append_nil, trimLeft] at htarget
      rw [← List.take_append_drop 2 text, hrest, htarget, ← List.append_assoc]
      exact .stepBefore blanks _ hblanks hstep
    case h_2 => cases h

lemma updates_of_updated? (h : (form p text).updated? = some w) :
    Updates w text ∧
    ∀ operator right, form p text = .compound w operator right → isOperator operator = true := by
  rcases form_cases p text with ⟨k, -, hf⟩ | ⟨k, -, hf⟩ | hf | hf | hf | hf
  · simp [updated?_of_declaration? hf] at h
  · simp [updated?_of_bareDeclaration? hf] at h
  · obtain ⟨target, operator, right, hform, hop, hupdates⟩ := exists_eq_compound hf
    rw [hform] at h ⊢
    cases h
    refine ⟨hupdates, ?_⟩
    rintro _ _ ⟨⟩
    exact hop
  · obtain ⟨target, hform, hupdates⟩ := exists_eq_step hf
    rw [hform] at h ⊢
    cases h
    exact ⟨hupdates, by simp⟩
  · simp [updated?_of_assignment? hf] at h
  · simp [hf, Form.updated?] at h

end Forms

section Facts

variable {p : Profile} {text : List Char} {v e : String} {f : Form}

lemma exists_operation_of_mem_expressionsIn (h : e ∈ expressionsIn text) :
    ∃ b : Binary, b.Spells e ∧ isOperator b.operator = true := by
  simp only [expressionsIn, List.mem_eraseDups, List.mem_map] at h
  obtain ⟨b, hb, rfl⟩ := h
  obtain ⟨before, gap, after, hgap, hleft, hright⟩ := occurs_of_mem_binaries hb
  exact ⟨b, ⟨hleft.word, hright.word, rfl⟩, (operator?_eq_some hgap).2⟩

lemma exists_operation_of_mem_expressions (hword : ∀ w, f.target? = some w → WholeWord w)
    (hop : ∀ target operator right, f = .compound target operator right → isOperator operator = true)
    (h : e ∈ (factOf p text f).expressions) :
    ∃ b : Binary, b.Spells e ∧ isOperator b.operator = true := by
  cases f with
  | declaration target right => exact exists_operation_of_mem_expressionsIn h
  | assignment target right => exact exists_operation_of_mem_expressionsIn h
  | compound target operator right =>
    simp only [factOf, List.mem_eraseDups, List.mem_append] at h
    rcases h with h | h
    · have hright : WholeWord (trim right) ∧
          e = String.ofList (Binary.text ⟨target, operator, trim right⟩) := by
        simpa [compoundExpression, WholeWord] using h
      exact ⟨_, ⟨hword target rfl, hright.1, hright.2.symm⟩, hop target operator right rfl⟩
    · exact exists_operation_of_mem_expressionsIn h
  | bareDeclaration => simp [factOf] at h
  | step target => simp [factOf] at h
  | plain => simp [factOf] at h

lemma wholeWord_of_mem_usedIn (h : v ∈ usedIn p text) : WholeWord v.toList := by
  obtain ⟨-, before, after, hoccurs, -⟩ := mem_usedIn_iff.mp h
  exact hoccurs.word

lemma reads_or_updated_of_mem_used (h : v ∈ (factOf p text f).used) :
    (WholeWord v.toList ∧ p.Reads v) ∨ f.updated? = some v.toList := by
  have hin {right : List Char} (h : v ∈ usedIn p right) : WholeWord v.toList ∧ p.Reads v :=
    ⟨wholeWord_of_mem_usedIn h, reads_of_mem_usedIn h⟩
  cases f with
  | declaration target right => exact Or.inl (hin h)
  | assignment target right => exact Or.inl (hin h)
  | compound target operator right =>
    simp only [factOf, List.mem_eraseDups, List.mem_cons] at h
    rcases h with rfl | h
    · exact Or.inr (by simp [Form.updated?])
    · exact Or.inl (hin h)
  | step target =>
    obtain rfl := List.mem_singleton.mp h
    exact Or.inr (by simp [Form.updated?])
  | bareDeclaration => simp [factOf] at h
  | plain => exact Or.inl (hin h)

lemma nodup_used_factOf : (factOf p text f).used.Nodup := by
  cases f with
  | declaration target right => exact nodup_eraseDups _
  | assignment target right => exact nodup_eraseDups _
  | compound target operator right => exact nodup_eraseDups _
  | step target => exact List.nodup_singleton _
  | bareDeclaration => exact List.nodup_nil
  | plain => exact nodup_eraseDups _

lemma nodup_expressions_factOf : (factOf p text f).expressions.Nodup := by
  cases f with
  | declaration target right => exact nodup_eraseDups _
  | assignment target right => exact nodup_eraseDups _
  | compound target operator right => exact nodup_eraseDups _
  | step target => exact List.nodup_nil
  | bareDeclaration => exact List.nodup_nil
  | plain => exact List.nodup_nil

end Facts

end Statement

structure Fact.WellFormed (p : Profile) (text : List Char) (f : Fact) : Prop where
  kind : f.kind = .decl ∨ f.kind = .assign ∨ f.kind = .use
  used_nodup : f.used.Nodup
  expressions_nodup : f.expressions.Nodup
  use : f.kind = .use → f.defined = none ∧ f.expressions = []
  assign : f.kind = .assign → ∃ v, f.defined = some v
  decl : f.kind = .decl → f.defined = none → f.used = [] ∧ f.expressions = []
  defined : ∀ v, f.defined = some v → WholeWord v.toList
  expressions : ∀ e ∈ f.expressions, ∃ b : Binary, b.Spells e ∧ isOperator b.operator = true
  used : ∀ v ∈ f.used, WholeWord v.toList ∧ (p.Reads v ∨
    f.kind = .assign ∧ f.defined = some v ∧ Statement.Updates v.toList text)

theorem Fact.wellFormed_ofStatement (p : Profile) (statement : String) :
    (ofStatement p statement).WellFormed p (Statement.clean statement.toList) := by
  simp only [ofStatement]
  generalize Statement.clean statement.toList = text
  have hfits := Statement.fits_form p text
  have hupdates (w : List Char) (hw : (Statement.form p text).updated? = some w) :=
    Statement.updates_of_updated? hw
  generalize Statement.form p text = f at hfits hupdates
  have htarget (v : String) (hv : (Statement.factOf p text f).defined = some v) :
      f.target? = some v.toList := by
    rw [Statement.defined_factOf, Option.map_eq_some_iff] at hv
    obtain ⟨w, hw, rfl⟩ := hv
    rw [hw, String.toList_ofList]
  refine ⟨?_, Statement.nodup_used_factOf, Statement.nodup_expressions_factOf, ?_, ?_, ?_,
    fun v hv => hfits.word _ (htarget v hv), fun e he => ?_, fun v hv => ?_⟩
  · cases f <;> simp [Statement.factOf]
  · cases f <;> simp [Statement.factOf]
  · cases f <;> simp [Statement.factOf]
  · cases f <;> simp [Statement.factOf]
  · apply Statement.exists_operation_of_mem_expressions hfits.word _ he
    rintro target operator right rfl
    exact (hupdates target rfl).2 operator right rfl
  · rcases Statement.reads_or_updated_of_mem_used hv with ⟨hword, hreads⟩ | hupdated
    · exact ⟨hword, Or.inl hreads⟩
    · have hassign : (Statement.factOf p text f).kind = .assign ∧ f.target? = f.updated? := by
        cases f <;> simp_all [Statement.factOf, Statement.Form.updated?, Statement.Form.target?]
      have hdefined : (Statement.factOf p text f).defined = some v := by
        rw [Statement.defined_factOf, hassign.2, hupdated, Option.map_some, String.ofList_toList]
      exact ⟨hfits.word _ (htarget v hdefined),
        Or.inr ⟨hassign.1, hdefined, (hupdates _ hupdated).1⟩⟩

end GenKill
