import GenKill.Proofs.Fact.Naming
import GenKill.Proofs.Text.Occurrence
import GenKill.Proofs.Text.Pieces

/-! Operands of expressions and the variables that a statement uses. The text of an expression tells its
two operands, and each is a word of the right side or the target that a compound assignment updates. It
is used unless the right side has it only as a member or as a called function. -/

namespace GenKill

open Text

structure Text.Binary.Spells (b : Binary) (e : String) : Prop where
  left : WholeWord b.left
  right : WholeWord b.right
  eq : String.ofList b.text = e

lemma Text.Binary.Spells.unique {b b' : Binary} {e : String} (h : b.Spells e) (h' : b'.Spells e) :
    b = b' := by
  have htext : b.text = b'.text := String.ofList_injective (h.eq.trans h'.eq.symm)
  have htake {b : Binary} (hb : WholeWord b.left) : b.text.takeWhile isWord = b.left := by
    rw [text, List.takeWhile_append_of_pos hb.2, List.takeWhile_cons_of_neg (by decide), List.append_nil]
  have hleft : b.left = b'.left := by rw [← htake h.left, ← htake h'.left, htext]
  rw [text, text, hleft, List.append_cancel_left_eq] at htext
  cases b
  cases b'
  simp_all

namespace Statement

namespace Form

def right : Form → List Char
  | declaration _ right => right
  | compound _ _ right => right
  | assignment _ right => right
  | _ => []

def updated? : Form → Option (List Char)
  | compound target _ _ => some target
  | step target => some target
  | _ => none

def Mentions (f : Form) (w : List Char) : Prop :=
  f.updated? = some w ∨ ∃ before after, Occurs (emptyLiterals f.right) before w after

def Shows (f : Form) (w : List Char) : Prop :=
  f.updated? = some w ∨ ReadIn (emptyLiterals f.right) w

end Form

variable {p : Profile} {text w : List Char} {v e : String} {f : Form}

lemma mem_usedIn_iff : v ∈ usedIn p text ↔ p.Reads v ∧ ReadIn (emptyLiterals text) v.toList := by
  have hnames : (∃ n ∈ names (emptyLiterals text), String.ofList n = v) ↔
      v.toList ∈ names (emptyLiterals text) := by
    constructor
    · rintro ⟨n, hn, rfl⟩
      rwa [String.toList_ofList]
    · intro h
      exact ⟨v.toList, h, String.ofList_toList⟩
  simp only [usedIn, List.mem_eraseDups, List.mem_filter, List.mem_map, hnames, Bool.not_eq_true',
    List.contains_eq_mem, decide_eq_false_iff_not]
  rw [mem_names_iff, Profile.Reads]
  tauto

lemma readIn_emptyLiterals_trim : ReadIn (emptyLiterals (trim text)) w ↔ ReadIn (emptyLiterals text) w := by
  have hleft (text : List Char) :
      ReadIn (emptyLiterals (trimLeft text)) w ↔ ReadIn (emptyLiterals text) w := by
    induction text with
    | nil => rfl
    | cons c rest ih =>
      by_cases hc : isBlank c = true
      · rw [trimLeft, List.dropWhile_cons_of_pos hc,
          emptyLiterals_cons_of_not_isQuote (by simp [isQuote_of_isBlank hc]), readIn_cons hc]
        exact ih
      · rw [trimLeft, List.dropWhile_cons_of_neg hc]
  have hright (text : List Char) :
      ReadIn (emptyLiterals (text.rdropWhile isBlank)) w ↔ ReadIn (emptyLiterals text) w := by
    induction text using List.reverseRecOn with
    | nil => rfl
    | append_singleton text c ih =>
      by_cases hc : isBlank c = true
      · have hconcat : emptyLiterals (text ++ [c]) = emptyLiterals text ++ [c] := by
          simp [emptyLiterals, pieces_concat (isQuote_of_isBlank hc), Piece.emptied]
        rw [List.rdropWhile_concat_pos _ _ _ hc, hconcat, readIn_concat hc, ih]
      · rw [List.rdropWhile_concat_neg _ _ _ hc]
  exact (hright (trimLeft text)).trans (hleft text)

lemma exists_spells_of_mem_expressionsIn (h : e ∈ expressionsIn text) :
    ∃ b : Binary, b.Spells e ∧ ∀ w, w = b.left ∨ w = b.right →
      ∃ before after, Occurs (emptyLiterals text) before w after := by
  simp only [expressionsIn, List.mem_eraseDups, List.mem_map] at h
  obtain ⟨b, hb, rfl⟩ := h
  obtain ⟨before, gap, after, -, hleft, hright⟩ := occurs_of_mem_binaries hb
  refine ⟨b, ⟨hleft.word, hright.word, rfl⟩, ?_⟩
  rintro w (rfl | rfl)
  · exact ⟨_, _, hleft⟩
  · exact ⟨_, _, hright⟩

lemma exists_spells_of_mem_expressions (hfits : f.Fits p.ignored)
    (h : e ∈ (factOf p text f).expressions) :
    ∃ b : Binary, b.Spells e ∧ ∀ w, w = b.left ∨ w = b.right → f.Mentions w := by
  have hin {right : List Char} (hright : f.right = right) (h : e ∈ expressionsIn right) :
      ∃ b : Binary, b.Spells e ∧ ∀ w, w = b.left ∨ w = b.right → f.Mentions w := by
    obtain ⟨b, hb, hw⟩ := exists_spells_of_mem_expressionsIn h
    exact ⟨b, hb, fun w hwb => Or.inr (hright ▸ hw w hwb)⟩
  cases f with
  | declaration target right => exact hin rfl h
  | assignment target right => exact hin rfl h
  | compound target operator right =>
    simp only [factOf, List.mem_eraseDups, List.mem_append] at h
    rcases h with h | h
    · have hword : WholeWord (trim right) ∧
          e = String.ofList (Binary.text ⟨target, operator, trim right⟩) := by
        simpa [compoundExpression, WholeWord] using h
      obtain ⟨hright, rfl⟩ := hword
      have hread : ReadIn (emptyLiterals right) (trim right) := by
        rw [← readIn_emptyLiterals_trim, hright.emptyLiterals_eq]
        exact hright.readIn
      obtain ⟨before, after, hoccurs, -⟩ := hread
      refine ⟨_, ⟨hfits.word target rfl, hright, rfl⟩, ?_⟩
      rintro w (rfl | rfl)
      · exact Or.inl rfl
      · exact Or.inr ⟨before, after, hoccurs⟩
    · exact hin rfl h
  | bareDeclaration => simp [factOf] at h
  | step target => simp [factOf] at h
  | plain => simp [factOf] at h

lemma mem_used_iff_shows (h : e ∈ (factOf p text f).expressions) (hv : p.Reads v) :
    v ∈ (factOf p text f).used ↔ f.Shows v.toList := by
  cases f with
  | declaration target right => simp [factOf, mem_usedIn_iff, hv, Form.Shows, Form.updated?, Form.right]
  | assignment target right => simp [factOf, mem_usedIn_iff, hv, Form.Shows, Form.updated?, Form.right]
  | compound target operator right =>
    have htarget : v = String.ofList target ↔ target = v.toList := by
      rw [← String.toList_inj, String.toList_ofList, eq_comm]
    simp [factOf, mem_usedIn_iff, hv, Form.Shows, Form.updated?, Form.right, readIn_emptyLiterals_trim,
      htarget]
  | bareDeclaration => simp [factOf] at h
  | step target => simp [factOf] at h
  | plain => simp [factOf] at h

/-- The text of an expression that a statement computes has one reading, whose operands are words of the
statement. An operand that texts may read is used exactly if the statement has it for more than the name
of a member or of a called function; so two statements with the expression use the same of its operands
exactly if they show the same. -/
theorem operand_used_iff_shows {p : Profile} {statement statement' e : String}
    (h : e ∈ (Fact.ofStatement p statement).expressions)
    (h' : e ∈ (Fact.ofStatement p statement').expressions) :
    let f := form p (clean statement.toList)
    let f' := form p (clean statement'.toList)
    ∃ b : Binary, b.Spells e ∧ (∀ b' : Binary, b'.Spells e → b' = b) ∧
      ∀ v, v.toList = b.left ∨ v.toList = b.right → f.Mentions v.toList ∧ (p.Reads v →
        (v ∈ (Fact.ofStatement p statement).used ↔ f.Shows v.toList) ∧
        ((v ∈ (Fact.ofStatement p statement).used ↔ v ∈ (Fact.ofStatement p statement').used) ↔
          (f.Shows v.toList ↔ f'.Shows v.toList))) := by
  intro f f'
  obtain ⟨b, hb, hmentions⟩ := exists_spells_of_mem_expressions (fits_form p _) h
  refine ⟨b, hb, fun b' hb' => hb'.unique hb, fun v hv => ⟨hmentions _ hv, fun hreads => ?_⟩⟩
  have hused : v ∈ (Fact.ofStatement p statement).used ↔ f.Shows v.toList :=
    mem_used_iff_shows h hreads
  have hused' : v ∈ (Fact.ofStatement p statement').used ↔ f'.Shows v.toList :=
    mem_used_iff_shows h' hreads
  exact ⟨hused, by rw [hused, hused']⟩

section Java

lemma fact_memberSum : Fact.ofStatement .java "int n = p.x + q;" =
    ⟨.decl, some "n", ["p", "q"], ["x + q"]⟩ := by
  simp only [Fact.ofStatement, form, keywords_java]
  decide +kernel

lemma fact_plainSum : Fact.ofStatement .java "n = x + q;" =
    ⟨.assign, some "n", ["x", "q"], ["x + q"]⟩ := by
  simp only [Fact.ofStatement, form, keywords_java]
  decide +kernel

lemma fact_callSum : Fact.ofStatement .java "n = a + f(q);" =
    ⟨.assign, some "n", ["a", "q"], ["a + f"]⟩ := by
  simp only [Fact.ofStatement, form, keywords_java]
  decide +kernel

theorem member_operand_not_shown :
    "x + q" ∈ (Fact.ofStatement .java "int n = p.x + q;").expressions ∧
    "x + q" ∈ (Fact.ofStatement .java "n = x + q;").expressions ∧
    (form .java (clean "int n = p.x + q;".toList)).Mentions ['x'] ∧
    ¬ (form .java (clean "int n = p.x + q;".toList)).Shows ['x'] ∧
    (form .java (clean "n = x + q;".toList)).Shows ['x'] := by
  have h : "x + q" ∈ (Fact.ofStatement .java "int n = p.x + q;").expressions := by simp [fact_memberSum]
  have h' : "x + q" ∈ (Fact.ofStatement .java "n = x + q;").expressions := by simp [fact_plainSum]
  have hletter {c : Char} (hc : isWord c = true) : WholeWord [c] := ⟨by simp, by simpa using hc⟩
  obtain ⟨b, -, hunique, hoperand⟩ := operand_used_iff_shows h h'
  obtain rfl := hunique ⟨['x'], '+', ['q']⟩ ⟨hletter (by decide), hletter (by decide), rfl⟩
  obtain ⟨hmentions, hreads⟩ := hoperand "x" (Or.inl rfl)
  obtain ⟨hused, hboth⟩ := hreads (by decide)
  have hnot : ¬ (form .java (clean "int n = p.x + q;".toList)).Shows ['x'] := by
    intro hshows
    simpa [fact_memberSum] using hused.mpr hshows
  refine ⟨h, h', hmentions, hnot, ?_⟩
  by_contra hnot'
  have hsame := hboth.mpr (iff_of_false hnot hnot')
  simp [fact_memberSum, fact_plainSum] at hsame

theorem member_operand_not_used :
    ("x + q" ∈ (Fact.ofStatement .java "int n = p.x + q;").expressions ∧
      "x" ∉ (Fact.ofStatement .java "int n = p.x + q;").used) ∧
    ("x + q" ∈ (Fact.ofStatement .java "n = x + q;").expressions ∧
      "x" ∈ (Fact.ofStatement .java "n = x + q;").used) ∧
    ("a + f" ∈ (Fact.ofStatement .java "n = a + f(q);").expressions ∧
      "f" ∉ (Fact.ofStatement .java "n = a + f(q);").used) ∧
    Profile.java.Reads "x" ∧ Profile.java.Reads "f" := by
  rw [fact_memberSum, fact_plainSum, fact_callSum]
  decide

end Java

end Statement

end GenKill
