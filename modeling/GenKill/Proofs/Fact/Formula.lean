import GenKill.Fact.Statement
import GenKill.Proofs.Text.Occurrence
import GenKill.Proofs.Text.Pieces

/-! Words with operators between them, written with any spacing. The binary expressions of such a text are
every second pair of neighbours: the first word with the second, the third with the fourth, and so on. -/

namespace GenKill

open Text

namespace Text

/-- The text is the tokens one behind the other, with characters of `gap` before, between and behind
them. -/
def Spaced (gap : Char → Bool) : List (List Char) → List Char → Prop
  | [], text => ∀ c ∈ text, gap c = true
  | token :: tokens, text => ∃ blanks rest, text = blanks ++ token ++ rest ∧
      (∀ c ∈ blanks, gap c = true) ∧ Spaced gap tokens rest

lemma Spaced.forall_mem {gap : Char → Bool} {tokens : List (List Char)} {text : List Char}
    {P : Char → Prop} (h : Spaced gap tokens text) (hgap : ∀ c, gap c = true → P c)
    (htokens : ∀ t ∈ tokens, ∀ c ∈ t, P c) : ∀ c ∈ text, P c := by
  induction tokens generalizing text with
  | nil =>
    intro c hc
    exact hgap c (h c hc)
  | cons token tokens ih =>
    obtain ⟨blanks, rest, rfl, hblanks, hrest⟩ := h
    obtain ⟨htoken, htokens⟩ := List.forall_mem_cons.mp htokens
    simp only [List.forall_mem_append]
    exact ⟨⟨fun c hc => hgap c (hblanks c hc), htoken⟩, ih hrest htokens⟩

@[ext]
structure Formula where
  first : List Char
  rest : List (Char × List Char)
  deriving DecidableEq

namespace Formula

def tokensOf (rest : List (Char × List Char)) : List (List Char) := rest.flatMap fun s => [[s.1], s.2]

structure Written (f : Formula) (text : List Char) : Prop where
  first : WholeWord f.first
  rest : ∀ s ∈ f.rest, isOperator s.1 = true ∧ WholeWord s.2
  spaced : Spaced isBlank (f.first :: tokensOf f.rest) text

def pairsFrom (w : List Char) : List (Char × List Char) → List Binary
  | [] => []
  | [(op, v)] => [⟨w, op, v⟩]
  | (op, v) :: (_, w') :: rest => ⟨w, op, v⟩ :: pairsFrom w' rest

def pairs (f : Formula) : List Binary := pairsFrom f.first f.rest

end Formula

section Operator

variable {op : Char} {before behind : List Char}

lemma isBlank_of_isOperator (hop : isOperator op = true) : isBlank op = false :=
  of_isOperator (P := fun c => isBlank c = false) hop (by decide)

lemma isQuote_of_isOperator (hop : isOperator op = true) : isQuote op = false :=
  of_isOperator (P := fun c => isQuote c = false) hop (by decide)

lemma operator?_append (hop : isOperator op = true) (hbefore : ∀ c ∈ before, isBlank c = true)
    (hbehind : ∀ c ∈ behind, isBlank c = true) : operator? (before ++ [op] ++ behind) = some op := by
  have htrim : trim [op] = [op] := by
    apply trimmed_of_ends <;> simpa using isBlank_of_isOperator hop
  rw [operator?, trim_append hbefore hbehind htrim]
  simp [hop]

lemma isWord_of_mem_gap (hop : isOperator op = true) (hbefore : ∀ c ∈ before, isBlank c = true)
    (hbehind : ∀ c ∈ behind, isBlank c = true) : ∀ c ∈ before ++ [op] ++ behind, isWord c = false := by
  simp only [List.forall_mem_append, List.forall_mem_singleton]
  exact ⟨⟨fun c hc => isWord_of_isBlank (hbefore c hc), isWord_of_isOperator hop⟩,
    fun c hc => isWord_of_isBlank (hbehind c hc)⟩

lemma exists_eq_of_operator? {gap : List Char} (h : operator? gap = some op) :
    ∃ before behind, gap = before ++ [op] ++ behind ∧ (∀ c ∈ before, isBlank c = true) ∧
      ∀ c ∈ behind, isBlank c = true := by
  obtain ⟨before, behind, hgap, hbefore, hbehind⟩ := exists_eq_trim gap
  unfold operator? at h
  split at h
  case h_1 c htrim =>
    obtain ⟨-, hc⟩ := Option.ite_none_right_eq_some.mp h
    obtain rfl := Option.some.inj hc
    exact ⟨before, behind, htrim ▸ hgap, hbefore, hbehind⟩
  case h_2 => cases h

lemma operator?_wholeWord {w : List Char} (hw : WholeWord w) : operator? w = none := by
  cases h : operator? w with
  | none => rfl
  | some op =>
    obtain ⟨hmem, hop⟩ := operator?_eq_some h
    have hword := hw.2 op hmem
    rw [isWord_of_isOperator hop] at hword
    cases hword

lemma binariesIn_skip {a b : List Char} (hb : operator? b = none) (l : List (List Char)) :
    binariesIn (a :: b :: l) = binariesIn (b :: l) := by
  cases l with
  | nil => simp [binariesIn]
  | cons c l => rw [binariesIn, hb]

end Operator

namespace Formula

variable {v w text : List Char} {op : Char} {rest : List (Char × List Char)} {f : Formula}

lemma isWord_head?_of_spaced (hrest : ∀ s ∈ rest, isOperator s.1 = true ∧ WholeWord s.2)
    (h : Spaced isBlank (tokensOf rest) text) : ∀ c ∈ text.head?, isWord c = false := by
  intro c hc
  cases rest with
  | nil => exact isWord_of_isBlank (h c (List.mem_of_mem_head? hc))
  | cons s rest =>
    obtain ⟨blanks, text, rfl, hblanks, -⟩ := h
    cases blanks with
    | nil =>
      obtain rfl : s.1 = c := by simpa using hc
      exact isWord_of_isOperator (hrest s (by simp)).1
    | cons d blanks =>
      obtain rfl : d = c := by simpa using hc
      exact isWord_of_isBlank (hblanks d (by simp))

lemma exists_runs_eq (hrest : ∀ s ∈ (op, v) :: rest, isOperator s.1 = true ∧ WholeWord s.2)
    (h : Spaced isBlank (tokensOf ((op, v) :: rest)) text) :
    ∃ gap text', runs text = gap :: v :: runs text' ∧ operator? gap = some op ∧
      Spaced isBlank (tokensOf rest) text' := by
  obtain ⟨⟨hop, hv⟩, hrest⟩ := List.forall_mem_cons.mp hrest
  obtain ⟨before, _, rfl, hbefore, behind, text', rfl, hbehind, htext'⟩ := h
  have hgap := isWord_of_mem_gap hop hbefore hbehind
  have hoccurs : Occurs (before ++ [op] ++ (behind ++ v ++ text')) (before ++ [op] ++ behind) v text' :=
    ⟨by simp, hv, fun c hc => hgap c (List.mem_of_mem_getLast? hc), isWord_head?_of_spaced hrest htext'⟩
  refine ⟨_, text', ?_, operator?_append hop hbefore hbehind, htext'⟩
  rw [hoccurs.runs_eq, runs_eq_singleton (by simp) hgap, List.singleton_append]

lemma binariesIn_blanks (h : ∀ c ∈ text, isBlank c = true) (w : List Char) :
    binariesIn (runs text) = [] ∧ binariesIn (w :: runs text) = [] := by
  by_cases hnil : text = []
  · simp [hnil, runs, binariesIn]
  · rw [runs_eq_singleton hnil fun c hc => isWord_of_isBlank (h c hc)]
    simp [binariesIn]

lemma binariesIn_runs (hrest : ∀ s ∈ rest, isOperator s.1 = true ∧ WholeWord s.2)
    (h : Spaced isBlank (tokensOf rest) text) : binariesIn (w :: runs text) = pairsFrom w rest := by
  fun_induction pairsFrom w rest generalizing text with
  | case1 w => exact (binariesIn_blanks h w).2
  | case2 w op v =>
    obtain ⟨gap, text', hruns, hgap, htext'⟩ := exists_runs_eq hrest h
    simp only [hruns, binariesIn, hgap, (binariesIn_blanks htext' w).1]
  | case3 w op v op' w' rest ih =>
    obtain ⟨gap, text', hruns, hgap, htext'⟩ := exists_runs_eq hrest h
    obtain ⟨-, hrest⟩ := List.forall_mem_cons.mp hrest
    obtain ⟨gap', text'', hruns', -, htext''⟩ := exists_runs_eq hrest htext'
    obtain ⟨⟨-, hw'⟩, hrest⟩ := List.forall_mem_cons.mp hrest
    simp only [hruns, hruns', binariesIn, hgap]
    rw [binariesIn_skip (operator?_wholeWord hw'), ih hrest htext'']

lemma Written.isQuote_eq_false (h : f.Written text) : ∀ c ∈ text, isQuote c = false := by
  have hword {w : List Char} (hw : WholeWord w) : ∀ c ∈ w, isQuote c = false := by
    intro c hc
    simpa using not_isQuote_of_isWord (hw.2 c hc)
  apply h.spaced.forall_mem fun c hc => isQuote_of_isBlank hc
  simp only [tokensOf, List.forall_mem_cons, List.mem_flatMap]
  refine ⟨hword h.first, ?_⟩
  rintro t ⟨s, hs, ht⟩
  obtain ⟨hop, hw⟩ := h.rest s hs
  simp only [List.mem_cons, List.not_mem_nil, or_false] at ht
  rcases ht with rfl | rfl
  · simpa using isQuote_of_isOperator hop
  · exact hword hw

lemma Written.binaries_eq (h : f.Written text) : binaries text = f.pairs := by
  obtain ⟨blanks, text', rfl, hblanks, htext'⟩ := h.spaced
  have hoccurs : Occurs (blanks ++ f.first ++ text') blanks f.first text' :=
    ⟨rfl, h.first, fun c hc => isWord_of_isBlank (hblanks c (List.mem_of_mem_getLast? hc)),
      isWord_head?_of_spaced h.rest htext'⟩
  rw [binaries, hoccurs.runs_eq, pairs, ← binariesIn_runs h.rest htext']
  by_cases hnil : blanks = []
  · rw [hnil]
    rfl
  · rw [runs_eq_singleton hnil fun c hc => isWord_of_isBlank (hblanks c hc), List.singleton_append,
      binariesIn_skip (operator?_wholeWord h.first)]

end Formula

end Text

lemma Statement.expressionsIn_written {f : Formula} {text : List Char} (h : f.Written text) :
    expressionsIn text = (f.pairs.map fun b => String.ofList b.text).eraseDups := by
  rw [expressionsIn, emptyLiterals_of_no_quote h.isQuote_eq_false, h.binaries_eq]

end GenKill
