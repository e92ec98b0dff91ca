import GenKill.Proofs.Fact.Formula
import GenKill.Proofs.Fact.Operand

/-! Formulas as trees. Products bind before sums and operators of one rank from the left, so each formula
has one tree. Its nodes with two words for operands are the products that begin a formula or follow the
operator of a sum, and the sum that begins a formula, unless a product takes its right operand. The
expressions of a statement are taken in pairs from the left with no regard to this. -/

namespace GenKill

namespace Text

def isProduct (op : Char) : Bool := op == '*' || op == '/' || op == '%'

def rankOf (op : Char) : ℕ := if isProduct op then 1 else 0

inductive Tree where
  | word (w : List Char)
  | node (left : Tree) (op : Char) (right : Tree)
  deriving DecidableEq

namespace Tree

def formula : Tree → Formula
  | word w => ⟨w, []⟩
  | node l op r => ⟨l.formula.first, l.formula.rest ++ (op, r.formula.first) :: r.formula.rest⟩

def rank : Tree → ℕ
  | word _ => 2
  | node _ op _ => rankOf op

def Grouped : Tree → Prop
  | word _ => True
  | node l op r => l.Grouped ∧ r.Grouped ∧ rankOf op ≤ l.rank ∧ rankOf op < r.rank

def subtrees : Tree → List Tree
  | word w => [word w]
  | node l op r => node l op r :: (l.subtrees ++ r.subtrees)

def Computes (t : Tree) (b : Binary) : Prop := node (word b.left) b.operator (word b.right) ∈ t.subtrees

instance (t : Tree) (b : Binary) : Decidable (t.Computes b) := inferInstanceAs (Decidable (_ ∈ _))

def push (t : Tree) (s : Char × List Char) : Tree :=
  match t with
  | word w => node (word w) s.1 (word s.2)
  | node l op r =>
    if isProduct s.1 && !isProduct op then node l op (node r s.1 (word s.2))
    else node (node l op r) s.1 (word s.2)

def parse (f : Formula) : Tree := f.rest.foldl push (word f.first)

end Tree

namespace Formula

/-- The formula begins with the expression, and no product takes the right operand of a sum. -/
def BindsFirst (f : Formula) (b : Binary) : Prop :=
  ∃ post, f = ⟨b.left, (b.operator, b.right) :: post⟩ ∧
    (isProduct b.operator = true ∨ ∀ s ∈ post.head?, isProduct s.1 = false)

def BindsLater (f : Formula) (b : Binary) : Prop :=
  ∃ pre op post, f.rest = pre ++ (op, b.left) :: (b.operator, b.right) :: post ∧
    isProduct b.operator = true ∧ isProduct op = false

def Binds (f : Formula) (b : Binary) : Prop := f.BindsFirst b ∨ f.BindsLater b

end Formula

namespace Tree

variable {t t' l r l' r' : Tree} {op op' : Char} {b : Binary} {s : Char × List Char}

lemma rankOf_le_one (op : Char) : rankOf op ≤ 1 := by
  unfold rankOf
  split <;> omega

lemma rankOf_of_isProduct (h : isProduct op = true) : rankOf op = 1 := if_pos h

lemma rankOf_of_not_isProduct (h : isProduct op = false) : rankOf op = 0 := if_neg (by simp [h])

section Parse

lemma grouped_push (h : t.Grouped) (s : Char × List Char) : (t.push s).Grouped := by
  have hs : rankOf s.1 < 2 := Nat.lt_succ_of_le (rankOf_le_one s.1)
  cases t with
  | word w => exact ⟨trivial, trivial, hs.le, hs⟩
  | node l op r =>
    obtain ⟨hl, hr, hle, hlt⟩ := h
    simp only [push]
    split
    case isTrue hc =>
      rw [Bool.and_eq_true, Bool.not_eq_true'] at hc
      have hproduct := rankOf_of_isProduct hc.1
      have hsum := rankOf_of_not_isProduct hc.2
      exact ⟨hl, ⟨hr, trivial, by omega, hs⟩, hle, by simp only [rank]; omega⟩
    case isFalse hc =>
      refine ⟨⟨hl, hr, hle, hlt⟩, trivial, ?_, hs⟩
      cases hproduct : isProduct s.1 with
      | false => exact (rankOf_of_not_isProduct hproduct).trans_le (Nat.zero_le _)
      | true =>
        have hop : isProduct op = true := by simpa [hproduct] using hc
        exact (rankOf_le_one s.1).trans_eq (rankOf_of_isProduct hop).symm

lemma formula_push (t : Tree) (s : Char × List Char) :
    (t.push s).formula = ⟨t.formula.first, t.formula.rest ++ [s]⟩ := by
  cases t with
  | word w => rfl
  | node l op r =>
    simp only [push]
    split <;> simp [formula]

lemma formula_foldl_push (t : Tree) (rest : List (Char × List Char)) :
    (rest.foldl push t).formula = ⟨t.formula.first, t.formula.rest ++ rest⟩ := by
  induction rest generalizing t with
  | nil => simp
  | cons s rest ih => simp [ih, formula_push]

lemma formula_parse (f : Formula) : (parse f).formula = f := formula_foldl_push (word f.first) f.rest

lemma grouped_parse (f : Formula) : (parse f).Grouped :=
  List.foldlRecOn f.rest push trivial fun _ ht s _ => grouped_push ht s

end Parse

section Unique

lemma rank_le_of_mem (h : t.Grouped) (hs : s ∈ t.formula.rest) : t.rank ≤ rankOf s.1 := by
  induction t with
  | word w => cases hs
  | node l op r ihl ihr =>
    obtain ⟨hl, hr, hle, hlt⟩ := h
    simp only [formula, List.mem_append, List.mem_cons] at hs
    rcases hs with hs | rfl | hs
    · exact hle.trans (ihl hl hs)
    · exact le_rfl
    · exact hlt.le.trans (ihr hr hs)

lemma eq_word_of_rest_eq_nil (h : t.formula.rest = []) : t = word t.formula.first := by
  cases t with
  | word w => rfl
  | node l op r => simp [formula] at h

lemma eq_nil_of_roots {more : List (Char × List Char)} (h : (node l op r).Grouped)
    (h' : (node l' op' r').Grouped) (hleft : l'.formula.rest = l.formula.rest ++ more)
    (hright : (op, r.formula.first) :: r.formula.rest = more ++ (op', r'.formula.first) :: r'.formula.rest) :
    more = [] := by
  cases more with
  | nil => rfl
  | cons s more =>
    obtain ⟨rfl, hrest⟩ := List.cons.inj hright
    have hmem : (op, r.formula.first) ∈ l'.formula.rest := by simp [hleft]
    have hmem' : (op', r'.formula.first) ∈ r.formula.rest := by simp [hrest]
    obtain ⟨-, hr, -, hlt⟩ := h
    obtain ⟨hl', -, hle', -⟩ := h'
    have hlow : l'.rank ≤ rankOf op := rank_le_of_mem hl' hmem
    have hhigh : r.rank ≤ rankOf op' := rank_le_of_mem hr hmem'
    omega

lemma eq_of_formula_eq (h : t.Grouped) (h' : t'.Grouped) (heq : t.formula = t'.formula) : t = t' := by
  induction t generalizing t' with
  | word w =>
    have hrest : t'.formula.rest = [] := by rw [← heq]; rfl
    rw [eq_word_of_rest_eq_nil hrest, ← heq]
    rfl
  | node l op r ihl ihr =>
    cases t' with
    | word w => simp [formula] at heq
    | node l' op' r' =>
      obtain ⟨hfirst, hrest⟩ := Formula.mk.inj heq
      have hsplit : l.formula.rest = l'.formula.rest ∧
          (op, r.formula.first) :: r.formula.rest = (op', r'.formula.first) :: r'.formula.rest := by
        obtain ⟨more, hleft, hright⟩ | ⟨more, hleft, hright⟩ := List.append_eq_append_iff.mp hrest
        · obtain rfl := eq_nil_of_roots h h' hleft hright
          exact ⟨by simpa using hleft.symm, hright⟩
        · obtain rfl := eq_nil_of_roots h' h hleft hright
          exact ⟨by simpa using hleft, hright.symm⟩
      obtain ⟨hleft, hright⟩ := hsplit
      obtain ⟨hroot, hbehind⟩ := List.cons.inj hright
      obtain ⟨rfl, hfirst'⟩ := Prod.mk.inj hroot
      obtain ⟨hl, hr, -, -⟩ := h
      obtain ⟨hl', hr', -, -⟩ := h'
      rw [ihl hl hl' (Formula.ext hfirst hleft), ihr hr hr' (Formula.ext hfirst' hbehind)]

end Unique

section Nodes

lemma not_computes_word (w : List Char) : ¬ (word w).Computes b := by
  simp [Computes, subtrees]

lemma computes_node_iff : (node l op r).Computes b ↔
    node l op r = node (word b.left) b.operator (word b.right) ∨ l.Computes b ∨ r.Computes b := by
  simp only [Computes, subtrees, List.mem_cons, List.mem_append, eq_comm]

lemma isProduct_of_mem_right (h : (node l op r).Grouped) (hs : s ∈ r.formula.rest) :
    isProduct s.1 = true ∧ isProduct op = false := by
  obtain ⟨-, hr, -, hlt⟩ := h
  have hhigh : rankOf op < rankOf s.1 := hlt.trans_le (rank_le_of_mem hr hs)
  cases hproduct : isProduct s.1 with
  | false =>
    rw [rankOf_of_not_isProduct hproduct] at hhigh
    omega
  | true =>
    refine ⟨rfl, ?_⟩
    cases hop : isProduct op with
    | false => rfl
    | true =>
      rw [rankOf_of_isProduct hproduct, rankOf_of_isProduct hop] at hhigh
      omega

lemma isProduct_of_mem_left (h : (node l op r).Grouped) (hs : s ∈ l.formula.rest)
    (hsum : isProduct s.1 = false) : isProduct op = false := by
  obtain ⟨hl, -, hle, -⟩ := h
  have hlow : rankOf op ≤ rankOf s.1 := hle.trans (rank_le_of_mem hl hs)
  cases hop : isProduct op with
  | false => rfl
  | true =>
    rw [rankOf_of_not_isProduct hsum, rankOf_of_isProduct hop] at hlow
    omega

lemma binds_of_left (h : (node l op r).Grouped) (hb : l.formula.Binds b) : (node l op r).formula.Binds b := by
  rcases hb with ⟨post, hl, hpost⟩ | ⟨pre, s, post, hl, hproduct, hsum⟩
  · refine Or.inl ⟨post ++ (op, r.formula.first) :: r.formula.rest, by simp [formula, hl], ?_⟩
    cases hproduct : isProduct b.operator with
    | true => exact Or.inl rfl
    | false =>
      have hop : isProduct op = false :=
        isProduct_of_mem_left h (s := (b.operator, b.right)) (by simp [hl]) hproduct
      right
      cases post with
      | nil => simpa using hop
      | cons s post => simpa [hproduct] using hpost
  · refine Or.inr ⟨pre, s, post ++ (op, r.formula.first) :: r.formula.rest, ?_, hproduct, hsum⟩
    simp [formula, hl]

lemma binds_of_right (h : (node l op r).Grouped) (hb : r.formula.Binds b) : (node l op r).formula.Binds b := by
  rcases hb with ⟨post, hr, -⟩ | ⟨pre, s, post, hr, hproduct, hsum⟩
  · obtain ⟨hproduct, hsum⟩ := isProduct_of_mem_right h (s := (b.operator, b.right)) (by simp [hr])
    exact Or.inr ⟨l.formula.rest, op, post, by simp [formula, hr], hproduct, hsum⟩
  · refine Or.inr ⟨l.formula.rest ++ (op, r.formula.first) :: pre, s, post, ?_, hproduct, hsum⟩
    simp [formula, hr]

lemma cases_of_bindsFirst (h : (node l op r).Grouped) (hb : (node l op r).formula.BindsFirst b) :
    node l op r = node (word b.left) b.operator (word b.right) ∨ l.formula.BindsFirst b := by
  obtain ⟨post, heq, hpost⟩ := hb
  obtain ⟨hfirst, hrest⟩ := Formula.mk.inj heq
  cases hl : l.formula.rest with
  | nil =>
    rw [hl, List.nil_append] at hrest
    obtain ⟨hroot, rfl⟩ := List.cons.inj hrest
    obtain ⟨rfl, hright⟩ := Prod.mk.inj hroot
    -- a second operator in the right subtree would be a product and take its first word
    have hr : r.formula.rest = [] := by
      cases hr : r.formula.rest with
      | nil => rfl
      | cons s rest =>
        obtain ⟨hproduct, hsum⟩ := isProduct_of_mem_right h (s := s) (by simp [hr])
        simp [hr, hproduct, hsum] at hpost
    left
    rw [eq_word_of_rest_eq_nil hl, eq_word_of_rest_eq_nil hr, hfirst, hright]
  | cons s rest =>
    rw [hl, List.cons_append] at hrest
    obtain ⟨rfl, rfl⟩ := List.cons.inj hrest
    refine Or.inr ⟨rest, Formula.ext hfirst hl, hpost.imp_right fun hpost => ?_⟩
    cases rest with
    | nil => simp
    | cons s' rest => simpa using hpost

lemma cases_of_bindsLater (h : (node l op r).Grouped) (hb : (node l op r).formula.BindsLater b) :
    l.formula.BindsLater b ∨ r.formula.Binds b := by
  obtain ⟨pre, s, post, heq, hproduct, hsum⟩ := hb
  have hroot (hr : r.formula = ⟨b.left, (b.operator, b.right) :: post⟩) : r.formula.Binds b :=
    Or.inl ⟨post, hr, Or.inl hproduct⟩
  obtain ⟨more, hpre, hright⟩ | ⟨more, hleft, hright⟩ := List.append_eq_append_iff.mp heq
  · cases more with
    | nil =>
      obtain ⟨hfirst, hrest⟩ := List.cons.inj hright
      exact Or.inr (hroot (Formula.ext (Prod.mk.inj hfirst).2 hrest))
    | cons x more =>
      obtain ⟨-, hrest⟩ := List.cons.inj hright
      exact Or.inr (Or.inr ⟨more, s, post, hrest, hproduct, hsum⟩)
  · cases more with
    | nil =>
      obtain ⟨hfirst, hrest⟩ := List.cons.inj hright
      exact Or.inr (hroot (Formula.ext (Prod.mk.inj hfirst).2.symm hrest.symm))
    | cons x more =>
      obtain ⟨rfl, hbehind⟩ := List.cons.inj hright
      cases more with
      | nil =>
        obtain ⟨hop, -⟩ := List.cons.inj hbehind
        obtain ⟨rfl, -⟩ := Prod.mk.inj hop
        rw [isProduct_of_mem_left h (s := (s, b.left)) (by simp [hleft]) hsum] at hproduct
        cases hproduct
      | cons y more =>
        obtain ⟨rfl, -⟩ := List.cons.inj hbehind
        exact Or.inl ⟨pre, s, more, hleft, hproduct, hsum⟩

lemma computes_iff_binds (h : t.Grouped) : t.Computes b ↔ t.formula.Binds b := by
  induction t with
  | word w =>
    refine iff_of_false (not_computes_word w) ?_
    rintro (⟨post, heq, -⟩ | ⟨pre, s, post, heq, -⟩) <;> simp [formula] at heq
  | node l op r ihl ihr =>
    obtain ⟨hl, hr, -, -⟩ := id h
    rw [computes_node_iff, ihl hl, ihr hr]
    constructor
    · rintro (heq | hb | hb)
      · obtain ⟨rfl, rfl, rfl⟩ := Tree.node.inj heq
        exact Or.inl ⟨[], rfl, by simp⟩
      · exact binds_of_left h hb
      · exact binds_of_right h hb
    · rintro (hb | hb)
      · exact (cases_of_bindsFirst h hb).imp_right fun hb => Or.inl (Or.inl hb)
      · exact Or.inr ((cases_of_bindsLater h hb).imp_left Or.inr)

end Nodes

end Tree

end Text

namespace Statement

open Text

/-- The expressions of a formula are those of its first two words, its next two, and so on. The formula
has one tree, and an expression is a node of the tree exactly if the formula binds it somewhere. -/
theorem expressionsIn_formula {f : Formula} {text : List Char} (h : f.Written text) :
    expressionsIn text = (f.pairs.map fun b => String.ofList b.text).eraseDups ∧
    ∃ t : Tree, (∀ t' : Tree, t'.Grouped ∧ t'.formula = f ↔ t' = t) ∧
      ∀ e ∈ expressionsIn text, ∃ b ∈ f.pairs, b.Spells e ∧ (∀ b' : Binary, b'.Spells e → b' = b) ∧
        (t.Computes b ↔ f.Binds b) := by
  have hbinaries : binaries (emptyLiterals text) = f.pairs := by
    rw [emptyLiterals_of_no_quote h.isQuote_eq_false, h.binaries_eq]
  refine ⟨expressionsIn_written h, Tree.parse f, fun t' => ⟨fun ⟨hgrouped, hformula⟩ => ?_, ?_⟩, ?_⟩
  · exact Tree.eq_of_formula_eq hgrouped (Tree.grouped_parse f) (hformula.trans (Tree.formula_parse f).symm)
  · rintro rfl
    exact ⟨Tree.grouped_parse f, Tree.formula_parse f⟩
  · intro e he
    simp only [expressionsIn, List.mem_eraseDups, List.mem_map] at he
    obtain ⟨b, hb, rfl⟩ := he
    obtain ⟨_, _, _, -, hleft, hright⟩ := occurs_of_mem_binaries hb
    have hspells : b.Spells (String.ofList b.text) := ⟨hleft.word, hright.word, rfl⟩
    have hiff := Tree.computes_iff_binds (Tree.grouped_parse f) (b := b)
    rw [Tree.formula_parse] at hiff
    exact ⟨b, hbinaries ▸ hb, hspells, fun b' hb' => hb'.unique hspells, hiff⟩

section Letters

lemma wholeWord_letter {c : Char} (hc : isWord c = true) : WholeWord [c] := ⟨by simp, by simpa using hc⟩

lemma isBlank_space : ∀ c ∈ [' '], isBlank c = true := List.forall_mem_singleton.mpr (by decide)

lemma written_twoProducts :
    Formula.Written ⟨['a'], [('*', ['b']), ('-', ['c']), ('/', ['d'])]⟩ "a*b - c /d".toList where
  first := wholeWord_letter (by decide)
  rest := by
    simp only [List.forall_mem_cons]
    exact ⟨⟨by decide, wholeWord_letter (by decide)⟩, ⟨by decide, wholeWord_letter (by decide)⟩,
      ⟨by decide, wholeWord_letter (by decide)⟩, List.forall_mem_nil _⟩
  spaced := ⟨[], _, rfl, List.forall_mem_nil _, [], _, rfl, List.forall_mem_nil _, [], _, rfl,
    List.forall_mem_nil _, [' '], _, rfl, isBlank_space, [' '], _, rfl, isBlank_space, [' '], _, rfl,
    isBlank_space, [], _, rfl, List.forall_mem_nil _, List.forall_mem_nil _⟩

lemma written_sumOfProduct :
    Formula.Written ⟨['a'], [('+', ['b']), ('*', ['c'])]⟩ "a + b * c".toList where
  first := wholeWord_letter (by decide)
  rest := by
    simp only [List.forall_mem_cons]
    exact ⟨⟨by decide, wholeWord_letter (by decide)⟩, ⟨by decide, wholeWord_letter (by decide)⟩,
      List.forall_mem_nil _⟩
  spaced := ⟨[], _, rfl, List.forall_mem_nil _, [' '], _, rfl, isBlank_space, [' '], _, rfl, isBlank_space,
    [' '], _, rfl, isBlank_space, [' '], _, rfl, isBlank_space, List.forall_mem_nil _⟩

theorem two_products_computed :
    expressionsIn "a*b - c /d".toList = ["a * b", "c / d"] ∧
    ∃ t : Tree, t.Grouped ∧ t.formula = ⟨['a'], [('*', ['b']), ('-', ['c']), ('/', ['d'])]⟩ ∧
      t.Computes ⟨['a'], '*', ['b']⟩ ∧ t.Computes ⟨['c'], '/', ['d']⟩ := by
  obtain ⟨hexpressions, t, ht, hnodes⟩ := expressionsIn_formula written_twoProducts
  have heq : expressionsIn "a*b - c /d".toList = ["a * b", "c / d"] := hexpressions.trans (by decide)
  have hnode (b : Binary) (hmem : String.ofList b.text ∈ expressionsIn "a*b - c /d".toList)
      (hleft : WholeWord b.left) (hright : WholeWord b.right)
      (hbinds : Formula.Binds ⟨['a'], [('*', ['b']), ('-', ['c']), ('/', ['d'])]⟩ b) : t.Computes b := by
    obtain ⟨b', -, -, hunique, hiff⟩ := hnodes _ hmem
    rw [hunique b ⟨hleft, hright, rfl⟩]
    exact hiff.mpr (hunique b ⟨hleft, hright, rfl⟩ ▸ hbinds)
  obtain ⟨hgrouped, hformula⟩ := (ht t).mpr rfl
  refine ⟨heq, t, hgrouped, hformula, ?_, ?_⟩
  · apply hnode _ (by rw [heq]; decide) (wholeWord_letter (by decide)) (wholeWord_letter (by decide))
    exact Or.inl ⟨_, rfl, Or.inl rfl⟩
  · apply hnode _ (by rw [heq]; decide) (wholeWord_letter (by decide)) (wholeWord_letter (by decide))
    exact Or.inr ⟨[('*', ['b'])], '-', [], rfl, rfl, rfl⟩

theorem torn_product :
    Formula.Written ⟨['a'], [('+', ['b']), ('*', ['c'])]⟩ "a + b * c".toList ∧
    expressionsIn "a + b * c".toList = ["a + b"] ∧
    ∀ t : Tree, t.Grouped → t.formula = ⟨['a'], [('+', ['b']), ('*', ['c'])]⟩ →
      ∀ b : Binary, b.Spells "a + b" → ¬ t.Computes b := by
  refine ⟨written_sumOfProduct, by decide +kernel, fun t ht hformula b hb => ?_⟩
  have hletter : Binary.Spells ⟨['a'], '+', ['b']⟩ "a + b" :=
    ⟨wholeWord_letter (by decide), wholeWord_letter (by decide), rfl⟩
  have hparse : (Tree.parse ⟨['a'], [('+', ['b']), ('*', ['c'])]⟩).formula = t.formula := by
    rw [Tree.formula_parse, hformula]
  rw [hb.unique hletter, ← Tree.eq_of_formula_eq (Tree.grouped_parse _) ht hparse]
  decide

end Letters

end Statement

end GenKill
