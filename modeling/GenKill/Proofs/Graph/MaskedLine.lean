import GenKill.Proofs.Graph.SourceLine
import GenKill.Proofs.Text.Pieces

/-! A line and its mask, shortened side by side. Comments, braces and blanks are looked for in each of the
two, and yet what is left of the mask is always the mask of what is left of the line: all that is taken
away stands outside the literals. -/

namespace GenKill

open Text

namespace Text

variable {needle text : List Char} {i : ℕ}

lemma isPrefix_drop_firstIndex? (h : firstIndex? needle text = some i) :
    needle <+: text.drop i ∧ ∀ j < i, ¬ needle <+: text.drop j := by
  induction text generalizing i with
  | nil =>
    obtain ⟨rfl, rfl⟩ : needle = [] ∧ 0 = i := by simpa [firstIndex?] using h
    exact ⟨List.nil_prefix, fun j hj => absurd hj (Nat.not_lt_zero j)⟩
  | cons c text ih =>
    rw [firstIndex?] at h
    split at h
    case isTrue hfirst =>
      cases h
      exact ⟨List.isPrefixOf_iff_prefix.mp hfirst, fun j hj => absurd hj (Nat.not_lt_zero j)⟩
    case isFalse hfirst =>
      obtain ⟨k, hk, rfl⟩ := Option.map_eq_some_iff.mp h
      obtain ⟨hat, hbefore⟩ := ih hk
      refine ⟨hat, fun j hj => ?_⟩
      cases j with
      | zero => rwa [List.isPrefixOf_iff_prefix] at hfirst
      | succ j => exact hbefore j (Nat.lt_of_succ_lt_succ hj)

lemma not_isInfix_take_firstIndex? (hne : needle ≠ []) (h : firstIndex? needle text = some i) :
    ¬ needle <:+: text.take i := by
  rintro ⟨before, after, heq⟩
  have htext : text = before ++ (needle ++ (after ++ text.drop i)) := by
    rw [← List.append_assoc, ← List.append_assoc, heq, List.take_append_drop]
  have hlt : before.length < i := by
    have hlength := congrArg List.length heq
    have hpos := List.length_pos_of_ne_nil hne
    simp only [List.length_append, List.length_take] at hlength
    omega
  apply (isPrefix_drop_firstIndex? h).2 before.length hlt
  rw [htext, List.drop_left]
  exact List.prefix_append needle _

end Text

namespace Source

lemma cutComment_mask (line : List Char) :
    (cutComment line (mask line)).2 = mask (cutComment line (mask line)).1 := by
  unfold cutComment
  split
  case h_1 i hi =>
    have hslash : (mask line)[i]? = some '/' := by
      obtain ⟨more, hmore⟩ := (isPrefix_drop_firstIndex? hi).1
      rw [← List.head?_drop, ← hmore]
      rfl
    rw [← mask_take hslash (by decide) (by decide), trimRight_mask]
  case h_2 => rfl

lemma unbraced_mask (line : List Char) : unbraced (mask line) = mask (unbraced line) := by
  have hclose (c : Char) (hc : (c == '\x7d') = true) : isQuote c = false := by
    rw [eq_of_beq hc]
    rfl
  have hopen (c : Char) (hc : (c == '\x7b') = true) : isQuote c = false := by
    rw [eq_of_beq hc]
    rfl
  rw [unbraced, dropWhile_mask hclose, dropTrailing_mask hopen, trim, trimLeft,
    dropWhile_mask fun _ => isQuote_of_isBlank, trimRight_mask]
  rfl

lemma not_isInfix_cutComment (line masked : List Char) :
    ¬ lineComment <:+: (cutComment line masked).2 := by
  unfold cutComment
  split
  case h_1 i hi =>
    intro h
    exact not_isInfix_take_firstIndex? (by simp [lineComment]) hi (h.trans trimRight_isPrefix.isInfix)
  case h_2 hnone =>
    rw [← isInfix_iff, ← firstIndex?_isSome, hnone]
    exact Bool.false_ne_true

/-- While a statement is looked for, the masked form of the line is the mask of the line, once a comment is
cut off and once braces and blanks are taken away. So a statement is tested for structure as its mask,
and its mask shows no line comment. -/
theorem statementText?_in_step (p : Profile) (line : List Char) :
    let cut := cutComment line (mask line)
    let text := unbraced cut.1
    cut.2 = mask cut.1 ∧ cut.2.length = cut.1.length ∧
    unbraced cut.2 = mask text ∧ (unbraced cut.2).length = text.length ∧
    ¬ lineComment <:+: mask cut.1 ∧ ¬ lineComment <:+: mask text ∧
    ∀ s, statementText? p line = some s ↔
      s = text ∧ isCommentLine line = false ∧ p.isStructural (mask cut.1) = false ∧
        s.all (· == ';') = false ∧ p.isStructural (mask s) = false := by
  intro cut text
  have hcut : cut.2 = mask cut.1 := cutComment_mask line
  have htext : unbraced cut.2 = mask text := by rw [hcut, unbraced_mask]
  have hcomment : ¬ lineComment <:+: cut.2 := not_isInfix_cutComment line (mask line)
  refine ⟨hcut, by rw [hcut, length_mask], htext, by rw [htext, length_mask], hcut ▸ hcomment, ?_, fun s => ?_⟩
  · rw [← htext]
    exact fun h => hcomment (h.trans (unbraced_isInfix cut.2))
  · rw [statementText?_eq_some_iff, htext, hcut]
    constructor
    · rintro ⟨hline, hstructure, rfl, hsemi, hbraces⟩
      exact ⟨rfl, hline, hstructure, hsemi, hbraces⟩
    · rintro ⟨rfl, hline, hstructure, hsemi, hbraces⟩
      exact ⟨hline, hstructure, rfl, hsemi, hbraces⟩

end Source

end GenKill
