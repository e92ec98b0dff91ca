import GenKill.Graph.Source
import GenKill.Profile.Basic
import GenKill.Proofs.Text.Pieces

/-! A line comment behind a line. Where every quote of the line is closed, nothing in the comment can pair
with it; so the comment is found where it begins or the line is cut before it, and the statement of the
line stays what it is. -/

namespace GenKill

open Text

namespace Text

variable {needle a b : List Char} {c : Char}

lemma isPrefix_append_cons_iff (hc : c ∉ needle) : needle <+: a ++ c :: b ↔ needle <+: a := by
  constructor
  · intro h
    rcases List.prefix_or_prefix_of_prefix h (List.prefix_append a (c :: b)) with hle | ⟨rest, rfl⟩
    · exact hle
    · rw [List.prefix_append_right_inj] at h
      cases rest with
      | nil => simp
      | cons d rest =>
        obtain ⟨rfl, -⟩ := List.cons_prefix_cons.mp h
        simp at hc
  · intro h
    exact h.trans (List.prefix_append a _)

lemma isPrefixOf_append_cons (hc : c ∉ needle) : needle.isPrefixOf (a ++ c :: b) = needle.isPrefixOf a := by
  rw [Bool.eq_iff_iff, List.isPrefixOf_iff_prefix, List.isPrefixOf_iff_prefix, isPrefix_append_cons_iff hc]

lemma firstIndex?_append_cons (hc : c ∉ needle) (a b : List Char) :
    firstIndex? needle (a ++ c :: b) =
      (firstIndex? needle a).or ((firstIndex? needle (c :: b)).map (· + a.length)) := by
  induction a with
  | nil => cases needle <;> simp [firstIndex?]
  | cons d a ih =>
    rw [List.cons_append, firstIndex?, ← List.cons_append, isPrefixOf_append_cons hc, firstIndex?]
    split
    case isTrue => rfl
    case isFalse =>
      rw [ih, Option.map_or, Option.map_map]
      rfl

lemma firstIndex?_append_self (hneedle : needle ≠ []) (ha : ∀ c ∈ a, c ∉ needle) (b : List Char) :
    firstIndex? needle (a ++ (needle ++ b)) = some a.length := by
  obtain ⟨d, rest, rfl⟩ := List.exists_cons_of_ne_nil hneedle
  induction a with
  | nil =>
    rw [List.nil_append, List.cons_append, firstIndex?, ← List.cons_append, if_pos]
    · rfl
    · exact List.isPrefixOf_iff_prefix.mpr (List.prefix_append _ b)
  | cons c a ih =>
    obtain ⟨hc, ha⟩ := List.forall_mem_cons.mp ha
    have hstart : (d :: rest).isPrefixOf (c :: (a ++ (d :: rest ++ b))) = false := by
      rw [← List.nil_append (c :: _), isPrefixOf_append_cons hc]
      rfl
    rw [List.cons_append, firstIndex?, hstart, ih ha]
    rfl

lemma le_length_of_firstIndex? {i : ℕ} (h : firstIndex? needle a = some i) : i ≤ a.length := by
  induction a generalizing i with
  | nil =>
    obtain ⟨-, rfl⟩ : needle = [] ∧ 0 = i := by simpa [firstIndex?] using h
    exact le_rfl
  | cons c a ih =>
    rw [firstIndex?] at h
    split at h
    case isTrue =>
      cases h
      exact Nat.zero_le _
    case isFalse =>
      obtain ⟨j, hj, rfl⟩ := Option.map_eq_some_iff.mp h
      exact Nat.succ_le_succ (ih hj)

end Text

namespace Source

variable {line blanks : List Char} {c : Char}

lemma notMem_lineComment (hc : isBlank c = true) : c ∉ lineComment := by
  have hslash : c ≠ '/' := ne_of_isBlank hc (by decide)
  simp [lineComment, hslash]

lemma isCommentLine_append_cons (hc : isBlank c = true) (line rest : List Char) :
    isCommentLine (line ++ c :: rest) = isCommentLine line := by
  have hslash : c ≠ '/' := ne_of_isBlank hc (by decide)
  have hstar : c ≠ '*' := ne_of_isBlank hc (by decide)
  have hhead : ((line ++ c :: rest).head? == some '*') = (line.head? == some '*') := by
    cases line <;> simp [hstar]
  rw [isCommentLine, isPrefixOf_append_cons (notMem_lineComment hc),
    isPrefixOf_append_cons (by simp [commentStart, hslash, hstar]), hhead, isCommentLine]

lemma mask_append_comment (hclosed : Closed line) (hblanks : ∀ c ∈ blanks, isBlank c = true)
    (comment : List Char) :
    mask (line ++ (blanks ++ (lineComment ++ comment))) =
      mask line ++ (blanks ++ (lineComment ++ mask comment)) := by
  rw [hclosed.mask_append, mask_append_of_no_quote fun c hc => isQuote_of_isBlank (hblanks c hc),
    mask_append_of_no_quote (by simp [lineComment, isQuote])]

lemma trimRight_take_append (hblanks : ∀ c ∈ blanks, isBlank c = true) (a b : List Char) :
    trimRight ((a ++ (blanks ++ b)).take (blanks.length + a.length)) = trimRight a := by
  rw [← List.append_assoc, List.take_left' (by rw [List.length_append, Nat.add_comm])]
  exact dropTrailing_append_of_pos hblanks a

lemma cutComment_append (htrim : trim line = line) (hclosed : Closed line) (hne : blanks ≠ [])
    (hblanks : ∀ c ∈ blanks, isBlank c = true) (comment : List Char) :
    cutComment (line ++ (blanks ++ (lineComment ++ comment)))
      (mask (line ++ (blanks ++ (lineComment ++ comment)))) = cutComment line (mask line) := by
  have hindex : firstIndex? lineComment (mask line ++ (blanks ++ (lineComment ++ mask comment))) =
      (firstIndex? lineComment (mask line)).or (some (blanks.length + line.length)) := by
    have hbehind : firstIndex? lineComment (blanks ++ (lineComment ++ mask comment)) = some blanks.length :=
      firstIndex?_append_self (by simp [lineComment]) (fun c hc => notMem_lineComment (hblanks c hc)) _
    obtain ⟨c, more, rfl⟩ := List.exists_cons_of_ne_nil hne
    rw [List.cons_append] at hbehind ⊢
    rw [firstIndex?_append_cons (notMem_lineComment (hblanks c (by simp))), hbehind, length_mask]
    rfl
  rw [mask_append_comment hclosed hblanks, cutComment, hindex, cutComment]
  cases hi : firstIndex? lineComment (mask line) with
  | some i =>
    have hle : i ≤ (mask line).length := le_length_of_firstIndex? hi
    simp only [Option.some_or]
    rw [List.take_append_of_le_length (length_mask line ▸ hle), List.take_append_of_le_length hle]
  | none =>
    simp only [Option.none_or]
    rw [trimRight_take_append hblanks, ← length_mask line, trimRight_take_append hblanks, trimRight_mask,
      trimRight_of_trimmed htrim]

theorem statementText?_append_comment (p : Profile) (line blanks comment : List Char)
    (htrim : trim line = line) (hclosed : Closed line) (hne : blanks ≠ [])
    (hblanks : ∀ c ∈ blanks, isBlank c = true) :
    statementText? p (line ++ blanks ++ lineComment ++ comment) = statementText? p line := by
  obtain ⟨c, more, rfl⟩ := List.exists_cons_of_ne_nil hne
  rw [List.append_assoc, List.append_assoc, statementText?, cutComment_append htrim hclosed hne hblanks,
    List.cons_append, isCommentLine_append_cons (hblanks c (by simp)), statementText?]

theorem quoted_marker_kept :
    Closed "s = \"it's // here\" + '\\'';".toList ∧
    statementText? .java ("s = \"it's // here\" + '\\'';".toList ++ [' ', '\t'] ++ lineComment ++
      " don't \" cut */ // this".toList) = some "s = \"it's // here\" + '\\'';".toList := by
  have hclosed : Closed "s = \"it's // here\" + '\\'';".toList := by decide +kernel
  have hblanks : ∀ c ∈ [' ', '\t'], isBlank c = true := by
    simp only [List.forall_mem_cons]
    exact ⟨by decide, by decide, List.forall_mem_nil _⟩
  refine ⟨hclosed, ?_⟩
  rw [statementText?_append_comment .java _ _ _ (by decide) hclosed (by simp) hblanks]
  decide +kernel

end Source

end GenKill
