import GenKill.Text.Basic
import Mathlib.Data.List.DropRight

namespace GenKill.Text

variable {p q : Char → Bool} {a b cs : List Char} {c : Char}

lemma dropTrailing_isPrefix : dropTrailing p cs <+: cs := List.rdropWhile_prefix p cs

lemma trimRight_isPrefix : trimRight cs <+: cs := dropTrailing_isPrefix

lemma trim_isInfix : trim cs <:+: cs :=
  trimRight_isPrefix.isInfix.trans (List.dropWhile_suffix isBlank).isInfix

lemma dropWhile_eq_self_of_isPrefix {ds : List Char} (h : ds <+: cs) (hcs : cs.dropWhile p = cs) :
    ds.dropWhile p = ds := by
  cases ds with
  | nil => rfl
  | cons d ds =>
    obtain ⟨rest, rfl⟩ := h
    have hd : ¬ p d = true := by
      intro hd
      rw [List.cons_append, List.dropWhile_cons_of_pos hd] at hcs
      have hle := (List.dropWhile_suffix p (l := ds ++ rest)).length_le
      rw [hcs, List.length_cons] at hle
      omega
    rw [List.dropWhile_cons_of_neg hd]

lemma trimLeft_trim (cs : List Char) : trimLeft (trim cs) = trim cs :=
  dropWhile_eq_self_of_isPrefix trimRight_isPrefix (List.dropWhile_idempotent isBlank cs)

lemma trim_trim (cs : List Char) : trim (trim cs) = trim cs := by
  rw [trim, trimLeft_trim, trim]
  exact List.rdropWhile_idempotent isBlank (trimLeft cs)

lemma trimRight_of_trimmed (h : trim cs = cs) : trimRight cs = cs := by
  rw [← h]
  exact List.rdropWhile_idempotent isBlank (trimLeft cs)

section Ends

lemma dropWhile_append_cons (hc : p c = false) :
    (a ++ c :: b).dropWhile p = a.dropWhile p ++ c :: b := by
  rw [List.dropWhile_append, List.dropWhile_cons_of_neg (by simp [hc])]
  split
  case isTrue hnil => rw [List.isEmpty_iff.mp hnil, List.nil_append]
  case isFalse => rfl

lemma dropTrailing_append_cons (hc : p c = false) :
    dropTrailing p (a ++ c :: b) = a ++ c :: dropTrailing p b := by
  simp [dropTrailing, dropWhile_append_cons hc]

lemma dropTrailing_append (ha : a.getLast? = some c) (hc : p c = false) (hb : ∀ c ∈ b, p c = true) :
    dropTrailing p (a ++ b) = a := by
  obtain ⟨lead, rfl⟩ := List.getLast?_eq_some_iff.mp ha
  have hnil : dropTrailing p b = [] := by simpa [dropTrailing] using hb
  rw [List.append_assoc, List.singleton_append, dropTrailing_append_cons hc, hnil]

lemma dropTrailing_append_of_pos (hb : ∀ c ∈ b, p c = true) (a : List Char) :
    dropTrailing p (a ++ b) = dropTrailing p a := by
  rw [dropTrailing, List.reverse_append, List.dropWhile_append_of_pos (by simpa using hb), dropTrailing]

lemma exists_eq_append_dropWhile (p : Char → Bool) (cs : List Char) :
    ∃ lead, cs = lead ++ cs.dropWhile p ∧ ∀ c ∈ lead, p c = true :=
  ⟨cs.takeWhile p, List.takeWhile_append_dropWhile.symm, fun _ => List.mem_takeWhile_imp⟩

lemma exists_eq_dropTrailing_append (p : Char → Bool) (cs : List Char) :
    ∃ rest, cs = dropTrailing p cs ++ rest ∧ ∀ c ∈ rest, p c = true := by
  obtain ⟨lead, heq, hlead⟩ := exists_eq_append_dropWhile p cs.reverse
  refine ⟨lead.reverse, ?_, by simpa using hlead⟩
  rw [dropTrailing, ← List.reverse_append, ← heq, List.reverse_reverse]

lemma exists_eq_trim (cs : List Char) : ∃ lead trail, cs = lead ++ trim cs ++ trail ∧
    (∀ c ∈ lead, isBlank c = true) ∧ ∀ c ∈ trail, isBlank c = true := by
  obtain ⟨lead, hcs, hlead⟩ := exists_eq_append_dropWhile isBlank cs
  obtain ⟨trail, hrest, htrail⟩ := exists_eq_dropTrailing_append isBlank (trimLeft cs)
  refine ⟨lead, trail, ?_, hlead, htrail⟩
  rw [List.append_assoc]
  exact hcs.trans (congrArg (lead ++ ·) hrest)

lemma head?_dropWhile (h : (cs.dropWhile p).head? = some c) : p c = false := by
  simpa [h] using List.head?_dropWhile_not p cs

lemma getLast?_dropTrailing (h : (dropTrailing p cs).getLast? = some c) : p c = false := by
  rw [dropTrailing, List.getLast?_reverse] at h
  exact head?_dropWhile h

lemma isBlank_head?_of_trimmed (h : trim cs = cs) (hc : cs.head? = some c) : isBlank c = false := by
  rw [← h, ← trimLeft_trim] at hc
  exact head?_dropWhile hc

lemma isBlank_getLast?_of_trimmed (h : trim cs = cs) (hc : cs.getLast? = some c) : isBlank c = false := by
  rw [← h] at hc
  exact getLast?_dropTrailing hc

lemma ne_of_isBlank {d : Char} (hc : isBlank c = true) (hd : isBlank d = false) : c ≠ d := by
  rintro rfl
  simp [hc] at hd

lemma trimmed_of_ends (hhead : ∀ c ∈ cs.head?, isBlank c = false) (hlast : ∀ c ∈ cs.getLast?, isBlank c = false) :
    trim cs = cs := by
  have hleft : trimLeft cs = cs := by
    cases cs with
    | nil => rfl
    | cons c cs => exact List.dropWhile_cons_of_neg (by simp [hhead c rfl])
  rw [trim, hleft]
  rcases List.eq_nil_or_concat cs with rfl | ⟨lead, c, rfl⟩
  · rfl
  · rw [List.concat_eq_append]
    exact List.rdropWhile_concat_neg _ _ _ (by simp [hlast c (by simp)])

lemma trim_append (ha : ∀ c ∈ a, isBlank c = true) (hb : ∀ c ∈ b, isBlank c = true) (h : trim cs = cs) :
    trim (a ++ cs ++ b) = cs := by
  rw [trim, trimLeft, List.append_assoc, List.dropWhile_append_of_pos ha]
  cases cs with
  | nil =>
    rw [List.nil_append, List.dropWhile_eq_nil_iff.mpr hb]
    rfl
  | cons c cs =>
    have hc : isBlank c = false := isBlank_head?_of_trimmed h rfl
    rw [List.cons_append, List.dropWhile_cons_of_neg (by simp [hc]), ← List.cons_append, trimRight,
      dropTrailing_append_of_pos hb]
    exact trimRight_of_trimmed h

lemma all_dropWhile (h : ∀ c, p c = true → q c = true) (cs : List Char) :
    (cs.dropWhile p).all q = cs.all q := by
  obtain ⟨lead, heq, hlead⟩ := exists_eq_append_dropWhile p cs
  have hall : lead.all q = true := List.all_eq_true.mpr fun c hc => h c (hlead c hc)
  nth_rewrite 2 [heq]
  rw [List.all_append, hall, Bool.true_and]

lemma all_dropTrailing (h : ∀ c, p c = true → q c = true) (cs : List Char) :
    (dropTrailing p cs).all q = cs.all q := by
  rw [dropTrailing, List.all_reverse, all_dropWhile h, List.all_reverse]

end Ends

section Infix

lemma dropWhile_isInfix_dropWhile (h : a <:+: b) : a.dropWhile p <:+: b.dropWhile p := by
  obtain ⟨before, after, rfl⟩ := h
  have hafter : a.dropWhile p <+: (a ++ after).dropWhile p := by
    rw [List.dropWhile_append]
    split
    case isTrue hnil =>
      rw [List.isEmpty_iff.mp hnil]
      exact List.nil_prefix
    case isFalse => exact List.prefix_append _ _
  have hbefore (rest : List Char) : rest.dropWhile p <:+ (before ++ rest).dropWhile p := by
    rw [List.dropWhile_append]
    split
    case isTrue => exact List.suffix_rfl
    case isFalse => exact (List.dropWhile_suffix p).trans (List.suffix_append _ _)
  rw [List.append_assoc]
  exact hafter.isInfix.trans (hbefore (a ++ after)).isInfix

lemma dropTrailing_isInfix_dropTrailing (h : a <:+: b) : dropTrailing p a <:+: dropTrailing p b := by
  rw [dropTrailing, dropTrailing, List.reverse_infix]
  exact dropWhile_isInfix_dropWhile (List.reverse_infix.mpr h)

lemma trim_isInfix_trim (h : a <:+: b) : trim a <:+: trim b :=
  dropTrailing_isInfix_dropTrailing (dropWhile_isInfix_dropWhile h)

end Infix

end GenKill.Text
