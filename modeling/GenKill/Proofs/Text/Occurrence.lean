import GenKill.Proofs.Text.Trim
import GenKill.Proofs.Text.WholeWord
import Mathlib.Data.List.SplitBy

/-! Words where they stand in a text. The runs of a text are its words and the gaps between them, so what
is read off the runs is said here of the text itself: a name is read where it stands as a word, with no
dot before it and no bracket behind it, and the operands of an expression are words with the operator
alone between them. -/

namespace GenKill.Text

structure Occurs (text before w after : List Char) : Prop where
  eq : text = before ++ w ++ after
  word : WholeWord w
  left : ∀ c ∈ before.getLast?, isWord c = false
  right : ∀ c ∈ after.head?, isWord c = false

def ReadIn (text w : List Char) : Prop :=
  ∃ before after, Occurs text before w after ∧ before.getLast? ≠ some '.' ∧ opensCall after = false

lemma WholeWord.readIn {w : List Char} (h : WholeWord w) : ReadIn w w :=
  ⟨[], [], ⟨by simp, h, by simp, by simp⟩, by simp, rfl⟩

def ReadAt (text : List Char) (i : ℕ) (w : List Char) : Prop :=
  ∃ before after, Occurs text before w after ∧ before.length = i ∧ before.getLast? ≠ some '.' ∧
    ¬ ∃ blanks rest, after = blanks ++ '(' :: rest ∧ ∀ c ∈ blanks, isBlank c = true

section Runs

variable {text before w after : List Char} {pre post : List (List Char)}

lemma runs_eq_splitBy (text : List Char) : runs text = text.splitBy sameClass := by
  induction text with
  | nil => rfl
  | cons c rest ih =>
    obtain ⟨hflat, hne, hchain, hturn⟩ := List.splitBy_eq_iff.mp (Eq.refl (rest.splitBy sameClass))
    rw [runs, ih]
    symm
    cases hruns : rest.splitBy sameClass with
    | nil =>
      obtain rfl := List.splitBy_eq_nil.mp hruns
      rfl
    | cons run more =>
      rw [hruns] at hflat hne hchain hturn
      cases run with
      | nil => simp at hne
      | cons d run =>
        simp only
        split
        case isTrue hsame =>
          refine List.splitBy_eq_iff.mpr ⟨by simp [hflat], by simpa using hne, ?_, ?_⟩
          · rw [List.forall_mem_cons] at hchain ⊢
            exact ⟨List.isChain_cons_cons.mpr ⟨hsame, hchain.1⟩, hchain.2⟩
          · rw [List.isChain_cons] at hturn ⊢
            refine ⟨fun r hr => ?_, hturn.2⟩
            obtain ⟨hd, hr, hdiffer⟩ := hturn.1 r hr
            exact ⟨List.cons_ne_nil _ _, hr, by rwa [List.getLast_cons hd]⟩
        case isFalse hdiffer =>
          refine List.splitBy_eq_iff.mpr ⟨by simp [hflat], by simpa using hne, ?_, ?_⟩
          · rw [List.forall_mem_cons]
            exact ⟨List.isChain_singleton c, hchain⟩
          · exact List.isChain_cons_cons.mpr ⟨⟨List.cons_ne_nil _ _, List.cons_ne_nil _ _,
              by simpa using hdiffer⟩, hturn⟩

lemma Occurs.runs_eq (h : Occurs text before w after) : runs text = runs before ++ w :: runs after := by
  have hclass {c d : Char} (hc : isWord c = true) (hd : isWord d = false) :
      sameClass c d = false ∧ sameClass d c = false := by
    simp [sameClass, hc, hd]
  have hone : w.splitBy sameClass = [w] := by rw [← runs_eq_splitBy, h.word.runs_eq]
  rw [h.eq, runs_eq_splitBy, List.splitBy_append, List.splitBy_append, hone, runs_eq_splitBy,
    runs_eq_splitBy, List.append_assoc, List.singleton_append]
  · intro d hd c hc
    exact (hclass (h.word.2 c (List.mem_of_mem_head? hc)) (h.left d hd)).2
  · intro c hc d hd
    rw [List.getLast?_append_of_ne_nil _ h.word.1] at hc
    exact (hclass (h.word.2 c (List.mem_of_mem_getLast? hc)) (h.right d hd)).1

lemma isWord_eq_of_mem_run {c d : Char} (h : w.IsChain fun x y => sameClass x y = true) (hc : c ∈ w)
    (hd : d ∈ w) : isWord c = isWord d := by
  have hsame : (w.map isWord).IsChain (· = ·) :=
    (List.isChain_map isWord).mpr (h.imp fun x y hxy => by simpa [sameClass] using hxy)
  exact (List.isChain_iff_pairwise.mp hsame).forall_of_forall (fun _ _ => rfl)
    (List.mem_map_of_mem hc) (List.mem_map_of_mem hd)

lemma isWord_eq_of_mem_runs {c d : Char} (h : w ∈ runs text) (hc : c ∈ w) (hd : d ∈ w) :
    isWord c = isWord d := by
  rw [runs_eq_splitBy] at h
  exact isWord_eq_of_mem_run (List.isChain_of_mem_splitBy h) hc hd

lemma ne_nil_of_runs {l : List (List Char)} (h : runs text = l) (hw : w ∈ l) : w ≠ [] := by
  rw [← h, runs_eq_splitBy] at hw
  exact List.ne_nil_of_mem_splitBy hw

lemma isWord_of_runs {a b : List Char} {c d : Char} (h : runs text = pre ++ a :: b :: post) (hc : c ∈ a)
    (hd : d ∈ b) : isWord d = !isWord c := by
  rw [runs_eq_splitBy] at h
  obtain ⟨-, -, hchain, hturn⟩ := List.splitBy_eq_iff.mp h
  obtain ⟨-, hturn, -⟩ := List.isChain_append.mp hturn
  obtain ⟨ha, hb, hdiffer⟩ := (List.isChain_cons_cons.mp hturn).1
  rw [isWord_eq_of_mem_run (hchain a (by simp)) hc (List.getLast_mem ha),
    isWord_eq_of_mem_run (hchain b (by simp)) hd (List.head_mem hb)]
  rw [sameClass, beq_eq_false_iff_ne] at hdiffer
  exact Bool.eq_not.mpr hdiffer.symm

lemma occurs_of_runs {c : Char} (h : runs text = pre ++ w :: post) (hc : c ∈ w) (hword : isWord c = true) :
    Occurs text pre.flatten w post.flatten := by
  have hflat : text = (pre ++ w :: post).flatten := by rw [← h, flatten_runs]
  have hmem : w ∈ runs text := by simp [h]
  refine ⟨by simp [hflat], ⟨List.ne_nil_of_mem hc, fun d hd => ?_⟩, fun d hd => ?_, fun d hd => ?_⟩
  · rw [← hword, isWord_eq_of_mem_runs hmem hd hc]
  · rcases List.eq_nil_or_concat pre with rfl | ⟨pre, r, rfl⟩
    · simp at hd
    · have hr : r ≠ [] := ne_nil_of_runs h (by simp)
      rw [List.concat_eq_append, List.flatten_append, List.flatten_singleton,
        List.getLast?_append_of_ne_nil _ hr] at hd
      rw [List.concat_eq_append, List.append_assoc, List.singleton_append] at h
      simpa [hword] using isWord_of_runs h (List.mem_of_mem_getLast? hd) hc
  · cases post with
    | nil => simp at hd
    | cons r post =>
      have hr : r ≠ [] := ne_nil_of_runs h (by simp)
      rw [List.flatten_cons, List.head?_append_of_ne_nil _ hr] at hd
      simpa [hword] using isWord_of_runs h hc (List.mem_of_mem_head? hd)

lemma runs_flatten_of_append (h : runs text = pre ++ post) :
    runs pre.flatten = pre ∧ runs post.flatten = post := by
  rw [runs_eq_splitBy] at h
  obtain ⟨-, hne, hchain, hturn⟩ := List.splitBy_eq_iff.mp h
  rw [List.mem_append, not_or] at hne
  rw [List.forall_mem_append] at hchain
  obtain ⟨hpre, hpost, -⟩ := List.isChain_append.mp hturn
  rw [runs_eq_splitBy, runs_eq_splitBy]
  exact ⟨List.splitBy_flatten hne.1 hchain.1 hpre, List.splitBy_flatten hne.2 hchain.2 hpost⟩

end Runs

section Names

variable {text w : List Char}

lemma letters_apart_blanks : (Word.letters.all fun r => blankRanges.all fun s =>
    Nat.blt r.2 s.1 || Nat.blt s.2 r.1) = true := by
  decide +kernel

lemma isBlank_of_isWord {c : Char} (hc : isWord c = true) : isBlank c = false := by
  have hbasic : ∀ n < 128, (isBlank (Char.ofNat n) && isWord (Char.ofNat n)) = false := by
    decide
  by_contra hblank
  rw [Bool.not_eq_false] at hblank
  by_cases hsmall : c.toNat < 128
  · have h := hbasic c.toNat hsmall
    simp [Char.ofNat_toNat, hc, hblank] at h
  · rw [isWord, if_neg hsmall, inRanges_iff] at hc
    rw [isBlank, inRanges_iff] at hblank
    obtain ⟨r, hr, hrc⟩ := hc
    obtain ⟨s, hs, hsc⟩ := hblank
    have hapart := List.all_eq_true.mp (List.all_eq_true.mp letters_apart_blanks r hr) s hs
    simp only [Bool.or_eq_true, Nat.blt_eq] at hapart
    omega

lemma isWord_of_isName (h : isName w = true) : ∃ c ∈ w, isWord c = true := by
  cases w with
  | nil => simp [isName] at h
  | cons c w =>
    refine ⟨c, List.mem_cons_self, ?_⟩
    simp only [isName, List.head?_cons, Option.any_some, isNameStart, Bool.or_eq_true, beq_iff_eq] at h
    have hsmall : c.toNat < 128 := by
      rcases h with h | rfl
      · change (decide ('A'.val ≤ c.val ∧ c.val ≤ 'Z'.val) || ('a'.val ≤ c.val && c.val ≤ 'z'.val)) = true at h
        have hrange : 65 ≤ c.toNat ∧ c.toNat ≤ 90 ∨ 97 ≤ c.toNat ∧ c.toNat ≤ 122 := by
          simpa [UInt32.le_iff_toNat_le] using h
        omega
      · decide
    rw [isWord, if_pos hsmall, Char.isAlphanum]
    rcases h with h | h <;> simp [h]

lemma opensCall_of_isWord {rest : List Char} (h : ∀ c ∈ rest.head?, isWord c = true) :
    opensCall rest = false := by
  cases rest with
  | nil => rfl
  | cons c rest =>
    have hc : isWord c = true := h c (by simp)
    have hne : c ≠ '(' := by
      rintro rfl
      exact absurd hc (by decide)
    rw [opensCall, trimLeft, List.dropWhile_cons_of_neg (by simp [isBlank_of_isWord hc])]
    simp [hne]

lemma opensCall_append {rest : List Char} (gap : List Char) (h : opensCall rest = false) :
    opensCall (gap ++ rest) = opensCall gap := by
  unfold opensCall trimLeft at *
  rw [List.dropWhile_append]
  split
  case isTrue hnil =>
    rw [h, List.isEmpty_iff.mp hnil]
    rfl
  case isFalse hne => rw [List.head?_append_of_ne_nil _ (by simpa using hne)]

lemma opensCall_iff {rest : List Char} : opensCall rest = true ↔
    ∃ blanks more, rest = blanks ++ '(' :: more ∧ ∀ c ∈ blanks, isBlank c = true := by
  rw [opensCall, trimLeft, beq_iff_eq]
  constructor
  · intro h
    obtain ⟨blanks, heq, hblanks⟩ := exists_eq_append_dropWhile isBlank rest
    obtain ⟨more, hmore⟩ := List.head?_eq_some_iff.mp h
    rw [hmore] at heq
    exact ⟨blanks, more, heq, hblanks⟩
  · rintro ⟨blanks, more, rfl, hblanks⟩
    rw [List.dropWhile_append_of_pos hblanks, List.dropWhile_cons_of_neg (by decide), List.head?_cons]

lemma readIn_iff_readAt : ReadIn text w ↔ ∃ i, ReadAt text i w := by
  simp only [ReadIn, ReadAt, ← opensCall_iff, Bool.not_eq_true]
  constructor
  · rintro ⟨before, after, hoccurs, hdot, hcall⟩
    exact ⟨_, before, after, hoccurs, rfl, hdot, hcall⟩
  · rintro ⟨i, before, after, hoccurs, -, hdot, hcall⟩
    exact ⟨before, after, hoccurs, hdot, hcall⟩

def namesFrom (k : ℕ) (afterDot : Bool) : List (List Char) → List (ℕ × List Char)
  | [] => []
  | run :: rest =>
    let more := namesFrom (k + run.length) (run.getLast? == some '.') rest
    if isName run && !afterDot && !(rest.head?.any opensCall) then (k, run) :: more else more

lemma map_snd_namesFrom (k : ℕ) (afterDot : Bool) (l : List (List Char)) :
    (namesFrom k afterDot l).map (·.2) = namesIn afterDot l := by
  induction l generalizing k afterDot with
  | nil => rfl
  | cons run rest ih =>
    simp only [namesFrom, namesIn]
    split <;> simp [ih]

lemma mem_namesFrom_iff {i k : ℕ} {afterDot : Bool} {l : List (List Char)} :
    (i, w) ∈ namesFrom k afterDot l ↔ ∃ pre post, l = pre ++ w :: post ∧ i = k + pre.flatten.length ∧
      isName w = true ∧ (pre.getLast?.map (·.getLast? == some '.')).getD afterDot = false ∧
      post.head?.any opensCall = false := by
  induction l generalizing k afterDot with
  | nil => simp [namesFrom]
  | cons run rest ih =>
    have hcons : (i, w) ∈ namesFrom k afterDot (run :: rest) ↔
        (i = k ∧ w = run ∧ isName run = true ∧ afterDot = false ∧ rest.head?.any opensCall = false) ∨
          (i, w) ∈ namesFrom (k + run.length) (run.getLast? == some '.') rest := by
      simp only [namesFrom]
      split <;> simp_all
    rw [hcons, ih]
    constructor
    · rintro (⟨rfl, rfl, hname, hdot, hcall⟩ | ⟨pre, post, rfl, rfl, hname, hdot, hcall⟩)
      · exact ⟨[], rest, rfl, rfl, hname, hdot, hcall⟩
      · refine ⟨run :: pre, post, rfl, by simp [Nat.add_assoc], hname, ?_, hcall⟩
        cases pre <;> simpa [List.getLast?_cons] using hdot
    · rintro ⟨pre, post, heq, rfl, hname, hdot, hcall⟩
      cases pre with
      | nil =>
        obtain ⟨rfl, rfl⟩ := List.cons.inj heq
        exact Or.inl ⟨rfl, rfl, hname, hdot, hcall⟩
      | cons r pre =>
        obtain ⟨rfl, rfl⟩ := List.cons.inj heq
        refine Or.inr ⟨pre, post, rfl, by simp [Nat.add_assoc], hname, ?_, hcall⟩
        cases pre <;> simpa [List.getLast?_cons] using hdot

lemma getLast?_runs (text : List Char) :
    ((runs text).getLast?.map (·.getLast? == some '.')).getD false = (text.getLast? == some '.') := by
  by_cases hnil : text = []
  · simp [hnil, runs]
  · have hruns : text.splitBy sameClass ≠ [] := List.splitBy_ne_nil.mpr hnil
    have hlast : (text.splitBy sameClass).getLast hruns ≠ [] :=
      List.ne_nil_of_mem_splitBy (List.getLast_mem hruns)
    rw [runs_eq_splitBy, List.getLast?_eq_some_getLast hruns, Option.map_some, Option.getD_some,
      List.getLast?_eq_some_getLast hlast, List.getLast_getLast_splitBy sameClass hnil,
      List.getLast?_eq_some_getLast hnil]

lemma head?_runs (h : ∀ c ∈ text.head?, isWord c = false) :
    (runs text).head?.any opensCall = opensCall text := by
  have hflat : text = (runs text).flatten := (flatten_runs text).symm
  cases hruns : runs text with
  | nil =>
    rw [hflat, hruns]
    rfl
  | cons gap more =>
    have hgap : gap ≠ [] := ne_nil_of_runs hruns (by simp)
    rw [hruns, List.flatten_cons] at hflat
    rw [List.head?_cons, Option.any_some, hflat, opensCall_append gap (opensCall_of_isWord _)]
    intro d hd
    cases more with
    | nil => simp at hd
    | cons r more =>
      have hr : r ≠ [] := ne_nil_of_runs hruns (by simp)
      rw [List.flatten_cons, List.head?_append_of_ne_nil _ hr] at hd
      have hturn : runs text = [] ++ gap :: r :: more := hruns
      rw [isWord_of_runs hturn (List.head_mem hgap) (List.mem_of_mem_head? hd), h]
      · rfl
      · rw [hflat, List.head?_append_of_ne_nil _ hgap, List.head?_eq_some_head hgap]
        rfl

lemma mem_namesFrom_runs_iff {i : ℕ} :
    (i, w) ∈ namesFrom 0 false (runs text) ↔ isName w = true ∧ ReadAt text i w := by
  simp only [mem_namesFrom_iff, ReadAt, ← opensCall_iff, Bool.not_eq_true]
  constructor
  · rintro ⟨pre, post, hruns, rfl, hname, hdot, hcall⟩
    obtain ⟨c, hc, hword⟩ := isWord_of_isName hname
    have hoccurs := occurs_of_runs hruns hc hword
    obtain ⟨hpre, -⟩ := runs_flatten_of_append hruns
    rw [List.append_cons] at hruns
    obtain ⟨-, hpost⟩ := runs_flatten_of_append hruns
    refine ⟨hname, _, _, hoccurs, (Nat.zero_add _).symm, ?_, ?_⟩
    · rw [← hpre, getLast?_runs] at hdot
      simpa using hdot
    · rwa [← hpost, head?_runs hoccurs.right] at hcall
  · rintro ⟨hname, before, after, hoccurs, rfl, hdot, hcall⟩
    refine ⟨runs before, runs after, hoccurs.runs_eq, ?_, hname, ?_, ?_⟩
    · rw [flatten_runs, Nat.zero_add]
    · rw [getLast?_runs]
      simpa using hdot
    · rwa [head?_runs hoccurs.right]

lemma mem_names_iff : w ∈ names text ↔ isName w = true ∧ ReadIn text w := by
  rw [names, ← map_snd_namesFrom 0, readIn_iff_readAt, ← exists_and_left]
  simp only [List.mem_map, Prod.exists, exists_eq_right, mem_namesFrom_runs_iff]

lemma isWord_of_isBlank {c : Char} (hc : isBlank c = true) : isWord c = false := by
  by_contra h
  simp [isBlank_of_isWord (by simpa using h)] at hc

lemma readIn_cons {c : Char} (hc : isBlank c = true) : ReadIn (c :: text) w ↔ ReadIn text w := by
  constructor
  · rintro ⟨before, after, ⟨heq, hw, hleft, hright⟩, hbefore, hafter⟩
    cases before with
    | nil =>
      obtain ⟨d, w, rfl⟩ := List.exists_cons_of_ne_nil hw.1
      obtain ⟨rfl, -⟩ := List.cons.inj heq
      simp [isWord_of_isBlank hc, WholeWord] at hw
    | cons d before =>
      obtain ⟨rfl, rfl⟩ := List.cons.inj heq
      refine ⟨before, after, ⟨rfl, hw, fun d hd => hleft d ?_, hright⟩, fun h => hbefore ?_, hafter⟩
      · simp [List.getLast?_cons, Option.mem_def.mp hd]
      · simp [List.getLast?_cons, h]
  · rintro ⟨before, after, ⟨rfl, hw, hleft, hright⟩, hbefore, hafter⟩
    refine ⟨c :: before, after, ⟨by simp, hw, ?_, hright⟩, ?_, hafter⟩
    · cases hlast : before.getLast? <;> simp_all [List.getLast?_cons, isWord_of_isBlank]
    · have hdot : c ≠ '.' := ne_of_isBlank hc (by decide)
      cases hlast : before.getLast? <;> simp_all [List.getLast?_cons]

lemma readIn_concat {c : Char} (hc : isBlank c = true) : ReadIn (text ++ [c]) w ↔ ReadIn text w := by
  have hcall (gap : List Char) : opensCall (gap ++ [c]) = opensCall gap :=
    opensCall_append gap (by simp [opensCall, trimLeft, hc])
  constructor
  · rintro ⟨before, after, ⟨heq, hw, hleft, hright⟩, hbefore, hafter⟩
    rcases List.eq_nil_or_concat after with rfl | ⟨after, d, rfl⟩
    · have hlast : (text ++ [c]).getLast? = w.getLast? := by
        rw [heq, List.append_nil, List.getLast?_append_of_ne_nil _ hw.1]
      rw [List.getLast?_concat] at hlast
      have hword := hw.2 c (List.mem_of_getLast? hlast.symm)
      simp [isWord_of_isBlank hc] at hword
    · rw [List.concat_eq_append, ← List.append_assoc] at heq
      obtain ⟨rfl, hcd⟩ := List.append_inj' heq rfl
      obtain rfl := List.singleton_inj.mp hcd
      rw [List.concat_eq_append, hcall] at hafter
      refine ⟨before, after, ⟨rfl, hw, hleft, fun d hd => hright d ?_⟩, hbefore, hafter⟩
      cases after <;> simp_all
  · rintro ⟨before, after, ⟨rfl, hw, hleft, hright⟩, hbefore, hafter⟩
    refine ⟨before, after ++ [c], ⟨by simp, hw, hleft, ?_⟩, hbefore, by rwa [hcall]⟩
    cases after <;> simp_all [isWord_of_isBlank]

end Names

section Binaries

variable {text : List Char} {e : Binary}

lemma mem_binariesIn {l : List (List Char)} (h : e ∈ binariesIn l) :
    ∃ pre gap post, l = pre ++ e.left :: gap :: e.right :: post ∧ operator? gap = some e.operator := by
  fun_induction binariesIn l with
  | case1 a gap b rest op hop ih =>
    rcases List.mem_cons.mp h with rfl | h
    · exact ⟨[], gap, rest, rfl, hop⟩
    · obtain ⟨pre, gap', post, rfl, hop'⟩ := ih h
      exact ⟨a :: gap :: b :: pre, gap', post, rfl, hop'⟩
  | case2 a gap b rest hop ih =>
    obtain ⟨pre, gap', post, heq, hop'⟩ := ih h
    exact ⟨a :: pre, gap', post, by rw [heq]; rfl, hop'⟩
  | case3 => simp at h

lemma of_isOperator {P : Char → Prop} {c : Char} (hc : isOperator c = true)
    (h : P '+' ∧ P '-' ∧ P '*' ∧ P '/' ∧ P '%') : P c := by
  obtain ⟨hplus, hminus, htimes, hslash, hpercent⟩ := h
  simp only [isOperator, Bool.or_eq_true, beq_iff_eq] at hc
  rcases hc with (((rfl | rfl) | rfl) | rfl) | rfl <;> assumption

lemma isWord_of_isOperator {c : Char} (hc : isOperator c = true) : isWord c = false :=
  of_isOperator (P := fun c => isWord c = false) hc (by decide)

lemma operator?_eq_some {gap : List Char} {op : Char} (h : operator? gap = some op) :
    op ∈ gap ∧ isOperator op = true := by
  unfold operator? at h
  split at h
  case h_1 c hgap =>
    split at h
    case isTrue hc =>
      obtain rfl := Option.some.inj h
      have hmem : c ∈ trim gap := by simp [hgap]
      exact ⟨trim_isInfix.subset hmem, hc⟩
    case isFalse => cases h
  case h_2 => cases h

lemma occurs_of_mem_binaries (h : e ∈ binaries text) :
    ∃ before gap after, operator? gap = some e.operator ∧
      Occurs text before e.left (gap ++ e.right ++ after) ∧
      Occurs text (before ++ e.left ++ gap) e.right after := by
  obtain ⟨pre, gap, post, hruns, hop⟩ := mem_binariesIn h
  obtain ⟨hmem, hoperator⟩ := operator?_eq_some hop
  have hgap : isWord e.operator = false := isWord_of_isOperator hoperator
  obtain ⟨c, hc⟩ := List.exists_mem_of_ne_nil e.left (ne_nil_of_runs hruns (by simp))
  obtain ⟨d, hd⟩ := List.exists_mem_of_ne_nil e.right (ne_nil_of_runs hruns (by simp))
  have hleft : isWord c = true := by simpa [hgap] using isWord_of_runs hruns hc hmem
  refine ⟨pre.flatten, gap, post.flatten, hop, ?_, ?_⟩
  · simpa using occurs_of_runs hruns hc hleft
  · rw [List.append_cons] at hruns
    have hright : isWord d = true := by simpa [hgap] using isWord_of_runs hruns hmem hd
    rw [List.append_cons] at hruns
    simpa using occurs_of_runs hruns hd hright

end Binaries

end GenKill.Text
