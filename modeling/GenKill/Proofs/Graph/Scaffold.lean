import GenKill.Profile.Basic
import GenKill.Proofs.Graph.SourceLine
import GenKill.Proofs.Text.Literal
import Mathlib.Data.List.Sublists

/-! Scaffolding in the packaged languages: braces, semicolons and blanks. A statement loses the braces at
either end of its line only up to the first blank, so some remain where braces stand apart, and a line of
nothing but scaffolding is a statement if what remains of it is neither semicolons nor one of the
structural lines. -/

namespace GenKill

open Text

namespace Source

def code (raw : List Char) : List Char := (cutComment (trim raw) (mask (trim raw))).1

def isScaffold (c : Char) : Bool := c == '\x7b' || c == '\x7d' || c == ';' || isBlank c

structure Proper (text : List Char) : Prop where
  visible : text.all isScaffold = false
  head : text.head? ≠ some '\x7d'
  last : text.getLast? ≠ some '\x7b'

lemma proper_iff {text : List Char} : Proper text ↔
    text.all isScaffold = false ∧ text.head? ≠ some '\x7d' ∧ text.getLast? ≠ some '\x7b' :=
  ⟨fun h => ⟨h.visible, h.head, h.last⟩, fun ⟨visible, head, last⟩ => ⟨visible, head, last⟩⟩

instance (text : List Char) : Decidable (Proper text) := decidable_of_iff' _ proper_iff

/-- Closing braces at the beginning of the line, blanks, and one more closing brace. -/
def OpensApart (line : List Char) : Prop :=
  ∃ braces blanks rest, line = braces ++ blanks ++ '\x7d' :: rest ∧ braces ≠ [] ∧ blanks ≠ [] ∧
    (∀ c ∈ braces, c = '\x7d') ∧ ∀ c ∈ blanks, isBlank c = true

/-- An opening brace, blanks, and more opening braces at the end of the line. -/
def ClosesApart (line : List Char) : Prop :=
  ∃ rest blanks braces, line = rest ++ '\x7b' :: (blanks ++ braces) ∧ braces ≠ [] ∧ blanks ≠ [] ∧
    (∀ c ∈ braces, c = '\x7b') ∧ ∀ c ∈ blanks, isBlank c = true

def isBare (text : List Char) : Bool :=
  text.all (· == ';') || text == ['\x7b'] || text == ['\x7d'] || text == ['\x7d', ';']

def Hollow (line : List Char) : Prop :=
  ∃ closing core opening, line = closing ++ core ++ opening ∧ isBare (trim core) = true ∧
    (∀ c ∈ closing, c = '\x7d') ∧ ∀ c ∈ opening, c = '\x7b'

section Line

variable {line : List Char}

lemma all_isScaffold_unbraced (line : List Char) : (unbraced line).all isScaffold = line.all isScaffold := by
  have hblank (c : Char) (hc : isBlank c = true) : isScaffold c = true := by simp [isScaffold, hc]
  have hopen (c : Char) (hc : (c == '\x7b') = true) : isScaffold c = true := by
    rw [isScaffold, hc]
    rfl
  have hclose (c : Char) (hc : (c == '\x7d') = true) : isScaffold c = true := by
    rw [isScaffold, hc, Bool.or_true]
    rfl
  rw [unbraced, trim, trimRight, all_dropTrailing hblank, trimLeft, all_dropWhile hblank,
    all_dropTrailing hopen, all_dropWhile hclose]

lemma exists_eq_braces (line : List Char) : ∃ closing core opening,
    line = closing ++ core ++ opening ∧ unbraced line = trim core ∧
    (∀ c ∈ closing, c = '\x7d') ∧ (∀ c ∈ opening, c = '\x7b') ∧
    (core ++ opening).head? ≠ some '\x7d' ∧ core.getLast? ≠ some '\x7b' := by
  obtain ⟨closing, hline, hclosing⟩ := exists_eq_append_dropWhile (· == '\x7d') line
  obtain ⟨opening, hrest, hopening⟩ :=
    exists_eq_dropTrailing_append (· == '\x7b') (line.dropWhile (· == '\x7d'))
  refine ⟨closing, _, opening, ?_, rfl, by simpa using hclosing, by simpa using hopening, ?_, ?_⟩
  · rw [List.append_assoc, ← hrest, ← hline]
  · rw [← hrest]
    intro h
    simpa using head?_dropWhile h
  · intro h
    simpa using getLast?_dropTrailing h

lemma exists_eq_unbraced (line : List Char) : ∃ closing lead trail opening,
    line = closing ++ (lead ++ unbraced line ++ trail) ++ opening ∧
    (∀ c ∈ closing, c = '\x7d') ∧ (∀ c ∈ lead, isBlank c = true) ∧ (∀ c ∈ trail, isBlank c = true) ∧
    (∀ c ∈ opening, c = '\x7b') ∧ (lead ++ unbraced line ++ trail ++ opening).head? ≠ some '\x7d' ∧
    (lead ++ unbraced line ++ trail).getLast? ≠ some '\x7b' := by
  obtain ⟨closing, core, opening, hline, htrim, hclosing, hopening, hhead, hlast⟩ := exists_eq_braces line
  obtain ⟨lead, trail, hcore, hlead, htrail⟩ := exists_eq_trim core
  rw [htrim]
  rw [hcore] at hline hhead hlast
  exact ⟨closing, lead, trail, opening, hline, hclosing, hlead, htrail, hopening, hhead, hlast⟩

lemma head?_unbraced (h : trim line = line) :
    (unbraced line).head? = some '\x7d' ↔ OpensApart line := by
  constructor
  · intro hhead
    obtain ⟨closing, lead, trail, opening, heq, hclosing, hlead, -, -, hfirst, -⟩ := exists_eq_unbraced line
    obtain ⟨text, htext⟩ := List.head?_eq_some_iff.mp hhead
    rw [htext] at heq hfirst
    have hleadNe : lead ≠ [] := by
      rintro rfl
      simp at hfirst
    refine ⟨closing, lead, text ++ trail ++ opening, by simpa using heq, ?_, hleadNe, hclosing, hlead⟩
    rintro rfl
    obtain ⟨c, lead, rfl⟩ := List.exists_cons_of_ne_nil hleadNe
    have hblank := isBlank_head?_of_trimmed (c := c) h (by rw [heq]; rfl)
    simp [hlead c (by simp)] at hblank
  · rintro ⟨braces, blanks, rest, rfl, -, hblanks, hbrace, hblank⟩
    obtain ⟨c, blanks, rfl⟩ := List.exists_cons_of_ne_nil hblanks
    have hc : c ≠ '\x7d' := ne_of_isBlank (hblank c (by simp)) (by decide)
    rw [unbraced, List.append_assoc, List.dropWhile_append_of_pos (by simpa using hbrace),
      List.cons_append, List.dropWhile_cons_of_neg (by simpa using hc), ← List.cons_append,
      dropTrailing_append_cons (by decide), trim, trimLeft, List.dropWhile_append_of_pos hblank,
      List.dropWhile_cons_of_neg (by decide), trimRight, ← List.nil_append (_ :: _),
      dropTrailing_append_cons (by decide)]
    rfl

lemma getLast?_unbraced (h : trim line = line) :
    (unbraced line).getLast? = some '\x7b' ↔ ClosesApart line := by
  constructor
  · intro hlast
    obtain ⟨closing, lead, trail, opening, heq, -, -, htrail, hopening, -, hend⟩ := exists_eq_unbraced line
    obtain ⟨text, htext⟩ := List.getLast?_eq_some_iff.mp hlast
    rw [htext] at heq hend
    have htrailNe : trail ≠ [] := by
      rintro rfl
      simp at hend
    refine ⟨closing ++ lead ++ text, trail, opening, by simpa using heq, ?_, htrailNe, hopening, htrail⟩
    rintro rfl
    obtain ⟨c, hc⟩ := List.getLast?_isSome.mpr htrailNe |> Option.isSome_iff_exists.mp
    have hline : line.getLast? = some c := by
      rw [heq, List.append_nil, ← List.append_assoc, List.getLast?_append_of_ne_nil _ htrailNe, hc]
    have hblank := isBlank_getLast?_of_trimmed h hline
    simp [htrail c (List.mem_of_getLast? hc)] at hblank
  · rintro ⟨rest, blanks, braces, rfl, -, hblanks, hbrace, hblank⟩
    obtain ⟨c, hc⟩ := List.getLast?_isSome.mpr hblanks |> Option.isSome_iff_exists.mp
    have hne : c ≠ '\x7b' := ne_of_isBlank (hblank c (List.mem_of_getLast? hc)) (by decide)
    have hlast (lead : List Char) : (lead ++ '\x7b' :: blanks).getLast? = some c := by
      rw [List.append_cons, List.getLast?_append_of_ne_nil _ hblanks, hc]
    rw [unbraced, dropWhile_append_cons (by decide), ← List.cons_append, ← List.append_assoc,
      dropTrailing_append (hlast _) (by simpa using hne) (by simpa using hbrace), trim, trimLeft,
      dropWhile_append_cons (by decide), trimRight, List.append_cons,
      dropTrailing_append (List.getLast?_concat ..) (by decide) hblank, List.getLast?_concat]

lemma isBare_of_isInfix {a b : List Char} (h : a <:+: b) (hb : isBare b = true) : isBare a = true := by
  have hpart {l : List Char} (hl : l.sublists'.all isBare = true) (ha : a <:+: l) : isBare a = true :=
    List.all_eq_true.mp hl a (List.mem_sublists'.mpr ha.sublist)
  simp only [isBare, Bool.or_eq_true, beq_iff_eq] at hb
  rcases hb with ((hsemi | rfl) | rfl) | rfl
  · have ha : a.all (· == ';') = true :=
      List.all_eq_true.mpr fun c hc => List.all_eq_true.mp hsemi c (h.subset hc)
    rw [isBare, ha]
    rfl
  · exact hpart (by decide) h
  · exact hpart (by decide) h
  · exact hpart (by decide) h

lemma unbraced_append {closing core opening : List Char} (hclosing : ∀ c ∈ closing, c = '\x7d')
    (hopening : ∀ c ∈ opening, c = '\x7b') : unbraced (closing ++ core ++ opening) = unbraced core := by
  have hdrop (a : List Char) :
      dropTrailing (· == '\x7b') (a ++ opening) = dropTrailing (· == '\x7b') a :=
    dropTrailing_append_of_pos (by simpa using hopening) a
  have hkeep : opening.dropWhile (· == '\x7d') = opening := by
    cases opening with
    | nil => rfl
    | cons c opening =>
      rw [hopening c (by simp)]
      rfl
  rw [unbraced, List.append_assoc, List.dropWhile_append_of_pos (by simpa using hclosing),
    List.dropWhile_append]
  split
  case isTrue hnil =>
    rw [hkeep, ← List.nil_append opening, hdrop, unbraced, List.isEmpty_iff.mp hnil]
  case isFalse => rw [hdrop, unbraced]

lemma hollow_iff : Hollow line ↔ isBare (unbraced line) = true := by
  constructor
  · rintro ⟨closing, core, opening, rfl, hbare, hclosing, hopening⟩
    rw [unbraced_append hclosing hopening]
    exact isBare_of_isInfix (trim_isInfix_trim (dropTrailing_isPrefix.isInfix.trans
      (List.dropWhile_suffix _).isInfix)) hbare
  · intro h
    obtain ⟨closing, core, opening, hline, htrim, hclosing, hopening, -, -⟩ := exists_eq_braces line
    exact ⟨closing, core, opening, hline, htrim ▸ h, hclosing, hopening⟩

lemma trim_code (raw : List Char) : trim (code raw) = code raw := by
  unfold code cutComment
  split
  case h_1 i hi =>
    have hleft : trimLeft (trimRight ((trim raw).take i)) = trimRight ((trim raw).take i) :=
      dropWhile_eq_self_of_isPrefix (trimRight_isPrefix.trans (List.take_prefix i (trim raw)))
        (trimLeft_trim raw)
    rw [trim, hleft]
    exact List.rdropWhile_idempotent isBlank _
  case h_2 => exact trim_trim raw

lemma isQuote_of_scaffold {a : List Char} (ha : a.all isScaffold = true) : ∀ c ∈ a, isQuote c = false := by
  intro c hc
  have hscaffold := List.all_eq_true.mp ha c hc
  rw [← Bool.not_eq_true, isQuote_iff]
  rintro (rfl | rfl) <;> exact absurd hscaffold (by decide)

lemma take_mask {i : ℕ} (h : ∀ c ∈ line.take i, isQuote c = false) :
    (mask line).take i = line.take i := by
  induction line generalizing i with
  | nil => rw [List.eq_nil_of_length_eq_zero (length_mask [])]
  | cons c line ih =>
    cases i with
    | zero => rfl
    | succ i =>
      rw [List.take_succ_cons] at h ⊢
      obtain ⟨hc, hline⟩ := List.forall_mem_cons.mp h
      rw [mask_single hc, List.take_succ_cons, ih hline]

lemma cutComment_of_scaffold (h : (cutComment line (mask line)).1.all isScaffold = true) :
    (cutComment line (mask line)).2 = (cutComment line (mask line)).1 := by
  unfold cutComment at h ⊢
  cases hi : firstIndex? lineComment (mask line) with
  | some i =>
    simp only [hi] at h ⊢
    rw [trimRight, all_dropTrailing fun c hc => by simp [isScaffold, hc]] at h
    rw [take_mask (isQuote_of_scaffold h)]
  | none =>
    simp only [hi] at h ⊢
    rw [← List.take_length (l := line)] at h
    have hmask := take_mask (isQuote_of_scaffold h)
    rwa [List.take_length, ← length_mask, List.take_length] at hmask

end Line

section Packaged

variable {p : Profile} {line text : List Char}

lemma packaged_lines_markers : ∀ entry ∈ Profile.packaged,
    entry.2.structuralLines = ["\x7b", "\x7d", "\x7d;"] ∧
    entry.2.markers.all (fun m => !m.toList.all isScaffold) = true := by
  decide

lemma isStructural_of_scaffold (hp : p ∈ Profile.packaged.map Prod.snd) (h : text.all isScaffold = true) :
    p.isStructural text = true ↔ text = ['\x7b'] ∨ text = ['\x7d'] ∨ text = ['\x7d', ';'] := by
  obtain ⟨entry, hentry, rfl⟩ := List.mem_map.mp hp
  obtain ⟨hlines, hmarkers⟩ := packaged_lines_markers entry hentry
  have hmarker : entry.2.markers.any (fun m => isInfix m.toList text) = false := by
    rw [List.any_eq_false]
    intro m hm hinfix
    have hvisible := List.all_eq_true.mp hmarkers m hm
    have hscaffold : m.toList.all isScaffold = true :=
      List.all_eq_true.mpr fun c hc => List.all_eq_true.mp h c ((isInfix_iff.mp hinfix).subset hc)
    simp [hscaffold] at hvisible
  simp [Profile.isStructural, hlines, hmarker, eq_comm (a := text)]

lemma isBare_of_scaffold (hp : p ∈ Profile.packaged.map Prod.snd) (h : text.all isScaffold = true) :
    isBare text = (text.all (· == ';') || p.isStructural text) := by
  rw [Bool.eq_iff_iff, Bool.or_eq_true, isStructural_of_scaffold hp h]
  simp [isBare, or_assoc]

lemma isCommentLine_of_scaffold {c : Char} (hc : line.head? = some c) (hscaffold : isScaffold c = true) :
    isCommentLine line = false := by
  have hslash : c ≠ '/' := by
    rintro rfl
    exact absurd hscaffold (by decide)
  have hstar : c ≠ '*' := by
    rintro rfl
    exact absurd hscaffold (by decide)
  obtain ⟨rest, rfl⟩ := List.head?_eq_some_iff.mp hc
  simp [isCommentLine, lineComment, commentStart, List.isPrefixOf_cons_cons,
    beq_false_of_ne hslash.symm, hstar]

lemma statementText?_of_scaffold (hp : p ∈ Profile.packaged.map Prod.snd)
    (h : (cutComment line (mask line)).1.all isScaffold = true) :
    statementText? p line = if isBare (unbraced (cutComment line (mask line)).1) then none
      else some (unbraced (cutComment line (mask line)).1) := by
  have hunbraced := h
  rw [← all_isScaffold_unbraced] at hunbraced
  simp only [statementText?, cutComment_of_scaffold h, ← isBare_of_scaffold hp hunbraced]
  split
  case isTrue hcomment =>
    cases hcode : (cutComment line (mask line)).1 with
    | nil => rfl
    | cons c rest =>
      rw [hcode, List.all_cons, Bool.and_eq_true] at h
      obtain ⟨more, heq⟩ := hcode ▸ cutComment_isPrefix line (mask line)
      have hhead : line.head? = some c := by rw [← heq]; rfl
      rw [isCommentLine_of_scaffold hhead h.1] at hcomment
      cases hcomment
  case isFalse =>
    split
    case isTrue hstructural =>
      rcases (isStructural_of_scaffold hp h).mp hstructural with heq | heq | heq <;> rw [heq] <;> rfl
    case isFalse => rfl

lemma proper_unbraced_code (raw : List Char) :
    Proper (unbraced (code raw)) ↔
      (code raw).all isScaffold = false ∧ ¬ OpensApart (code raw) ∧ ¬ ClosesApart (code raw) := by
  rw [proper_iff, all_isScaffold_unbraced, Ne, head?_unbraced (trim_code raw), Ne,
    getLast?_unbraced (trim_code raw)]

lemma exists_holds_of_scaffold (hp : p ∈ Profile.packaged.map Prod.snd) {ls : List (List Char)} {i : ℕ}
    (h : (code (ls.getD i [])).all isScaffold = true) :
    (∃ text, Holds p ls i text) ↔ ¬ InComment ls i ∧ ¬ Hollow (code (ls.getD i [])) := by
  have hstatement : statementText? p (trim (ls.getD i [])) =
      if isBare (unbraced (code (ls.getD i []))) then none else some (unbraced (code (ls.getD i []))) :=
    statementText?_of_scaffold hp h
  rw [hollow_iff]
  constructor
  · rintro ⟨text, hholds⟩
    refine ⟨hholds.outside, fun hbare => ?_⟩
    rw [hholds.statement, if_pos hbare] at hstatement
    cases hstatement
  · rintro ⟨houtside, hbare⟩
    rw [if_neg hbare] at hstatement
    refine ⟨_, houtside, fun hnil => hbare ?_, hstatement⟩
    rw [code, hnil, List.prefix_nil.mp (cutComment_isPrefix [] _)]
    rfl

end Packaged

end Source

namespace Graph

open Source

/-- A statement of a packaged language is its line without a comment and the braces at either end. It is
proper unless the line is all scaffolding or its outer braces stand apart; and a line that is all
scaffolding gives a statement unless it is hollow. -/
theorem ofSource_scaffold {p : Profile} (hp : p ∈ Profile.packaged.map Prod.snd) (source : String) :
    let g := ofSource p source
    let ls := lines source.toList
    (∀ s ∈ g.statements, ∃ i < ls.length, ¬ InComment ls i ∧
      s = ⟨String.ofList (unbraced (code (ls.getD i []))), Int.ofNat (i + 1)⟩ ∧
      (Proper s.text.toList ↔ (code (ls.getD i [])).all isScaffold = false ∧
        ¬ OpensApart (code (ls.getD i [])) ∧ ¬ ClosesApart (code (ls.getD i [])))) ∧
    ∀ i < ls.length, (code (ls.getD i [])).all isScaffold = true →
      ((∃ s ∈ g.statements, s.line = Int.ofNat (i + 1)) ↔
        ¬ InComment ls i ∧ ¬ Hollow (code (ls.getD i []))) := by
  intro g ls
  have hmem (s : Statement) : s ∈ g.statements ↔ ∃ i text, Holds p ls i text ∧
      s = ⟨String.ofList text, Int.ofNat (i + 1)⟩ := by
    rw [show g.statements = Source.statements p source from statements_ofStatements _,
      mem_statements_iff]
  constructor
  · intro s hs
    obtain ⟨i, text, hholds, rfl⟩ := (hmem s).mp hs
    have htext : text = unbraced (code (ls.getD i [])) := (statementText?_eq_some hholds.statement).2
    refine ⟨i, hholds.lt_length, hholds.outside, by rw [htext], ?_⟩
    rw [String.toList_ofList, htext]
    exact proper_unbraced_code _
  · intro i _ hscaffold
    rw [← exists_holds_of_scaffold hp hscaffold]
    constructor
    · rintro ⟨s, hs, hline⟩
      obtain ⟨j, text, hholds, rfl⟩ := (hmem s).mp hs
      obtain rfl : j = i := Nat.succ_injective (Int.ofNat.inj hline)
      exact ⟨text, hholds⟩
    · rintro ⟨text, hholds⟩
      exact ⟨_, (hmem _).mpr ⟨i, text, hholds, rfl⟩, rfl⟩

theorem empty_block_kept : Profile.java ∈ Profile.packaged.map Prod.snd ∧
    (¬ ∃ s ∈ (ofSource .java "\x7d \x7d\n\x7b \x7d").statements, s.line = 1) ∧
    ∃ s ∈ (ofSource .java "\x7d \x7d\n\x7b \x7d").statements, s.line = 2 ∧ ¬ Proper s.text.toList := by
  have hjava : Profile.java ∈ Profile.packaged.map Prod.snd := by simp [Profile.packaged]
  obtain ⟨hproper, hscaffold⟩ := ofSource_scaffold hjava "\x7d \x7d\n\x7b \x7d"
  have hfirst := hscaffold 0 (by decide) (by decide +kernel)
  have hsecond := hscaffold 1 (by decide) (by decide +kernel)
  refine ⟨hjava, fun h => (hfirst.mp h).2 (hollow_iff.mpr (by decide +kernel)), ?_⟩
  have hout : ¬ InComment (lines "\x7d \x7d\n\x7b \x7d".toList) 1 := by
    rw [inComment_iff (by decide), Opens]
    decide
  obtain ⟨s, hs, hline⟩ := hsecond.mpr ⟨hout, fun h => absurd (hollow_iff.mp h) (by decide +kernel)⟩
  obtain ⟨i, hi, -, rfl, hiff⟩ := hproper s hs
  obtain rfl : i = 1 := Nat.succ_injective (Int.ofNat.inj hline)
  refine ⟨_, hs, hline, fun h => ?_⟩
  exact absurd (hiff.mp h).1 (by decide +kernel)

theorem braces_left_over :
    (ofSource .java "\x7b\x7d\n\x7d \x7d x = 1;\nif (a) \x7b \x7b").statements.map (·.text) =
      ["\x7b\x7d", "\x7d x = 1;", "if (a) \x7b"] ∧
    ∀ s ∈ (ofSource .java "\x7b\x7d\n\x7d \x7d x = 1;\nif (a) \x7b \x7b").statements,
      ¬ Proper s.text.toList := by
  decide +kernel

end Graph

end GenKill
