import GenKill.Proofs.Fact.Formula
import GenKill.Proofs.Fact.Naming

/-! A compound assignment of a single word and the assignment it stands for have the same fact. Neither is
taken for a declaration, because every type keyword of the packaged languages begins with an ignored
word and the target is not ignored. -/

namespace GenKill

open Text

namespace Text

def isSpace (c : Char) : Bool := isBlank c && c != '\n'

def isPlain (c : Char) : Bool := c != ';' && c != '\n' && !isQuote c

variable {c : Char} {w spaces : List Char}

lemma isBlank_of_spaces (h : ∀ c ∈ spaces, isSpace c = true) : ∀ c ∈ spaces, isBlank c = true := by
  intro c hc
  have hspace := h c hc
  rw [isSpace, Bool.and_eq_true] at hspace
  exact hspace.1

lemma isPlain_of_spaces (h : ∀ c ∈ spaces, isSpace c = true) : ∀ c ∈ spaces, isPlain c = true := by
  intro c hc
  have hblank := isBlank_of_spaces h c hc
  have hsemi : c ≠ ';' := ne_of_isBlank hblank (by decide)
  have hspace := h c hc
  rw [isSpace, Bool.and_eq_true] at hspace
  simp [isPlain, hsemi, hspace.2, isQuote_of_isBlank hblank]

lemma isPlain_of_isOperator (hc : isOperator c = true) : isPlain c = true :=
  of_isOperator (P := fun c => isPlain c = true) hc (by decide)

lemma WholeWord.isPlain (hw : WholeWord w) : ∀ c ∈ w, isPlain c = true := by
  intro c hc
  have hne {d : Char} (hd : isWord d = false) : c ≠ d := by
    rintro rfl
    simp [hw.2 c hc] at hd
  simp [Text.isPlain, hne (show isWord ';' = false by decide), hne (show isWord '\n' = false by decide),
    not_isQuote_of_isWord (hw.2 c hc)]

lemma WholeWord.isBlank_head? (hw : WholeWord w) (rest : List Char) :
    ∀ c ∈ (w ++ rest).head?, isBlank c = false := by
  obtain ⟨d, w, rfl⟩ := List.exists_cons_of_ne_nil hw.1
  simpa using isBlank_of_isWord (hw.2 d (by simp))

lemma WholeWord.isBlank_getLast? (hw : WholeWord w) (lead : List Char) :
    ∀ c ∈ (lead ++ w).getLast?, isBlank c = false := by
  intro c hc
  rw [List.getLast?_append_of_ne_nil _ hw.1] at hc
  exact isBlank_of_isWord (hw.2 c (List.mem_of_mem_getLast? hc))

end Text

namespace Statement

variable {p : Profile} {v w keyword before behind rest right : List Char} {op : Char}

section Forms

lemma clean_eq {lead mid trail last : List Char} (hlead : ∀ c ∈ lead, isSpace c = true) (hv : WholeWord v)
    (hmid : ∀ c ∈ mid, isPlain c = true) (hw : WholeWord w) (htrail : ∀ c ∈ trail, isSpace c = true)
    (hlast : ∀ c ∈ last, isSpace c = true) :
    clean (lead ++ (v ++ mid ++ w) ++ (trail ++ [';'] ++ last)) = v ++ mid ++ w := by
  have hplain : ∀ c ∈ v ++ mid ++ w, isPlain c = true := by
    simp only [List.forall_mem_append]
    exact ⟨⟨hv.isPlain, hmid⟩, hw.isPlain⟩
  have hkeep {l : List Char} (hl : ∀ c ∈ l, isPlain c = true) : l.filter (· != ';') = l := by
    rw [List.filter_eq_self]
    intro c hc
    have hne := hl c hc
    rw [isPlain, Bool.and_eq_true, Bool.and_eq_true] at hne
    exact hne.1.1
  have hquote : ∀ c ∈ v ++ mid ++ w, isQuote c = false := by
    intro c hc
    have hne := hplain c hc
    rw [isPlain, Bool.and_eq_true, Bool.not_eq_true'] at hne
    exact hne.2
  have htrim : trim (v ++ mid ++ w) = v ++ mid ++ w := by
    apply trimmed_of_ends
    · rw [List.append_assoc]
      exact hv.isBlank_head? _
    · exact hw.isBlank_getLast? _
  have hends : ∀ c ∈ trail ++ last, isBlank c = true := by
    rw [List.forall_mem_append]
    exact ⟨isBlank_of_spaces htrail, isBlank_of_spaces hlast⟩
  have hfilter : (lead ++ (v ++ mid ++ w) ++ (trail ++ [';'] ++ last)).filter (· != ';') =
      lead ++ (v ++ mid ++ w) ++ (trail ++ last) := by
    rw [List.filter_append, List.filter_append lead, hkeep hplain, List.filter_append, List.filter_append trail,
      hkeep (isPlain_of_spaces hlead), hkeep (isPlain_of_spaces htrail), hkeep (isPlain_of_spaces hlast)]
    simp
  rw [clean, hfilter, trim_append (isBlank_of_spaces hlead) hends htrim,
    emptyLiterals_of_no_quote hquote]

lemma word?_append (hv : WholeWord v) (hrest : ∀ c ∈ rest.head?, isWord c = false) :
    word? (v ++ rest) = some (v, rest) := by
  have hstop : rest.takeWhile isWord = [] ∧ rest.dropWhile isWord = rest := by
    cases rest with
    | nil => exact ⟨rfl, rfl⟩
    | cons c rest => simp [hrest c rfl]
  rw [word?, List.takeWhile_append_of_pos hv.2, List.dropWhile_append_of_pos hv.2, hstop.1, hstop.2,
    List.append_nil]
  obtain ⟨c, v, rfl⟩ := List.exists_cons_of_ne_nil hv.1
  rfl

lemma afterKeyword?_eq_none (hv : WholeWord v) (hrest : ∀ c ∈ rest.head?, isWord c = false)
    (hkeyword : keyword.takeWhile isWord ≠ v) : afterKeyword? keyword (v ++ rest) = none := by
  by_contra hne
  obtain ⟨_, h⟩ := Option.ne_none_iff_exists'.mp hne
  obtain ⟨c, more, heq, hc⟩ := exists_eq_of_afterKeyword? h
  apply hkeyword
  obtain ⟨beyond, rfl, rfl⟩ | ⟨beyond, rfl, hbeyond⟩ := List.append_eq_append_iff.mp heq
  · rw [List.takeWhile_append_of_pos hv.2]
    cases beyond with
    | nil => simp
    | cons d beyond => rw [List.takeWhile_cons_of_neg (by simp [hrest d rfl]), List.append_nil]
  · cases beyond with
    | nil =>
      rw [List.append_nil] at hv ⊢
      exact List.takeWhile_eq_self_iff.mpr hv.2
    | cons d beyond =>
      obtain ⟨rfl, -⟩ := List.cons.inj hbeyond
      rw [isBlank_of_isWord (hv.2 c (by simp))] at hc
      cases hc

lemma trimLeft_append_cons {c : Char} (hbefore : ∀ c ∈ before, isBlank c = true) (hc : isBlank c = false)
    (rest : List Char) : trimLeft (before ++ c :: rest) = c :: rest := by
  rw [trimLeft, List.dropWhile_append_of_pos hbefore, List.dropWhile_cons_of_neg (by simp [hc])]

lemma isWord_head?_append_cons {c : Char} (hbefore : ∀ c ∈ before, isBlank c = true) (hc : isWord c = false)
    (rest : List Char) : ∀ d ∈ (before ++ c :: rest).head?, isWord d = false := by
  cases before with
  | nil => simpa using hc
  | cons b before => simpa using isWord_of_isBlank (hbefore b (by simp))

lemma head?_ne_equals (hbehind : ∀ c ∈ behind, isBlank c = true) (hw : WholeWord w) (rest : List Char) :
    (behind ++ (w ++ rest)).head? ≠ some '=' := by
  cases behind with
  | nil =>
    obtain ⟨c, w, rfl⟩ := List.exists_cons_of_ne_nil hw.1
    intro h
    obtain rfl : c = '=' := by simpa using h
    exact absurd (hw.2 '=' (by simp)) (by decide)
  | cons c behind =>
    intro h
    obtain rfl : c = '=' := by simpa using h
    exact absurd (hbehind '=' (by simp)) (by decide)

lemma rest?_append (hbehind : ∀ c ∈ behind, isBlank c = true) (hw : WholeWord w) (rest : List Char)
    (hplain : ∀ c ∈ w ++ rest, isPlain c = true) : rest? (behind ++ (w ++ rest)) = some (w ++ rest) := by
  have hfeed : (w ++ rest).contains '\n' = false := by
    rw [← Bool.not_eq_true, List.contains_iff_mem]
    intro hmem
    exact absurd (hplain _ hmem) (by decide)
  obtain ⟨c, w, rfl⟩ := List.exists_cons_of_ne_nil hw.1
  have hc : isBlank c = false := isBlank_of_isWord (hw.2 c (by simp))
  rw [List.cons_append] at hfeed ⊢
  rw [rest?, trimLeft_append_cons hbehind hc]
  simp only [hfeed]
  rfl

lemma form_of_no_keyword (hkeywords : ∀ k ∈ keywords p, k.takeWhile isWord ≠ v) (hv : WholeWord v)
    (hrest : ∀ c ∈ rest.head?, isWord c = false) :
    form p (v ++ rest) =
      (compound? (v ++ rest) <|> step? (v ++ rest) <|> assignment? p.ignored (v ++ rest)).getD .plain := by
  have hdeclaration : (keywords p).findSome? (declaration? · (v ++ rest)) = none := by
    rw [List.findSome?_eq_none_iff]
    intro k hk
    rw [declaration?, afterKeyword?_eq_none hv hrest (hkeywords k hk)]
    rfl
  have hbare : (keywords p).findSome? (bareDeclaration? · (v ++ rest)) = none := by
    rw [List.findSome?_eq_none_iff]
    intro k hk
    rw [bareDeclaration?, afterKeyword?_eq_none hv hrest (hkeywords k hk)]
    rfl
  rw [form, hdeclaration, hbare]
  rfl

lemma form_compound (hkeywords : ∀ k ∈ keywords p, k.takeWhile isWord ≠ v) (hv : WholeWord v)
    (hbefore : ∀ c ∈ before, isBlank c = true) (hop : isOperator op = true)
    (hrest : rest? rest = some right) :
    form p (v ++ (before ++ op :: '=' :: rest)) = .compound v op right := by
  have hhead := isWord_head?_append_cons hbefore (isWord_of_isOperator hop) ('=' :: rest)
  have hcompound : compound? (v ++ (before ++ op :: '=' :: rest)) = some (.compound v op right) := by
    simp [compound?, word?_append hv hhead, trimLeft_append_cons hbefore (isBlank_of_isOperator hop), hop,
      hrest]
  rw [form_of_no_keyword hkeywords hv hhead, hcompound]
  rfl

lemma form_assignment (hkeywords : ∀ k ∈ keywords p, k.takeWhile isWord ≠ v) (hv : WholeWord v)
    (hkept : String.ofList v ∉ p.ignored) (hbefore : ∀ c ∈ before, isBlank c = true)
    (hequals : rest.head? ≠ some '=') (hrest : rest? rest = some right) :
    form p (v ++ (before ++ '=' :: rest)) = .assignment v right := by
  have hhead := isWord_head?_append_cons hbefore (show isWord '=' = false by decide) rest
  have hword : word? (v ++ (before ++ '=' :: rest)) = some (v, before ++ '=' :: rest) := word?_append hv hhead
  have htrim : trimLeft (before ++ '=' :: rest) = '=' :: rest := trimLeft_append_cons hbefore (by decide) rest
  have hcompound : compound? (v ++ (before ++ '=' :: rest)) = none := by
    simp only [compound?, hword, Option.bind_eq_bind, Option.bind_some, htrim]
    split
    case h_1 heq =>
      obtain ⟨-, rfl⟩ := List.cons.inj heq
      exact absurd rfl hequals
    case h_2 => rfl
  have hstep : step? (v ++ (before ++ '=' :: rest)) = none := by
    simp [step?, hword, htrim, isStep]
  have hassignment : assignment? p.ignored (v ++ (before ++ '=' :: rest)) = some (.assignment v right) := by
    simp [assignment?, hword, assigned?, htrim, hequals, hrest, hkept]
  rw [form_of_no_keyword hkeywords hv hhead, hcompound, hstep, hassignment]
  rfl

end Forms

section Facts

variable {v w : String} {gap : List Char} {op : Char}

lemma opensCall_of_operator? (h : operator? gap = some op) : opensCall gap = false := by
  obtain ⟨-, hop⟩ := operator?_eq_some h
  obtain ⟨before, behind, rfl, hbefore, -⟩ := exists_eq_of_operator? h
  have hbracket : op ≠ '(' := by
    rintro rfl
    cases hop
  rw [List.append_assoc, opensCall, List.singleton_append,
    trimLeft_append_cons hbefore (isBlank_of_isOperator hop)]
  simpa using hbracket

lemma getLast?_of_operator? (h : operator? gap = some op) : gap.getLast? ≠ some '.' := by
  obtain ⟨-, hop⟩ := operator?_eq_some h
  obtain ⟨before, behind, rfl, -, hbehind⟩ := exists_eq_of_operator? h
  intro hlast
  rcases List.eq_nil_or_concat behind with rfl | ⟨lead, c, rfl⟩
  · obtain rfl : op = '.' := by simpa using hlast
    cases hop
  · obtain rfl : c = '.' := by
      rw [List.concat_eq_append, ← List.append_assoc, List.getLast?_concat] at hlast
      exact Option.some.inj hlast
    exact absurd (hbehind '.' (by simp)) (by decide)

lemma names_operation (hv : WholeWord v.toList) (hname : isName v.toList = true)
    (hgap : operator? gap = some op) (hw : WholeWord w.toList) :
    names (v.toList ++ (gap ++ w.toList)) = v.toList :: if isName w.toList then [w.toList] else [] := by
  have hnone : ∀ c ∈ gap, isWord c = false := by
    obtain ⟨-, hop⟩ := operator?_eq_some hgap
    obtain ⟨before, behind, rfl, hbefore, hbehind⟩ := exists_eq_of_operator? hgap
    exact isWord_of_mem_gap hop hbefore hbehind
  have hne : gap ≠ [] := List.ne_nil_of_mem (operator?_eq_some hgap).1
  have hleft : Occurs (v.toList ++ (gap ++ w.toList)) [] v.toList (gap ++ w.toList) := by
    refine ⟨rfl, hv, by simp, fun c hc => hnone c (List.mem_of_mem_head? ?_)⟩
    rwa [List.head?_append_of_ne_nil _ hne] at hc
  have hright : Occurs (gap ++ w.toList) gap w.toList [] :=
    ⟨by simp, hw, fun c hc => hnone c (List.mem_of_mem_getLast? hc), by simp⟩
  have hruns : runs (v.toList ++ (gap ++ w.toList)) = [v.toList, gap, w.toList] := by
    rw [hleft.runs_eq, hright.runs_eq, runs_eq_singleton hne hnone]
    rfl
  have hgapName : isName gap = false := by
    by_contra hisName
    obtain ⟨c, hc, hword⟩ := isWord_of_isName (by simpa using hisName)
    simp [hnone c hc] at hword
  simp [names, hruns, namesIn, hname, hgapName, opensCall_of_operator? hgap, getLast?_of_operator? hgap]

def updateFact (p : Profile) (v : String) (op : Char) (w : String) : Fact where
  kind := .assign
  defined := some v
  used := (v :: if p.Reads w then [w] else []).eraseDups
  expressions := [String.ofList (Binary.text ⟨v.toList, op, w.toList⟩)]

lemma factOf_compound (hw : WholeWord w.toList) (text : List Char) :
    factOf p text (.compound v.toList op w.toList) = updateFact p v op w := by
  have htrim : trim w.toList = w.toList := by
    apply trimmed_of_ends
    · simpa using hw.isBlank_head? []
    · simpa using hw.isBlank_getLast? []
  have hsingle : compoundExpression v.toList op w.toList =
      [String.ofList (Binary.text ⟨v.toList, op, w.toList⟩)] := by
    apply if_pos
    rw [Bool.and_eq_true, Bool.not_eq_true', List.isEmpty_eq_false_iff, List.all_eq_true]
    exact hw
  have hnone : expressionsIn w.toList = [] :=
    expressionsIn_written (f := ⟨w.toList, []⟩)
      ⟨hw, by simp, [], [], by simp, List.forall_mem_nil _, List.forall_mem_nil _⟩
  simp only [factOf, htrim, hsingle, hnone, usedIn_wholeWord hw, String.ofList_toList, List.append_nil]
  rfl

lemma factOf_operation (hv : WholeWord v.toList) (hreads : p.Reads v) (hgap : operator? gap = some op)
    (hw : WholeWord w.toList) (text : List Char) :
    factOf p text (.assignment v.toList (v.toList ++ (gap ++ w.toList))) = updateFact p v op w := by
  have hwritten : Formula.Written ⟨v.toList, [(op, w.toList)]⟩ (v.toList ++ (gap ++ w.toList)) := by
    obtain ⟨-, hop⟩ := operator?_eq_some hgap
    obtain ⟨before, behind, rfl, hbefore, hbehind⟩ := exists_eq_of_operator? hgap
    exact ⟨hv, by simpa using ⟨hop, hw⟩, [], _, rfl, List.forall_mem_nil _, before,
      behind ++ w.toList ++ [], by simp, hbefore, behind, [], rfl, hbehind, List.forall_mem_nil _⟩
  have hused : usedIn p (v.toList ++ (gap ++ w.toList)) = (v :: if p.Reads w then [w] else []).eraseDups := by
    rw [usedIn, emptyLiterals_of_no_quote hwritten.isQuote_eq_false, names_operation hv hreads.1 hgap hw]
    by_cases hname : isName w.toList = true
    · by_cases hignored : w ∈ p.ignored
      · simp [Profile.Reads, hname, hignored, hreads.2]
      · simp [Profile.Reads, hname, hignored, hreads.2]
    · simp [Profile.Reads, hname, hreads.2]
  rw [factOf, hused, expressionsIn_written hwritten, String.ofList_toList]
  rfl

end Facts

section Packaged

lemma packaged_keywords : ∀ entry ∈ Profile.packaged, entry.2.typeKeywords.all (fun k =>
    entry.2.ignored.contains (String.ofList (k.toList.takeWhile isWord))) = true := by
  decide

lemma takeWhile_keyword_ne {v : String} (hp : p ∈ Profile.packaged.map Prod.snd) (hkept : v ∉ p.ignored) :
    ∀ k ∈ keywords p, k.takeWhile isWord ≠ v.toList := by
  intro k hk heq
  obtain ⟨entry, hentry, rfl⟩ := List.mem_map.mp hp
  obtain ⟨s, hs, rfl⟩ := mem_keywords_iff.mp hk
  have hignored := List.all_eq_true.mp (packaged_keywords entry hentry) s hs
  rw [heq, String.ofList_toList, List.contains_iff_mem] at hignored
  exact hkept hignored

end Packaged

section Update

variable {v w short long : String}

lemma ofStatement_short (hkeywords : ∀ k ∈ keywords p, k.takeWhile isWord ≠ v.toList)
    (hv : WholeWord v.toList) (hop : isOperator op = true) (hw : WholeWord w.toList)
    (h : Spaced isSpace [v.toList, [op, '='], w.toList, [';']] short.toList) :
    Fact.ofStatement p short = updateFact p v op w := by
  obtain ⟨lead, _, hshort, hlead, before, _, rfl, hbefore, behind, _, rfl, hbehind, trail, last, rfl, htrail,
    hlast⟩ := h
  have hmid : ∀ c ∈ before ++ [op, '='] ++ behind, isPlain c = true := by
    simp only [List.forall_mem_append, List.forall_mem_cons]
    exact ⟨⟨isPlain_of_spaces hbefore, isPlain_of_isOperator hop, by decide, List.forall_mem_nil _⟩,
      isPlain_of_spaces hbehind⟩
  have hclean : clean short.toList = v.toList ++ (before ++ op :: '=' :: (behind ++ (w.toList ++ []))) := by
    have hsplit : short.toList = lead ++ (v.toList ++ (before ++ [op, '='] ++ behind) ++ w.toList) ++
        (trail ++ [';'] ++ last) := by simp [hshort]
    rw [hsplit, clean_eq hlead hv hmid hw htrail hlast]
    simp
  have hplain : ∀ c ∈ w.toList ++ [], isPlain c = true := by simpa using hw.isPlain
  have hrest := rest?_append (isBlank_of_spaces hbehind) hw [] hplain
  rw [Fact.ofStatement, hclean,
    form_compound hkeywords hv (isBlank_of_spaces hbefore) hop hrest, List.append_nil,
    factOf_compound hw]

lemma ofStatement_long (hkeywords : ∀ k ∈ keywords p, k.takeWhile isWord ≠ v.toList)
    (hv : WholeWord v.toList) (hreads : p.Reads v) (hop : isOperator op = true) (hw : WholeWord w.toList)
    (h : Spaced isSpace [v.toList, ['='], v.toList, [op], w.toList, [';']] long.toList) :
    Fact.ofStatement p long = updateFact p v op w := by
  obtain ⟨lead, _, hlong, hlead, before, _, rfl, hbefore, behind, _, rfl, hbehind, left, _, rfl, hleft,
    right, _, rfl, hright, trail, last, rfl, htrail, hlast⟩ := h
  have hgap : operator? (left ++ [op] ++ right) = some op :=
    operator?_append hop (isBlank_of_spaces hleft) (isBlank_of_spaces hright)
  have hgapPlain : ∀ c ∈ left ++ [op] ++ right, isPlain c = true := by
    simp only [List.forall_mem_append, List.forall_mem_singleton]
    exact ⟨⟨isPlain_of_spaces hleft, isPlain_of_isOperator hop⟩, isPlain_of_spaces hright⟩
  have hmid : ∀ c ∈ before ++ ['='] ++ behind ++ v.toList ++ (left ++ [op] ++ right), isPlain c = true := by
    rw [List.forall_mem_append]
    refine ⟨?_, hgapPlain⟩
    simp only [List.forall_mem_append, List.forall_mem_singleton]
    exact ⟨⟨⟨isPlain_of_spaces hbefore, by decide⟩, isPlain_of_spaces hbehind⟩, hv.isPlain⟩
  have hclean : clean long.toList =
      v.toList ++ (before ++ '=' :: (behind ++ (v.toList ++ (left ++ [op] ++ right ++ w.toList)))) := by
    have hsplit : long.toList =
        lead ++ (v.toList ++ (before ++ ['='] ++ behind ++ v.toList ++ (left ++ [op] ++ right)) ++ w.toList) ++
          (trail ++ [';'] ++ last) := by simp [hlong]
    rw [hsplit, clean_eq hlead hv hmid hw htrail hlast]
    simp
  have hplain : ∀ c ∈ v.toList ++ (left ++ [op] ++ right ++ w.toList), isPlain c = true := by
    rw [List.forall_mem_append, List.forall_mem_append]
    exact ⟨hv.isPlain, hgapPlain, hw.isPlain⟩
  have hblank : ∀ c ∈ behind, isBlank c = true := isBlank_of_spaces hbehind
  rw [Fact.ofStatement, hclean, form_assignment hkeywords hv (by simpa using hreads.2)
    (isBlank_of_spaces hbefore) (head?_ne_equals hblank hv _)
    (rest?_append hblank hv _ hplain), factOf_operation hv hreads hgap hw]

theorem ofStatement_compound {p : Profile} (hp : p ∈ Profile.packaged.map Prod.snd) {v w : String} {op : Char}
    (hv : WholeWord v.toList) (hreads : p.Reads v) (hop : isOperator op = true) (hw : WholeWord w.toList)
    {short long : String} (hshort : Spaced isSpace [v.toList, [op, '='], w.toList, [';']] short.toList)
    (hlong : Spaced isSpace [v.toList, ['='], v.toList, [op], w.toList, [';']] long.toList) :
    Fact.ofStatement p short = Fact.ofStatement p long ∧ Fact.ofStatement p short = updateFact p v op w := by
  have hkeywords := takeWhile_keyword_ne hp hreads.2
  have hfact : Fact.ofStatement p short = updateFact p v op w := ofStatement_short hkeywords hv hop hw hshort
  exact ⟨hfact.trans (ofStatement_long hkeywords hv hreads hop hw hlong).symm, hfact⟩

theorem interest_compounded :
    Fact.ofStatement .java "interest *=int_rate ;" = Fact.ofStatement .java "interest = interest*int_rate;" ∧
    (Fact.ofStatement .java "interest *=int_rate ;").used = ["interest", "int_rate"] ∧
    (Fact.ofStatement .java "interest *=int_rate ;").expressions = ["interest * int_rate"] := by
  have hnone : ∀ c ∈ ([] : List Char), isSpace c = true := List.forall_mem_nil _
  have hspace : ∀ c ∈ [' '], isSpace c = true := List.forall_mem_singleton.mpr (by decide)
  have hword (w : String) (hne : w.toList ≠ []) (hall : w.toList.all isWord = true) : WholeWord w.toList :=
    ⟨hne, List.all_eq_true.mp hall⟩
  have hshort : Spaced isSpace ["interest".toList, ['*', '='], "int_rate".toList, [';']]
      "interest *=int_rate ;".toList :=
    ⟨[], _, rfl, hnone, [' '], _, rfl, hspace, [], _, rfl, hnone, [' '], _, rfl, hspace, hnone⟩
  have hlong : Spaced isSpace ["interest".toList, ['='], "interest".toList, ['*'], "int_rate".toList, [';']]
      "interest = interest*int_rate;".toList :=
    ⟨[], _, rfl, hnone, [' '], _, rfl, hspace, [' '], _, rfl, hspace, [], _, rfl, hnone, [], _, rfl, hnone,
      [], _, rfl, hnone, hnone⟩
  obtain ⟨heq, hfact⟩ := ofStatement_compound (p := .java) (by decide) (hword _ (by decide) (by decide))
    (by decide) (by decide) (hword _ (by decide) (by decide)) hshort hlong
  refine ⟨heq, ?_, ?_⟩ <;> rw [hfact] <;> decide

end Update

end Statement

end GenKill
