import GenKill.Proofs.Text.Literal
import GenKill.Proofs.Text.Trim

/-! How the pieces of a text change with the text. Trimming takes single blanks away from both ends, a cut
outside the literals cuts the mask in the same way, and what stands behind a text whose quotes are all
closed leaves its pieces alone. Leaving out semicolons thins the literals, unless a backslash stands before
one of them: what follows it is then taken in its place. -/

namespace GenKill.Text

namespace Piece

def isBlank : Piece → Bool
  | single c => Text.isBlank c
  | literal _ _ => false

def hull : Piece → Piece
  | single c => single c
  | literal _ _ => literal '"' []

lemma text_hull (p : Piece) : p.hull.text = p.emptied := by
  cases p <;> rfl

lemma isBlank_hull (p : Piece) : p.hull.isBlank = p.isBlank := by
  cases p <;> rfl

def thin? : Piece → Option Piece
  | single c => if c = ';' then none else some (single c)
  | literal quote body => some (literal quote (body.filter (· != ';')))

lemma hull_thin?_blank (p : Piece) : p.blank.thin?.map hull = p.thin?.map hull := by
  cases p <;> rfl

end Piece

def trimPieces (ps : List Piece) : List Piece := (ps.dropWhile Piece.isBlank).rdropWhile Piece.isBlank

lemma trimPieces_map {f : Piece → Piece} (hf : ∀ p, (f p).isBlank = p.isBlank) (ps : List Piece) :
    trimPieces (ps.map f) = (trimPieces ps).map f := by
  have hcomp : Piece.isBlank ∘ f = Piece.isBlank := funext hf
  simp [trimPieces, List.rdropWhile, List.dropWhile_map, ← List.map_reverse, hcomp]

section Trim

variable {quote c : Char} {text rest : List Char}

lemma isQuote_of_isBlank (hc : isBlank c = true) : isQuote c = false := by
  rw [← Bool.not_eq_true, isQuote_iff]
  exact not_or_intro (ne_of_isBlank hc (by decide)) (ne_of_isBlank hc (by decide))

lemma inside?_concat_eq_none (hquote : isQuote quote = true) (hc : isQuote c = false)
    (hopen : inside? quote rest = none) : inside? quote (rest ++ [c]) = none := by
  by_contra hne
  obtain ⟨⟨body, after⟩, h⟩ := Option.ne_none_iff_exists'.mp hne
  obtain ⟨heq, hbody⟩ := (inside?_eq_some_iff (ne_of_isQuote hquote (by decide))).mp h
  rcases List.eq_nil_or_concat after with rfl | ⟨after, d, rfl⟩
  · obtain ⟨-, hlast⟩ := List.append_inj' heq rfl
    exact ne_of_isQuote hquote hc (List.head_eq_of_cons_eq hlast).symm
  · rw [List.concat_eq_append, ← List.cons_append, ← List.append_assoc] at heq
    obtain ⟨rfl, -⟩ := List.append_inj' heq rfl
    simp [inside?_literal hquote hbody] at hopen

lemma pieces_concat (hc : isQuote c = false) (text : List Char) :
    pieces (text ++ [c]) = pieces text ++ [.single c] := by
  induction text using pieces_induction with
  | nil => simp [pieces_single hc, pieces]
  | literal d body rest hd hbody ih =>
    rw [List.cons_append, List.append_assoc, List.cons_append, pieces_quote hd hbody,
      pieces_quote hd hbody, ih, List.cons_append]
  | unclosed d rest hd hopen ih =>
    rw [List.cons_append, pieces_open (inside?_concat_eq_none hd hc hopen), pieces_open hopen, ih,
      List.cons_append]
  | single d rest hd ih =>
    rw [List.cons_append, pieces_single hd, pieces_single hd, ih, List.cons_append]

lemma Piece.isBlank_iff {p : Piece} : p.isBlank = true ↔ ∃ c, Text.isBlank c = true ∧ p.text = [c] := by
  cases p with
  | single c => simp [Piece.isBlank, text]
  | literal quote body => simp [Piece.isBlank, text]

lemma pieces_trimLeft (text : List Char) :
    pieces (trimLeft text) = (pieces text).dropWhile Piece.isBlank := by
  induction text with
  | nil => simp [trimLeft, pieces]
  | cons c rest ih =>
    by_cases hc : isBlank c = true
    · rw [pieces_single (isQuote_of_isBlank hc), trimLeft, List.dropWhile_cons_of_pos hc,
        List.dropWhile_cons_of_pos (by simpa [Piece.isBlank])]
      exact ih
    · rw [trimLeft, List.dropWhile_cons_of_neg hc]
      cases hps : pieces (c :: rest) with
      | nil => rfl
      | cons p ps =>
        rw [List.dropWhile_cons_of_neg]
        intro hp
        obtain ⟨d, hd, hpd⟩ := Piece.isBlank_iff.mp hp
        have htext := flatMap_text_pieces (c :: rest)
        simp only [hps, List.flatMap_cons, hpd, List.singleton_append, List.cons.injEq] at htext
        exact hc (htext.1 ▸ hd)

lemma pieces_trimRight (text : List Char) :
    pieces (trimRight text) = (pieces text).rdropWhile Piece.isBlank := by
  change pieces (text.rdropWhile isBlank) = _
  induction text using List.reverseRecOn with
  | nil => simp [pieces]
  | append_singleton text c ih =>
    by_cases hc : isBlank c = true
    · rw [pieces_concat (isQuote_of_isBlank hc), List.rdropWhile_concat_pos _ _ _ hc,
        List.rdropWhile_concat_pos _ _ _ (by simpa [Piece.isBlank]), ih]
    · rw [List.rdropWhile_concat_neg _ _ _ hc]
      rcases List.eq_nil_or_concat (pieces (text ++ [c])) with hps | ⟨ps, p, hps⟩
      · rw [hps, List.rdropWhile_nil]
      · rw [List.concat_eq_append] at hps
        rw [hps, List.rdropWhile_concat_neg]
        intro hp
        obtain ⟨d, hd, hpd⟩ := Piece.isBlank_iff.mp hp
        have htext := flatMap_text_pieces (text ++ [c])
        rw [hps, List.flatMap_append, List.flatMap_singleton, hpd] at htext
        exact hc (List.singleton_inj.mp (List.append_inj' htext rfl).2 ▸ hd)

lemma pieces_trim (text : List Char) : pieces (trim text) = trimPieces (pieces text) := by
  rw [trim, pieces_trimRight, pieces_trimLeft, trimPieces]

lemma head?_mask (text : List Char) : (mask text).head? = text.head? := by
  induction text using pieces_induction with
  | nil => simp [mask, pieces]
  | literal c body rest hc hbody _ => rw [mask_quote hc hbody, List.head?_cons, List.head?_cons]
  | unclosed c rest hc hopen _ => rw [mask_open hopen, List.head?_cons, List.head?_cons]
  | single c rest hc _ => rw [mask_single hc, List.head?_cons, List.head?_cons]

lemma getLast?_mask (text : List Char) : (mask text).getLast? = text.getLast? := by
  induction text using pieces_induction with
  | nil => simp [mask, pieces]
  | literal c body rest hc hbody ih =>
    rw [mask_quote hc hbody, ← List.cons_append, ← List.cons_append,
      List.getLast?_append_of_ne_nil _ (List.cons_ne_nil _ _),
      List.getLast?_append_of_ne_nil _ (List.cons_ne_nil _ _), List.getLast?_cons, List.getLast?_cons, ih]
  | unclosed c rest hc hopen ih => rw [mask_open hopen, List.getLast?_cons, List.getLast?_cons, ih]
  | single c rest hc ih => rw [mask_single hc, List.getLast?_cons, List.getLast?_cons, ih]

lemma dropWhile_mask {p : Char → Bool} (hp : ∀ c, p c = true → isQuote c = false) (text : List Char) :
    (mask text).dropWhile p = mask (text.dropWhile p) := by
  induction text with
  | nil => simp [mask, pieces]
  | cons c rest ih =>
    by_cases hc : p c = true
    · rw [mask_single (hp c hc), List.dropWhile_cons_of_pos hc, List.dropWhile_cons_of_pos hc, ih]
    · obtain ⟨more, hmore⟩ := List.head?_eq_some_iff.mp (head?_mask (c :: rest))
      rw [List.dropWhile_cons_of_neg hc, hmore, List.dropWhile_cons_of_neg hc]

lemma dropTrailing_mask {p : Char → Bool} (hp : ∀ c, p c = true → isQuote c = false) (text : List Char) :
    dropTrailing p (mask text) = mask (dropTrailing p text) := by
  change (mask text).rdropWhile p = mask (text.rdropWhile p)
  induction text using List.reverseRecOn with
  | nil => simp [mask, pieces]
  | append_singleton text c ih =>
    by_cases hc : p c = true
    · have hconcat : mask (text ++ [c]) = mask text ++ [c] := by
        simp [mask, pieces_concat (hp c hc), Piece.masked]
      rw [hconcat, List.rdropWhile_concat_pos _ _ _ hc, List.rdropWhile_concat_pos _ _ _ hc, ih]
    · have hlast : (mask (text ++ [c])).getLast? = some c := by rw [getLast?_mask, List.getLast?_concat]
      obtain ⟨lead, hlead⟩ := List.getLast?_eq_some_iff.mp hlast
      rw [List.rdropWhile_concat_neg _ _ _ hc, hlead, List.rdropWhile_concat_neg _ _ _ hc]

lemma trimRight_mask (text : List Char) : trimRight (mask text) = mask (trimRight text) :=
  dropTrailing_mask (fun _ => isQuote_of_isBlank) text

end Trim

section Cut

variable {quote c : Char} {text rest : List Char}

lemma inside?_eq_none_of_isPrefix (hquote : isQuote quote = true) (h : text <+: rest)
    (hopen : inside? quote rest = none) : inside? quote text = none := by
  by_contra hne
  obtain ⟨⟨body, after⟩, hinside⟩ := Option.ne_none_iff_exists'.mp hne
  obtain ⟨rfl, hbody⟩ := (inside?_eq_some_iff (ne_of_isQuote hquote (by decide))).mp hinside
  obtain ⟨more, rfl⟩ := h
  rw [List.append_assoc, List.cons_append, inside?_literal hquote hbody] at hopen
  cases hopen

lemma mask_take {i : ℕ} (h : (mask text)[i]? = some c) (hblank : c ≠ ' ') (hc : isQuote c = false) :
    mask (text.take i) = (mask text).take i := by
  induction text using pieces_induction generalizing i with
  | nil => simp [mask, pieces]
  | literal d body rest hd hbody ih =>
    rw [mask_quote hd hbody] at h ⊢
    cases i with
    | zero => simp [mask, pieces]
    | succ i =>
      rw [List.getElem?_cons_succ] at h
      rcases Nat.lt_or_ge i body.length with hlt | hge
      · rw [List.getElem?_append_left (by simpa using hlt), List.getElem?_replicate_of_lt hlt] at h
        exact absurd (Option.some.inj h).symm hblank
      · obtain ⟨k, rfl⟩ := Nat.exists_eq_add_of_le hge
        cases k with
        | zero =>
          have hquote : d = c := by simpa using h
          simp [← hquote, hd] at hc
        | succ k =>
          have hlength : body.length + (k + 1) = (List.replicate body.length ' ').length + (k + 1) := by simp
          have hk : (mask rest)[k]? = some c := by
            rwa [hlength, List.getElem?_append_right (Nat.le_add_right _ _), Nat.add_sub_cancel_left,
              List.getElem?_cons_succ] at h
          rw [List.take_succ_cons, List.take_succ_cons, List.take_length_add_append, List.take_succ_cons,
            mask_quote hd hbody, ih hk, hlength, List.take_length_add_append, List.take_succ_cons]
  | unclosed d rest hd hopen ih =>
    rw [mask_open hopen] at h ⊢
    cases i with
    | zero => simp [mask, pieces]
    | succ i =>
      rw [List.take_succ_cons, List.take_succ_cons,
        mask_open (inside?_eq_none_of_isPrefix hd (List.take_prefix i rest) hopen), ih h]
  | single d rest hd ih =>
    rw [mask_single hd] at h ⊢
    cases i with
    | zero => simp [mask, pieces]
    | succ i => rw [List.take_succ_cons, List.take_succ_cons, mask_single hd, ih h]

end Cut

def Closed (text : List Char) : Prop :=
  ∀ i, (h : i < text.length) → isQuote text[i] = true → ∃ s ∈ spans text, s.start ≤ i ∧ i < s.stop

instance (text : List Char) : Decidable (Closed text) :=
  inferInstanceAs (Decidable (∀ i, (h : i < text.length) → isQuote text[i] = true → _))

section Append

variable {c : Char} {text lead rest : List Char}

lemma Closed.of_append (lead : List Char) (own : List Span) (h : Closed (lead ++ rest))
    (hspans : spans (lead ++ rest) = own ++ (spans rest).map (Span.shift lead.length))
    (hown : ∀ s ∈ own, s.stop ≤ lead.length) : Closed rest := by
  intro i hi hquote
  have hlt : i + lead.length < (lead ++ rest).length := by
    rw [List.length_append]
    omega
  obtain ⟨s, hs, hstart, hstop⟩ := h (i + lead.length) hlt (by simpa using hquote)
  rw [hspans, List.mem_append, List.mem_map] at hs
  rcases hs with hs | ⟨t, ht, rfl⟩
  · have hle := hown s hs
    omega
  · simp only [Span.shift] at hstart hstop
    exact ⟨t, ht, by omega, by omega⟩

lemma not_closed_open (hc : isQuote c = true) (hopen : inside? c rest = none) : ¬ Closed (c :: rest) := by
  intro h
  obtain ⟨s, hs, hstart, -⟩ := h 0 (by simp) hc
  rw [spans_open hopen, List.mem_map] at hs
  obtain ⟨t, -, rfl⟩ := hs
  simp [Span.shift] at hstart

lemma Closed.pieces_append (h : Closed text) (rest : List Char) :
    pieces (text ++ rest) = pieces text ++ pieces rest := by
  induction text using pieces_induction with
  | nil => simp [pieces]
  | literal c body more hc hbody ih =>
    have hmore : Closed more := by
      apply Closed.of_append (c :: body ++ [c]) [⟨0, body.length + 2⟩]
      · simpa using h
      · simpa using spans_quote hc hbody
      · simp
    rw [List.cons_append, List.append_assoc, List.cons_append, pieces_quote hc hbody,
      pieces_quote hc hbody, ih hmore, List.cons_append]
  | unclosed c more hc hopen _ => exact absurd h (not_closed_open hc hopen)
  | single c more hc ih =>
    have hmore : Closed more := Closed.of_append [c] [] h (spans_single hc) (by simp)
    rw [List.cons_append, pieces_single hc, pieces_single hc, ih hmore, List.cons_append]

lemma Closed.mask_append (h : Closed text) (rest : List Char) :
    mask (text ++ rest) = mask text ++ mask rest := by
  rw [mask, h.pieces_append, List.flatMap_append, mask, mask]

lemma pieces_append_of_no_quote (h : ∀ c ∈ lead, isQuote c = false) (rest : List Char) :
    pieces (lead ++ rest) = lead.map .single ++ pieces rest := by
  induction lead with
  | nil => rfl
  | cons c lead ih =>
    obtain ⟨hc, hlead⟩ := List.forall_mem_cons.mp h
    rw [List.cons_append, pieces_single hc, ih hlead, List.map_cons, List.cons_append]

lemma mask_append_of_no_quote (h : ∀ c ∈ lead, isQuote c = false) (rest : List Char) :
    mask (lead ++ rest) = lead ++ mask rest := by
  rw [mask, pieces_append_of_no_quote h, List.flatMap_append, List.flatMap_map, mask]
  simp only [Piece.masked, List.flatMap_singleton']

lemma emptyLiterals_of_no_quote (h : ∀ c ∈ text, isQuote c = false) : emptyLiterals text = text := by
  have hpieces : pieces text = text.map .single := by
    rw [← List.append_nil text, pieces_append_of_no_quote h]
    simp [pieces]
  rw [emptyLiterals, hpieces, List.flatMap_map]
  simp only [Piece.emptied, List.flatMap_singleton']

end Append

/-- Does a backslash take a semicolon with it? `escaped` says whether one takes the first character. -/
def escapesSemicolon (escaped : Bool) : List Char → Bool
  | [] => false
  | c :: rest => escaped && c == ';' || escapesSemicolon (!escaped && c == '\\') rest

section Semicolon

variable {quote c : Char} {text body rest : List Char} {escaped : Bool}

lemma escapesSemicolon_cons (hesc : c ≠ '\\') (hsemi : c ≠ ';') :
    escapesSemicolon escaped (c :: rest) = escapesSemicolon false rest := by
  simp [escapesSemicolon, beq_false_of_ne hesc, beq_false_of_ne hsemi]

lemma escapesSemicolon_of_append (hesc : c ≠ '\\') (lead : List Char)
    (h : escapesSemicolon escaped (lead ++ c :: rest) = false) : escapesSemicolon false rest = false := by
  induction lead generalizing escaped with
  | nil =>
    simp only [List.nil_append, escapesSemicolon, Bool.or_eq_false_iff] at h
    simpa [beq_false_of_ne hesc] using h.2
  | cons d lead ih =>
    simp only [List.cons_append, escapesSemicolon, Bool.or_eq_false_iff] at h
    exact ih h.2

lemma escapesSemicolon_blanks (n : ℕ) :
    escapesSemicolon false (List.replicate n ' ' ++ rest) = escapesSemicolon false rest := by
  induction n with
  | zero => rfl
  | succ n ih =>
    rw [List.replicate_succ, List.cons_append, escapesSemicolon_cons (by decide) (by decide), ih]

lemma escapesSemicolon_mask (h : escapesSemicolon escaped text = false) :
    escapesSemicolon escaped (mask text) = false := by
  induction text using pieces_induction generalizing escaped with
  | nil => simpa [mask, pieces] using h
  | literal c body rest hc hbody ih =>
    have hesc : c ≠ '\\' := ne_of_isQuote hc (by decide)
    have hsemi : c ≠ ';' := ne_of_isQuote hc (by decide)
    rw [← List.cons_append] at h
    rw [mask_quote hc hbody, escapesSemicolon_cons hesc hsemi, escapesSemicolon_blanks,
      escapesSemicolon_cons hesc hsemi]
    exact ih (escapesSemicolon_of_append hesc _ h)
  | unclosed c rest hc hopen ih =>
    rw [mask_open hopen]
    simp only [escapesSemicolon, Bool.or_eq_false_iff] at h ⊢
    exact h.imp_right ih
  | single c rest hc ih =>
    rw [mask_single hc]
    simp only [escapesSemicolon, Bool.or_eq_false_iff] at h ⊢
    exact h.imp_right ih

lemma inside?_filter (hquote : isQuote quote = true) (h : escapesSemicolon false text = false) :
    inside? quote (text.filter (· != ';')) = (inside? quote text).map fun p =>
      (p.1.filter (· != ';'), p.2.filter (· != ';')) := by
  have hesc : quote ≠ '\\' := ne_of_isQuote hquote (by decide)
  have hsemi : quote ≠ ';' := ne_of_isQuote hquote (by decide)
  fun_induction inside? quote text with
  | case1 => simp [inside?]
  | case2 => simp [inside?]
  | case3 c rest hc ih =>
    simp only [escapesSemicolon, Bool.or_eq_false_iff] at h
    have hcs : c ≠ ';' := by simpa using h.2.1
    have hrest : escapesSemicolon false rest = false := by simpa using h.2.2
    simp [hcs, inside?_escape hc, ih hrest, Function.comp_def]
  | case4 c rest => simp [hsemi, inside?_self hesc]
  | case5 rest hlast =>
    cases rest with
    | nil => simp [inside?, hesc.symm]
    | cons d rest => exact absurd rfl (hlast d rest rfl)
  | case6 c rest hfirst hc hcesc ih =>
    simp only [escapesSemicolon, Bool.or_eq_false_iff] at h
    have hrest : escapesSemicolon false rest = false := by
      simpa [beq_false_of_ne hcesc] using h.2
    by_cases hcs : c = ';'
    · subst hcs
      simp [ih hrest, Function.comp_def]
    · simp [hcs, inside?_plain hc hcesc, ih hrest, Function.comp_def]

lemma pieces_filter (h : escapesSemicolon escaped text = false) :
    pieces (text.filter (· != ';')) = (pieces text).filterMap Piece.thin? := by
  induction text using pieces_induction generalizing escaped with
  | nil => simp [pieces]
  | literal c body rest hc hbody ih =>
    have hesc : c ≠ '\\' := ne_of_isQuote hc (by decide)
    have hsemi : c ≠ ';' := ne_of_isQuote hc (by decide)
    rw [escapesSemicolon_cons hesc hsemi] at h
    have hinside := inside?_filter hc h
    rw [inside?_literal hc hbody] at hinside
    have hthin : Body c (body.filter (· != ';')) := body_of_inside? hinside
    simp [hsemi, pieces_quote hc hbody, pieces_quote hc hthin, Piece.thin?,
      ih (escapesSemicolon_of_append hesc body h)]
  | unclosed c rest hc hopen ih =>
    have hesc : c ≠ '\\' := ne_of_isQuote hc (by decide)
    have hsemi : c ≠ ';' := ne_of_isQuote hc (by decide)
    rw [escapesSemicolon_cons hesc hsemi] at h
    have hopen' : inside? c (rest.filter (· != ';')) = none := by simp [inside?_filter hc h, hopen]
    simp [hsemi, pieces_open hopen, pieces_open hopen', Piece.thin?, ih h]
  | single c rest hc ih =>
    simp only [escapesSemicolon, Bool.or_eq_false_iff] at h
    by_cases hcs : c = ';'
    · subst hcs
      simp [pieces_single hc, Piece.thin?, ih h.2]
    · simp [hcs, pieces_single hc, Piece.thin?, ih h.2]

end Semicolon

end GenKill.Text
