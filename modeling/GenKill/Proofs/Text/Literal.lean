import GenKill.Text.Literal
import Mathlib.Data.List.Basic
import Mathlib.Data.List.Flatten

/-! Literals, said without a scan: a quote, a body that cannot close it, and the quote again. A text is
cut into the leftmost literals and the characters outside them, and its mask is cut at the same places:
blanking the inside of the literals neither closes a quote that was open nor opens another. -/

namespace GenKill.Text

inductive Body (quote : Char) : List Char → Prop where
  | nil : Body quote []
  | escape {c : Char} {body : List Char} (hc : c ≠ '\n') (h : Body quote body) :
    Body quote ('\\' :: c :: body)
  | plain {c : Char} {body : List Char} (hc : c ≠ quote) (hesc : c ≠ '\\') (h : Body quote body) :
    Body quote (c :: body)

lemma isQuote_iff {c : Char} : isQuote c = true ↔ c = '"' ∨ c = '\'' := by
  simp [isQuote]

lemma ne_of_isQuote {c d : Char} (hc : isQuote c = true) (hd : isQuote d = false) : c ≠ d := by
  rintro rfl
  simp [hc] at hd

section Scan

variable {quote c : Char} {text body rest : List Char}

lemma inside?_escape (hc : c ≠ '\n') :
    inside? quote ('\\' :: c :: rest) = (inside? quote rest).map fun p => ('\\' :: c :: p.1, p.2) := by
  simp [inside?, hc]

lemma inside?_plain (hc : c ≠ quote) (hesc : c ≠ '\\') :
    inside? quote (c :: rest) = (inside? quote rest).map fun p => (c :: p.1, p.2) := by
  simp [inside?, hc, hesc]

lemma inside?_self (hquote : quote ≠ '\\') : inside? quote (quote :: rest) = some ([], rest) := by
  simp [inside?, hquote]

lemma Body.inside?_append (h : Body quote body) :
    inside? quote (body ++ rest) = (inside? quote rest).map fun p => (body ++ p.1, p.2) := by
  induction h with
  | nil => simp
  | escape hc _ ih => simp [inside?_escape hc, ih, Function.comp_def]
  | plain hc hesc _ ih => simp [inside?_plain hc hesc, ih, Function.comp_def]

lemma body_of_inside? (h : inside? quote text = some (body, rest)) : Body quote body := by
  fun_induction inside? quote text generalizing body with
  | case1 => simp at h
  | case2 => simp at h
  | case3 c text hc ih =>
    obtain ⟨⟨b, r⟩, hb, he⟩ := Option.map_eq_some_iff.mp h
    obtain ⟨rfl, rfl⟩ := Prod.mk.inj he
    exact .escape hc (ih hb)
  | case4 => simp_all [Body.nil]
  | case5 => simp at h
  | case6 c text _ hc hesc ih =>
    obtain ⟨⟨b, r⟩, hb, he⟩ := Option.map_eq_some_iff.mp h
    obtain ⟨rfl, rfl⟩ := Prod.mk.inj he
    exact .plain hc hesc (ih hb)

lemma inside?_eq_some_iff (hquote : quote ≠ '\\') :
    inside? quote text = some (body, rest) ↔ text = body ++ quote :: rest ∧ Body quote body := by
  constructor
  · intro h
    exact ⟨eq_of_inside? h, body_of_inside? h⟩
  · rintro ⟨rfl, hbody⟩
    simp [hbody.inside?_append, inside?_self hquote]

lemma inside?_escape_eq_none_iff :
    inside? quote ('\\' :: c :: rest) = none ↔ c = '\n' ∨ inside? quote rest = none := by
  by_cases hc : c = '\n' <;> simp [inside?, hc]

lemma inside?_cons_eq_none_iff (hesc : c ≠ '\\') :
    inside? quote (c :: rest) = none ↔ c ≠ quote ∧ inside? quote rest = none := by
  by_cases hc : c = quote
  · subst hc
    simp [inside?_self hesc]
  · simp [inside?_plain hc hesc, hc]

lemma Body.inside?_eq_none (h : Body c body) (hesc : c ≠ '\\')
    (hnone : inside? quote (body ++ c :: rest) = none) : c ≠ quote ∧ inside? quote rest = none := by
  induction h with
  | nil => exact (inside?_cons_eq_none_iff hesc).mp hnone
  | escape hd _ ih => exact ih ((inside?_escape_eq_none_iff.mp hnone).resolve_left hd)
  | plain _ hd _ ih => exact ih ((inside?_cons_eq_none_iff hd).mp hnone).2

lemma inside?_literal (hquote : isQuote quote = true) (hbody : Body quote body) :
    inside? quote (body ++ quote :: rest) = some (body, rest) :=
  (inside?_eq_some_iff (ne_of_isQuote hquote (by decide))).mpr ⟨rfl, hbody⟩

lemma body_blanks (hquote : isQuote quote = true) (n : ℕ) : Body quote (List.replicate n ' ') := by
  induction n with
  | zero => exact .nil
  | succ n ih => exact .plain (ne_of_isQuote hquote (by decide)).symm (by decide) ih

end Scan

namespace Piece

def blank : Piece → Piece
  | single c => single c
  | literal quote body => literal quote (body.map fun _ => ' ')

lemma masked_blank (p : Piece) : p.blank.masked = p.masked := by
  cases p <;> simp [blank, masked]

end Piece

section Mask

variable {quote c : Char} {text body rest : List Char}

lemma pieces_quote (hc : isQuote c = true) (hbody : Body c body) :
    pieces (c :: (body ++ c :: rest)) = .literal c body :: pieces rest := by
  have hinside : inside? c (body ++ c :: rest) = some (body, rest) := inside?_literal hc hbody
  rw [pieces, if_pos hc]
  split <;> simp_all

lemma pieces_open (hinside : inside? c rest = none) : pieces (c :: rest) = .single c :: pieces rest := by
  rw [pieces]
  split
  · split <;> simp_all
  · rfl

lemma pieces_single (hc : isQuote c = false) : pieces (c :: rest) = .single c :: pieces rest := by
  rw [pieces, if_neg (by simp [hc])]

lemma mask_quote (hc : isQuote c = true) (hbody : Body c body) :
    mask (c :: (body ++ c :: rest)) = c :: (List.replicate body.length ' ' ++ c :: mask rest) := by
  simp [mask, pieces_quote hc hbody, Piece.masked, List.map_const']

lemma mask_open (hinside : inside? c rest = none) : mask (c :: rest) = c :: mask rest := by
  simp [mask, pieces_open hinside, Piece.masked]

lemma mask_single (hc : isQuote c = false) : mask (c :: rest) = c :: mask rest := by
  simp [mask, pieces_single hc, Piece.masked]

@[elab_as_elim]
lemma pieces_induction {motive : List Char → Prop} (text : List Char) (nil : motive [])
    (literal : ∀ c body rest, isQuote c = true → Body c body → motive rest →
      motive (c :: (body ++ c :: rest)))
    (unclosed : ∀ c rest, isQuote c = true → inside? c rest = none → motive rest → motive (c :: rest))
    (single : ∀ c rest, isQuote c = false → motive rest → motive (c :: rest)) : motive text := by
  fun_induction pieces text with
  | case1 => exact nil
  | case2 c rest hc body rest' h ih =>
    rw [eq_of_inside? h]
    exact literal c body rest' hc (body_of_inside? h) ih
  | case3 c rest hc h ih => exact unclosed c rest hc h ih
  | case4 c rest hc ih => exact single c rest (by simpa using hc) ih

lemma inside?_mask_eq_none (hquote : isQuote quote = true) (text : List Char) :
    (inside? quote text = none → inside? quote (mask text) = none) ∧
    (inside? quote ('\\' :: text) = none → inside? quote ('\\' :: mask text) = none) := by
  induction text using pieces_induction with
  | nil => simp [mask, pieces]
  | literal c body rest hc hbody ih =>
    have hesc : c ≠ '\\' := ne_of_isQuote hc (by decide)
    have hbehind (h : inside? quote (body ++ c :: rest) = none) :
        inside? quote (List.replicate body.length ' ' ++ c :: mask rest) = none := by
      obtain ⟨hne, hrest⟩ := hbody.inside?_eq_none hesc h
      simp [(body_blanks hquote _).inside?_append, inside?_plain hne hesc, ih.1 hrest]
    rw [mask_quote hc hbody, inside?_cons_eq_none_iff hesc, inside?_cons_eq_none_iff hesc,
      inside?_escape_eq_none_iff, inside?_escape_eq_none_iff]
    exact ⟨And.imp_right hbehind, Or.imp_right hbehind⟩
  | unclosed c rest hc hopen ih =>
    have hesc : c ≠ '\\' := ne_of_isQuote hc (by decide)
    rw [mask_open hopen, inside?_cons_eq_none_iff hesc, inside?_cons_eq_none_iff hesc,
      inside?_escape_eq_none_iff, inside?_escape_eq_none_iff]
    exact ⟨And.imp_right ih.1, Or.imp_right ih.1⟩
  | single c rest hc ih =>
    rw [mask_single hc, inside?_escape_eq_none_iff, inside?_escape_eq_none_iff]
    refine ⟨fun h => ?_, Or.imp_right ih.1⟩
    -- a backslash takes the next character with it, which may open a literal of the other kind
    by_cases hesc : c = '\\'
    · subst hesc
      exact ih.2 h
    · rw [inside?_cons_eq_none_iff hesc] at h ⊢
      exact h.imp_right ih.1

lemma pieces_mask (text : List Char) : pieces (mask text) = (pieces text).map Piece.blank := by
  induction text using pieces_induction with
  | nil => simp [mask, pieces]
  | literal c body rest hc hbody ih =>
    rw [mask_quote hc hbody, pieces_quote hc (body_blanks hc _), pieces_quote hc hbody, ih]
    simp [Piece.blank, List.map_const']
  | unclosed c rest hc hopen ih =>
    rw [mask_open hopen, pieces_open ((inside?_mask_eq_none hc rest).1 hopen), pieces_open hopen, ih]
    rfl
  | single c rest hc ih =>
    rw [mask_single hc, pieces_single hc, pieces_single hc, ih]
    rfl

end Mask

structure Span where
  start : ℕ
  stop : ℕ
  deriving DecidableEq

namespace Span

def shift (k : ℕ) (s : Span) : Span := ⟨s.start + k, s.stop + k⟩

def Inner (s : Span) (i : ℕ) : Prop := s.start < i ∧ i + 1 < s.stop

instance (s : Span) (i : ℕ) : Decidable (s.Inner i) := inferInstanceAs (Decidable (_ ∧ _))

lemma inner_shift {s : Span} {i k : ℕ} : (s.shift k).Inner (i + k) ↔ s.Inner i := by
  simp only [Inner, shift]
  omega

lemma not_inner_shift {s : Span} {i k : ℕ} (hi : i ≤ k) : ¬ (s.shift k).Inner i := by
  simp only [Inner, shift]
  omega

end Span

def Piece.spans : Piece → List Span
  | single _ => []
  | literal _ body => [⟨0, body.length + 2⟩]

def spansOf : List Piece → List Span
  | [] => []
  | p :: ps => p.spans ++ (spansOf ps).map (Span.shift p.text.length)

def spans (text : List Char) : List Span := spansOf (pieces text)

def LiteralAt (text : List Char) (s : Span) : Prop :=
  ∃ before quote body after, text = before ++ quote :: (body ++ quote :: after) ∧
    isQuote quote = true ∧ Body quote body ∧ s = ⟨before.length, before.length + body.length + 2⟩

/-- Literals one behind the other, such that no literal begins outside them. -/
structure Leftmost (text : List Char) (l : List Span) : Prop where
  literal : ∀ s ∈ l, LiteralAt text s
  apart : l.Pairwise fun s t => s.stop ≤ t.start
  covers : ∀ s, LiteralAt text s → ∃ t ∈ l, t.start ≤ s.start ∧ s.start < t.stop

section Spans

variable {c : Char} {body rest : List Char} {s : Span}

lemma spans_quote (hc : isQuote c = true) (hbody : Body c body) :
    spans (c :: (body ++ c :: rest)) =
      ⟨0, body.length + 2⟩ :: (spans rest).map (Span.shift (body.length + 2)) := by
  simp [spans, pieces_quote hc hbody, spansOf, Piece.spans, Piece.text]

lemma spans_open (hopen : inside? c rest = none) :
    spans (c :: rest) = (spans rest).map (Span.shift 1) := by
  simp [spans, pieces_open hopen, spansOf, Piece.spans, Piece.text]

lemma spans_single (hc : isQuote c = false) : spans (c :: rest) = (spans rest).map (Span.shift 1) := by
  simp [spans, pieces_single hc, spansOf, Piece.spans, Piece.text]

lemma spans_mask (text : List Char) : spans (mask text) = spans text := by
  have h : ∀ ps : List Piece, spansOf (ps.map Piece.blank) = spansOf ps := by
    intro ps
    induction ps with
    | nil => rfl
    | cons p ps ih => cases p <;> simp [spansOf, Piece.blank, Piece.spans, Piece.text, ih]
  rw [spans, pieces_mask, h, spans]

lemma LiteralAt.shift {text : List Char} (h : LiteralAt text s) (lead : List Char) :
    LiteralAt (lead ++ text) (s.shift lead.length) := by
  obtain ⟨before, quote, body, after, rfl, hquote, hbody, rfl⟩ := h
  refine ⟨lead ++ before, quote, body, after, by simp, hquote, hbody, ?_⟩
  simp only [Span.shift, List.length_append, Span.mk.injEq]
  omega

lemma LiteralAt.exists_shift {lead text : List Char} (h : LiteralAt (lead ++ text) s)
    (hs : lead.length ≤ s.start) : ∃ t, LiteralAt text t ∧ s = t.shift lead.length := by
  obtain ⟨before, quote, body, after, heq, hquote, hbody, rfl⟩ := h
  obtain ⟨before, rfl⟩ : lead <+: before :=
    List.prefix_of_prefix_length_le (List.prefix_append lead text) (heq ▸ List.prefix_append before _) hs
  rw [List.append_assoc, List.append_cancel_left_eq] at heq
  refine ⟨_, ⟨before, quote, body, after, heq, hquote, hbody, rfl⟩, ?_⟩
  simp only [Span.shift, List.length_append, Span.mk.injEq]
  omega

lemma Leftmost.append {l : List Span} (lead : List Char) (own : List Span) (h : Leftmost rest l)
    (literal : ∀ s ∈ own, LiteralAt (lead ++ rest) s) (apart : own.Pairwise fun s t => s.stop ≤ t.start)
    (within : ∀ s ∈ own, s.stop ≤ lead.length)
    (covers : ∀ s, LiteralAt (lead ++ rest) s → s.start < lead.length →
      ∃ t ∈ own, t.start ≤ s.start ∧ s.start < t.stop) :
    Leftmost (lead ++ rest) (own ++ l.map (Span.shift lead.length)) where
  literal s hs := by
    rcases List.mem_append.mp hs with hs | hs
    · exact literal s hs
    · obtain ⟨t, ht, rfl⟩ := List.mem_map.mp hs
      exact (h.literal t ht).shift lead
  apart := by
    rw [List.pairwise_append, List.pairwise_map]
    refine ⟨apart, h.apart.imp fun hst => Nat.add_le_add_right hst _, fun s hs t ht => ?_⟩
    obtain ⟨u, -, rfl⟩ := List.mem_map.mp ht
    exact Nat.le_add_left_of_le (within s hs)
  covers s hs := by
    rcases Nat.lt_or_ge s.start lead.length with hlt | hge
    · obtain ⟨t, ht, hst⟩ := covers s hs hlt
      exact ⟨t, List.mem_append_left _ ht, hst⟩
    · obtain ⟨t, ht, rfl⟩ := hs.exists_shift hge
      obtain ⟨u, hu, hle, hlt⟩ := h.covers t ht
      exact ⟨_, List.mem_append_right _ (List.mem_map_of_mem hu), Nat.add_le_add_right hle _,
        Nat.add_lt_add_right hlt _⟩

lemma LiteralAt.start_ne_zero (h : LiteralAt (c :: rest) s)
    (hc : isQuote c = true → inside? c rest = none) : s.start ≠ 0 := by
  obtain ⟨before, quote, body, after, heq, hquote, hbody, rfl⟩ := h
  intro hzero
  obtain rfl := List.length_eq_zero_iff.mp hzero
  obtain ⟨rfl, rfl⟩ := List.cons.inj heq
  simp [inside?_literal hquote hbody] at hc
  exact absurd hquote (by simp [hc])

lemma Leftmost.cons {l : List Span} (h : Leftmost rest l) (hc : isQuote c = true → inside? c rest = none) :
    Leftmost (c :: rest) (l.map (Span.shift 1)) := by
  refine h.append [c] [] nofun .nil nofun fun s hs hlt => ?_
  exact absurd (Nat.lt_one_iff.mp hlt) (hs.start_ne_zero hc)

lemma leftmost_spans (text : List Char) : Leftmost text (spans text) := by
  induction text using pieces_induction with
  | nil =>
    rw [spans, pieces]
    exact ⟨by simp [spansOf], .nil, by simp [LiteralAt]⟩
  | literal c body rest hc hbody ih =>
    have hlead : c :: (body ++ c :: rest) = (c :: body ++ [c]) ++ rest := by simp
    have hlength : (c :: body ++ [c]).length = body.length + 2 := by simp
    rw [spans_quote hc hbody, hlead, ← hlength]
    apply ih.append (c :: body ++ [c]) [⟨0, (c :: body ++ [c]).length⟩]
    · intro s hs
      obtain rfl := List.mem_singleton.mp hs
      exact ⟨[], c, body, rest, by simp, hc, hbody, by simp⟩
    · exact List.pairwise_singleton _ _
    · simp
    · intro s _ hlt
      exact ⟨_, List.mem_singleton_self _, Nat.zero_le _, hlt⟩
  | unclosed c rest hc hopen ih =>
    rw [spans_open hopen]
    exact ih.cons fun _ => hopen
  | single c rest hc ih =>
    rw [spans_single hc]
    exact ih.cons fun h => by simp [hc] at h

lemma Piece.getElem?_masked (p : Piece) {i : ℕ} (hi : i < p.text.length) :
    p.masked[i]? = if ∃ s ∈ p.spans, s.Inner i then some ' ' else p.text[i]? := by
  cases p with
  | single c => simp [masked, text, Piece.spans]
  | literal quote body =>
    simp only [text, List.length_append, List.length_cons, List.length_nil] at hi
    simp only [masked, text, Piece.spans, List.mem_singleton, exists_eq_left, Span.Inner,
      List.cons_append, List.map_const']
    cases i with
    | zero => simp
    | succ i =>
      rcases Nat.lt_or_ge i body.length with hlt | hge
      · simp [hlt, List.getElem?_append_left]
      · obtain rfl : i = body.length := by omega
        simp

lemma Piece.not_inner (p : Piece) {i : ℕ} (hi : p.text.length ≤ i) : ¬ ∃ s ∈ p.spans, s.Inner i := by
  cases p with
  | single c => simp [Piece.spans]
  | literal quote body =>
    simp only [text, List.length_append, List.length_cons, List.length_nil] at hi
    simp only [Piece.spans, List.mem_singleton, exists_eq_left, Span.Inner]
    omega

lemma getElem?_flatMap_masked (ps : List Piece) (i : ℕ) :
    (ps.flatMap Piece.masked)[i]? =
      if ∃ s ∈ spansOf ps, s.Inner i then some ' ' else (ps.flatMap Piece.text)[i]? := by
  induction ps generalizing i with
  | nil => simp [spansOf]
  | cons p ps ih =>
    have hlength : p.masked.length = p.text.length := by cases p <;> simp [Piece.masked, Piece.text]
    simp only [List.flatMap_cons, spansOf, List.mem_append, or_and_right, exists_or]
    rcases Nat.lt_or_ge i p.text.length with hi | hi
    · rw [List.getElem?_append_left (hlength ▸ hi), List.getElem?_append_left hi,
        p.getElem?_masked hi]
      simp [Span.not_inner_shift (Nat.le_of_lt hi)]
    · obtain ⟨j, rfl⟩ := Nat.exists_eq_add_of_le' hi
      rw [List.getElem?_append_right (hlength ▸ hi), List.getElem?_append_right hi, hlength,
        Nat.add_sub_cancel, ih]
      simp [Span.inner_shift, p.not_inner hi]

end Spans

/-- Masking keeps the length of a text, the characters outside its literals and the quotes around them,
and puts a space for everything else. The literals of the mask stand where those of the text stand, so
a second masking changes nothing. -/
theorem mask_keeps_literals (text : List Char) :
    Leftmost text (spans text) ∧
    (mask text).length = text.length ∧
    (∀ i, (mask text)[i]? = if ∃ s ∈ spans text, s.Inner i then some ' ' else text[i]?) ∧
    Leftmost (mask text) (spans text) ∧ spans (mask text) = spans text ∧
    mask (mask text) = mask text := by
  have hspans := spans_mask text
  refine ⟨leftmost_spans text, length_mask text, fun i => ?_, ?_, hspans, ?_⟩
  · rw [mask, getElem?_flatMap_masked, flatMap_text_pieces, spans]
  · rw [← hspans]
    exact leftmost_spans (mask text)
  · rw [mask, pieces_mask, List.flatMap_map, mask]
    simp only [Piece.masked_blank]

end GenKill.Text
