import GenKill.Proofs.Fact.Naming
import GenKill.Proofs.Ordering
import GenKill.Proofs.Text.Occurrence

/-! The names that a text reads, searched for with a pattern. The search tries every place from left to
right, takes as many word characters as there are and gives them back one by one until the pattern fits.
It finds whole words only, so going through the words of the text finds the same names at the same
places. -/

namespace GenKill

open Text

namespace Text

def isBorder (a b : Option Char) : Bool := a.any isWord != b.any isWord

/-- The pattern at one place, with the character `last` before it: neither a word character nor a dot,
then a name up to a border, and no call behind it. The longest name is tried first. The result is the
number of its characters behind the first. -/
def nameTail? (last : Option Char) (text : List Char) : Option ℕ :=
  if last.any (fun c => isWord c || c == '.') || !isName text then none
  else (List.range ((text.tail.takeWhile isWord).length + 1)).reverse.find? fun k =>
    isBorder text[k]? text[k + 1]? && !opensCall (text.drop (k + 1))

/-- The places at which the pattern fits, with the names. A match is passed over before the next is
looked for, and `pass` says how many of its characters are left. -/
def search (place : ℕ) (last : Option Char) : ℕ → List Char → List (ℕ × List Char)
  | _, [] => []
  | pass + 1, c :: rest => search (place + 1) (some c) pass rest
  | 0, c :: rest =>
    match nameTail? last (c :: rest) with
    | some k => (place, c :: rest.take k) :: search (place + 1) (some c) k rest
    | none => search (place + 1) (some c) 0 rest

section Search

variable {place : ℕ} {last : Option Char} {c : Char} {w rest : List Char}

lemma search_none (h : nameTail? last (c :: rest) = none) :
    search place last 0 (c :: rest) = search (place + 1) (some c) 0 rest := by
  simp only [search, h]

lemma search_some {k : ℕ} (h : nameTail? last (c :: rest) = some k) :
    search place last 0 (c :: rest) = (place, c :: rest.take k) :: search (place + 1) (some c) k rest := by
  simp only [search, h]

lemma getLast?_cons_or (last : Option Char) (c : Char) (w : List Char) :
    (c :: w).getLast?.or last = w.getLast?.or (some c) := by
  cases h : w.getLast? <;> simp [List.getLast?_cons, h]

lemma search_pass (place : ℕ) (last : Option Char) (w rest : List Char) :
    search place last w.length (w ++ rest) = search (place + w.length) (w.getLast?.or last) 0 rest := by
  induction w generalizing place last with
  | nil => rfl
  | cons c w ih =>
    rw [getLast?_cons_or, List.length_cons, List.cons_append, search, ih, Nat.add_right_comm, Nat.add_assoc]

lemma search_skip (h : ∀ a c b, w = a ++ c :: b → nameTail? (a.getLast?.or last) (c :: (b ++ rest)) = none) :
    search place last 0 (w ++ rest) = search (place + w.length) (w.getLast?.or last) 0 rest := by
  induction w generalizing place last with
  | nil => rfl
  | cons c w ih =>
    have hc : nameTail? last (c :: (w ++ rest)) = none := h [] c w rfl
    have hw : search (place + 1) (some c) 0 (w ++ rest) =
        search (place + 1 + w.length) (w.getLast?.or (some c)) 0 rest := by
      apply ih
      intro a d b heq
      rw [← getLast?_cons_or last]
      exact h (c :: a) d b (by rw [heq]; rfl)
    rw [List.cons_append, search_none hc, hw, getLast?_cons_or, List.length_cons, Nat.add_right_comm,
      Nat.add_assoc]

lemma isName_eq_false (h : ∀ c ∈ w.head?, isWord c = false) : isName w = false := by
  cases w with
  | nil => rfl
  | cons c w =>
    by_contra hname
    obtain ⟨d, hd, hword⟩ := isWord_of_isName (w := [c]) (by simpa [isName] using hname)
    rw [List.mem_singleton.mp hd, h c rfl] at hword
    cases hword

lemma search_gap (h : ∀ c ∈ w, isWord c = false) :
    search place last 0 (w ++ rest) = search (place + w.length) (w.getLast?.or last) 0 rest := by
  apply search_skip
  rintro a c b rfl
  have hname : isName (c :: (b ++ rest)) = false := isName_eq_false (by simpa using h c (by simp))
  simp [nameTail?, hname]

lemma nameTail?_of_isWord {text : List Char} (hlast : last.any isWord = true) : nameTail? last text = none := by
  cases last with
  | none => cases hlast
  | some d =>
    have hd : isWord d = true := hlast
    simp [nameTail?, hd]

lemma search_within (hc : isWord c = true) (h : ∀ d ∈ w, isWord d = true) :
    search place (some c) 0 (w ++ rest) = search (place + w.length) (w.getLast?.or (some c)) 0 rest := by
  apply search_skip
  rintro a d b rfl
  apply nameTail?_of_isWord
  cases hlast : a.getLast? with
  | none => exact hc
  | some e => exact h e (List.mem_append_left _ (List.mem_of_getLast? hlast))

lemma isBorder_word (hw : WholeWord w) (hrest : ∀ d ∈ rest.head?, isWord d = false) {k : ℕ} (hk : k < w.length) :
    isBorder (w ++ rest)[k]? (w ++ rest)[k + 1]? = decide (k + 1 = w.length) := by
  have hinner (k : ℕ) (hk : k < w.length) : (w ++ rest)[k]?.any isWord = true := by
    rw [List.getElem?_append_left hk, List.getElem?_eq_getElem hk]
    exact hw.2 _ (List.getElem_mem hk)
  rw [isBorder, hinner k hk]
  by_cases hend : k + 1 = w.length
  · have hnext : (w ++ rest)[k + 1]?.any isWord = false := by
      rw [hend, List.getElem?_append_right le_rfl, Nat.sub_self, ← List.head?_eq_getElem?]
      cases hd : rest.head? with
      | none => rfl
      | some d => exact hrest d hd
    rw [hnext, decide_eq_true hend]
    rfl
  · rw [hinner (k + 1) (by omega), decide_eq_false hend]
    rfl

lemma nameTail?_word (hw : WholeWord (c :: w)) (hlast : last.any isWord = false)
    (hrest : ∀ d ∈ rest.head?, isWord d = false) :
    nameTail? last (c :: (w ++ rest)) =
      if isName (c :: w) && !(last == some '.') && !opensCall rest then some w.length else none := by
  have hguard : (last.any (fun d => isWord d || d == '.') || !isName (c :: (w ++ rest))) =
      !(isName (c :: w) && !(last == some '.')) := by
    cases last with
    | none => simp [isName]
    | some d =>
      have hd : isWord d = false := hlast
      simp [isName, hd, Bool.or_comm]
  have htail : (c :: (w ++ rest)).tail.takeWhile isWord = w := by
    have hnil : rest.takeWhile isWord = [] := by
      cases rest with
      | nil => rfl
      | cons d rest => exact List.takeWhile_cons_of_neg (by simp [hrest d rfl])
    rw [List.tail_cons, List.takeWhile_append_of_pos (List.forall_mem_cons.mp hw.2).2, hnil, List.append_nil]
  have hborder (k : ℕ) (hk : k < w.length + 1) :
      isBorder (c :: (w ++ rest))[k]? (c :: (w ++ rest))[k + 1]? = decide (k + 1 = w.length + 1) :=
    isBorder_word hw hrest hk
  -- inside the word there is no border, so no part of it is tried with success once the whole has failed
  have hshorter : (List.range w.length).reverse.find? (fun k =>
      isBorder (c :: (w ++ rest))[k]? (c :: (w ++ rest))[k + 1]? &&
        !opensCall ((c :: (w ++ rest)).drop (k + 1))) = none := by
    rw [List.find?_eq_none]
    intro k hk
    have hlt : k < w.length := by simpa using hk
    rw [hborder k (by omega), decide_eq_false (by omega)]
    simp
  have hlongest : (c :: (w ++ rest)).drop (w.length + 1) = rest := by simp
  rw [nameTail?, hguard, htail, List.range_succ, List.reverse_concat, List.find?_cons, hshorter, hlongest,
    hborder w.length (Nat.lt_succ_self _), decide_eq_true rfl]
  cases isName (c :: w) <;> cases last == some '.' <;> cases opensCall rest <;> rfl

lemma search_word (hw : WholeWord w) (hlast : last.any isWord = false)
    (hrest : ∀ d ∈ rest.head?, isWord d = false) :
    search place last 0 (w ++ rest) =
      (if isName w && !(last == some '.') && !opensCall rest then [(place, w)] else []) ++
        search (place + w.length) w.getLast? 0 rest := by
  obtain ⟨c, w, rfl⟩ := List.exists_cons_of_ne_nil hw.1
  have htail := nameTail?_word hw hlast hrest
  have hbehind : (c :: w).getLast? = w.getLast?.or (some c) := by
    rw [← getLast?_cons_or none, Option.or_none]
  have hplace : place + (c :: w).length = place + 1 + w.length := by
    rw [List.length_cons, Nat.add_right_comm, Nat.add_assoc]
  rw [List.cons_append, hplace, hbehind]
  split at htail
  case isTrue hread =>
    rw [search_some htail, search_pass, List.take_left, if_pos hread, List.singleton_append]
  case isFalse hread =>
    obtain ⟨hc, hwords⟩ := List.forall_mem_cons.mp hw.2
    rw [search_none htail, search_within hc hwords, if_neg hread, List.nil_append]

lemma search_flatten {l : List (List Char)} (hruns : runs l.flatten = l)
    (hlast : ∀ run ∈ l.head?, ∀ c ∈ run, isWord c = true → last.any isWord = false) :
    search place last 0 l.flatten = namesFrom place (last == some '.') l := by
  induction l generalizing place last with
  | nil => rfl
  | cons run l ih =>
    have hsplit : runs (run :: l).flatten = [run] ++ l := hruns
    have hfirst : runs (run :: l).flatten = [] ++ run :: l := hruns
    obtain ⟨-, hl⟩ := runs_flatten_of_append hsplit
    have hne : run ≠ [] := ne_nil_of_runs hruns List.mem_cons_self
    obtain ⟨c, hc⟩ := List.exists_mem_of_ne_nil run hne
    have hor : run.getLast?.or last = run.getLast? := by
      rw [List.getLast?_eq_some_getLast hne, Option.some_or]
    rw [List.flatten_cons]
    cases hword : isWord c with
    | true =>
      have hoccurs : Occurs (run :: l).flatten [] run l.flatten := occurs_of_runs hfirst hc hword
      have hcall : opensCall l.flatten = l.head?.any opensCall := by
        rw [← head?_runs hoccurs.right, hl]
      have hgap : ∀ r ∈ l.head?, ∀ d ∈ r, isWord d = true → run.getLast?.any isWord = false := by
        intro r hr d hd hd'
        obtain ⟨more, rfl⟩ := List.head?_eq_some_iff.mp hr
        rw [isWord_of_runs hfirst hc hd, hword] at hd'
        cases hd'
      rw [search_word hoccurs.word (hlast run rfl c hc hword) hoccurs.right, ih hl hgap, hcall, namesFrom]
      split <;> rfl
    | false =>
      have hgap (d : Char) (hd : d ∈ run) : isWord d = false := by
        rw [← hword]
        exact isWord_eq_of_mem_runs (hruns ▸ List.mem_cons_self) hd hc
      have hname : isName run = false := isName_eq_false fun d hd => hgap d (List.mem_of_mem_head? hd)
      have hnext : run.getLast?.any isWord = false := by
        rw [List.getLast?_eq_some_getLast hne]
        exact hgap _ (List.getLast_mem hne)
      rw [search_gap hgap, hor, ih hl fun _ _ _ _ _ => hnext, namesFrom, hname]
      rfl

lemma search_eq (text : List Char) : search 0 none 0 text = namesFrom 0 false (runs text) := by
  have h : search 0 none 0 (runs text).flatten = namesFrom 0 (none == some '.') (runs text) :=
    search_flatten (by rw [flatten_runs]) fun _ _ _ _ _ => rfl
  rwa [flatten_runs] at h

example : search 0 none 0 "count (n2) - v.n2".toList = [(7, ['n', '2']), (13, ['v'])] := by decide

end Search

lemma le_of_mem_namesFrom {k : ℕ} {afterDot : Bool} {l : List (List Char)} {r : ℕ × List Char}
    (h : r ∈ namesFrom k afterDot l) : k ≤ r.1 := by
  obtain ⟨pre, post, -, hplace, -⟩ := mem_namesFrom_iff.mp h
  omega

lemma namesFrom_pairwise (k : ℕ) (afterDot : Bool) (l : List (List Char)) :
    (namesFrom k afterDot l).Pairwise fun r s => r.1 < s.1 := by
  induction l generalizing k afterDot with
  | nil => exact .nil
  | cons run rest ih =>
    simp only [namesFrom]
    split
    case isTrue hread =>
      have hne : run ≠ [] := by
        rintro rfl
        simp [isName] at hread
      refine List.pairwise_cons.mpr ⟨fun r hr => ?_, ih _ _⟩
      have hle := le_of_mem_namesFrom hr
      have hpos := List.length_pos_of_ne_nil hne
      omega
    case isFalse => exact ih _ _

end Text

namespace Statement

theorem usedIn_eq_word_scan (p : Profile) (text : List Char) :
    let found := (search 0 none 0 (emptyLiterals text)).filter fun r => String.ofList r.2 ∉ p.ignored
    usedIn p text = (found.map fun r => String.ofList r.2).eraseDups ∧
    (usedIn p text).Nodup ∧
    found.Pairwise (fun r s => r.1 < s.1) ∧
    ∀ i w, (i, w) ∈ found ↔
      ReadAt (emptyLiterals text) i w ∧ isName w = true ∧ String.ofList w ∉ p.ignored := by
  intro found
  have hfound : found = (namesFrom 0 false (runs (emptyLiterals text))).filter
      fun r => String.ofList r.2 ∉ p.ignored := by
    rw [← search_eq]
  refine ⟨?_, nodup_eraseDups _, ?_, fun i w => ?_⟩
  · rw [usedIn, names, ← map_snd_namesFrom 0, hfound]
    simp [List.filter_map, Function.comp_def]
  · rw [hfound]
    exact (namesFrom_pairwise 0 false _).filter _
  · rw [hfound, List.mem_filter, mem_namesFrom_runs_iff, decide_eq_true_eq]
    tauto

end Statement

end GenKill
