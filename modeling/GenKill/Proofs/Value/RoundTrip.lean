import GenKill.Proofs.Value.JsonReader
import GenKill.Proofs.Value.Use
import GenKill.Value.Json
import Mathlib.Data.List.Basic
import Mathlib.Data.List.TakeWhile

namespace GenKill.Json

open Value

section Texts

lemma hexDigits_succ {width : Nat} (h : 0 < width) (n : Nat) :
    Text.hexDigits (width + 1) n = Text.hexDigits width (n / 16) ++ [Nat.digitChar (n % 16)] := by
  by_cases hn : n < 16
  · have hzero : n / 16 = 0 := by omega
    have hmod : n % 16 = n := by omega
    obtain ⟨k, rfl⟩ : ∃ k, width = k + 1 := ⟨width - 1, by omega⟩
    rw [hzero, hmod]
    simp only [Text.hexDigits, Nat.toDigits_of_lt_base hn, Nat.toDigits_of_lt_base (Nat.succ_pos 15),
      List.length_singleton, Nat.add_sub_cancel, List.replicate_succ', List.append_assoc]
    rfl
  · have hdigits := Nat.toDigits_of_base_le (b := 16) (n := n) (by decide) (by omega)
    simp only [Text.hexDigits, hdigits, List.length_append, List.length_singleton,
      Nat.add_sub_add_right, List.append_assoc]

lemma hexDigits_four {n : Nat} (h : n < 0x10000) :
    Text.hexDigits 4 n = [Nat.digitChar (n / 16 / 16 / 16), Nat.digitChar (n / 16 / 16 % 16),
      Nat.digitChar (n / 16 % 16), Nat.digitChar (n % 16)] := by
  have hfirst : n / 16 / 16 / 16 < 16 := by omega
  rw [hexDigits_succ (by decide), hexDigits_succ (by decide), hexDigits_succ (by decide), Text.hexDigits,
    Nat.toDigits_of_lt_base hfirst]
  rfl

lemma digitChar_spec {d : Nat} (h : d < 16) :
    hexValue? d.digitChar = some d ∧ d.digitChar.toNat < 0x80 := by
  have hall : ∀ d < 16, hexValue? (Nat.digitChar d) = some d ∧ (Nat.digitChar d).toNat < 0x80 := by decide
  exact hall d h

lemma units?_unitEscape {n : Nat} (h : n < 0x10000) (rest : List Char) :
    units? (unitEscape n ++ rest) = (units? rest).map fun r => (n :: r.1, r.2) := by
  have hunit : unit? (Nat.digitChar (n / 16 / 16 / 16)) (Nat.digitChar (n / 16 / 16 % 16))
      (Nat.digitChar (n / 16 % 16)) (Nat.digitChar (n % 16)) = some n := by
    rw [unit?, (digitChar_spec (by omega)).1, (digitChar_spec (by omega)).1, (digitChar_spec (by omega)).1,
      (digitChar_spec (by omega)).1]
    simp only [Option.bind_eq_bind, Option.bind_some, Option.pure_def, Option.some.injEq]
    omega
  rw [unitEscape, hexDigits_four h]
  simp only [List.cons_append, List.nil_append, units?, hunit]
  simp

def unitsOf (c : Char) : List Nat :=
  if c.toNat < 0x10000 then [c.toNat]
  else [0xd800 + (c.toNat - 0x10000) / 0x400, 0xdc00 + (c.toNat - 0x10000) % 0x400]

lemma unitsOf_of_lt {c : Char} (h : c.toNat < 0x10000) : unitsOf c = [c.toNat] := if_pos h

lemma units?_quote (rest : List Char) : units? ('"' :: rest) = some ([], rest) := by
  rw [units?.eq_def]
  exact if_pos rfl

lemma units?_plain {c : Char} (hquote : c ≠ '"') (hslash : c ≠ '\\') (hlow : 0x20 ≤ c.toNat)
    (rest : List Char) : units? (c :: rest) = (units? rest).map fun r => (c.toNat :: r.1, r.2) := by
  rw [units?.eq_def]
  simp only [hquote, hslash, if_false, Nat.not_lt.mpr hlow]

lemma units?_escape {e c : Char} (he : e ≠ 'u') (h : escape? e = some c) (rest : List Char) :
    units? ('\\' :: e :: rest) = (units? rest).map fun r => (c.toNat :: r.1, r.2) := by
  rw [units?, if_neg (by decide), if_pos rfl, h, Option.bind_some]
  simp [he]

lemma units?_jsonChar (c : Char) (rest : List Char) :
    units? (jsonChar c ++ rest) = (units? rest).map fun r => (unitsOf c ++ r.1, r.2) := by
  have hvalid : c.toNat.isValidChar := c.valid
  unfold Nat.isValidChar at hvalid
  unfold jsonChar
  split_ifs with hspecial hfeed hreturn htab hpage hback hprintable hunit
  · rcases (by simpa using hspecial : c = '"' ∨ c = '\\') with rfl | rfl
    · exact units?_escape (by decide) rfl rest
    · exact units?_escape (by decide) rfl rest
  · obtain rfl := eq_of_beq hfeed
    exact units?_escape (by decide) rfl rest
  · obtain rfl := eq_of_beq hreturn
    exact units?_escape (by decide) rfl rest
  · obtain rfl := eq_of_beq htab
    exact units?_escape (by decide) rfl rest
  · obtain rfl := eq_of_beq hpage
    exact units?_escape (by decide) rfl rest
  · obtain rfl := eq_of_beq hback
    exact units?_escape (by decide) rfl rest
  · obtain ⟨hquote, hslash⟩ : c ≠ '"' ∧ c ≠ '\\' := by simpa using hspecial
    obtain ⟨hlow, hhigh⟩ : 0x20 ≤ c.toNat ∧ c.toNat < 0x7f := by simpa using hprintable
    rw [unitsOf_of_lt (by omega), List.singleton_append, units?_plain hquote hslash hlow]
    rfl
  · rw [unitsOf_of_lt hunit, units?_unitEscape hunit]
    rfl
  · rw [List.append_assoc, units?_unitEscape (by omega), units?_unitEscape (by omega), Option.map_map,
      unitsOf, if_neg hunit]
    rfl

lemma units?_written (cs rest : List Char) :
    units? (cs.flatMap jsonChar ++ '"' :: rest) = some (cs.flatMap unitsOf, rest) := by
  induction cs with
  | nil => exact units?_quote rest
  | cons c cs ih =>
    rw [List.flatMap_cons, List.append_assoc, units?_jsonChar, ih, List.flatMap_cons]
    rfl

lemma chars?_unitsOf (c : Char) (ns : List Nat) :
    chars? (unitsOf c ++ ns) = (chars? ns).map (c :: ·) := by
  have hvalid : c.toNat.isValidChar := c.valid
  have hbounds := hvalid
  unfold Nat.isValidChar at hbounds
  by_cases h : c.toNat < 0x10000
  · have hhigh : isHigh c.toNat = false := by
      simp only [isHigh, Bool.and_eq_false_iff, decide_eq_false_iff_not]
      omega
    rw [unitsOf_of_lt h, List.singleton_append, chars?.eq_def]
    simp only [hhigh, Bool.false_eq_true, if_false, hvalid, if_true, Char.ofNat_toNat]
  · have hhigh : isHigh (0xd800 + (c.toNat - 0x10000) / 0x400) = true := by
      simp only [isHigh, Bool.and_eq_true, decide_eq_true_iff]
      omega
    have hlow : isLow (0xdc00 + (c.toNat - 0x10000) % 0x400) = true := by
      simp only [isLow, Bool.and_eq_true, decide_eq_true_iff]
      omega
    have hjoined : 0x10000 + (0xd800 + (c.toNat - 0x10000) / 0x400 - 0xd800) * 0x400 +
        (0xdc00 + (c.toNat - 0x10000) % 0x400 - 0xdc00) = c.toNat := by omega
    rw [unitsOf, if_neg h]
    simp only [List.cons_append, List.nil_append, chars?, hhigh, hlow, if_true, hjoined, Char.ofNat_toNat]

lemma chars?_written (cs : List Char) : chars? (cs.flatMap unitsOf) = some cs := by
  induction cs with
  | nil => rfl
  | cons c cs ih =>
    rw [List.flatMap_cons, chars?_unitsOf, ih]
    rfl

lemma text?_written (s : String) (rest : List Char) :
    text? (s.toList.flatMap jsonChar ++ '"' :: rest) = some (s, rest) := by
  rw [text?, units?_written, Option.bind_some, chars?_written, Option.map_some, String.ofList_toList]

end Texts

section Numbers

lemma head?_toDigits {n : Nat} (h : 0 < n) : (Nat.toDigits 10 n).head? ≠ some '0' := by
  induction n using Nat.strongRecOn with
  | ind n ih =>
    by_cases hn : n < 10
    · have hall : ∀ d < 10, 0 < d → [Nat.digitChar d].head? ≠ some '0' := by decide
      rw [Nat.toDigits_of_lt_base hn]
      exact hall n hn h
    · rw [Nat.toDigits_of_base_le (by decide) (by omega), List.head?_append_of_ne_nil _ Nat.toDigits_ne_nil]
      exact ih (n / 10) (by omega) (by omega)

lemma isWhole_toDigits (n : Nat) : isWhole (Nat.toDigits 10 n) = true := by
  by_cases hn : 0 < n
  · have hne : Nat.toDigits 10 n ≠ [] := Nat.toDigits_ne_nil
    simp [isWhole, hne, head?_toDigits hn]
  · obtain rfl : n = 0 := by omega
    rfl

lemma isDigit_of_mem_toDigits {n : Nat} {c : Char} (h : c ∈ Nat.toDigits 10 n) : c.isDigit = true :=
  Nat.isDigit_of_mem_toDigits (by decide) (by decide) h

lemma unsigned?_toDigits (negative : Bool) (n : Nat) :
    unsigned? negative (Nat.toDigits 10 n) = some (.int (if negative then -(n : Int) else n)) := by
  have htake : (Nat.toDigits 10 n).takeWhile Char.isDigit = Nat.toDigits 10 n :=
    List.takeWhile_eq_self_iff.mpr fun _ hc => isDigit_of_mem_toDigits hc
  have hdrop : (Nat.toDigits 10 n).dropWhile Char.isDigit = [] :=
    List.dropWhile_eq_nil_iff.mpr fun _ hc => isDigit_of_mem_toDigits hc
  simp only [unsigned?, htake, hdrop, isWhole_toDigits, natural, Nat.ofDigitChars_ten_toDigits]
  rfl

lemma number?_toString (n : Int) : number? (toString n).toList = some (.int n) := by
  rw [Text.toList_toString]
  split
  case isTrue h =>
    rw [number?, unsigned?_toDigits, if_pos rfl]
    congr
    omega
  case isFalse h =>
    have hminus : '-' ∉ Nat.toDigits 10 n.natAbs := fun hmem => by simpa using isDigit_of_mem_toDigits hmem
    rw [number?.eq_def]
    split
    case h_1 heq => simp [heq] at hminus
    case h_2 =>
      rw [unsigned?_toDigits, if_neg (by decide)]
      congr
      omega

end Numbers

section Tokens

variable {a b rest : List Char} {ts us : List Token} {c : Char}

def Delimited (text : List Char) : Prop := ∀ c ∈ text.head?, isPlain c = false

def Cuts (text : List Char) (ts : List Token) : Prop :=
  ∀ rest, tokens? (text ++ rest) = (tokens? rest).map (ts ++ ·)

def CutsWord (text : List Char) (ts : List Token) : Prop :=
  ∀ rest, Delimited rest → tokens? (text ++ rest) = (tokens? rest).map (ts ++ ·)

lemma Delimited.append (ha : Delimited a) (hb : Delimited b) : Delimited (a ++ b) := by
  cases a with
  | nil => exact hb
  | cons c a => exact ha

lemma Cuts.word (h : Cuts a ts) : CutsWord a ts := fun rest _ => h rest

lemma Cuts.append (ha : Cuts a ts) (hb : CutsWord b us) : CutsWord (a ++ b) (ts ++ us) := by
  intro rest hrest
  rw [List.append_assoc, ha, hb rest hrest, Option.map_map]
  simp only [Function.comp_def, List.append_assoc]

lemma CutsWord.append (ha : CutsWord a ts) (hdelimited : Delimited b) (hb : CutsWord b us) :
    CutsWord (a ++ b) (ts ++ us) := by
  intro rest hrest
  rw [List.append_assoc, ha _ (hdelimited.append hrest), hb rest hrest, Option.map_map]
  simp only [Function.comp_def, List.append_assoc]

lemma cuts_space (h : ∀ c ∈ a, isSpace c = true) : Cuts a [] := by
  intro rest
  induction a with
  | nil => simp
  | cons c a ih =>
    obtain ⟨hc, ha⟩ := List.forall_mem_cons.mp h
    rw [List.cons_append, tokens?, if_pos hc, ih ha]

lemma isSpace_of_mark? {t : Token} (h : mark? c = some t) : isSpace c = false := by
  unfold mark? at h
  split at h <;> first | rfl | cases h

lemma cuts_mark {t : Token} (h : mark? c = some t) : Cuts [c] [t] := by
  intro rest
  rw [List.singleton_append, tokens?, isSpace_of_mark? h, if_neg (by decide), h]
  rfl

lemma cuts_jsonText (s : String) : Cuts (jsonText s) [.text s] := by
  intro rest
  have htext : text? (s.toList.flatMap jsonChar ++ ['"'] ++ rest) = some (s, rest) := by
    rw [List.append_assoc, List.singleton_append, text?_written]
  have hmark : mark? '"' = none := rfl
  rw [jsonText, List.cons_append, List.cons_append, tokens?, if_neg (by decide), hmark]
  simp only [if_true]
  split
  case h_1 heq =>
    rw [htext] at heq
    cases heq
    rfl
  case h_2 heq =>
    rw [htext] at heq
    cases heq

lemma takeWhile_word {word : List Char} (hplain : ∀ c ∈ word, isPlain c = true) (hrest : Delimited rest) :
    (word ++ rest).takeWhile isPlain = word ∧ (word ++ rest).dropWhile isPlain = rest := by
  rw [List.takeWhile_append_of_pos hplain, List.dropWhile_append_of_pos hplain]
  cases rest with
  | nil => simp
  | cons c rest =>
    have hc : isPlain c = false := hrest c rfl
    simp [hc]

lemma cutsWord_scalar {v : Value} {word : List Char} (hne : word ≠ [])
    (hplain : ∀ c ∈ word, isPlain c = true) (h : scalar? word = some v) : CutsWord word [.scalar v] := by
  intro rest hrest
  obtain ⟨c, word, rfl⟩ := List.exists_cons_of_ne_nil hne
  obtain ⟨hc, hword⟩ := List.forall_mem_cons.mp hplain
  obtain ⟨⟨hspace, hmark⟩, hquote⟩ : (isSpace c = false ∧ mark? c = none) ∧ c ≠ '"' := by
    simpa [isPlain] using hc
  obtain ⟨htake, hdrop⟩ := takeWhile_word hword hrest
  rw [List.cons_append, tokens?, if_neg (by simp [hspace]), hmark]
  simp only [if_neg hquote, htake, hdrop, h, Option.bind_some]
  rfl

end Tokens

end GenKill.Json

namespace GenKill

inductive Value.Portable : Value → Prop where
  | null : Portable .null
  | bool (b : Bool) : Portable (.bool b)
  | int (n : Int) : Portable (.int n)
  | text (s : String) : Portable (.text s)
  | list {items : List Value} : (∀ v ∈ items, Portable v) → Portable (.list items)
  | object {fields : List (String × Value)} : (fields.map (·.1)).Nodup → (∀ f ∈ fields, Portable f.2) →
      Portable (.object fields)

def Value.Layout.IsBlank (l : Layout) : Prop := ∀ i ∈ l, ∀ c ∈ i.toList, Json.isSpace c = true

namespace Json

open Value

section Layouts

variable {layout : Layout} {depth : Nat}

lemma isSpace_newline {i : String} (h : ∀ c ∈ i.toList, isSpace c = true) :
    ∀ c ∈ Layout.newline i depth, isSpace c = true := by
  intro c hc
  rw [Layout.newline, List.mem_cons, List.mem_flatten] at hc
  rcases hc with rfl | ⟨l, hl, hc⟩
  · rfl
  · rw [List.eq_of_mem_replicate hl] at hc
    exact h c hc

lemma isSpace_lead (h : layout.IsBlank) : ∀ c ∈ layout.lead depth, isSpace c = true := by
  cases layout with
  | none => simp [Layout.lead]
  | some i => exact isSpace_newline (h i rfl)

lemma exists_separator_eq (h : layout.IsBlank) :
    ∃ tail, layout.separator depth = ',' :: tail ∧ ∀ c ∈ tail, isSpace c = true := by
  cases layout with
  | none => exact ⟨[' '], rfl, by simp [isSpace]⟩
  | some i => exact ⟨_, rfl, isSpace_newline (h i rfl)⟩

lemma delimited_space {a : List Char} (h : ∀ c ∈ a, isSpace c = true) : Delimited a := by
  intro c hc
  simp [isPlain, h c (List.mem_of_mem_head? hc)]

lemma delimited_mark {c : Char} {t : Token} (h : mark? c = some t) (rest : List Char) :
    Delimited (c :: rest) := by
  rintro _ ⟨⟩
  simp [isPlain, h]

lemma cutsWord_bracketed {o c : Char} {t u : Token} {l l' text : List Char} {ts : List Token}
    (ho : mark? o = some t) (hc : mark? c = some u) (hl : ∀ x ∈ l, isSpace x = true)
    (hl' : ∀ x ∈ l', isSpace x = true) (h : CutsWord text ts) :
    CutsWord (o :: l ++ text ++ l' ++ [c]) (t :: (ts ++ [u])) := by
  have hclose : CutsWord (l' ++ [c]) [u] := (cuts_space hl').append (cuts_mark hc).word
  have hdelimited : Delimited (l' ++ [c]) := (delimited_space hl').append (delimited_mark hc [])
  have hinside := (cuts_space hl).append (h.append hdelimited hclose)
  simpa using (cuts_mark ho).append hinside

lemma cutsWord_separated {depth : Nat} {a b : List Char} {ts us : List Token} (h : layout.IsBlank)
    (ha : CutsWord a ts) (hb : CutsWord b us) :
    CutsWord (a ++ layout.separator depth ++ b) (ts ++ .comma :: us) := by
  obtain ⟨tail, hseparator, htail⟩ := exists_separator_eq h
  have hcomma : mark? ',' = some .comma := rfl
  have hbehind := (cuts_mark hcomma).append ((cuts_space htail).append hb)
  rw [hseparator, List.append_assoc]
  exact ha.append (delimited_mark hcomma _) hbehind

end Layouts

section Values

variable {layout : Layout} {v : Value} {ts : List Token} {stack : List Frame} {s : State}

def Builds (ts : List Token) (v : Value) : Prop :=
  ∀ stack, ts.foldlM State.step (.value stack) = some (.done v stack)

def Reads (layout : Layout) (v : Value) : Prop :=
  ∀ depth, ∃ ts, CutsWord (v.json layout depth) ts ∧ Builds ts v

lemma foldlM_firstItem (hne : ts ≠ [])
    (h : ts.foldlM State.step (.value (.list [] :: stack)) = some s) :
    ts.foldlM State.step (.firstItem stack) = some s := by
  obtain ⟨t, ts, rfl⟩ := List.exists_cons_of_ne_nil hne
  rw [List.foldlM_cons] at h ⊢
  cases t with
  | closeList => cases h
  | _ => exact h

lemma foldlM_firstKey (hne : ts ≠ []) (h : ts.foldlM State.step (.key [] stack) = some s) :
    ts.foldlM State.step (.firstKey stack) = some s := by
  obtain ⟨t, ts, rfl⟩ := List.exists_cons_of_ne_nil hne
  rw [List.foldlM_cons] at h ⊢
  cases t with
  | text => exact h
  | _ => cases h

lemma exists_cuts_items {items : List Value} (hblank : layout.IsBlank) (hne : items ≠ [])
    (h : ∀ v ∈ items, Reads layout v) (depth : Nat) :
    ∃ ts, CutsWord (jsonItems layout depth items) ts ∧ ∀ before stack,
      (ts ++ [Token.closeList]).foldlM State.step (.value (.list before :: stack)) =
        some (.done (.list (before ++ items)) stack) := by
  induction items with
  | nil => exact absurd rfl hne
  | cons v rest ih =>
    obtain ⟨hv, hrest⟩ := List.forall_mem_cons.mp h
    obtain ⟨ts, hts, hbuilds⟩ := hv depth
    cases rest with
    | nil =>
      refine ⟨ts, hts, fun before stack => ?_⟩
      rw [List.foldlM_append, hbuilds]
      rfl
    | cons w rest =>
      obtain ⟨us, hus, hrun⟩ := ih (List.cons_ne_nil w rest) hrest
      refine ⟨ts ++ .comma :: us, cutsWord_separated hblank hts hus, fun before stack => ?_⟩
      rw [List.append_assoc, List.foldlM_append, hbuilds]
      have hnext := hrun (before ++ [v]) stack
      rw [List.append_assoc, List.singleton_append] at hnext
      exact hnext

lemma setEntry_of_fresh {key : Value} {entries : List (Value × Value)}
    (h : ∀ e ∈ entries, e.1.sameKey key = false) (v : Value) :
    setEntry key v entries = entries ++ [(key, v)] := by
  induction entries with
  | nil => rfl
  | cons e rest ih =>
    obtain ⟨he, hrest⟩ := List.forall_mem_cons.mp h
    rw [setEntry, if_neg (by simp [he]), ih hrest]
    rfl

lemma cutsWord_member {depth : Nat} (h : CutsWord (v.json layout depth) ts) (name : String) :
    CutsWord (jsonKey (.text name) ++ ':' :: ' ' :: v.json layout depth) (.text name :: .colon :: ts) := by
  have hspace : Cuts [' '] [] := cuts_space (by simp [isSpace])
  have hcolon : mark? ':' = some .colon := rfl
  exact (cuts_jsonText name).append ((cuts_mark hcolon).append (hspace.append h))

lemma foldlM_member (h : Builds ts v) (name : String) (before : List (Value × Value)) (rest : List Token) :
    (.text name :: .colon :: ts ++ rest).foldlM State.step (.key before stack) =
      rest.foldlM State.step (.done v (.map before name :: stack)) := by
  change (ts ++ rest).foldlM State.step (.value (.map before name :: stack)) = _
  rw [List.foldlM_append, h]
  rfl

lemma exists_cuts_entries {fields : List (String × Value)} (hblank : layout.IsBlank) (hne : fields ≠ [])
    (hnodup : (fields.map (·.1)).Nodup) (h : ∀ f ∈ fields, Reads layout f.2) (depth : Nat) :
    ∃ ts, CutsWord (jsonEntries layout depth (fields.map fun f => (.text f.1, f.2))) ts ∧
      ∀ before stack, (∀ f ∈ fields, ∀ e ∈ before, e.1.sameKey (.text f.1) = false) →
        (ts ++ [Token.closeMap]).foldlM State.step (.key before stack) =
          some (.done (.map (before ++ fields.map fun f => (.text f.1, f.2))) stack) := by
  induction fields with
  | nil => exact absurd rfl hne
  | cons f rest ih =>
    obtain ⟨name, v⟩ := f
    obtain ⟨hv, hrest⟩ := List.forall_mem_cons.mp h
    obtain ⟨ts, hts, hbuilds⟩ := hv depth
    rw [List.map_cons, List.nodup_cons] at hnodup
    obtain ⟨hname, hnodup⟩ := hnodup
    have hmember := cutsWord_member hts name
    cases rest with
    | nil =>
      refine ⟨_, hmember, fun before stack hfresh => ?_⟩
      have hset := setEntry_of_fresh (hfresh _ List.mem_cons_self) v
      rw [foldlM_member hbuilds]
      change some (State.done (.map (setEntry (.text name) v before)) stack) = _
      rw [hset]
      rfl
    | cons g rest =>
      obtain ⟨us, hus, hrun⟩ := ih (List.cons_ne_nil g rest) hnodup hrest
      refine ⟨_, cutsWord_separated hblank hmember hus, fun before stack hfresh => ?_⟩
      have hset := setEntry_of_fresh (hfresh _ List.mem_cons_self) v
      have hnext := hrun (before ++ [(.text name, v)]) stack fun f hf e he => by
        rcases List.mem_append.mp he with he | he
        · exact hfresh f (List.mem_cons_of_mem _ hf) e he
        · have hne : name ≠ f.1 := by
            rintro rfl
            exact hname (List.mem_map.mpr ⟨f, hf, rfl⟩)
          simpa [List.mem_singleton.mp he, sameKey] using hne
      rw [List.append_assoc, foldlM_member hbuilds]
      change (us ++ [Token.closeMap]).foldlM State.step (.key (setEntry (.text name) v before) stack) = _
      rw [hset, hnext, List.append_assoc]
      rfl

lemma isPlain_of_isDigit {c : Char} (h : c.isDigit = true) : isPlain c = true := by
  have hspace : isSpace c = false := by
    simp only [isSpace, Bool.or_eq_false_iff, beq_eq_false_iff_ne]
    refine ⟨⟨⟨?_, ?_⟩, ?_⟩, ?_⟩ <;>
      · rintro rfl
        cases h
  have hmark : mark? c = none := by
    unfold mark?
    split <;> first | cases h | rfl
  have hquote : c ≠ '"' := by
    rintro rfl
    cases h
  simp [isPlain, hspace, hmark, hquote]

lemma cutsWord_toString (n : Int) : CutsWord (toString n).toList [.scalar (.int n)] := by
  have hscalar : scalar? (toString n).toList = some (.int n) := by
    rw [scalar?, number?_toString]
    rfl
  refine cutsWord_scalar ?_ ?_ hscalar
  · rw [Text.toList_toString]
    split
    · exact List.cons_ne_nil _ _
    · exact Nat.toDigits_ne_nil
  · have hdigits (c : Char) (hc : c ∈ Nat.toDigits 10 n.natAbs) : isPlain c = true :=
      isPlain_of_isDigit (isDigit_of_mem_toDigits hc)
    rw [Text.toList_toString]
    split
    · exact List.forall_mem_cons.mpr ⟨rfl, hdigits⟩
    · exact hdigits

lemma builds_scalar (v : Value) : Builds [.scalar v] v := fun _ => rfl

lemma reads_name {word : List Char} (hjson : ∀ depth, v.json layout depth = word) (hne : word ≠ [])
    (hplain : word.all isPlain = true) (h : scalar? word = some v) : Reads layout v := by
  intro depth
  rw [hjson]
  exact ⟨_, cutsWord_scalar hne (List.all_eq_true.mp hplain) h, builds_scalar v⟩

lemma reads_list {items : List Value} (hblank : layout.IsBlank) (h : ∀ v ∈ items, Reads layout v) :
    Reads layout (.list items) := by
  intro depth
  have hopen : mark? '[' = some .openList := rfl
  have hclose : mark? ']' = some .closeList := rfl
  cases items with
  | nil => exact ⟨_, (cuts_mark hopen).append (cuts_mark hclose).word, fun _ => rfl⟩
  | cons v rest =>
    obtain ⟨ts, hts, hrun⟩ := exists_cuts_items hblank (List.cons_ne_nil v rest) h (depth + 1)
    refine ⟨_, cutsWord_bracketed hopen hclose (isSpace_lead hblank) (isSpace_lead hblank) hts,
      fun stack => ?_⟩
    exact foldlM_firstItem (by simp) (hrun [] stack)

lemma reads_object {fields : List (String × Value)} (hblank : layout.IsBlank)
    (hnodup : (fields.map (·.1)).Nodup) (h : ∀ f ∈ fields, Reads layout f.2) :
    Reads layout (.object fields) := by
  intro depth
  have hopen : mark? '\x7b' = some .openMap := rfl
  have hclose : mark? '\x7d' = some .closeMap := rfl
  cases fields with
  | nil => exact ⟨_, (cuts_mark hopen).append (cuts_mark hclose).word, fun _ => rfl⟩
  | cons f rest =>
    obtain ⟨ts, hts, hrun⟩ := exists_cuts_entries hblank (List.cons_ne_nil f rest) hnodup h (depth + 1)
    refine ⟨_, cutsWord_bracketed hopen hclose (isSpace_lead hblank) (isSpace_lead hblank) hts,
      fun stack => ?_⟩
    exact foldlM_firstKey (by simp) (hrun [] stack (by simp))

lemma reads_of_portable (hblank : layout.IsBlank) (h : v.Portable) : Reads layout v := by
  induction h with
  | null => exact reads_name (fun _ => rfl) (by decide) rfl rfl
  | bool b =>
    cases b with
    | false => exact reads_name (fun _ => rfl) (by decide) rfl rfl
    | true => exact reads_name (fun _ => rfl) (by decide) rfl rfl
  | int n => exact fun _ => ⟨_, cutsWord_toString n, builds_scalar _⟩
  | text s => exact fun _ => ⟨_, (cuts_jsonText s).word, fun _ => rfl⟩
  | list _ ih => exact reads_list hblank ih
  | object hnodup _ ih => exact reads_object hblank hnodup ih

lemma decode_json (hblank : layout.IsBlank) (h : v.Portable) :
    decode (String.ofList (v.json layout 0)) = some v := by
  obtain ⟨ts, hcuts, hbuilds⟩ := reads_of_portable hblank h 0
  have htokens : tokens? (v.json layout 0) = some ts := by
    have hend := hcuts [] (by simp [Delimited])
    rwa [List.append_nil, tokens?, Option.map_some, List.append_nil] at hend
  rw [decode, String.toList_ofList, htokens, Option.bind_some, hbuilds]
  rfl

end Values

section Checks

variable {layout : Layout} {v : Value}

lemma checkItems_eq {items : List Value}
    (h : ∀ v ∈ items, v.checkJson = if v.isWritable then .ok () else .error .tooLong) :
    checkItems items = if areWritable items then .ok () else .error .tooLong := by
  induction items with
  | nil => rfl
  | cons v rest ih =>
    obtain ⟨hv, hrest⟩ := List.forall_mem_cons.mp h
    rw [checkItems, areWritable, hv, ih hrest]
    cases v.isWritable
    · rfl
    · cases areWritable rest <;> rfl

lemma checkEntries_eq {fields : List (String × Value)}
    (h : ∀ f ∈ fields, f.2.checkJson = if f.2.isWritable then .ok () else .error .tooLong) :
    checkEntries (fields.map fun f => (.text f.1, f.2)) =
      if entriesWritable (fields.map fun f => (.text f.1, f.2)) then .ok () else .error .tooLong := by
  induction fields with
  | nil => rfl
  | cons f rest ih =>
    obtain ⟨hf, hrest⟩ := List.forall_mem_cons.mp h
    rw [List.map_cons, checkEntries, entriesWritable, hf, ih hrest, isWritable_text, Bool.true_and]
    cases f.2.isWritable
    · rfl
    · cases entriesWritable (rest.map fun f => (.text f.1, f.2)) <;> rfl

lemma checkJson_of_portable (h : v.Portable) :
    v.checkJson = if v.isWritable then .ok () else .error .tooLong := by
  induction h with
  | null | bool | text => rfl
  | int n =>
    change discard (int n).written = _
    rw [written]
    split <;> rfl
  | list _ ih => exact checkItems_eq ih
  | object _ _ ih => exact checkEntries_eq ih

lemma toJson_of_portable (h : v.Portable) : v.toJson layout =
    if v.isWritable then .ok (String.ofList (v.json layout 0)) else .error .tooLong := by
  rw [toJson, checkJson_of_portable h]
  split <;> rfl

end Checks

section Ascii

variable {layout : Layout} {v : Value} {depth : Nat}

def Ascii (text : List Char) : Prop := ∀ c ∈ text, c.toNat < 0x80

lemma Ascii.append {a b : List Char} (ha : Ascii a) (hb : Ascii b) : Ascii (a ++ b) :=
  List.forall_mem_append.mpr ⟨ha, hb⟩

lemma Ascii.cons {c : Char} {a : List Char} (hc : c.toNat < 0x80) (ha : Ascii a) : Ascii (c :: a) :=
  List.forall_mem_cons.mpr ⟨hc, ha⟩

lemma ascii_unitEscape {n : Nat} (h : n < 0x10000) : Ascii (unitEscape n) := by
  have hdigit {d : Nat} (hd : d < 16) := (digitChar_spec hd).2
  rw [unitEscape, hexDigits_four h]
  exact .cons (by decide) (.cons (by decide) (.cons (hdigit (by omega)) (.cons (hdigit (by omega))
    (.cons (hdigit (by omega)) (.cons (hdigit (by omega)) (by simp [Ascii]))))))

lemma ascii_jsonChar (c : Char) : Ascii (jsonChar c) := by
  have hvalid : c.toNat.isValidChar := c.valid
  unfold Nat.isValidChar at hvalid
  unfold jsonChar
  split_ifs with hspecial hfeed hreturn htab hpage hback hprintable hunit
  · rcases (by simpa using hspecial : c = '"' ∨ c = '\\') with rfl | rfl <;> simp [Ascii]
  · simp [Ascii]
  · simp [Ascii]
  · simp [Ascii]
  · simp [Ascii]
  · simp [Ascii]
  · rw [Bool.and_eq_true, decide_eq_true_iff, decide_eq_true_iff] at hprintable
    exact .cons (by omega) (by simp [Ascii])
  · exact ascii_unitEscape hunit
  · exact (ascii_unitEscape (by omega)).append (ascii_unitEscape (by omega))

lemma ascii_jsonText (s : String) : Ascii (jsonText s) := by
  have hbody : Ascii (s.toList.flatMap jsonChar) := by
    intro c hc
    obtain ⟨d, -, hd⟩ := List.mem_flatMap.mp hc
    exact ascii_jsonChar d c hd
  exact (Ascii.cons (by decide) hbody).append (.cons (by decide) (by simp [Ascii]))

lemma ascii_of_isDigit {c : Char} (h : c.isDigit = true) : c.toNat < 0x80 := by
  rw [Char.isDigit, Bool.and_eq_true, decide_eq_true_iff, decide_eq_true_iff] at h
  exact Nat.lt_of_le_of_lt (UInt32.le_iff_toNat_le.mp h.2) (by decide)

lemma ascii_toString (n : Int) : Ascii (toString n).toList := by
  have hdigits : Ascii (Nat.toDigits 10 n.natAbs) := fun c hc =>
    ascii_of_isDigit (isDigit_of_mem_toDigits hc)
  rw [Text.toList_toString]
  split
  · exact .cons (by decide) hdigits
  · exact hdigits

lemma ascii_of_isSpace {a : List Char} (h : ∀ c ∈ a, isSpace c = true) : Ascii a := by
  intro c hc
  have hspace := h c hc
  simp only [isSpace, Bool.or_eq_true, beq_iff_eq] at hspace
  rcases hspace with ((rfl | rfl) | rfl) | rfl <;> decide

lemma ascii_separator (h : layout.IsBlank) : Ascii (layout.separator depth) := by
  obtain ⟨tail, hseparator, htail⟩ := exists_separator_eq h
  rw [hseparator]
  exact .cons (by decide) (ascii_of_isSpace htail)

lemma ascii_items {items : List Value} (hblank : layout.IsBlank)
    (h : ∀ v ∈ items, ∀ depth, Ascii (v.json layout depth)) : Ascii (jsonItems layout depth items) := by
  induction items with
  | nil => simp [jsonItems, Ascii]
  | cons v rest ih =>
    obtain ⟨hv, hrest⟩ := List.forall_mem_cons.mp h
    cases rest with
    | nil => exact hv depth
    | cons w rest => exact ((hv depth).append (ascii_separator hblank)).append (ih hrest)

lemma ascii_entries {fields : List (String × Value)} (hblank : layout.IsBlank)
    (h : ∀ f ∈ fields, ∀ depth, Ascii (f.2.json layout depth)) :
    Ascii (jsonEntries layout depth (fields.map fun f => (.text f.1, f.2))) := by
  induction fields with
  | nil => simp [jsonEntries, Ascii]
  | cons f rest ih =>
    obtain ⟨hf, hrest⟩ := List.forall_mem_cons.mp h
    have hmember : Ascii (jsonKey (.text f.1) ++ ':' :: ' ' :: f.2.json layout depth) :=
      (ascii_jsonText f.1).append (.cons (by decide) (.cons (by decide) (hf depth)))
    cases rest with
    | nil => exact hmember
    | cons g rest => exact (hmember.append (ascii_separator hblank)).append (ih hrest)

lemma ascii_bracketed {o c : Char} {text : List Char} (hblank : layout.IsBlank) (ho : o.toNat < 0x80)
    (hc : c.toNat < 0x80) (h : Ascii text) :
    Ascii (o :: layout.lead (depth + 1) ++ text ++ layout.lead depth ++ [c]) := by
  have hlead (depth : Nat) : Ascii (layout.lead depth) := ascii_of_isSpace (isSpace_lead hblank)
  exact (((Ascii.cons ho (hlead _)).append h).append (hlead _)).append (.cons hc (by simp [Ascii]))

lemma ascii_json (hblank : layout.IsBlank) (h : v.Portable) (depth : Nat) :
    Ascii (v.json layout depth) := by
  induction h generalizing depth with
  | null => simp [json, Ascii]
  | bool b => cases b <;> simp [json, Ascii]
  | int n => exact ascii_toString n
  | text s => exact ascii_jsonText s
  | @list items _ ih =>
    cases items with
    | nil => simp [json, Ascii]
    | cons v rest => exact ascii_bracketed hblank (by decide) (by decide) (ascii_items hblank ih)
  | @object fields _ _ ih =>
    cases fields with
    | nil => simp [object, json, Ascii]
    | cons f rest => exact ascii_bracketed hblank (by decide) (by decide) (ascii_entries hblank ih)

end Ascii

end Json

end GenKill
