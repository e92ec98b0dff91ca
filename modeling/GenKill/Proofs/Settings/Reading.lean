import GenKill.Proofs.Value.Use
import GenKill.Settings.Basic
import Mathlib.Data.List.Perm.Basic

/-! What comes of the entries of a settings document: settings that hold what is given, a complaint about the
settings, or a misuse. A value is misused where it is converted before it is checked, and where it has too
many digits to be shown in a complaint. -/

namespace GenKill

open Value

/-- The outcome is a misuse exactly if `bad` holds, and else a good result or, where that may be, a complaint
about the settings. -/
inductive Judged {α : Type} (bad refusing : Prop) (good : α → Prop) : Except Failure α → Prop where
  | ok {a : α} : ¬ bad → good a → Judged bad refusing good (.ok a)
  | settings {e : SettingsError} : ¬ bad → refusing → Judged bad refusing good (.error (.settings e))
  | misuse {m : Misuse} : bad → Judged bad refusing good (.error (.misuse m))

namespace Judged

variable {α β : Type} {x : Except Failure α} {f : α → Except Failure β} {bad bad' refusing : Prop}
  {good : α → Prop} {good' : β → Prop} {Q : α → Prop}

lemma congr (h : Judged bad refusing good x) (hbad : bad ↔ bad') : Judged bad' refusing good x := by
  rwa [← propext hbad]

lemma mono {good' : α → Prop} (h : Judged bad refusing good x) (hgood : ∀ a, good a → good' a) :
    Judged bad refusing good' x := by
  cases h with
  | ok hbad ha => exact .ok hbad (hgood _ ha)
  | settings hbad hrefusing => exact .settings hbad hrefusing
  | misuse hbad => exact .misuse hbad

lemma bind (hx : Judged bad refusing good x)
    (hf : ∀ a, x = .ok a → good a → Judged (Q a) refusing good' (f a)) :
    Judged (bad ∨ ∃ a, x = .ok a ∧ Q a) refusing good' (x >>= f) := by
  cases hx with
  | ok hbad ha => exact (hf _ rfl ha).congr (by simp [hbad])
  | settings hbad hrefusing => exact .settings (by simpa using hbad) hrefusing
  | misuse hbad => exact .misuse (Or.inl hbad)

lemma seq {Q : Prop} (hx : Judged bad False good x)
    (hf : ∀ a, good a → Judged Q refusing good' (f a)) :
    Judged (bad ∨ Q) refusing good' (x >>= f) := by
  cases hx with
  | ok hbad ha => exact (hf _ ha).congr (by simp [hbad])
  | settings _ hno => exact hno.elim
  | misuse hbad => exact .misuse (Or.inl hbad)

lemma exists_ok (h : Judged bad False good x) (hbad : ¬ bad) : ∃ a, x = .ok a ∧ good a := by
  cases h with
  | ok _ ha => exact ⟨_, rfl, ha⟩
  | settings _ hno => exact hno.elim
  | misuse h => exact absurd h hbad

lemma misuse_iff (h : Judged bad refusing good x) : (∃ m, x = .error (.misuse m)) ↔ bad := by
  cases h with
  | ok hbad ha => simpa using hbad
  | settings hbad => simpa using hbad
  | misuse hbad => simpa using hbad

end Judged

namespace Settings

section Sorting

lemma exists_insertSorted {v : Value} {l : List Value} (h : ∀ w ∈ l, v.Comparable w) :
    ∃ l', insertSorted v l = .ok l' ∧ l'.Perm (v :: l) := by
  induction l with
  | nil => exact ⟨[v], rfl, .refl _⟩
  | cons w rest ih =>
    obtain ⟨hw, hrest⟩ := List.forall_mem_cons.mp h
    obtain ⟨x, hx⟩ := exists_before?_of_comparable hw
    obtain ⟨l', hl', hperm⟩ := ih hrest
    rw [insertSorted, hx, hl']
    cases x with
    | true => exact ⟨v :: w :: rest, rfl, .refl _⟩
    | false => exact ⟨w :: l', rfl, (hperm.cons w).trans (.swap v w rest)⟩

lemma exists_insertSorted_error {v w : Value} (rest : List Value) (h : ¬ v.Comparable w) :
    ∃ m, insertSorted v (w :: rest) = .error m := by
  obtain ⟨m, hm⟩ := exists_before?_of_not_comparable h
  rw [insertSorted, hm]
  exact ⟨m, rfl⟩

lemma foldlM_insertSorted {vs acc : List Value} (hacc : acc.Pairwise Comparable) :
    (∃ l, vs.foldlM (fun acc v => insertSorted v acc) acc = .ok l ∧ l.Perm (acc ++ vs) ∧
      (acc ++ vs).Pairwise Comparable) ∨
    (∃ m, vs.foldlM (fun acc v => insertSorted v acc) acc = .error m) ∧
      ¬ (acc ++ vs).Pairwise Comparable := by
  induction vs generalizing acc with
  | nil => exact Or.inl ⟨acc, rfl, by simp, by simpa using hacc⟩
  | cons v vs ih =>
    by_cases hv : ∀ w ∈ acc, v.Comparable w
    · obtain ⟨acc', hacc', hperm⟩ := exists_insertSorted hv
      have hsort : acc'.Pairwise Comparable :=
        (hperm.pairwise_iff fun h => h.symm).mpr (List.pairwise_cons.mpr ⟨hv, hacc⟩)
      have hall : (acc' ++ vs).Perm (acc ++ v :: vs) :=
        (hperm.append_right vs).trans List.perm_middle.symm
      rw [List.foldlM_cons, hacc', ← hall.pairwise_iff fun h => h.symm]
      rcases ih hsort with ⟨l, hl, hlperm, hpair⟩ | hno
      · exact Or.inl ⟨l, hl, hlperm.trans hall, hpair⟩
      · exact Or.inr hno
    · right
      cases acc with
      | nil => simp at hv
      | cons w rest =>
        have hw : ¬ v.Comparable w := by
          intro hw
          refine hv (List.forall_mem_cons.mpr ⟨hw, fun u hu => ?_⟩)
          exact hw.trans ((List.pairwise_cons.mp hacc).1 u hu)
        obtain ⟨m, hm⟩ := exists_insertSorted_error rest hw
        refine ⟨⟨m, by rw [List.foldlM_cons, hm]; rfl⟩, fun hpair => hw ?_⟩
        exact ((List.pairwise_append.mp hpair).2.2 w (by simp) v (by simp)).symm

lemma sorted_cases (vs : List Value) :
    (∃ l, sorted vs = .ok l ∧ l.Perm vs ∧ vs.Pairwise Comparable) ∨
    (∃ m, sorted vs = .error m) ∧ ¬ vs.Pairwise Comparable :=
  foldlM_insertSorted (List.Pairwise.nil : [].Pairwise Comparable)

end Sorting

section Check

variable {v : Value} {d : Draft}

lemma areWritable_singleton (v : Value) : areWritable [v] = v.isWritable := by
  simp [areWritable]

lemma judged_refuse {α : Type} {good : α → Prop} (e : SettingsError) (vs : List Value) :
    Judged (areWritable vs = false) True good (refuse e vs) := by
  unfold refuse
  split
  case isTrue h => exact .settings (by simp [h]) trivial
  case isFalse h => exact .misuse (by simpa using h)

def Positive (v : Value) : Prop := ∃ n : ℕ, 1 ≤ n ∧ v = .int n

lemma judged_checkPassLimit (v : Value) :
    Judged (¬ Positive v ∧ v.isWritable = false) True (fun n : ℕ => 1 ≤ n ∧ v = .int n)
      (checkPassLimit v) := by
  have hrefuse (hv : ¬ Positive v) : Judged (¬ Positive v ∧ v.isWritable = false) True
      (fun n : ℕ => 1 ≤ n ∧ v = .int n) (refuse (.passLimit v) [v]) :=
    (judged_refuse _ _).congr (by simp [hv, areWritable_singleton])
  unfold checkPassLimit
  split
  case h_1 n =>
    split
    case isTrue hn =>
      apply hrefuse
      rintro ⟨k, hk, h⟩
      injection h
      omega
    case isFalse hn =>
      have hk : 1 ≤ n.toNat ∧ Value.int n = .int n.toNat := ⟨by omega, by congr; omega⟩
      exact .ok (fun h => h.1 ⟨n.toNat, hk⟩) hk
  case h_2 hint =>
    apply hrefuse
    rintro ⟨k, -, rfl⟩
    exact hint _ rfl

lemma exists_checkPassLimit_iff : (∃ n, checkPassLimit v = .ok n) ↔ Positive v := by
  constructor
  · rintro ⟨n, hn⟩
    have h := judged_checkPassLimit v
    rw [hn] at h
    cases h with
    | ok _ hgood => exact ⟨n, hgood⟩
  · rintro ⟨n, hn, rfl⟩
    exact ⟨n, by simp [checkPassLimit]; omega⟩

lemma judged_checkBoundary (v : Value) :
    Judged (v.isWritable = false) True (fun b => v = .text b.label) (checkBoundary v) := by
  unfold checkBoundary
  split
  case h_1 s =>
    cases h : Boundary.ofLabel? s with
    | none => exact (judged_refuse _ _).congr (by rw [areWritable_singleton])
    | some b =>
      have hs : b.label = s := by simpa using List.find?_some h
      exact .ok (by simp) (congrArg Value.text hs.symm)
  case h_2 => exact (judged_refuse _ _).congr (by rw [areWritable_singleton])

lemma analysisOf?_eq_some {a : Analysis} (h : analysisOf? v = some a) : v = .text a.name := by
  unfold analysisOf? at h
  split at h
  case h_1 s =>
    have hs : a.name = s := by simpa using List.find?_some h
    rw [hs]
  case h_2 => cases h

lemma map_filterMap_analysisOf? {items : List Value} (h : ∀ i ∈ items, analysisOf? i ≠ none) :
    (items.filterMap analysisOf?).map (fun a => Value.text a.name) = items := by
  induction items with
  | nil => rfl
  | cons i items ih =>
    obtain ⟨hi, hitems⟩ := List.forall_mem_cons.mp h
    obtain ⟨a, ha⟩ := Option.ne_none_iff_exists'.mp hi
    rw [List.filterMap_cons_some ha, List.map_cons, ih hitems, analysisOf?_eq_some ha]

lemma checkAnalyses_of_isText {items : List Value} (hne : items ≠ []) (h : ∀ i ∈ items, IsText i) :
    let unknown := items.filter fun n => (analysisOf? n).isNone
    checkAnalyses (.list items) = if unknown.isEmpty then .ok (items.filterMap analysisOf?)
      else refuse (.unknownAnalyses unknown Analysis.names) unknown := by
  intro unknown
  have hnone : items.find? (fun v => !v.isKey) = none := by
    rw [List.find?_eq_none]
    intro i hi
    simp [(h i hi).isKey]
  rw [checkAnalyses, if_neg (by simpa [isPresent] using hne)]
  change (checkLookup items >>= _) = _
  rw [checkLookup, hnone]
  rfl

lemma judged_checkAnalyses {items : List Value} (h : ∀ i ∈ items, IsText i) :
    Judged False True (fun l => l ≠ [] ∧ l.map (fun a => Value.text a.name) = items)
      (checkAnalyses (.list items)) := by
  by_cases hne : items = []
  · rw [hne]
    exact .settings id trivial
  · rw [checkAnalyses_of_isText hne h]
    split
    case isTrue hknown =>
      have hnames : ∀ n ∈ items, analysisOf? n ≠ none := by
        simpa [List.filter_eq_nil_iff] using hknown
      have hmap := map_filterMap_analysisOf? hnames
      refine .ok id ⟨fun hnil => hne ?_, hmap⟩
      rw [← hmap, hnil, List.map_nil]
    case isFalse =>
      refine (judged_refuse _ _).congr (iff_of_false ?_ id)
      rw [Bool.not_eq_false, areWritable_iff]
      intro v hv
      exact (h v (List.mem_of_mem_filter hv)).isWritable

def TooLong (d : Draft) : Prop :=
  ¬ Positive (d .passLimit) ∧ (d .passLimit).isWritable = false ∨
    Positive (d .passLimit) ∧ (d .boundary).isWritable = false

lemma judged_check {items : List Value} (hlist : d .analyses = .list items) (h : ∀ i ∈ items, IsText i) :
    Judged (TooLong d) True (fun s => 1 ≤ s.passLimit ∧ s.analyses ≠ [] ∧ ∀ key, s.get key = d key)
      (check d) := by
  unfold check
  have hlimit := judged_checkPassLimit (d .passLimit)
  refine Judged.congr (hlimit.bind (Q := fun _ => (d .boundary).isWritable = false) ?_) ?_
  · rintro limit - ⟨hpos, heq⟩
    refine Judged.congr ((judged_checkBoundary _).bind (Q := fun _ => False) ?_) (by simp)
    rintro boundary - hboundary
    rw [hlist]
    refine Judged.congr ((judged_checkAnalyses h).bind (Q := fun _ => False) ?_) (by simp)
    rintro analyses - ⟨hne, hanalyses⟩
    refine .ok id ⟨hpos, hne, fun key => ?_⟩
    cases key with
    | passLimit => exact heq.symm
    | boundary => exact hboundary.symm
    | analyses => exact (congrArg Value.list hanalyses).trans hlist.symm
    | hints => rfl
    | language => rfl
    | languagesDir => rfl
  · refine or_congr Iff.rfl ?_
    rw [← exists_checkPassLimit_iff, exists_and_right]

lemma check_get {s : Settings} (hlimit : 1 ≤ s.passLimit) (hanalyses : s.analyses ≠ []) :
    check s.get = .ok s := by
  have hpass : checkPassLimit (s.get .passLimit) = .ok s.passLimit := by
    have hint : ¬ (s.passLimit : Int) < 1 := by omega
    simp [checkPassLimit, get, hint]
  have hboundary : checkBoundary (s.get .boundary) = .ok s.boundary := by
    rw [get]
    cases s.boundary <;> rfl
  have hname (a : Analysis) : analysisOf? (.text a.name) = some a := by cases a <;> rfl
  have hlist : checkAnalyses (s.get .analyses) = .ok s.analyses := by
    rw [get, checkAnalyses_of_isText (by simpa using hanalyses) (by simp [IsText, points?])]
    simp [List.filter_map, List.filterMap_map, Function.comp_def, hname]
  rw [check, hpass, hboundary, hlist]
  rfl

end Check

section Convert

variable {v : Value} {key : Key} {entries : List (Value × Value)}

lemma judged_pathValue (v : Value) :
    Judged (v.isPresent = true ∧ ¬ v.IsText) False (fun _ => True) (pathValue v) := by
  unfold pathValue
  split
  case isTrue h => exact .ok (by simp_all) trivial
  case isFalse h =>
    split
    case h_1 s => exact .ok (by simp [IsText, points?]) trivial
    case h_2 codes => exact .ok (by simp [IsText, points?]) trivial
    case h_3 htext hpoints =>
      refine .misuse ⟨by simpa using h, fun hv => ?_⟩
      rcases hv.cases with ⟨s, rfl⟩ | ⟨codes, rfl⟩
      · exact htext s rfl
      · exact hpoints codes rfl

lemma judged_lowered (v : Value) : Judged (v.isWritable = false) False IsText (lowered v) := by
  unfold lowered
  split
  case h_1 codes => exact .ok (by simp) rfl
  case h_2 =>
    unfold written
    split
    case isTrue h => exact .ok (by simp [h]) rfl
    case isFalse h => exact .misuse (by simpa using h)

lemma judged_mapM_lowered (items : List Value) :
    Judged (∃ i ∈ items, i.isWritable = false) False (fun l => ∀ i ∈ l, IsText i)
      (items.mapM lowered) := by
  induction items with
  | nil => exact .ok (by simp) (by simp)
  | cons i items ih =>
    rw [List.mapM_cons]
    refine Judged.congr (Judged.seq (judged_lowered i) fun i' hi' => ih.seq (Q := False) ?_) (by simp)
    intro l hl
    exact .ok id (List.forall_mem_cons.mpr ⟨hi', hl⟩)

def TextList (v : Value) : Prop := ∃ items, v = .list items ∧ ∀ i ∈ items, IsText i

lemma judged_analysisNames (v : Value) : Judged v.Unlistable False TextList (analysisNames v) := by
  have hnames (items : List Value) : Judged (∃ i ∈ items, i.isWritable = false) False TextList
      (items.mapM lowered >>= fun l => pure (.list l)) :=
    Judged.congr ((judged_mapM_lowered items).seq (Q := False)
      fun l hl => .ok id ⟨l, rfl, hl⟩) (by simp)
  have htext {v : Value} (hv : v.IsText) :
      Judged v.Unlistable False TextList ([v].mapM lowered >>= fun l => pure (.list l)) := by
    refine (hnames [v]).congr (iff_of_false ?_ ?_)
    · simp [hv.isWritable]
    · exact fun h => h.2.1 hv
  unfold analysisNames
  split
  case h_1 s => exact htext rfl
  case h_2 codes => exact htext rfl
  case h_3 hs hcodes =>
    have hv : ¬ v.IsText := by
      intro hv
      rcases hv.cases with ⟨s, rfl⟩ | ⟨codes, rfl⟩
      · exact hs s rfl
      · exact hcodes codes rfl
    split
    case isTrue hpresent =>
      unfold members
      cases hm : v.members with
      | error m => exact .misuse ⟨hpresent, hv, Or.inl ⟨m, hm⟩⟩
      | ok items =>
        refine (hnames items).congr ?_
        simp [Unlistable, hpresent, hv, hm]
    case isFalse habsent =>
      refine (hnames []).congr (iff_of_false (by simp) ?_)
      exact fun h => habsent h.1

def Misconverted : Key → Value → Prop
  | .languagesDir, v => v.isPresent = true ∧ ¬ v.IsText
  | .analyses, v => v.Unlistable
  | _, _ => False

lemma judged_convert (key : Key) (v : Value) :
    Judged (Misconverted key v) False (fun w => key = .analyses → TextList w) (convert key v) := by
  cases key with
  | languagesDir => exact (judged_pathValue v).mono (by simp)
  | analyses => exact (judged_analysisNames v).mono (by simp)
  | _ => exact .ok id (by simp)

def given (entries : List (Value × Value)) (d : Draft) (key : Key) : Except Failure Value :=
  (field? key.label entries).elim (.ok (d key)) (convert key)

lemma judged_convertKey (d : Draft) (key : Key) :
    Judged (∃ v, field? key.label entries = some v ∧ Misconverted key v) False
      (fun d' => given entries d key = .ok (d' key) ∧ ∀ k, k ≠ key → d' k = d k)
      (convertKey entries d key) := by
  unfold convertKey given
  cases hv : field? key.label entries with
  | none => exact .ok (by simp) ⟨rfl, fun _ _ => rfl⟩
  | some v =>
    have hjudged := judged_convert key v
    simp only [Option.elim_some]
    cases hw : convert key v with
    | ok w =>
      rw [hw] at hjudged
      cases hjudged with
      | ok hbad _ =>
        refine Judged.ok (a := d.set key w) (by simpa using hbad) ⟨?_, fun k hk => ?_⟩
        · simp [Draft.set]
        · simp [Draft.set, hk]
    | error e =>
      rw [hw] at hjudged
      cases hjudged with
      | settings _ hno => exact hno.elim
      | misuse hbad => exact .misuse ⟨v, rfl, hbad⟩

lemma judged_foldlM_convertKey {keys : List Key} (hkeys : keys.Nodup) (d : Draft) :
    Judged (∃ key ∈ keys, ∃ v, field? key.label entries = some v ∧ Misconverted key v) False
      (fun d' => (∀ key ∈ keys, given entries d key = .ok (d' key)) ∧ ∀ k ∉ keys, d' k = d k)
      (keys.foldlM (convertKey entries) d) := by
  induction keys generalizing d with
  | nil => exact .ok (by simp) (by simp)
  | cons key keys ih =>
    obtain ⟨hkey, hkeys⟩ := List.nodup_cons.mp hkeys
    rw [List.foldlM_cons]
    refine Judged.congr (Judged.seq (judged_convertKey d key) (Q := ∃ key ∈ keys, ∃ v,
      field? key.label entries = some v ∧ Misconverted key v) fun d' hd' => ?_) (by simp)
    obtain ⟨hgiven, hother⟩ := hd'
    refine Judged.mono (ih hkeys d') ?_
    rintro d'' ⟨hin, hout⟩
    refine ⟨fun k hk => ?_, fun k hk => ?_⟩
    · rcases List.mem_cons.mp hk with rfl | hk
      · rw [hout k hkey, hgiven]
      · rw [← hin k hk, given, given, hother k fun h => hkey (h ▸ hk)]
    · rw [List.mem_cons, not_or] at hk
      rw [hout k hk.2, hother k hk.1]

end Convert

section Entries

def unknownKeys (entries : List (Value × Value)) : List Value :=
  (entries.map (·.1)).filter fun k => (keyOf? k).isNone

def orDefault (entries : List (Value × Value)) (key : Key) : Value :=
  (field? key.label entries).getD (defaults.get key)

/-- The entries hold a value that is used as something that it is not, or that is too long to be shown where it
is refused. -/
inductive Misused (entries : List (Value × Value)) : Prop where
  | keys : unknownKeys entries ≠ [] →
      ¬ ((unknownKeys entries).Pairwise Comparable ∧ areWritable (unknownKeys entries) = true) →
      Misused entries
  | converted {key : Key} {v : Value} : unknownKeys entries = [] →
      field? key.label entries = some v → Misconverted key v → Misused entries
  | passLimit {v : Value} : unknownKeys entries = [] →
      field? Key.passLimit.label entries = some v → ¬ Positive v → v.isWritable = false → Misused entries
  | boundary {v : Value} : unknownKeys entries = [] →
      (∀ limit, field? Key.passLimit.label entries = some limit → Positive limit) →
      field? Key.boundary.label entries = some v → v.isWritable = false → Misused entries

structure Holds (s : Settings) (entries : List (Value × Value)) : Prop where
  known : unknownKeys entries = []
  passLimit : 1 ≤ s.passLimit
  analyses : s.analyses ≠ []
  given : ∀ key, given entries defaults.get key = .ok (s.get key)

lemma orDefault_of_given {entries : List (Value × Value)} {d : Draft} {key : Key}
    (hkey : ∀ v, convert key v = .ok v) (h : given entries defaults.get key = .ok (d key)) :
    orDefault entries key = d key := by
  unfold given at h
  unfold orDefault
  cases hv : field? key.label entries with
  | none =>
    rw [hv] at h
    exact Except.ok.inj h
  | some v =>
    rw [hv, Option.elim_some, hkey] at h
    exact Except.ok.inj h

lemma textList_of_given {entries : List (Value × Value)} {v : Value}
    (h : given entries defaults.get .analyses = .ok v) : TextList v := by
  unfold given at h
  cases hv : field? Key.analyses.label entries with
  | none =>
    rw [hv] at h
    obtain rfl := Except.ok.inj h
    exact ⟨_, rfl, by simp [IsText, points?]⟩
  | some w =>
    have hjudged := judged_convert .analyses w
    rw [hv] at h
    rw [show convert .analyses w = .ok v from h] at hjudged
    cases hjudged with
    | ok _ hgood => exact hgood rfl

lemma misused_iff_of_known {entries : List (Value × Value)} (h : unknownKeys entries = []) :
    Misused entries ↔ (∃ key ∈ Key.all, ∃ v, field? key.label entries = some v ∧ Misconverted key v) ∨
      TooLong (orDefault entries) := by
  constructor
  · rintro (⟨hne, -⟩ | ⟨-, hv, hbad⟩ | ⟨-, hv, hlimit, hlong⟩ | ⟨-, hlimit, hv, hlong⟩)
    · exact absurd h hne
    · rename_i key v
      exact Or.inl ⟨key, by cases key <;> simp [Key.all], v, hv, hbad⟩
    · refine Or.inr (Or.inl ?_)
      rw [orDefault, hv]
      exact ⟨hlimit, hlong⟩
    · refine Or.inr (Or.inr ⟨?_, by rw [orDefault, hv]; exact hlong⟩)
      unfold orDefault
      cases hgiven : field? Key.passLimit.label entries with
      | none => exact ⟨100, by decide, rfl⟩
      | some limit => exact hlimit limit hgiven
  · rintro (⟨key, -, v, hv, hbad⟩ | ⟨hlimit, hlong⟩ | ⟨hlimit, hlong⟩)
    · exact .converted h hv hbad
    · unfold orDefault at hlimit hlong
      cases hv : field? Key.passLimit.label entries with
      | none =>
        rw [hv] at hlimit
        exact absurd ⟨100, by decide, rfl⟩ hlimit
      | some v =>
        rw [hv] at hlimit hlong
        exact .passLimit h hv hlimit hlong
    · unfold orDefault at hlimit hlong
      cases hv : field? Key.boundary.label entries with
      | none =>
        rw [hv] at hlong
        simp [defaults, get] at hlong
      | some v =>
        rw [hv] at hlong
        refine .boundary h (fun limit hgiven => ?_) hv hlong
        rwa [hgiven] at hlimit

lemma ofEntries_of_known {entries : List (Value × Value)} (h : unknownKeys entries = []) :
    ofEntries entries = Key.all.foldlM (convertKey entries) defaults.get >>= check := by
  simp only [ofEntries]
  exact if_neg (by simpa [unknownKeys] using h)

lemma judged_ofEntries (entries : List (Value × Value)) :
    Judged (Misused entries) True (fun s => s.Holds entries) (ofEntries entries) := by
  by_cases hknown : unknownKeys entries = []
  case neg =>
    have hmisused : Misused entries ↔
        ¬ ((unknownKeys entries).Pairwise Comparable ∧ areWritable (unknownKeys entries) = true) := by
      constructor
      · rintro (⟨-, h⟩ | ⟨h, -, -⟩ | ⟨h, -, -, -⟩ | ⟨h, -, -, -⟩)
        · exact h
        all_goals exact absurd h hknown
      · exact .keys hknown
    simp only [ofEntries]
    rw [if_pos (by simpa [unknownKeys] using hknown)]
    change Judged _ _ _ ((sorted (unknownKeys entries)).mapError _ >>= _)
    rcases sorted_cases (unknownKeys entries) with ⟨keys, hkeys, hperm, hpair⟩ | ⟨⟨m, hm⟩, hpair⟩
    · rw [hkeys]
      change Judged _ _ _ (refuse (.unknownKeys keys) keys)
      refine (judged_refuse _ keys).congr ?_
      have hwritable : areWritable keys = true ↔ areWritable (unknownKeys entries) = true := by
        simp only [areWritable_iff, hperm.mem_iff]
      rw [hmisused, ← hwritable]
      simp [hpair]
    · rw [hm]
      exact .misuse (hmisused.mpr fun h => hpair h.1)
  case pos =>
    have hkeys : Key.all.Nodup := by decide
    rw [ofEntries_of_known hknown]
    refine Judged.congr (Judged.seq (judged_foldlM_convertKey hkeys defaults.get)
      (Q := TooLong (orDefault entries)) ?_) (misused_iff_of_known hknown).symm
    rintro d ⟨hgiven, -⟩
    have hgiven (key : Key) : given entries defaults.get key = .ok (d key) :=
      hgiven key (by cases key <;> simp [Key.all])
    obtain ⟨items, hlist, hitems⟩ := textList_of_given (hgiven .analyses)
    have hlong : TooLong (orDefault entries) ↔ TooLong d := by
      rw [TooLong, TooLong, orDefault_of_given (fun _ => rfl) (hgiven .passLimit),
        orDefault_of_given (fun _ => rfl) (hgiven .boundary)]
    rw [hlong]
    refine Judged.mono (judged_check hlist hitems) ?_
    rintro s ⟨hlimit, hanalyses, hget⟩
    exact ⟨hknown, hlimit, hanalyses, fun key => by rw [hget, hgiven]⟩

lemma ofEntries_of_holds {s : Settings} {entries : List (Value × Value)} (h : s.Holds entries) :
    ofEntries entries = .ok s := by
  have hkeys : Key.all.Nodup := by decide
  have hbad : ¬ ∃ key ∈ Key.all, ∃ v, field? key.label entries = some v ∧ Misconverted key v := by
    rintro ⟨key, -, v, hv, hbad⟩
    obtain ⟨m, hm⟩ := (judged_convert key v).misuse_iff.mpr hbad
    have hgiven := h.given key
    rw [Settings.given, hv, Option.elim_some, hm] at hgiven
    cases hgiven
  obtain ⟨d, hd, hgiven, -⟩ := (judged_foldlM_convertKey hkeys defaults.get).exists_ok hbad
  have hget : d = s.get := by
    funext key
    have hkey := hgiven key (by cases key <;> simp [Key.all])
    rw [h.given] at hkey
    exact (Except.ok.inj hkey).symm
  rw [ofEntries_of_known h.known, hd, hget]
  exact check_get h.passLimit h.analyses

theorem ofEntries_outcome_iff (entries : List (Value × Value)) :
    (∀ s, ofEntries entries = .ok s ↔ s.Holds entries) ∧
    ((∃ m, ofEntries entries = .error (.misuse m)) ↔ Misused entries) ∧
    ((∃ e, ofEntries entries = .error (.settings e)) ↔
      ¬ Misused entries ∧ ∀ s : Settings, ¬ s.Holds entries) := by
  have hjudged := judged_ofEntries entries
  have hok (s : Settings) : ofEntries entries = .ok s ↔ s.Holds entries := by
    refine ⟨fun h => ?_, ofEntries_of_holds⟩
    rw [h] at hjudged
    cases hjudged with
    | ok _ hs => exact hs
  refine ⟨hok, hjudged.misuse_iff, ?_⟩
  simp only [← hok]
  generalize ofEntries entries = x at hjudged
  cases hjudged with
  | ok hbad hs => simp
  | settings hbad => simp [hbad]
  | misuse hbad => simp [hbad]

theorem numbers_misused :
    ofEntries [(.text "analyses", .int 5)] = .error (.misuse (.notIterable .int)) ∧
    ofEntries [(.text "languages_dir", .int 5)] = .error (.misuse (.notPath .int)) ∧
    ofEntries [(.int 1, .null), (.text "a", .null)] =
      .error (.misuse (.notComparable .text .int)) :=
  ⟨rfl, rfl, rfl⟩

end Entries

end Settings

end GenKill
