import GenKill.Value.Basic
import Mathlib.Algebra.Group.Int.Defs
import Mathlib.Algebra.Group.Nat.Defs
import Mathlib.Logic.Basic
import Mathlib.Tactic.Common

/-! What values can be used for. Values of one rank compare, and no others do; a value can be gone through as
a list of texts if it is absent, a text, or has members that can all be written. -/

namespace GenKill

section Checks

variable {α β ε : Type} {p : α → Bool} {e : ε}

lemma mapM_of_check {f : α → Except ε β} {g : α → β} (hf : ∀ a, f a = if p a then .ok (g a) else .error e)
    (l : List α) : l.mapM f = if l.all p then .ok (l.map g) else .error e := by
  induction l with
  | nil => rfl
  | cons a l ih =>
    rw [List.mapM_cons, hf, ih, List.all_cons]
    cases p a
    · rfl
    · cases l.all p <;> rfl

lemma forM_of_ok {f : α → Except ε Unit} {l : List α} (h : ∀ a ∈ l, f a = .ok ()) :
    l.forM f = .ok () := by
  induction l with
  | nil => rfl
  | cons a l ih =>
    change f a >>= (fun _ => l.forM f) = _
    rw [h a List.mem_cons_self, ih fun b hb => h b (List.mem_cons_of_mem a hb)]
    rfl

end Checks

lemma Text.toList_toString (n : Int) :
    (toString n).toList = if n < 0 then '-' :: Nat.toDigits 10 n.natAbs else Nat.toDigits 10 n.natAbs := by
  cases n with
  | ofNat k =>
    have hk : ¬ Int.ofNat k < 0 := Int.not_lt.mpr (Int.natCast_nonneg k)
    rw [if_neg hk]
    exact Nat.toList_repr
  | negSucc k =>
    rw [if_pos (Int.negSucc_lt_zero k)]
    change ("-" ++ Nat.repr (k + 1)).toList = _
    rw [String.toList_append, Nat.toList_repr]
    rfl

lemma Text.isWritable_iff {n : Int} : isWritable n = true ↔ n.natAbs < 10 ^ 4300 := by
  have hpow (k : ℕ) : decide (n.natAbs < Nat.pow 10 k) = true ↔ n.natAbs < 10 ^ k := decide_eq_true_iff
  rw [isWritable, hpow, digitLimit]

lemma Text.pow_le_natAbs (k : ℕ) : 10 ^ k ≤ ((10 : Int) ^ k).natAbs :=
  Nat.le_of_eq (Int.natAbs_pow 10 k).symm

lemma Text.isWritable_of_le {n : Int} (h : n.natAbs ≤ 4300) : isWritable n = true := by
  have hlt (k : ℕ) (hk : n.natAbs ≤ k) : n.natAbs < 10 ^ k :=
    Nat.lt_of_lt_of_le (Nat.lt_pow_self (by decide)) (Nat.pow_le_pow_right (by decide) hk)
  exact isWritable_iff.mpr (hlt 4300 h)

namespace Value

inductive Rank where
  | number
  | text
  | bytes
  | day
  | moment (placed : Bool)
  deriving DecidableEq

def rank? : Value → Option Rank
  | bool _ => some .number
  | int _ => some .number
  | float _ => some .number
  | text _ => some .text
  | points _ => some .text
  | bytes _ => some .bytes
  | day _ => some .day
  | moment m => some (.moment m.offset.isSome)
  | _ => none

def Comparable (a b : Value) : Prop := ∃ r, a.rank? = some r ∧ b.rank? = some r

lemma Comparable.symm {a b : Value} (h : a.Comparable b) : b.Comparable a := by
  obtain ⟨r, ha, hb⟩ := h
  exact ⟨r, hb, ha⟩

lemma Comparable.trans {a b c : Value} (h : a.Comparable b) (h' : b.Comparable c) : a.Comparable c := by
  obtain ⟨r, ha, hb⟩ := h
  obtain ⟨r', hb', hc⟩ := h'
  rw [hb] at hb'
  cases hb'
  exact ⟨r, ha, hc⟩

lemma isOk_momentBefore? (a b : Moment) :
    (momentBefore? a b).isOk = (a.offset.isSome == b.offset.isSome) := by
  unfold momentBefore?
  cases a.offset <;> cases b.offset <;> rfl

lemma isOk_before? (a b : Value) :
    (a.before? b).isOk = (a.rank?.isSome && decide (a.rank? = b.rank?)) := by
  cases a with
  | moment m =>
    cases b with
    | moment n => simp [before?, isOk_momentBefore?, rank?, beq_eq_decide]
    | _ => rfl
  | _ => cases b <;> rfl

lemma isOk_before?_iff (a b : Value) : (a.before? b).isOk = true ↔ a.Comparable b := by
  rw [isOk_before?, Bool.and_eq_true, Option.isSome_iff_exists, decide_eq_true_iff]
  constructor
  · rintro ⟨⟨r, hr⟩, heq⟩
    exact ⟨r, hr, heq ▸ hr⟩
  · rintro ⟨r, ha, hb⟩
    exact ⟨⟨r, ha⟩, ha.trans hb.symm⟩

lemma exists_before?_of_comparable {a b : Value} (h : a.Comparable b) : ∃ x, a.before? b = .ok x := by
  have hok := (isOk_before?_iff a b).mpr h
  cases hb : a.before? b with
  | ok x => exact ⟨x, rfl⟩
  | error m =>
    rw [hb] at hok
    cases hok

lemma exists_before?_of_not_comparable {a b : Value} (h : ¬ a.Comparable b) :
    ∃ m, a.before? b = .error m := by
  cases hb : a.before? b with
  | ok x => exact absurd ((isOk_before?_iff a b).mp (by rw [hb]; rfl)) h
  | error m => exact ⟨m, rfl⟩

def IsText (v : Value) : Prop := v.points?.isSome = true

def Unlistable (v : Value) : Prop :=
  v.isPresent = true ∧ ¬ v.IsText ∧ ((∃ m, v.members = .error m) ∨
    ∃ items, v.members = .ok items ∧ ∃ i ∈ items, i.isWritable = false)

instance (v : Value) : Decidable v.IsText := inferInstanceAs (Decidable (_ = true))

instance (v : Value) : Decidable v.Unlistable :=
  match h : v.members with
  | .error m => decidable_of_iff (v.isPresent = true ∧ ¬ v.IsText) (by simp [Unlistable, h])
  | .ok items =>
    decidable_of_iff (v.isPresent = true ∧ ¬ v.IsText ∧ ∃ i ∈ items, i.isWritable = false)
      (by simp [Unlistable, h])

lemma IsText.cases {v : Value} (h : v.IsText) : (∃ s, v = .text s) ∨ ∃ codes, v = .points codes := by
  cases v <;> simp_all [IsText, points?]

@[simp]
lemma isWritable_text (s : String) : (text s).isWritable = true := rfl

@[simp]
lemma isWritable_points (codes : List Nat) : (points codes).isWritable = true := rfl

@[simp]
lemma isWritable_int (n : Int) : (int n).isWritable = Text.isWritable n := rfl

lemma IsText.isWritable {v : Value} (h : v.IsText) : v.isWritable = true := by
  rcases h.cases with ⟨s, rfl⟩ | ⟨codes, rfl⟩ <;> simp

lemma IsText.isKey {v : Value} (h : v.IsText) : v.isKey = true := by
  rcases h.cases with ⟨s, rfl⟩ | ⟨codes, rfl⟩ <;> rfl

lemma areWritable_iff {vs : List Value} : areWritable vs = true ↔ ∀ v ∈ vs, v.isWritable = true := by
  induction vs with
  | nil => simp [areWritable]
  | cons v vs ih => simp [areWritable, ih]

end Value

end GenKill
