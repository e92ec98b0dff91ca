import GenKill.Text.Literal
import GenKill.Text.Run
import Mathlib.Data.List.Basic

namespace GenKill.Text

def WholeWord (w : List Char) : Prop := w ≠ [] ∧ ∀ c ∈ w, isWord c = true

lemma not_isQuote_of_isWord {c : Char} (hc : isWord c = true) : ¬ isQuote c = true := by
  rw [isQuote, Bool.or_eq_true, beq_iff_eq, beq_iff_eq]
  rintro (rfl | rfl)
  · exact absurd hc (by decide)
  · exact absurd hc (by decide)

lemma emptyLiterals_cons_of_not_isQuote {c : Char} (hc : ¬ isQuote c = true) (text : List Char) :
    emptyLiterals (c :: text) = c :: emptyLiterals text := by
  rw [emptyLiterals, pieces, if_neg hc]
  rfl

lemma runs_eq_singleton {b : Bool} {run : List Char} (hne : run ≠ []) (h : ∀ c ∈ run, isWord c = b) :
    runs run = [run] := by
  induction run with
  | nil => exact absurd rfl hne
  | cons c run ih =>
    obtain ⟨hc, hrun⟩ := List.forall_mem_cons.mp h
    cases run with
    | nil => rfl
    | cons d run =>
      have hsame : sameClass c d = true := by
        rw [sameClass, hc, hrun d List.mem_cons_self, beq_self_eq_true]
      rw [runs, ih (List.cons_ne_nil d run) hrun]
      simp only [hsame, if_true]

namespace WholeWord

variable {w : List Char}

lemma emptyLiterals_eq (h : WholeWord w) : emptyLiterals w = w := by
  obtain ⟨-, hw⟩ := h
  induction w with
  | nil => simp [emptyLiterals, pieces]
  | cons c w ih =>
    obtain ⟨hc, hw⟩ := List.forall_mem_cons.mp hw
    rw [emptyLiterals_cons_of_not_isQuote (not_isQuote_of_isWord hc), ih hw]

lemma runs_eq (h : WholeWord w) : runs w = [w] := runs_eq_singleton h.1 h.2

lemma names_eq (h : WholeWord w) : names w = if isName w then [w] else [] := by
  rw [names, h.runs_eq]
  simp [namesIn]

end WholeWord

lemma isName_of_mem_namesIn {afterDot : Bool} {runs : List (List Char)} {name : List Char}
    (h : name ∈ namesIn afterDot runs) : isName name = true := by
  induction runs generalizing afterDot with
  | nil => cases h
  | cons run rest ih =>
    rw [namesIn] at h
    split at h
    case isTrue hrun =>
      rw [Bool.and_eq_true, Bool.and_eq_true] at hrun
      rcases List.mem_cons.mp h with rfl | h
      · exact hrun.1.1
      · exact ih h
    case isFalse => exact ih h

end GenKill.Text
