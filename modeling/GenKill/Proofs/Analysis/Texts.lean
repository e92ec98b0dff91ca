import GenKill.Proofs.Analysis.Reline
import GenKill.Proofs.Text.Trim
import GenKill.Proofs.Value.Use
import Mathlib.Data.List.Lex
import Std.Data.String.ToInt

/-! The texts in which a set of definition sites is shown. A name may hold anything, marks and numbers too,
but a number holds no mark: so the last mark in a text ends the name, the texts tell the sites, and the
list of them tells the set. -/

namespace GenKill

open Text

namespace Token

lemma written_eq (t : Token) :
    t.written = if Text.isWritable t.line then .ok t.shown else .error .tooLong := by
  cases t with
  | site name line =>
    change (Value.int line).written >>= _ = if Text.isWritable line then _ else _
    rw [Value.written, Value.isWritable_int]
    split <;> rfl
  | expr | label | var => exact (if_pos (Text.isWritable_of_le (n := 0) (by decide))).symm

end Token

namespace Analysis

section Sites

variable {A B : TokenSet Token}

lemma texts_eq (A : TokenSet Token) : texts A =
    if A.toList.all fun t => Text.isWritable t.line then .ok (A.toList.map Token.shown)
    else .error .tooLong :=
  mapM_of_check Token.written_eq A.toList

end Sites

end Analysis

end GenKill
