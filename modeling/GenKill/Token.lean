import GenKill.Text.Basic
import GenKill.Value.Basic
import Std.Data.ExtTreeSet

namespace GenKill

inductive Token where
  | site (name : String) (line : Int)
  | expr (text : String)
  | label (text : String)
  | var (name : String)
  deriving DecidableEq, Repr

namespace Token

def rank : Token → Nat
  | site _ _ => 0
  | expr _ => 1
  | label _ => 2
  | var _ => 3

def key : Token → String
  | site name _ => name
  | expr text => text
  | label text => text
  | var name => name

def line : Token → Int
  | site _ line => line
  | _ => 0

instance : Ord Token :=
  ⟨compareLex (compareOn rank) (compareLex (compareOn key) (compareOn line))⟩

instance : Std.TransOrd Token :=
  inferInstanceAs
    (Std.TransCmp (compareLex (compareOn rank) (compareLex (compareOn key) (compareOn line))))

theorem ext {a b : Token} (hr : a.rank = b.rank) (hk : a.key = b.key) (hl : a.line = b.line) :
    a = b := by
  cases a <;> cases b <;> simp_all [rank, key, line]

instance : Std.LawfulEqOrd Token where
  eq_of_compare {a b} h := by
    change compareLex _ (compareLex _ _) a b = .eq at h
    rw [compareLex_eq_eq, compareLex_eq_eq] at h
    exact ext (Std.LawfulEqOrd.eq_of_compare h.1) (Std.LawfulEqOrd.eq_of_compare h.2.1)
      (Std.LawfulEqOrd.eq_of_compare h.2.2)

def shown : Token → String
  | site name line => s!"{name}@L{line}"
  | t => t.key

def written : Token → Except Value.Misuse String
  | site name line => do return s!"{name}@L{← (Value.int line).written}"
  | t => .ok t.key

def defines (name : String) : Token → Bool
  | site n _ => n == name
  | _ => false

/-- Does the variable occur in the text of an expression? A part of a longer name counts. -/
def mentions (name : String) : Token → Bool
  | expr text => Text.contains text name
  | _ => false

end Token

end GenKill
