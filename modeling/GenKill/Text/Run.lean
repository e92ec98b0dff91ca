import GenKill.Text.Basic
import GenKill.Text.Word

/-!
A text as maximal runs of word characters and of other characters, and what the runs spell: names
that are read, and binary expressions.
-/

namespace GenKill.Text

def sameClass (a b : Char) : Bool := isWord a == isWord b

def runs : List Char → List (List Char)
  | [] => []
  | c :: rest =>
    match runs rest with
    | (d :: run) :: more =>
      if sameClass c d then (c :: d :: run) :: more else [c] :: (d :: run) :: more
    | _ => [[c]]

theorem flatten_runs (text : List Char) : (runs text).flatten = text := by
  have key : ∀ text : List Char, (runs text).flatten = text ∧ (text ≠ [] → [] ∉ runs text) ∧
      (text ≠ [] → runs text ≠ []) := by
    intro text
    induction text with
    | nil => simp [runs]
    | cons c rest ih =>
      obtain ⟨hflat, hne, hnil⟩ := ih
      simp only [runs]
      split
      · rename_i d run more he
        rw [he] at hflat hne
        have hrest : rest ≠ [] := by
          rintro rfl
          simp at hflat
        split <;> simp_all
      · rename_i hno
        cases rest with
        | nil => simp
        | cons d rest' =>
          exfalso
          cases hr : runs (d :: rest') with
          | nil => exact hnil (by simp) hr
          | cons r more =>
            cases r with
            | nil => exact hne (by simp) (by simp [hr])
            | cons e r' => exact hno e r' more hr
  exact (key text).1

def isName (run : List Char) : Bool := run.head?.any isNameStart

def opensCall (gap : List Char) : Bool := (trimLeft gap).head? == some '('

/-- Names in a list of runs, other than member names behind a dot and names of called functions.
`afterDot` says whether a dot stands before the first run. -/
def namesIn (afterDot : Bool) : List (List Char) → List (List Char)
  | [] => []
  | run :: rest =>
    let more := namesIn (run.getLast? == some '.') rest
    if isName run && !afterDot && !(rest.head?.any opensCall) then run :: more else more

def names (text : List Char) : List (List Char) := namesIn false (runs text)

def isOperator (c : Char) : Bool := c == '+' || c == '-' || c == '*' || c == '/' || c == '%'

def operator? (gap : List Char) : Option Char :=
  match trim gap with
  | [c] => if isOperator c then some c else none
  | _ => none

structure Binary where
  left : List Char
  operator : Char
  right : List Char
  deriving DecidableEq

namespace Binary

def text (e : Binary) : List Char := e.left ++ ' ' :: e.operator :: ' ' :: e.right

end Binary

/-- Binary expressions from left to right. The right operand of one is not the left operand of the
next. -/
def binariesIn : List (List Char) → List Binary
  | a :: gap :: b :: rest =>
    match operator? gap with
    | some op => ⟨a, op, b⟩ :: binariesIn rest
    | none => binariesIn (gap :: b :: rest)
  | _ => []
termination_by runs => runs.length

def binaries (text : List Char) : List Binary := binariesIn (runs text)

end GenKill.Text
