import GenKill.Text.Basic

namespace GenKill.Text

def isMargin (c : Char) : Bool := isBlank c && !(0x1c ≤ c.toNat && c.toNat ≤ 0x1f)

def withoutMargins (text : String) : List Char :=
  dropTrailing isMargin (text.toList.dropWhile isMargin)

def signed (text : List Char) : Bool × List Char :=
  match text with
  | '-' :: rest => (true, rest)
  | '+' :: rest => (false, rest)
  | _ => (false, text)

def digitIn? (base : Nat) (c : Char) : Option Nat :=
  let value? :=
    if 'a' ≤ c && c ≤ 'z' then some (c.toNat - 'a'.toNat + 10)
    else if 'A' ≤ c && c ≤ 'Z' then some (c.toNat - 'A'.toNat + 10)
    else digitValue? c
  value?.filter (· < base)

def digits? (base : Nat) : List Char → Option (List Nat)
  | [] => none
  | [c] => (digitIn? base c).map ([·])
  | c :: '_' :: rest => do return (← digitIn? base c) :: (← digits? base rest)
  | c :: d :: rest => do return (← digitIn? base c) :: (← digits? base (d :: rest))

inductive IntegerError where
  | malformed
  | tooLong (digits : Nat)
  deriving DecidableEq, Repr

def digitLimit : Nat := 4300

def isWritable (n : Int) : Bool := n.natAbs < Nat.pow 10 digitLimit

def withoutBaseMark (base : Nat) (text : List Char) : List Char :=
  match text with
  | '0' :: mark :: rest =>
    let marks := if base = 2 then ['b', 'B'] else if base = 8 then ['o', 'O'] else
      if base = 16 then ['x', 'X'] else []
    if marks.contains mark then (if rest.head? == some '_' then rest.tail else rest) else text
  | _ => text

def natural (base : Nat) (text : List Char) : Except IntegerError Nat :=
  let isPart := fun c => c == '_' || (digitIn? base c).isSome
  match digits? base (text.takeWhile isPart) with
  | none => .error .malformed
  | some ds =>
    if base = 10 ∧ ds.length > digitLimit then .error (.tooLong ds.length)
    else if !(text.dropWhile isPart).isEmpty then .error .malformed
    else .ok (ds.foldl (fun n d => base * n + d) 0)

def integer (base : Nat) (text : String) : Except IntegerError Int :=
  let (negative, rest) := signed (withoutMargins text)
  (natural base (withoutBaseMark base rest)).map fun n => if negative then -(n : Int) else n

def int? (text : String) : Option Int := (integer 10 text).toOption

end GenKill.Text
