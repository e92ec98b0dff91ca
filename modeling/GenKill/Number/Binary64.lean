import GenKill.Text.Integer

/-!
Binary floating-point numbers of 64 bits as exact data: reading a decimal rounds to the nearest
number, ties to the even one, and the written form has the fewest digits that read back.
-/

namespace GenKill

inductive Binary64 where
  | finite (negative : Bool) (mantissa : Nat) (exponent : Int)
  | infinite (negative : Bool)
  | nan
  deriving DecidableEq, Repr

namespace Binary64

def leastExponent : Int := -1074

def greatestExponent : Int := 971

def zero (negative : Bool) : Binary64 := .finite negative 0 leastExponent

def scale (num den : Nat) (e : Int) : Nat × Nat :=
  if e < 0 then (num * Nat.pow 2 e.natAbs, den) else (num, den * Nat.pow 2 e.toNat)

def roundDiv (num den : Nat) : Nat :=
  let q := num / den
  let r := num % den
  if 2 * r < den then q else if 2 * r > den then q + 1 else q + q % 2

def exponentOf (num den : Nat) : Int :=
  let e : Int := (num.log2 : Int) - den.log2 - 52
  let (n, d) := scale num den e
  max (if n / d < Nat.pow 2 52 then e - 1 else e) leastExponent

def ofRatio (negative : Bool) (num den : Nat) : Binary64 :=
  if num = 0 then zero negative
  else
    let e := exponentOf num den
    let (n, d) := scale num den e
    let m := roundDiv n d
    let (m, e) := if m = Nat.pow 2 53 then (Nat.pow 2 52, e + 1) else (m, e)
    if e > greatestExponent then .infinite negative else .finite negative m e

def digitCount (n : Nat) : Nat := (Nat.toDigits 10 n).length

def ofDecimal (negative : Bool) (digits : Nat) (e : Int) : Binary64 :=
  if digits = 0 then zero negative
  else if e + digitCount digits > 400 then .infinite negative
  else if e + digitCount digits < -400 then zero negative
  else if e < 0 then ofRatio negative digits (Nat.pow 10 e.natAbs)
  else ofRatio negative (digits * Nat.pow 10 e.toNat) 1

def ratio (mantissa : Nat) (exponent : Int) : Nat × Nat :=
  if exponent < 0 then (mantissa, Nat.pow 2 exponent.natAbs)
  else (mantissa * Nat.pow 2 exponent.toNat, 1)

def magnitude (num den : Nat) : Int :=
  if num ≥ den then digitCount (num / den)
  else 1 - (((List.range 400).find? fun j => num * Nat.pow 10 j ≥ den).getD 400 : Int)

/-- Decimals of `count` digits next to the fraction that read back as `x`, the nearer one first, and
of two that are equally near the even one. -/
def candidates (x : Binary64) (num den : Nat) (p : Int) (count : Nat) : List (Nat × Int) :=
  let e := p - count
  let (n, d) :=
    if e < 0 then (num * Nat.pow 10 e.natAbs, den) else (num, den * Nat.pow 10 e.toNat)
  let q := n / d
  let both := if roundDiv n d = q then [q, q + 1] else [q + 1, q]
  (both.filter fun c => decide (ofDecimal false c e = x)).map fun c => (c, e)

def shortest (mantissa : Nat) (exponent : Int) : Nat × Int :=
  let (num, den) := ratio mantissa exponent
  let p := magnitude num den
  let x := Binary64.finite false mantissa exponent
  ((List.range 17).findSome? fun k => (candidates x num den p (k + 1)).head?).getD (0, 0)

def dropZeros (digits : List Char) : List Char :=
  (digits.reverse.dropWhile (· == '0')).reverse

def exponentText (e : Int) : String :=
  let digits := toString e.natAbs
  (if e < 0 then "e-" else "e+") ++ (if digits.length < 2 then "0" ++ digits else digits)

def layout (digits : List Char) (point : Int) : String :=
  if -4 < point ∧ point ≤ 16 then
    if point ≤ 0 then "0." ++ String.ofList (List.replicate point.natAbs '0' ++ digits)
    else
      let whole := digits.take point.toNat
      let padded := whole ++ List.replicate (point.toNat - whole.length) '0'
      let rest := digits.drop point.toNat
      String.ofList padded ++ "." ++ (if rest.isEmpty then "0" else String.ofList rest)
  else
    let rest := digits.drop 1
    String.ofList (digits.take 1) ++ (if rest.isEmpty then "" else "." ++ String.ofList rest) ++
      exponentText (point - 1)

def text : Binary64 → String
  | nan => "nan"
  | infinite negative => if negative then "-inf" else "inf"
  | finite negative mantissa exponent =>
    let sign := if negative then "-" else ""
    if mantissa = 0 then sign ++ "0.0"
    else
      let (n, e) := shortest mantissa exponent
      let digits := Nat.toDigits 10 n
      sign ++ layout (dropZeros digits) (digits.length + e)

def isZero : Binary64 → Bool
  | finite _ mantissa _ => mantissa == 0
  | _ => false

def negate : Binary64 → Binary64
  | finite negative mantissa exponent => .finite (!negative) mantissa exponent
  | infinite negative => .infinite (!negative)
  | nan => .nan

def fraction (negative : Bool) (mantissa : Nat) (exponent : Int) : Int × Nat :=
  let (num, den) := ratio mantissa exponent
  (if negative then -(num : Int) else num, den)

def ofFraction (num : Int) (den : Nat) : Binary64 := ofRatio (num < 0) num.natAbs den

def add : Binary64 → Binary64 → Binary64
  | finite a m e, finite b n f =>
    let (num, den) := fraction a m e
    let (num', den') := fraction b n f
    let sum := num * den' + num' * den
    if sum = 0 then zero (a && b) else ofFraction sum (den * den')
  | infinite a, infinite b => if a = b then .infinite a else .nan
  | nan, _ => .nan
  | _, nan => .nan
  | infinite a, _ => .infinite a
  | _, infinite b => .infinite b

def mul : Binary64 → Binary64 → Binary64
  | finite a m e, finite b n f =>
    let (num, den) := ratio m e
    let (num', den') := ratio n f
    ofRatio (a != b) (num * num') (den * den')
  | infinite a, infinite b => .infinite (a != b)
  | nan, _ => .nan
  | _, nan => .nan
  | infinite a, finite b n _ => if n = 0 then .nan else .infinite (a != b)
  | finite a m _, infinite b => if m = 0 then .nan else .infinite (a != b)

end Binary64

inductive Extended where
  | fraction (num : Int) (den : Nat)
  | infinite (negative : Bool)
  | nan
  deriving DecidableEq, Repr

namespace Extended

def less : Extended → Extended → Bool
  | fraction a b, fraction c d => a * d < c * b
  | fraction _ _, infinite negative => !negative
  | infinite negative, fraction _ _ => negative
  | infinite negative, infinite negative' => negative && !negative'
  | _, _ => false

def countBelow? : Extended → Option Nat
  | fraction num den => some (-((-num).fdiv den)).toNat
  | infinite negative => if negative then some 0 else none
  | nan => some 0

def same : Extended → Extended → Bool
  | fraction a b, fraction c d => a * d == c * b
  | infinite negative, infinite negative' => negative == negative'
  | nan, nan => true
  | _, _ => false

end Extended

def Binary64.extended : Binary64 → Extended
  | finite negative mantissa exponent =>
    let (num, den) := fraction negative mantissa exponent
    .fraction num den
  | infinite negative => .infinite negative
  | nan => .nan

namespace Binary64

def infinityWords : List String := ["inf", "infinity"]

def nanWords : List String := ["nan"]

def isDigit (c : Char) : Bool := (Text.digitValue? c).isSome

def number (digits : List Char) : Nat :=
  digits.foldl (fun n c => 10 * n + (Text.digitValue? c).getD 0) 0

def exponent? (text : List Char) : Option Int :=
  match text with
  | [] => some 0
  | mark :: rest =>
    let (negative, digits) := Text.signed rest
    if (mark == 'e' || mark == 'E') && !digits.isEmpty && digits.all isDigit then
      some (if negative then -(number digits : Int) else number digits)
    else none

def ofDecimalText? (negative : Bool) (text : List Char) : Option Binary64 :=
  let whole := text.takeWhile isDigit
  let (fraction, tail) := match text.dropWhile isDigit with
    | '.' :: behind => (behind.takeWhile isDigit, behind.dropWhile isDigit)
    | tail => ([], tail)
  if whole.isEmpty && fraction.isEmpty then none
  else (exponent? tail).map fun e =>
    ofDecimal negative (number (whole ++ fraction)) (e - fraction.length)

def ofText? (text : String) : Option Binary64 :=
  let (negative, rest) := Text.signed (Text.withoutMargins text)
  let word := String.ofList (rest.map Char.toLower)
  if infinityWords.contains word then some (.infinite negative)
  else if nanWords.contains word then some .nan
  else ofDecimalText? negative rest

end Binary64

end GenKill
