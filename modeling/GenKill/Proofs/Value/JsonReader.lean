import GenKill.Number.Binary64
import GenKill.Value.Basic
import Mathlib.Tactic.Common

/-! A reader of JSON texts. The text is cut into tokens, and a machine with a stack of open containers puts the
tokens together. Of two entries with one key the later one counts, at the place of the first. -/

namespace GenKill.Json

def isSpace (c : Char) : Bool := c == ' ' || c == '\t' || c == '\n' || c == '\r'

section Texts

def hexValue? (c : Char) : Option Nat :=
  if c.isDigit then some (c.toNat - 0x30)
  else if 0x61 ≤ c.toNat && c.toNat ≤ 0x66 then some (c.toNat - 0x61 + 10)
  else if 0x41 ≤ c.toNat && c.toNat ≤ 0x46 then some (c.toNat - 0x41 + 10)
  else none

def unit? (a b c d : Char) : Option Nat := do
  let a ← hexValue? a
  let b ← hexValue? b
  let c ← hexValue? c
  let d ← hexValue? d
  return ((a * 16 + b) * 16 + c) * 16 + d

def escape? : Char → Option Char
  | '"' => some '"'
  | '\\' => some '\\'
  | '/' => some '/'
  | 'b' => some '\x08'
  | 'f' => some '\x0c'
  | 'n' => some '\n'
  | 'r' => some '\r'
  | 't' => some '\t'
  | _ => none

def units? : List Char → Option (List Nat × List Char)
  | [] => none
  | c :: rest =>
    if c = '"' then some ([], rest)
    else if c = '\\' then
      match rest with
      | 'u' :: a :: b :: x :: y :: more =>
        (unit? a b x y).bind fun n => (units? more).map fun r => (n :: r.1, r.2)
      | e :: more => (escape? e).bind fun k => (units? more).map fun r => (k.toNat :: r.1, r.2)
      | [] => none
    else if c.toNat < 0x20 then none
    else (units? rest).map fun r => (c.toNat :: r.1, r.2)

def isHigh (n : Nat) : Bool := 0xd800 ≤ n && n < 0xdc00

def isLow (n : Nat) : Bool := 0xdc00 ≤ n && n < 0xe000

def chars? : List Nat → Option (List Char)
  | [] => some []
  | n :: rest =>
    if isHigh n then
      match rest with
      | m :: more =>
        if isLow m then
          (chars? more).map (Char.ofNat (0x10000 + (n - 0xd800) * 0x400 + (m - 0xdc00)) :: ·)
        else none
      | [] => none
    else if n.isValidChar then (chars? rest).map (Char.ofNat n :: ·)
    else none

def text? (text : List Char) : Option (String × List Char) :=
  (units? text).bind fun r => (chars? r.1).map fun cs => (String.ofList cs, r.2)

lemma length_lt_of_units? {text : List Char} {r : List Nat × List Char} (h : units? text = some r) :
    r.2.length < text.length := by
  fun_induction units? text generalizing r with
  | case1 => cases h
  | case2 rest =>
    cases h
    exact Nat.lt_succ_self _
  | case3 hquote a b x y more ih =>
    obtain ⟨n, -, h⟩ := Option.bind_eq_some_iff.mp h
    obtain ⟨r', hr', rfl⟩ := Option.map_eq_some_iff.mp h
    have hlt := ih hr'
    simp only [List.length_cons]
    omega
  | case4 hquote e more hne ih =>
    obtain ⟨k, -, h⟩ := Option.bind_eq_some_iff.mp h
    obtain ⟨r', hr', rfl⟩ := Option.map_eq_some_iff.mp h
    have hlt := ih hr'
    simp only [List.length_cons]
    omega
  | case5 => cases h
  | case6 => cases h
  | case7 c rest hquote hslash hlow ih =>
    obtain ⟨r', hr', rfl⟩ := Option.map_eq_some_iff.mp h
    have hlt := ih hr'
    exact Nat.lt_succ_of_lt hlt

lemma length_lt_of_text? {text tail : List Char} {s : String} (h : text? text = some (s, tail)) :
    tail.length < text.length := by
  obtain ⟨r, hr, h⟩ := Option.bind_eq_some_iff.mp h
  obtain ⟨cs, -, h⟩ := Option.map_eq_some_iff.mp h
  cases h
  exact length_lt_of_units? hr

end Texts

section Numbers

def isWhole (digits : List Char) : Bool := !digits.isEmpty && (digits.head? != some '0' || digits == ['0'])

def natural (digits : List Char) : Nat := Nat.ofDigitChars 10 digits 0

def exponent? : List Char → Option Int
  | [] => some 0
  | mark :: rest =>
    let (negative, digits) := match rest with
      | '-' :: digits => (true, digits)
      | '+' :: digits => (false, digits)
      | digits => (false, digits)
    if (mark == 'e' || mark == 'E') && !digits.isEmpty && digits.all Char.isDigit then
      some (if negative then -(natural digits : Int) else natural digits)
    else none

def decimal? (negative : Bool) (whole tail : List Char) : Option Binary64 :=
  match tail with
  | '.' :: rest =>
    let fraction := rest.takeWhile Char.isDigit
    if fraction.isEmpty then none
    else (exponent? (rest.dropWhile Char.isDigit)).map fun e =>
      .ofDecimal negative (natural (whole ++ fraction)) (e - fraction.length)
  | _ => (exponent? tail).map (.ofDecimal negative (natural whole))

def unsigned? (negative : Bool) (text : List Char) : Option Value :=
  let whole := text.takeWhile Char.isDigit
  let tail := text.dropWhile Char.isDigit
  if !isWhole whole then none
  else if tail.isEmpty then some (.int (if negative then -(natural whole : Int) else natural whole))
  else (decimal? negative whole tail).map .float

def number? : List Char → Option Value
  | '-' :: rest => unsigned? true rest
  | text => unsigned? false text

end Numbers

inductive Token where
  | openList
  | closeList
  | openMap
  | closeMap
  | comma
  | colon
  | text (s : String)
  | scalar (v : Value)

def mark? : Char → Option Token
  | '[' => some .openList
  | ']' => some .closeList
  | '\x7b' => some .openMap
  | '\x7d' => some .closeMap
  | ',' => some .comma
  | ':' => some .colon
  | _ => none

def isPlain (c : Char) : Bool := !isSpace c && (mark? c).isNone && c != '"'

def name? (word : List Char) : Option Value :=
  if word == ['n', 'u', 'l', 'l'] then some .null
  else if word == ['t', 'r', 'u', 'e'] then some (.bool true)
  else if word == ['f', 'a', 'l', 's', 'e'] then some (.bool false)
  else none

def scalar? (word : List Char) : Option Value := (number? word).or (name? word)

def tokens? (text : List Char) : Option (List Token) :=
  match text with
  | [] => some []
  | c :: rest =>
    if isSpace c then tokens? rest
    else match mark? c with
      | some t => (tokens? rest).map (t :: ·)
      | none =>
        if c = '"' then
          match _h : text? rest with
          | some (s, tail) => (tokens? tail).map (.text s :: ·)
          | none => none
        else
          (scalar? (c :: rest.takeWhile isPlain)).bind fun v =>
            (tokens? (rest.dropWhile isPlain)).map (.scalar v :: ·)
termination_by text.length
decreasing_by
  · exact Nat.lt_succ_self _
  · exact Nat.lt_succ_self _
  · exact Nat.lt_succ_of_lt (length_lt_of_text? _h)
  · exact Nat.lt_succ_of_le (List.dropWhile_sublist _).length_le

inductive Frame where
  | list (items : List Value)
  | map (entries : List (Value × Value)) (key : String)

/-- What comes next: a value, perhaps the first of a list; a key, perhaps the first of a map; the colon behind a
key; or what may follow a value. -/
inductive State where
  | value (stack : List Frame)
  | firstItem (stack : List Frame)
  | firstKey (stack : List Frame)
  | key (entries : List (Value × Value)) (stack : List Frame)
  | colon (entries : List (Value × Value)) (key : String) (stack : List Frame)
  | done (v : Value) (stack : List Frame)

namespace State

def begin (stack : List Frame) : Token → Option State
  | .openList => some (firstItem stack)
  | .openMap => some (firstKey stack)
  | .text s => some (done (.text s) stack)
  | .scalar v => some (done v stack)
  | _ => none

def step : State → Token → Option State
  | value stack, t => begin stack t
  | firstItem stack, .closeList => some (done (.list []) stack)
  | firstItem stack, t => begin (.list [] :: stack) t
  | firstKey stack, .closeMap => some (done (.map []) stack)
  | firstKey stack, .text s => some (colon [] s stack)
  | key entries stack, .text s => some (colon entries s stack)
  | colon entries s stack, .colon => some (value (.map entries s :: stack))
  | done v (.list items :: stack), .comma => some (value (.list (items ++ [v]) :: stack))
  | done v (.list items :: stack), .closeList => some (done (.list (items ++ [v])) stack)
  | done v (.map entries s :: stack), .comma => some (key (Value.setEntry (.text s) v entries) stack)
  | done v (.map entries s :: stack), .closeMap =>
    some (done (.map (Value.setEntry (.text s) v entries)) stack)
  | _, _ => none

def value? : State → Option Value
  | done v [] => some v
  | _ => none

end State

def decode (s : String) : Option Value :=
  (tokens? s.toList).bind fun ts => (ts.foldlM State.step (.value [])).bind State.value?

end GenKill.Json
