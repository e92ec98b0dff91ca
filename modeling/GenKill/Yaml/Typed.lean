import GenKill.Number.Binary64
import GenKill.Text.Bytes
import GenKill.Text.Case
import GenKill.Value.Basic
import GenKill.Yaml.Tag

namespace GenKill.Yaml

namespace Typed

def withoutUnderscores (text : Points) : Points := text.filter (· != '_'.toNat)

def behind? (lead : String) (text : Points) : Option Points :=
  if (Text.codesOf lead).isPrefixOf text then some (text.drop lead.length) else none

def signed (text : Points) : Bool × Points :=
  match behind? "-" text, behind? "+" text with
  | some rest, _ => (true, rest)
  | _, some rest => (false, rest)
  | _, _ => (false, text)

def integerIn (base : Nat) (digits : Points) : Except Fault Int :=
  match Text.integer base (String.ofList (Text.charsOf digits)) with
  | .ok n => .ok n
  | .error .malformed => .error (.integer base digits)
  | .error (.tooLong count) => .error (.integerTooLong count)

def base60 (parts : List Int) : Int := parts.foldl (fun n p => 60 * n + p) 0

def natural (text : Points) : Except Fault Int :=
  if text.isEmpty then .error .noDigits
  else if text == Text.codesOf "0" then .ok 0
  else match behind? "0b" text, behind? "0x" text, behind? "0" text with
    | some digits, _, _ => integerIn 2 digits
    | _, some digits, _ => integerIn 16 digits
    | _, _, some _ => integerIn 8 text
    | _, _, _ =>
      if text.contains ':'.toNat then do
        return base60 (← (Form.partsAt ':'.toNat text).mapM (integerIn 10))
      else integerIn 10 text

def integer (text : Points) : Except Fault Int :=
  let (negative, rest) := signed (withoutUnderscores text)
  (natural rest).map fun n => if negative then -n else n

def floatOf (digits : Points) : Except Fault Binary64 :=
  (Binary64.ofText? (String.ofList (Text.charsOf digits))).elim (.error (.float digits)) .ok

def sumBase60 (base : Nat) (sum : Binary64) : List Binary64 → Except Fault Binary64
  | [] => .ok sum
  | x :: rest =>
    match Binary64.ofRatio false base 1 with
    | .infinite _ => .error .floatTooLarge
    | factor => sumBase60 (60 * base) (sum.add (x.mul factor)) rest

def float (text : Points) : Except Fault Binary64 := do
  let value := Text.lowerPoints [] (withoutUnderscores text)
  if value.isEmpty then throw .noDigits
  let (negative, rest) := signed value
  if rest == Text.codesOf ".nan" then return .nan
  let x ←
    if rest == Text.codesOf ".inf" then pure (.infinite false)
    else if rest.contains ':'.toNat then do
      let parts ← (Form.partsAt ':'.toNat rest).mapM floatOf
      sumBase60 1 (.zero false) parts.reverse
    else floatOf rest
  return if negative then x.negate else x

def truth (text : Points) : Except Fault Bool :=
  let word := Text.lowerPoints [] text
  if (trueTexts.map Text.codesOf).contains word then .ok true
  else if (falseTexts.map Text.codesOf).contains word then .ok false
  else .error (.truth word)

def timestamp (text : Points) : Except Fault Value :=
  match Timestamp.parts? (Form.withoutBreak (Text.charsOf text)) with
  | none => .error .timestamp
  | some p =>
    match p.time with
    | none => (p.date.check.mapError .calendar).map fun _ => .day p.date
    | some t =>
      let m := t.on p.date
      (m.check.mapError .calendar).map fun _ => .moment m

def binary (text : Points) : Except Error Value :=
  if text.all (· < 0x80) then
    (Text.base64? (String.ofList (Text.charsOf text))).elim (.error .tag) fun bytes =>
      .ok (.bytes bytes)
  else .error .tag

def value (tag : Tag) (text : Points) : Except Error Value :=
  match tag with
  | .null => .ok .null
  | .text => .ok (.ofPoints text)
  | .bool => ((truth text).mapError .scalar).map .bool
  | .int => ((integer text).mapError .scalar).map .int
  | .float => ((float text).mapError .scalar).map .float
  | .timestamp => (timestamp text).mapError .scalar
  | .binary => binary text
  | _ => .error .tag

end Typed

end GenKill.Yaml
