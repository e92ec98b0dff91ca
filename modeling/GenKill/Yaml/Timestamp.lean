import GenKill.Yaml.Error

namespace GenKill.Yaml

def isDecimal (c : Char) : Bool := '0' ≤ c && c ≤ '9'

def number (digits : List Char) : Nat :=
  digits.foldl (fun n d => 10 * n + (d.toNat - '0'.toNat)) 0

namespace Timestamp

inductive Zone where
  | universal
  | offset (negative : Bool) (hours minutes : List Char)

structure Time where
  hour : List Char
  minute : List Char
  second : List Char
  fraction : List Char := []
  zone : Option Zone := none

structure Parts where
  year : List Char
  month : List Char
  day : List Char
  time : Option Time := none

abbrev Rest (α : Type) := Option (α × List Char)

def digits? (least most : Nat) (text : List Char) : Rest (List Char) :=
  let ds := (text.take most).takeWhile isDecimal
  if ds.length < least then none else some (ds, text.drop ds.length)

def mark? (c : Char) (text : List Char) : Option (List Char) :=
  match text with
  | d :: rest => if c = d then some rest else none
  | [] => none

def isGap (c : Char) : Bool := c == ' ' || c == '\t'

def zone? (text : List Char) : Option (Option Zone) :=
  match text.dropWhile isGap with
  | [] => if text.isEmpty then some none else none
  | ['Z'] => some (some .universal)
  | sign :: rest => do
    guard (sign = '+' ∨ sign = '-')
    let (hours, rest) ← digits? 1 2 rest
    match rest with
    | [] => return some (.offset (sign = '-') hours [])
    | ':' :: rest =>
      let (minutes, rest) ← digits? 2 2 rest
      guard rest.isEmpty
      return some (.offset (sign = '-') hours minutes)
    | _ => none

def time? (text : List Char) : Option Time := do
  let (hour, rest) ← digits? 1 2 text
  let (minute, rest) ← digits? 2 2 (← mark? ':' rest)
  let (second, rest) ← digits? 2 2 (← mark? ':' rest)
  let (fraction, rest) := match rest with
    | '.' :: behind => (behind.takeWhile isDecimal, behind.dropWhile isDecimal)
    | rest => ([], rest)
  return { hour, minute, second, fraction, zone := ← zone? rest }

def afterDay? (text : List Char) : Option (Option Time) :=
  match text with
  | [] => some none
  | c :: rest =>
    if c = 'T' ∨ c = 't' then (time? rest).map some
    else if isGap c then (time? (rest.dropWhile isGap)).map some
    else none

def parts? (text : List Char) : Option Parts := do
  let (year, rest) ← digits? 4 4 text
  let (month, rest) ← digits? 1 2 (← mark? '-' rest)
  let (day, rest) ← digits? 1 2 (← mark? '-' rest)
  return { year, month, day, time := ← afterDay? rest }

def isPlain (text : List Char) : Bool :=
  match parts? text with
  | some p => p.time.isSome || (p.month.length == 2 && p.day.length == 2)
  | none => false

def Zone.seconds : Zone → Int
  | universal => 0
  | offset negative hours minutes =>
    let seconds : Int := number hours * 3600 + number minutes * 60
    if negative then -seconds else seconds

def micro (fraction : List Char) : Nat :=
  let digits := fraction.take 6
  number digits * Nat.pow 10 (6 - digits.length)

def Parts.date (p : Parts) : Day := ⟨number p.year, number p.month, number p.day⟩

def Time.on (t : Time) (date : Day) : Moment where
  date := date
  hour := number t.hour
  minute := number t.minute
  second := number t.second
  micro := micro t.fraction
  offset := t.zone.map Zone.seconds

end Timestamp

end GenKill.Yaml
