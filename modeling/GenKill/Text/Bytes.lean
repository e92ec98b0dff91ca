namespace GenKill.Text

def plainBreaks : List Char → List Char
  | [] => []
  | '\r' :: '\n' :: rest => '\n' :: plainBreaks rest
  | c :: rest => (if c == '\r' then '\n' else c) :: plainBreaks rest

def utf8? (content : ByteArray) : Option String :=
  (String.fromUTF8? content).map fun s => String.ofList (plainBreaks s.toList)

def latin1 (content : ByteArray) : String :=
  String.ofList (plainBreaks (content.toList.map fun b => Char.ofNat b.toNat))

def sixBits? (c : Char) : Option Nat :=
  if 'A' ≤ c && c ≤ 'Z' then some (c.toNat - 'A'.toNat)
  else if 'a' ≤ c && c ≤ 'z' then some (c.toNat - 'a'.toNat + 26)
  else if '0' ≤ c && c ≤ '9' then some (c.toNat - '0'.toNat + 52)
  else if c == '+' then some 62
  else if c == '/' then some 63
  else none

/-- The groups of six bits before the padding ends the text, and whether it does. Padding counts from
the third place of a group of four on, and characters outside of the alphabet do not count. -/
def sixBitGroups : List Char → Nat → Nat → List Nat × Bool
  | [], _, _ => ([], false)
  | c :: rest, place, pads =>
    if c == '=' then
      if place < 2 then sixBitGroups rest place pads
      else if place + pads + 1 ≥ 4 then ([], true)
      else sixBitGroups rest place (pads + 1)
    else match sixBits? c with
      | none => sixBitGroups rest place pads
      | some n =>
        let (groups, padded) := sixBitGroups rest ((place + 1) % 4) 0
        (n :: groups, padded)

def bytesOfGroups : List Nat → List UInt8
  | a :: b :: c :: d :: rest =>
    (a * 4 + b / 16).toUInt8 :: (b % 16 * 16 + c / 4).toUInt8 :: (c % 4 * 64 + d).toUInt8 ::
      bytesOfGroups rest
  | [a, b, c] => [(a * 4 + b / 16).toUInt8, (b % 16 * 16 + c / 4).toUInt8]
  | [a, b] => [(a * 4 + b / 16).toUInt8]
  | _ => []

def base64? (text : String) : Option (List UInt8) :=
  let (groups, padded) := sixBitGroups text.toList 0 0
  if padded || groups.length % 4 == 0 then some (bytesOfGroups groups) else none

end GenKill.Text
