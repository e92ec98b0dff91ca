import GenKill.Value.Basic

namespace GenKill.Value

def unitEscape (n : Nat) : List Char := '\\' :: 'u' :: Text.hexDigits 4 n

def jsonChar (c : Char) : List Char :=
  if c == '"' || c == '\\' then ['\\', c]
  else if c == '\n' then ['\\', 'n']
  else if c == '\r' then ['\\', 'r']
  else if c == '\t' then ['\\', 't']
  else if c == '\x0c' then ['\\', 'f']
  else if c == '\x08' then ['\\', 'b']
  else if 0x20 ≤ c.toNat && c.toNat < 0x7f then [c]
  else if c.toNat < 0x10000 then unitEscape c.toNat
  else
    let n := c.toNat - 0x10000
    unitEscape (0xd800 + n / 0x400) ++ unitEscape (0xdc00 + n % 0x400)

def jsonText (s : String) : List Char := '"' :: s.toList.flatMap jsonChar ++ ['"']

def jsonPoint (n : Nat) : List Char :=
  if n.isValidChar then jsonChar (Char.ofNat n) else unitEscape n

def jsonPoints (codes : List Nat) : List Char := '"' :: codes.flatMap jsonPoint ++ ['"']

def jsonNumber (x : Binary64) : String :=
  match x with
  | .nan => "NaN"
  | .infinite negative => if negative then "-Infinity" else "Infinity"
  | _ => x.text

def jsonKey : Value → List Char
  | text s => jsonText s
  | points codes => jsonPoints codes
  | null => jsonText "null"
  | bool b => jsonText (if b then "true" else "false")
  | float x => jsonText (jsonNumber x)
  | v => jsonText v.shown

abbrev Layout := Option String

namespace Layout

def newline (indent : String) (depth : Nat) : List Char :=
  '\n' :: (List.replicate depth indent.toList).flatten

def lead (l : Layout) (depth : Nat) : List Char := l.elim [] (newline · depth)

def separator (l : Layout) (depth : Nat) : List Char :=
  l.elim [',', ' '] fun i => ',' :: newline i depth

def countLimit : Nat := 0x8000000000000000

def blanks (count : Int) : Except Misuse Layout :=
  if -countLimit ≤ count ∧ count < countLimit then
    .ok (some (String.ofList (List.replicate count.toNat ' ')))
  else .error .notIndex

def ofValue : Value → Except Misuse Layout
  | .null => .ok none
  | .text s => .ok (some s)
  | .bool b => blanks (if b then 1 else 0)
  | .int n => blanks n
  | v => .error (.notCount v.kind)

end Layout

mutual

def json (layout : Layout) (depth : Nat) : Value → List Char
  | null => ['n', 'u', 'l', 'l']
  | bool b => if b then ['t', 'r', 'u', 'e'] else ['f', 'a', 'l', 's', 'e']
  | float x => (jsonNumber x).toList
  | text s => jsonText s
  | points codes => jsonPoints codes
  | pair a b =>
    '[' :: layout.lead (depth + 1) ++ json layout (depth + 1) a ++ layout.separator (depth + 1) ++
      json layout (depth + 1) b ++ layout.lead depth ++ [']']
  | list [] => ['[', ']']
  | list items =>
    '[' :: layout.lead (depth + 1) ++ jsonItems layout (depth + 1) items ++
      layout.lead depth ++ [']']
  | map [] => ['\x7b', '\x7d']
  | map entries =>
    '\x7b' :: layout.lead (depth + 1) ++ jsonEntries layout (depth + 1) entries ++
      layout.lead depth ++ ['\x7d']
  | v => v.shown.toList

def jsonItems (layout : Layout) (depth : Nat) : List Value → List Char
  | [] => []
  | [v] => json layout depth v
  | v :: rest => json layout depth v ++ layout.separator depth ++ jsonItems layout depth rest

def jsonEntries (layout : Layout) (depth : Nat) : List (Value × Value) → List Char
  | [] => []
  | [(k, v)] => jsonKey k ++ ':' :: ' ' :: json layout depth v
  | (k, v) :: rest =>
    jsonKey k ++ ':' :: ' ' :: json layout depth v ++ layout.separator depth ++
      jsonEntries layout depth rest

end

def checkKey (k : Value) : Except Misuse Unit :=
  match k with
  | int n => discard (int n).written
  | text _ | points _ | null | bool _ | float _ => .ok ()
  | k => .error (.notFieldName k.kind)

mutual

def checkJson : Value → Except Misuse Unit
  | int n => discard (int n).written
  | pair a b => do checkJson a; checkJson b
  | list items => checkItems items
  | map entries => checkEntries entries
  | again _ => .error .circular
  | null | bool _ | float _ | text _ | points _ => .ok ()
  | bytes _ => .error (.notSerializable .bytes)
  | day _ => .error (.notSerializable .day)
  | moment _ => .error (.notSerializable .moment)
  | set _ => .error (.notSerializable .set)

def checkItems : List Value → Except Misuse Unit
  | [] => .ok ()
  | v :: rest => do checkJson v; checkItems rest

def checkEntries : List (Value × Value) → Except Misuse Unit
  | [] => .ok ()
  | (k, v) :: rest => do checkKey k; checkJson v; checkEntries rest

end

def toJson (layout : Layout) (v : Value) : Except Misuse String := do
  v.checkJson
  return String.ofList (v.json layout 0)

end GenKill.Value
