import GenKill.Yaml.Timestamp

namespace GenKill.Yaml

inductive Tag where
  | null
  | bool
  | int
  | float
  | binary
  | timestamp
  | text
  | seq
  | map
  | set
  | orderedMap
  | pairs
  | merge
  | value
  | unknown
  deriving DecidableEq, Repr

namespace Tag

def standard : List (String × Tag) := [
  ("null", null), ("bool", bool), ("int", int), ("float", float), ("binary", binary),
  ("timestamp", timestamp), ("str", text), ("seq", seq), ("map", map), ("set", set),
  ("omap", orderedMap), ("pairs", pairs), ("merge", merge), ("value", value)]

def standardSpace : String := "tag:yaml.org,2002:"

def ofName (name : String) : Tag :=
  ((standard.find? fun t => standardSpace ++ t.1 == name).map (·.2)).getD unknown

end Tag

def trueTexts : List String := ["yes", "Yes", "YES", "true", "True", "TRUE", "on", "On", "ON"]

def falseTexts : List String := ["no", "No", "NO", "false", "False", "FALSE", "off", "Off", "OFF"]

def nullTexts : List String := ["~", "null", "Null", "NULL"]

def markTexts : List String := ["!", "&", "*"]

namespace Form

def isHex (c : Char) : Bool :=
  isDecimal c || ('a' ≤ c && c ≤ 'f') || ('A' ≤ c && c ≤ 'F')

def spells (isDigit : Char → Bool) (digits : List Char) : Bool :=
  !digits.isEmpty && digits.all fun c => c == '_' || isDigit c

def partsAt {α : Type} [BEq α] (mark : α) : List α → List (List α)
  | [] => [[]]
  | a :: rest =>
    if a == mark then [] :: partsAt mark rest
    else match partsAt mark rest with
      | [] => [[a]]
      | part :: parts => (a :: part) :: parts

def isSixtieth (part : List Char) : Bool :=
  match part with
  | [c] => isDecimal c
  | [c, d] => '0' ≤ c && c ≤ '5' && isDecimal d
  | _ => false

def isWhole (digits : List Char) : Bool :=
  digits.head?.any isDecimal && digits.all fun c => c == '_' || isDecimal c

def isBase60 (text : List Char) : Bool :=
  match partsAt ':' text with
  | first :: part :: rest => isWhole first && (part :: rest).all isSixtieth
  | _ => false

def isInteger (text : List Char) : Bool :=
  match (Text.signed text).2 with
  | ['0'] => true
  | '0' :: 'b' :: digits => spells (fun c => c == '0' || c == '1') digits
  | '0' :: 'x' :: digits => spells isHex digits
  | '0' :: digits => spells (fun c => '0' ≤ c && c ≤ '7') digits
  | digits => isWhole digits || isBase60 digits

def isExponent (text : List Char) : Bool :=
  match text with
  | [] => true
  | e :: sign :: digits =>
    (e == 'e' || e == 'E') && (sign == '+' || sign == '-') && !digits.isEmpty &&
      digits.all isDecimal
  | _ => false

def infinityTexts : List String := [".inf", ".Inf", ".INF"]

def nanTexts : List String := [".nan", ".NaN", ".NAN"]

def isFloat (text : List Char) : Bool :=
  let (_, rest) := Text.signed text
  let isPart := fun c => c == '_' || isDecimal c
  if infinityTexts.contains (String.ofList rest) || nanTexts.contains (String.ofList text) then true
  else
    let whole := rest.takeWhile (· != '.')
    match rest.dropWhile (· != '.') with
    | '.' :: behind =>
      let tail := behind.dropWhile isPart
      if whole.isEmpty then
        rest == text && behind.head?.any isDecimal && isExponent tail
      else (isWhole whole && isExponent tail) || (isBase60 whole && tail.isEmpty)
    | _ => false

def withoutBreak (text : List Char) : List Char :=
  if text.getLast? == some '\n' then text.dropLast else text

end Form

def Tag.ofForm (text : List Char) : Tag :=
  let body := Form.withoutBreak text
  let word := String.ofList body
  if text.isEmpty then .null
  else if trueTexts.contains word || falseTexts.contains word then .bool
  else if Form.isFloat body then .float
  else if Form.isInteger body then .int
  else if word == "<<" then .merge
  else if nullTexts.contains word then .null
  else if Timestamp.isPlain body then .timestamp
  else if word == "=" then .value
  else if markTexts.contains word then .unknown
  else .text

end GenKill.Yaml
