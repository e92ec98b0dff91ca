import GenKill.Yaml.Scalar
import GenKill.Yaml.TagName

/-!
The lexemes of a document, with the marks that its indentation implies. They are read one by one as
they are asked for: where no lexeme can be read, those before it count, and the error stands behind them.
-/

namespace GenKill.Yaml

inductive Lexeme where
  | directive (d : Directive)
  | documentStart
  | documentEnd
  | blockSeqStart
  | blockMapStart
  | blockEnd
  | flowSeqStart
  | flowSeqEnd
  | flowMapStart
  | flowMapEnd
  | blockEntry
  | flowEntry
  | key
  | value
  | reference (name : String)
  | anchor (name : String)
  | tag (name : TagName)
  | scalar (text : Points) (plain : Bool)
  | broken (e : Error)
  deriving DecidableEq

/-- A lexeme that turns out to be a key if a colon follows on its line. -/
structure KeyPlace where
  position : Nat
  required : Bool
  index : Nat
  line : Nat
  column : Nat

structure Scan where
  cursor : Cursor
  flow : Nat := 0
  indent : Int := -1
  indents : List Int := []
  keyAllowed : Bool := true
  keys : List (Nat × KeyPlace) := []
  lexemes : Array Lexeme := #[]

namespace Scan

def push (s : Scan) (l : Lexeme) : Scan := { s with lexemes := s.lexemes.push l }

def inFlow (s : Scan) : Bool := s.flow > 0

def move (s : Scan) (c : Cursor) : Scan := { s with cursor := c }

def mark (s : Scan) (l : Lexeme) (n : Nat) : Scan := (s.push l).move (s.cursor.skip n)

def toNext : Nat → Scan → Scan
  | 0, s => s
  | fuel + 1, s =>
    let c := s.cursor.skipWhile (· == ' ')
    let c := if c.peek 0 == '#' then c.skipWhile fun ch => !isBreak ch else c
    match c.lineBreak? with
    | some (_, c) => toNext fuel { s with cursor := c, keyAllowed := s.keyAllowed || !s.inFlow }
    | none => s.move c

def isStale (s : Scan) (k : KeyPlace) : Bool :=
  k.line != s.cursor.line || s.cursor.index - k.index > 1024

def dropStale (s : Scan) : Except Error Scan :=
  if s.keys.any fun k => s.isStale k.2 && k.2.required then .error .key
  else .ok { s with keys := s.keys.filter fun k => !s.isStale k.2 }

def forgetKey (s : Scan) : Except Error Scan :=
  match s.keys.lookup s.flow with
  | some k =>
    if k.required then .error .key
    else .ok { s with keys := s.keys.filter fun k => k.1 != s.flow }
  | none => .ok s

def saveKey (s : Scan) : Except Error Scan :=
  if s.keyAllowed then do
    let required := !s.inFlow && s.indent == s.cursor.column
    let s ← s.forgetKey
    let place : KeyPlace :=
      ⟨s.lexemes.size, required, s.cursor.index, s.cursor.line, s.cursor.column⟩
    return { s with keys := (s.flow, place) :: s.keys }
  else .ok s

def unwind (column : Int) : Nat → Scan → Scan
  | 0, s => s
  | fuel + 1, s =>
    if !s.inFlow && s.indent > column then
      unwind column fuel
        ({ s with indent := s.indents.headD (-1), indents := s.indents.tail }.push .blockEnd)
    else s

def unwindTo (s : Scan) (column : Int) : Scan := s.unwind column (s.indents.length + 1)

def openBlock (s : Scan) (column : Nat) : Option Scan :=
  if s.indent < column then
    some { s with indent := column, indents := s.indent :: s.indents }
  else none

def insertAt (s : Scan) (position : Nat) (l : Lexeme) : Scan :=
  { s with lexemes := s.lexemes.insertIdxIfInBounds position l }

def documentMark (s : Scan) (l : Lexeme) : Except Error Scan := do
  let s ← (s.unwindTo (-1)).forgetKey
  return { s with keyAllowed := false }.mark l 3

def directive (s : Scan) : Except Error Scan := do
  let s ← (s.unwindTo (-1)).forgetKey
  let (d, c) ← Directive.scan s.cursor
  return { s with keyAllowed := false, cursor := c }.push (.directive d)

def flowStart (s : Scan) (l : Lexeme) : Except Error Scan := do
  let s ← s.saveKey
  return { s with flow := s.flow + 1, keyAllowed := true }.mark l 1

def flowEnd (s : Scan) (l : Lexeme) : Except Error Scan := do
  let s ← s.forgetKey
  if s.flow = 0 then throw .shape
  return { s with flow := s.flow - 1, keyAllowed := false }.mark l 1

def flowEntry (s : Scan) : Except Error Scan := do
  let s ← s.forgetKey
  return { s with keyAllowed := true }.mark .flowEntry 1

def openHere (s : Scan) (l : Lexeme) : Except Error Scan :=
  if s.inFlow then .ok s
  else if !s.keyAllowed then .error .indentation
  else match s.openBlock s.cursor.column with
    | some s => .ok (s.push l)
    | none => .ok s

def blockEntry (s : Scan) : Except Error Scan := do
  let s ← (← s.openHere .blockSeqStart).forgetKey
  return { s with keyAllowed := true }.mark .blockEntry 1

def explicitKey (s : Scan) : Except Error Scan := do
  let s ← (← s.openHere .blockMapStart).forgetKey
  return { s with keyAllowed := !s.inFlow }.mark .key 1

def value (s : Scan) : Except Error Scan :=
  match s.keys.lookup s.flow with
  | some k =>
    let s := { s with keys := s.keys.filter fun k => k.1 != s.flow, keyAllowed := false }
    let s := s.insertAt k.position .key
    let s := if s.inFlow then s else
      match s.openBlock k.column with
      | some s => s.insertAt k.position .blockMapStart
      | none => s
    .ok (s.mark .value 1)
  | none => do
    let s ← (← s.openHere .blockMapStart).forgetKey
    return { s with keyAllowed := !s.inFlow }.mark .value 1

def endsName (c : Char) : Bool :=
  isBlankOrEnd c || ['?', ':', ',', ']', '\x7d', '%', '@', '\x60'].contains c

def named (s : Scan) (l : String → Lexeme) : Except Error Scan := do
  let s ← s.saveKey
  let c := s.cursor.next
  let n := c.count isNameChar
  if n = 0 || !endsName (c.peek n) then throw .character
  return { s with keyAllowed := false, cursor := c.skip n }.push (l (String.ofList (c.take n)))

def tag (s : Scan) : Except Error Scan := do
  let s ← s.saveKey
  let (name, c) ← TagName.scan s.cursor
  return { s with keyAllowed := false, cursor := c }.push (.tag name)

def block (s : Scan) (folded : Bool) : Except Error Scan := do
  let s ← s.forgetKey
  let (text, c) ← blockText folded s.indent s.cursor.next
  return { s with keyAllowed := true, cursor := c }.push (.scalar (.ofChars text) false)

def quoted (s : Scan) (double : Bool) : Except Error Scan := do
  let s ← s.saveKey
  let (codes, c) ← quotedText double (s.cursor.rest.length + 1) s.cursor.next []
  return { s with keyAllowed := false, cursor := c }.push (.scalar codes false)

def plain (s : Scan) : Except Error Scan := do
  let s ← s.saveKey
  let (text, c, ended) :=
    plainText s.inFlow (s.indent + 1) (s.cursor.rest.length + 1) s.cursor [] [] false
  return { s with keyAllowed := ended, cursor := c }.push (.scalar (.ofChars text) true)

def isIndicator (c : Char) : Bool :=
  "-?:,[]\x7b\x7d#&*!|>'\"%@`".toList.contains c

def startsPlain (s : Scan) : Bool :=
  let c := s.cursor.peek 0
  !(isBlankOrEnd c || isIndicator c) ||
    (!isBlankOrEnd (s.cursor.peek 1) && (c == '-' || (!s.inFlow && (c == '?' || c == ':'))))

def step (s : Scan) : Except Error Scan :=
  let c := s.cursor
  let ch := c.peek 0
  let spaced := isBlankOrEnd (c.peek 1)
  if c.column == 0 && ch == '%' then s.directive
  else if c.column == 0 && c.startsDocument then s.documentMark .documentStart
  else if c.column == 0 && c.endsDocument then s.documentMark .documentEnd
  else if ch == '[' then s.flowStart .flowSeqStart
  else if ch == '\x7b' then s.flowStart .flowMapStart
  else if ch == ']' then s.flowEnd .flowSeqEnd
  else if ch == '\x7d' then s.flowEnd .flowMapEnd
  else if ch == ',' then s.flowEntry
  else if ch == '-' && spaced then s.blockEntry
  else if ch == '?' && (s.inFlow || spaced) then s.explicitKey
  else if ch == ':' && (s.inFlow || spaced) then s.value
  else if ch == '*' then s.named .reference
  else if ch == '&' then s.named .anchor
  else if ch == '!' then s.tag
  else if ch == '|' && !s.inFlow then s.block false
  else if ch == '>' && !s.inFlow then s.block true
  else if ch == '\'' then s.quoted false
  else if ch == '"' then s.quoted true
  else if s.startsPlain then s.plain
  else .error .character

def settled (s : Scan) : List Lexeme :=
  let places := (s.keys.filter fun k => !s.isStale k.2).map (·.2.position)
  s.lexemes.toList.take (places.foldl min s.lexemes.size)

def fetch (s : Scan) : Except Error (Scan × Bool) := do
  let s ← (s.toNext (s.cursor.rest.length + 1)).dropStale
  let s := s.unwindTo s.cursor.column
  if s.cursor.rest.isEmpty then return (← (s.unwindTo (-1)).forgetKey, true)
  return (← s.step, false)

def run : Nat → Scan → List Lexeme
  | 0, s => s.lexemes.toList
  | fuel + 1, s =>
    match s.fetch with
    | .error e => s.settled ++ [.broken e]
    | .ok (next, true) => next.lexemes.toList
    | .ok (next, false) => run fuel next

end Scan

def lexemes (text : List Char) : List Lexeme :=
  if !text.all isReadable then [.broken .character]
  else
    let text := if text.head? == some '\ufeff' then text.tail else text
    Scan.run (text.length + 1) { cursor := { rest := text } }

end GenKill.Yaml
