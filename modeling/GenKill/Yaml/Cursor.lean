import GenKill.Yaml.Error

namespace GenKill.Yaml

def isBreak (c : Char) : Bool :=
  c == '\n' || c == '\r' || c == '\u0085' || c == '\u2028' || c == '\u2029'

def endMark : Char := '\x00'

def isBlankOrEnd (c : Char) : Bool := c == endMark || c == ' ' || c == '\t' || isBreak c

def isSpaceOrEnd (c : Char) : Bool := c == endMark || c == ' ' || isBreak c

def isFlowMark (c : Char) : Bool :=
  c == ',' || c == '[' || c == ']' || c == '\x7b' || c == '\x7d'

def isReadable (c : Char) : Bool :=
  let n := c.toNat
  n == 0x9 || n == 0xa || n == 0xd || (0x20 ≤ n && n ≤ 0x7e) || n == 0x85 ||
    (0xa0 ≤ n && n ≤ 0xfffd) || 0x10000 ≤ n

structure Cursor where
  rest : List Char
  index : Nat := 0
  line : Nat := 0
  column : Nat := 0

namespace Cursor

def peek (c : Cursor) (k : Nat) : Char := (c.rest[k]?).getD endMark

def next (c : Cursor) : Cursor :=
  match c.rest with
  | [] => c
  | ch :: rest =>
    if isBreak ch && !(ch == '\r' && rest.head? == some '\n') then
      ⟨rest, c.index + 1, c.line + 1, 0⟩
    else ⟨rest, c.index + 1, c.line, if ch == '\ufeff' then c.column else c.column + 1⟩

def skip (c : Cursor) : Nat → Cursor
  | 0 => c
  | n + 1 => c.next.skip n

def take (c : Cursor) (n : Nat) : List Char := c.rest.take n

def count (c : Cursor) (p : Char → Bool) : Nat := (c.rest.takeWhile p).length

def skipWhile (c : Cursor) (p : Char → Bool) : Cursor := c.skip (c.count p)

def lineBreak? (c : Cursor) : Option (Char × Cursor) :=
  let ch := c.peek 0
  if ch == '\r' && c.peek 1 == '\n' then some ('\n', c.skip 2)
  else if ch == '\r' || ch == '\n' || ch == '\u0085' then some ('\n', c.skip 1)
  else if ch == '\u2028' || ch == '\u2029' then some (ch, c.skip 1)
  else none

def startsDocument (c : Cursor) : Bool :=
  c.take 3 == ['-', '-', '-'] && isBlankOrEnd (c.peek 3)

def endsDocument (c : Cursor) : Bool :=
  c.take 3 == ['.', '.', '.'] && isBlankOrEnd (c.peek 3)

def atSeparator (c : Cursor) : Bool := c.startsDocument || c.endsDocument

end Cursor

def fold (first : Char) (more : List Char) : List Char :=
  if first != '\n' then first :: more else if more.isEmpty then [' '] else more

end GenKill.Yaml
