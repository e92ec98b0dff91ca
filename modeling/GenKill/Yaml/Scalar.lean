import GenKill.Yaml.Cursor

namespace GenKill.Yaml

def plainLength (inFlow : Bool) : List Char → Nat
  | [] => 0
  | c :: rest =>
    let next := rest.head?.getD endMark
    if isBlankOrEnd c || (c == ':' && (isBlankOrEnd next || (inFlow && isFlowMark next))) ||
        (inFlow && (isFlowMark c || c == '?')) then 0
    else plainLength inFlow rest + 1

def plainBreaks : Nat → Cursor → List Char → Option (List Char) × Cursor
  | 0, c, breaks => (some breaks, c)
  | fuel + 1, c, breaks =>
    if c.peek 0 == ' ' then plainBreaks fuel c.next breaks
    else match c.lineBreak? with
      | some (b, c) =>
        if c.atSeparator then (none, c) else plainBreaks fuel c (breaks ++ [b])
      | none => (some breaks, c)

def plainGap (c : Cursor) : List Char × Cursor × Bool :=
  let blanks := c.take (c.count (· == ' '))
  let c := c.skipWhile (· == ' ')
  match c.lineBreak? with
  | none => (blanks, c, false)
  | some (b, c) =>
    if c.atSeparator then ([], c, true)
    else match plainBreaks c.rest.length c [] with
      | (some breaks, c) => (fold b breaks, c, true)
      | (none, c) => ([], c, true)

def plainText (inFlow : Bool) (indent : Int) :
    Nat → Cursor → List Char → List Char → Bool → List Char × Cursor × Bool
  | 0, c, _, text, ended => (text, c, ended)
  | fuel + 1, c, gap, text, ended =>
    let n := plainLength inFlow c.rest
    if c.peek 0 == '#' || n = 0 then (text, c, ended)
    else
      let text := text ++ gap ++ c.take n
      let (gap, c, ended) := plainGap (c.skip n)
      if gap.isEmpty || c.peek 0 == '#' || (!inFlow && c.column < indent) then (text, c, ended)
      else plainText inFlow indent fuel c gap text ended

def quotedBreaks : Nat → Cursor → List Char → Except Error (List Char × Cursor)
  | 0, c, breaks => .ok (breaks, c)
  | fuel + 1, c, breaks =>
    if c.atSeparator then .error .quote
    else
      let c := c.skipWhile fun ch => ch == ' ' || ch == '\t'
      match c.lineBreak? with
      | some (b, c) => quotedBreaks fuel c (breaks ++ [b])
      | none => .ok (breaks, c)

def quotedGap (c : Cursor) : Except Error (List Char × Cursor) := do
  let isGap := fun ch => ch == ' ' || ch == '\t'
  let blanks := c.take (c.count isGap)
  let c := c.skipWhile isGap
  match c.lineBreak? with
  | none => return (blanks, c)
  | some (b, c) =>
    let (breaks, c) ← quotedBreaks (c.rest.length + 1) c []
    return (fold b breaks, c)

def simpleEscapes : List (Char × Char) := [
  ('0', '\x00'), ('a', '\x07'), ('b', '\x08'), ('t', '\t'), ('\t', '\t'), ('n', '\n'),
  ('v', '\x0b'), ('f', '\x0c'), ('r', '\r'), ('e', '\x1b'), (' ', ' '), ('"', '"'), ('\\', '\\'),
  ('/', '/'), ('N', '\u0085'), ('_', '\u00a0'), ('L', '\u2028'), ('P', '\u2029')]

def codeEscapes : List (Char × Nat) := [('x', 2), ('u', 4), ('U', 8)]

def hexValue? (c : Char) : Option Nat :=
  if '0' ≤ c && c ≤ '9' then some (c.toNat - '0'.toNat)
  else if 'a' ≤ c && c ≤ 'f' then some (c.toNat - 'a'.toNat + 10)
  else if 'A' ≤ c && c ≤ 'F' then some (c.toNat - 'A'.toNat + 10)
  else none

def hexNumber? (digits : List Char) : Option Nat :=
  digits.foldlM (fun n d => (hexValue? d).map fun v => 16 * n + v) 0

def codePoint (digits : List Char) : Except Error Nat :=
  match hexNumber? digits with
  | none => .error .quote
  | some n =>
    if n < 0x110000 then .ok n
    else if n < Nat.pow 2 31 then .error (.scalar .codePoint)
    else .error (.scalar .codePointTooLarge)

def Points.ofChars (cs : List Char) : Points := cs.map Char.toNat

def escape (c : Cursor) : Except Error (Points × Cursor) :=
  let ch := c.peek 0
  match simpleEscapes.lookup ch, codeEscapes.lookup ch with
  | some d, _ => .ok ([d.toNat], c.next)
  | none, some n => do
    let digits := c.next.take n
    if digits.length < n then throw .quote
    return ([← codePoint digits], c.skip (n + 1))
  | none, none =>
    match c.lineBreak? with
    | some (_, c) => do
      let (breaks, c) ← quotedBreaks (c.rest.length + 1) c []
      return (.ofChars breaks, c)
    | none => .error .quote

def quotedText (double : Bool) : Nat → Cursor → Points → Except Error (Points × Cursor)
  | 0, _, _ => .error .quote
  | fuel + 1, c, text =>
    let ch := c.peek 0
    if ch == endMark then .error .quote
    else if double && ch == '"' then .ok (text, c.next)
    else if !double && ch == '\'' then
      if c.peek 1 == '\'' then quotedText double fuel (c.skip 2) (text ++ ['\''.toNat])
      else .ok (text, c.next)
    else if double && ch == '\\' then do
      let (escaped, c) ← escape c.next
      quotedText double fuel c (text ++ escaped)
    else if ch == ' ' || ch == '\t' || isBreak ch then do
      let (gap, c) ← quotedGap c
      quotedText double fuel c (text ++ .ofChars gap)
    else quotedText double fuel c.next (text ++ [ch.toNat])

inductive Chomp where
  | strip
  | clip
  | keep
  deriving DecidableEq

def chomp? (c : Char) : Option Chomp :=
  if c == '+' then some .keep else if c == '-' then some .strip else none

def digit? (c : Char) : Option Nat :=
  if '0' ≤ c && c ≤ '9' then some (c.toNat - '0'.toNat) else none

def blockMarks (c : Cursor) : Except Error (Chomp × Option Nat × Cursor) := do
  let (chomp, c) := match chomp? (c.peek 0) with
    | some m => (some m, c.next)
    | none => (none, c)
  let (depth, c) := match digit? (c.peek 0) with
    | some d => (some d, c.next)
    | none => (none, c)
  let (chomp, c) := match chomp, chomp? (c.peek 0) with
    | none, some m => if depth.isSome then (some m, c.next) else (none, c)
    | _, _ => (chomp, c)
  if depth == some 0 then throw .shape
  if c.peek 0 == endMark || c.peek 0 == ' ' || isBreak (c.peek 0) then
    return (chomp.getD .clip, depth, c)
  throw .shape

def blockHeader (c : Cursor) : Except Error Cursor :=
  let c := c.skipWhile (· == ' ')
  let c := if c.peek 0 == '#' then c.skipWhile fun ch => !isBreak ch else c
  match c.lineBreak? with
  | some (_, c) => .ok c
  | none => if c.rest.isEmpty then .ok c else .error .shape

def blockIndentation : Nat → Cursor → List Char → Nat → List Char × Nat × Cursor
  | 0, c, breaks, deepest => (breaks, deepest, c)
  | fuel + 1, c, breaks, deepest =>
    if c.peek 0 == ' ' then blockIndentation fuel c.next breaks (max deepest c.next.column)
    else match c.lineBreak? with
      | some (b, c) => blockIndentation fuel c (breaks ++ [b]) deepest
      | none => (breaks, deepest, c)

def skipIndent (indent : Nat) : Nat → Cursor → Cursor
  | 0, c => c
  | fuel + 1, c =>
    if c.column < indent && c.peek 0 == ' ' then skipIndent indent fuel c.next else c

def blockBreaks (indent : Nat) : Nat → Cursor → List Char → List Char × Cursor
  | 0, c, breaks => (breaks, c)
  | fuel + 1, c, breaks =>
    let c := skipIndent indent indent c
    match c.lineBreak? with
    | some (b, c) => blockBreaks indent fuel c (breaks ++ [b])
    | none => (breaks, c)

def blockLines (folded : Bool) (indent : Nat) :
    Nat → Cursor → List Char → List Char → List Char → List Char × List Char × List Char × Cursor
  | 0, c, text, last, breaks => (text, last, breaks, c)
  | fuel + 1, c, text, last, breaks =>
    if c.column != indent || c.rest.isEmpty then (text, last, breaks, c)
    else
      let isInset := fun ch => ch == ' ' || ch == '\t'
      let inset := isInset (c.peek 0)
      let n := c.count fun ch => !isBreak ch
      let text := text ++ breaks ++ c.take n
      let c := c.skip n
      let (last, c) := match c.lineBreak? with
        | some (b, c) => ([b], c)
        | none => ([], c)
      let (breaks, c) := blockBreaks indent (c.rest.length + 1) c []
      if c.column == indent && !c.rest.isEmpty then
        let joint :=
          if folded && last == ['\n'] && !inset && !isInset (c.peek 0) then
            if breaks.isEmpty then [' '] else []
          else last
        blockLines folded indent fuel c (text ++ joint) last breaks
      else (text, last, breaks, c)

def blockText (folded : Bool) (indent : Int) (c : Cursor) : Except Error (List Char × Cursor) := do
  let (chomp, depth, c) ← blockMarks c
  let c ← blockHeader c
  let least := (max (indent + 1) 1).toNat
  let fuel := c.rest.length + 1
  let (indent, breaks, c) := match depth with
    | some d =>
      let indent := least + d - 1
      let (breaks, c) := blockBreaks indent fuel c []
      (indent, breaks, c)
    | none =>
      let (breaks, deepest, c) := blockIndentation fuel c [] 0
      (max least deepest, breaks, c)
  let (text, last, breaks, c) := blockLines folded indent fuel c [] [] breaks
  let tail := match chomp with
    | .strip => []
    | .clip => last
    | .keep => last ++ breaks
  return (text ++ tail, c)

end GenKill.Yaml
