import GenKill.Yaml.Cursor

namespace GenKill.Yaml

structure TagName where
  handle : Option String
  suffix : String
  deriving DecidableEq

inductive Directive where
  | version (major : Nat)
  | handle (name meaning : String)
  | other
  deriving DecidableEq

def isNameChar (c : Char) : Bool := c.isAlphanum || c == '-' || c == '_'

namespace TagName

def isSuffixChar (c : Char) : Bool :=
  c.isAlphanum || "-;/?:@&=+$,_.!~*'()[]%".toList.contains c

def hexByte? (a b : Char) : Option UInt8 := do
  let digit? := fun (c : Char) =>
    if c.isDigit then some (c.toNat - '0'.toNat)
    else if 'a' ≤ c.toLower && c.toLower ≤ 'f' then some (c.toLower.toNat - 'a'.toNat + 10)
    else none
  return (16 * (← digit? a) + (← digit? b)).toUInt8

def escapes : List Char → Except Error (List UInt8 × List Char)
  | '%' :: a :: b :: rest =>
    match hexByte? a b with
    | none => .error .tag
    | some byte => do
      let (bytes, rest) ← escapes rest
      return (byte :: bytes, rest)
  | '%' :: _ => .error .tag
  | rest => .ok ([], rest)

def unescaped : Nat → List Char → Except Error String
  | 0, _ => .ok ""
  | _, [] => .ok ""
  | fuel + 1, '%' :: rest => do
    let (bytes, rest) ← escapes ('%' :: rest)
    match String.fromUTF8? ⟨bytes.toArray⟩ with
    | none => throw .tag
    | some text => return text ++ (← unescaped fuel rest)
  | fuel + 1, c :: rest => do return String.singleton c ++ (← unescaped fuel rest)

def scanSuffix (c : Cursor) : Except Error (String × Cursor) := do
  let n := c.count isSuffixChar
  if n = 0 then throw .tag
  return (← unescaped n (c.take n), c.skip n)

def scanHandle (c : Cursor) : Except Error (String × Cursor) :=
  if c.peek 0 != '!' then .error .tag
  else if c.peek 1 == ' ' then .ok ("!", c.next)
  else
    let n := c.next.count isNameChar + 2
    if c.peek (n - 1) == '!' then .ok (String.ofList (c.take n), c.skip n) else .error .tag

def scanName (c : Cursor) : Except Error (TagName × Cursor) :=
  if c.peek 1 == '<' then do
    let (suffix, c) ← scanSuffix (c.skip 2)
    if c.peek 0 != '>' then throw .tag
    return (⟨none, suffix⟩, c.next)
  else if isBlankOrEnd (c.peek 1) then .ok (⟨none, "!"⟩, c.next)
  else do
    let word := c.next.take (c.next.count fun ch => !isSpaceOrEnd ch)
    let (handle, c) ← if word.contains '!' then scanHandle c else .ok ("!", c.next)
    let (suffix, c) ← scanSuffix c
    return (⟨some handle, suffix⟩, c)

def scan (c : Cursor) : Except Error (TagName × Cursor) := do
  let (name, c) ← scanName c
  if !isSpaceOrEnd (c.peek 0) then throw .tag
  return (name, c)

def commonHandles : List (String × String) := [("!", "!"), ("!!", "tag:yaml.org,2002:")]

def resolve (handles : List (String × String)) (name : TagName) : Except Error TagName :=
  match name.handle with
  | none => .ok name
  | some handle =>
    match (handles ++ commonHandles).lookup handle with
    | none => .error .tag
    | some meaning => .ok ⟨none, meaning ++ name.suffix⟩

end TagName

namespace Directive

def scanNumber (c : Cursor) : Except Error (Nat × Cursor) := do
  let n := c.count Char.isDigit
  if n = 0 then throw .directive
  if n > Text.digitLimit then throw (.scalar (.integerTooLong n))
  return ((c.take n).foldl (fun m d => 10 * m + (d.toNat - '0'.toNat)) 0, c.skip n)

def scanVersion (c : Cursor) : Except Error (Directive × Cursor) := do
  let (major, c) ← scanNumber (c.skipWhile (· == ' '))
  if c.peek 0 != '.' then throw .directive
  let (_, c) ← scanNumber c.next
  if !isSpaceOrEnd (c.peek 0) then throw .directive
  return (.version major, c)

def scanMeaning (c : Cursor) : Except Error (Directive × Cursor) := do
  let (name, c) ← TagName.scanHandle (c.skipWhile (· == ' '))
  if c.peek 0 != ' ' then throw .directive
  let (meaning, c) ← TagName.scanSuffix (c.skipWhile (· == ' '))
  if !isSpaceOrEnd (c.peek 0) then throw .directive
  return (.handle name meaning, c)

def scanEnd (c : Cursor) : Except Error Cursor :=
  let c := c.skipWhile (· == ' ')
  let c := if c.peek 0 == '#' then c.skipWhile fun ch => !isBreak ch else c
  if c.peek 0 == endMark || isBreak (c.peek 0) then .ok c else .error .directive

def scan (c : Cursor) : Except Error (Directive × Cursor) := do
  let c := c.next
  let n := c.count isNameChar
  let name := String.ofList (c.take n)
  let c := c.skip n
  if n = 0 || !isSpaceOrEnd (c.peek 0) then throw .directive
  let (d, c) ←
    if name == "YAML" then scanVersion c
    else if name == "TAG" then scanMeaning c
    else pure (.other, c.skipWhile fun ch => !isBreak ch)
  return (d, ← scanEnd c)

def versions (ds : List Directive) : List Nat :=
  ds.filterMap fun
    | version major => some major
    | _ => none

def handles (ds : List Directive) : List (String × String) :=
  ds.filterMap fun
    | handle name meaning => some (name, meaning)
    | _ => none

def allowed (ds : List Directive) : Bool :=
  let names := (handles ds).map (·.1)
  (versions ds).length ≤ 1 && (versions ds).all (· == 1) && names.eraseDups.length == names.length

end Directive

end GenKill.Yaml
