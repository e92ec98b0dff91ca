import GenKill.Yaml.Lexeme

namespace GenKill.Yaml

inductive Node where
  | scalar (tag : Option String) (plain : Bool) (text : Points)
  | seq (tag : Option String) (items : List Node)
  | map (tag : Option String) (entries : List (Node × Node))
  | anchored (name : String) (node : Node)
  | reference (name : String)

namespace Node

def empty : Node := .scalar none true []

def withAnchor (anchor : Option String) (n : Node) : Node := anchor.elim n fun a => .anchored a n

def properties : List Lexeme → Option String × Option String × List Lexeme
  | .anchor a :: .tag t :: rest => (some a, some t.suffix, rest)
  | .tag t :: .anchor a :: rest => (some a, some t.suffix, rest)
  | .anchor a :: rest => (some a, none, rest)
  | .tag t :: rest => (none, some t.suffix, rest)
  | rest => (none, none, rest)

inductive Place where
  | flow
  | block
  | value
  deriving DecidableEq

abbrev With (β : Type) := β × List Lexeme

def endsEntry : Lexeme → Bool
  | .blockEntry | .blockEnd => true
  | _ => false

def endsIndentless : Lexeme → Bool
  | .blockEntry | .key | .value | .blockEnd => true
  | _ => false

def endsBlockPart : Lexeme → Bool
  | .key | .value | .blockEnd => true
  | _ => false

def endsFlowKey (close : Lexeme) (l : Lexeme) : Bool := l == .value || l == .flowEntry || l == close

def endsFlowValue (close : Lexeme) (l : Lexeme) : Bool := l == .flowEntry || l == close

def unexpected : List Lexeme → Error
  | .broken e :: _ => e
  | _ => .shape

def unwritten (tag : Option String) (anchored : Bool) (lexemes : List Lexeme) :
    Except Error (With Node) :=
  if tag.isSome || anchored then .ok (.scalar tag true [], lexemes)
  else .error (unexpected lexemes)

def afterComma (first : Bool) (lexemes : List Lexeme) : Except Error (List Lexeme) :=
  match first, lexemes with
  | true, lexemes => .ok lexemes
  | false, .flowEntry :: rest => .ok rest
  | false, lexemes => .error (unexpected lexemes)

mutual

def parse (place : Place) : Nat → List Lexeme → Except Error (With Node)
  | 0, _ => .error .shape
  | fuel + 1, lexemes =>
    match lexemes with
    | .reference name :: rest => .ok (.reference name, rest)
    | _ => do
      let (anchor, tag, lexemes) := properties lexemes
      let (node, rest) ← content place tag anchor.isSome fuel lexemes
      return (withAnchor anchor node, rest)

def content (place : Place) (tag : Option String) (anchored : Bool) :
    Nat → List Lexeme → Except Error (With Node)
  | 0, _ => .error .shape
  | fuel + 1, lexemes =>
    match lexemes with
    | .broken e :: _ => .error e
    | .scalar text plain :: rest => .ok (.scalar tag plain text, rest)
    | .flowSeqStart :: rest => do
      let (items, rest) ← flowItems true fuel rest
      return (.seq tag items, rest)
    | .flowMapStart :: rest => do
      let (entries, rest) ← flowEntries true fuel rest
      return (.map tag entries, rest)
    | lexemes =>
      match place, lexemes with
      | .value, .blockEntry :: _ => do
        let (items, rest) ← indentlessItems fuel lexemes
        return (.seq tag items, rest)
      | .flow, _ => unwritten tag anchored lexemes
      | _, .blockSeqStart :: rest => do
        let (items, rest) ← blockItems fuel rest
        return (.seq tag items, rest)
      | _, .blockMapStart :: rest => do
        let (entries, rest) ← blockEntries fuel rest
        return (.map tag entries, rest)
      | _, _ => unwritten tag anchored lexemes

def parseUnless (place : Place) (ends : Lexeme → Bool) :
    Nat → List Lexeme → Except Error (With Node)
  | 0, _ => .error .shape
  | fuel + 1, lexemes =>
    if lexemes.head?.any ends then .ok (.empty, lexemes) else parse place fuel lexemes

def blockItems : Nat → List Lexeme → Except Error (With (List Node))
  | 0, _ => .error .shape
  | fuel + 1, .blockEntry :: rest => do
    let (item, rest) ← parseUnless .block endsEntry fuel rest
    let (more, rest) ← blockItems fuel rest
    return (item :: more, rest)
  | _, .blockEnd :: rest => .ok ([], rest)
  | _, lexemes => .error (unexpected lexemes)

def indentlessItems : Nat → List Lexeme → Except Error (With (List Node))
  | 0, _ => .error .shape
  | fuel + 1, .blockEntry :: rest => do
    let (item, rest) ← parseUnless .block endsIndentless fuel rest
    let (more, rest) ← indentlessItems fuel rest
    return (item :: more, rest)
  | _, rest => .ok ([], rest)

def blockEntries : Nat → List Lexeme → Except Error (With (List (Node × Node)))
  | 0, _ => .error .shape
  | fuel + 1, .key :: rest => do
    let (key, rest) ← parseUnless .value endsBlockPart fuel rest
    let (value, rest) ← blockValue fuel rest
    let (more, rest) ← blockEntries fuel rest
    return ((key, value) :: more, rest)
  | _, .blockEnd :: rest => .ok ([], rest)
  | _, lexemes => .error (unexpected lexemes)

def blockValue : Nat → List Lexeme → Except Error (With Node)
  | 0, _ => .error .shape
  | fuel + 1, .value :: rest => parseUnless .value endsBlockPart fuel rest
  | _, rest => .ok (.empty, rest)

def flowValue (close : Lexeme) : Nat → List Lexeme → Except Error (With Node)
  | 0, _ => .error .shape
  | fuel + 1, .value :: rest => parseUnless .flow (endsFlowValue close) fuel rest
  | _, rest => .ok (.empty, rest)

def flowItems (first : Bool) : Nat → List Lexeme → Except Error (With (List Node))
  | 0, _ => .error .shape
  | _, .flowSeqEnd :: rest => .ok ([], rest)
  | fuel + 1, lexemes => do
    let lexemes ← afterComma first lexemes
    match lexemes with
    | .flowSeqEnd :: rest => return ([], rest)
    | .key :: rest =>
      let (key, rest) ← parseUnless .flow (endsFlowKey .flowSeqEnd) fuel rest
      let (value, rest) ← flowValue .flowSeqEnd fuel rest
      let (more, rest) ← flowItems false fuel rest
      return (.map none [(key, value)] :: more, rest)
    | lexemes =>
      let (item, rest) ← parse .flow fuel lexemes
      let (more, rest) ← flowItems false fuel rest
      return (item :: more, rest)

def flowEntries (first : Bool) : Nat → List Lexeme → Except Error (With (List (Node × Node)))
  | 0, _ => .error .shape
  | _, .flowMapEnd :: rest => .ok ([], rest)
  | fuel + 1, lexemes => do
    let lexemes ← afterComma first lexemes
    match lexemes with
    | .flowMapEnd :: rest => return ([], rest)
    | .key :: rest =>
      let (key, rest) ← parseUnless .flow (endsFlowKey .flowMapEnd) fuel rest
      let (value, rest) ← flowValue .flowMapEnd fuel rest
      let (more, rest) ← flowEntries false fuel rest
      return ((key, value) :: more, rest)
    | lexemes =>
      let (key, rest) ← parse .flow fuel lexemes
      let (more, rest) ← flowEntries false fuel rest
      return ((key, .empty) :: more, rest)

end

def withHandles (handles : List (String × String)) : List Lexeme → Except Error (List Lexeme)
  | .anchor a :: .tag name :: rest => do
    let name ← name.resolve handles
    return .anchor a :: .tag name :: (← withHandles handles rest)
  | [.tag name, .broken e] => .ok [.tag name, .broken e]
  | .tag name :: rest => do
    let name ← name.resolve handles
    return .tag name :: (← withHandles handles rest)
  | l :: rest => do return l :: (← withHandles handles rest)
  | [] => .ok []

/-- An alias has its anchor before it, and no anchor comes twice. An anchor counts only if a readable
lexeme follows its node's properties. -/
def checkAnchors (known : List String) : List Lexeme → Except Error Unit
  | .reference name :: rest =>
    if known.contains name then checkAnchors known rest else .error .anchor
  | [.anchor _, .broken _] | [.anchor _, .tag _, .broken _] => .ok ()
  | .anchor name :: rest =>
    if known.contains name then .error .anchor else checkAnchors (name :: known) rest
  | _ :: rest => checkAnchors known rest
  | [] => .ok ()

def directives : List Lexeme → List Directive × List Lexeme
  | .directive d :: rest =>
    let (ds, rest) := directives rest
    (d :: ds, rest)
  | rest => ([], rest)

def explicitContent (fuel : Nat) (lexemes : List Lexeme) : Except Error (With Node) :=
  match lexemes with
  | [] => .ok (.empty, [])
  | .directive _ :: _ | .documentStart :: _ | .documentEnd :: _ => .ok (.empty, lexemes)
  | _ => parse .block fuel lexemes

def closing (node : Node) (lexemes : List Lexeme) : Except Error (Option Node) :=
  match lexemes.dropWhile (· == .documentEnd) with
  | [] => .ok (some node)
  | lexemes =>
    match (directives lexemes).2 with
    | .broken e :: _ => .error e
    | _ => .error .documents

def ofLexemes (lexemes : List Lexeme) : Except Error (Option Node) := do
  let fuel := 4 * lexemes.length + 8
  checkAnchors [] lexemes
  let (ds, rest) := directives lexemes
  if !Directive.allowed ds then throw .directive
  match ds, ← withHandles (Directive.handles ds) rest with
  | [], [] => return none
  | _, .documentStart :: rest =>
    let (node, rest) ← explicitContent fuel rest
    closing node rest
  | [], lexemes =>
    let (node, rest) ← parse .block fuel lexemes
    closing node rest
  | _, .broken e :: _ => throw e
  | _, _ => throw .directive

end Node

end GenKill.Yaml
