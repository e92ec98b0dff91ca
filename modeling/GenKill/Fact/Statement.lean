import GenKill.Graph.Basic
import GenKill.Profile.Basic
import GenKill.Text.Literal
import GenKill.Text.Run

namespace GenKill

open Text

namespace Statement

def word? (text : List Char) : Option (List Char × List Char) :=
  match text.takeWhile isWord with
  | [] => none
  | w => some (w, text.dropWhile isWord)

def rest? (text : List Char) : Option (List Char) :=
  match trimLeft text with
  | [] => none
  | r => if r.contains '\n' then none else some r

def assigned? (text : List Char) : Option (List Char) :=
  match trimLeft text with
  | '=' :: rest => if rest.head? == some '=' then none else rest? rest
  | _ => none

def afterKeyword? (keyword text : List Char) : Option (List Char) := do
  let rest ← after? keyword text
  if rest.head?.any isBlank then some (trimLeft rest) else none

inductive Form where
  | declaration (target right : List Char)
  | bareDeclaration
  | compound (target : List Char) (operator : Char) (right : List Char)
  | step (target : List Char)
  | assignment (target right : List Char)
  | plain
  deriving DecidableEq

def declaration? (keyword text : List Char) : Option Form := do
  let (target, rest) ← word? (← afterKeyword? keyword text)
  return .declaration target (← assigned? rest)

def bareDeclaration? (keyword text : List Char) : Option Form := do
  let (_, rest) ← word? (← afterKeyword? keyword text)
  if (trimLeft rest).isEmpty then some .bareDeclaration else none

def compound? (text : List Char) : Option Form := do
  let (target, rest) ← word? text
  match trimLeft rest with
  | operator :: '=' :: rest =>
    if isOperator operator then return .compound target operator (← rest? rest) else none
  | _ => none

def isStep (text : List Char) : Bool := text == ['+', '+'] || text == ['-', '-']

def step? (text : List Char) : Option Form :=
  match word? text with
  | some (target, rest) => if isStep (trimLeft rest) then some (.step target) else none
  | none =>
    match word? (trimLeft (text.drop 2)) with
    | some (target, []) => if isStep (text.take 2) then some (.step target) else none
    | _ => none

def assignment? (ignored : List String) (text : List Char) : Option Form := do
  let (target, rest) ← word? text
  let right ← assigned? rest
  if ignored.contains (String.ofList target) then none else some (.assignment target right)

def keywords (p : Profile) : List (List Char) :=
  (p.typeKeywords.map String.toList).mergeSort fun a b => b.length ≤ a.length

def form (p : Profile) (text : List Char) : Form :=
  ((keywords p).findSome? (declaration? · text)
    <|> (keywords p).findSome? (bareDeclaration? · text)
    <|> compound? text
    <|> step? text
    <|> assignment? p.ignored text).getD .plain

def clean (statement : List Char) : List Char :=
  emptyLiterals (trim (statement.filter (· != ';')))

def usedIn (p : Profile) (text : List Char) : List String :=
  (((names (emptyLiterals text)).map String.ofList).filter fun n => !p.ignored.contains n).eraseDups

def expressionsIn (text : List Char) : List String :=
  ((binaries (emptyLiterals text)).map fun e => String.ofList e.text).eraseDups

def compoundExpression (target : List Char) (operator : Char) (right : List Char) : List String :=
  if !right.isEmpty && right.all isWord then [String.ofList (Binary.text ⟨target, operator, right⟩)]
  else []

def factOf (p : Profile) (text : List Char) : Form → Fact
  | .declaration target right =>
    ⟨.decl, some (String.ofList target), usedIn p right, expressionsIn right⟩
  | .bareDeclaration => { kind := .decl }
  | .compound target operator right =>
    let right' := trim right
    ⟨.assign, some (String.ofList target), (String.ofList target :: usedIn p right').eraseDups,
      (compoundExpression target operator right' ++ expressionsIn right).eraseDups⟩
  | .step target => ⟨.assign, some (String.ofList target), [String.ofList target], []⟩
  | .assignment target right =>
    ⟨.assign, some (String.ofList target), usedIn p right, expressionsIn right⟩
  | .plain => { kind := .use, used := usedIn p text }

end Statement

def Fact.ofStatement (p : Profile) (statement : String) : Fact :=
  let text := Statement.clean statement.toList
  Statement.factOf p text (Statement.form p text)

end GenKill

namespace GenKill.FactTable

def ofGraph (p : Profile) (g : Graph) : FactTable :=
  ⟨g.numbered.map fun (n, s) => (n, Fact.ofStatement p s.text)⟩

end GenKill.FactTable
