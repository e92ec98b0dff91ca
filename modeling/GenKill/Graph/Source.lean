import GenKill.Graph.Basic
import GenKill.Profile.Basic
import GenKill.Text.Basic
import GenKill.Text.Literal

namespace GenKill

open Text

namespace Source

def lineComment : List Char := ['/', '/']

def commentStart : List Char := ['/', '*']

def commentEnd : List Char := ['*', '/']

def isCommentLine (line : List Char) : Bool :=
  lineComment.isPrefixOf line || commentStart.isPrefixOf line || line.head? == some '*'

def unbraced (line : List Char) : List Char :=
  trim (dropTrailing (· == '\x7b') (line.dropWhile (· == '\x7d')))

def cutComment (line masked : List Char) : List Char × List Char :=
  match firstIndex? lineComment masked with
  | some i => (trimRight (line.take i), trimRight (masked.take i))
  | none => (line, masked)

def statementText? (p : Profile) (line : List Char) : Option (List Char) :=
  if isCommentLine line then none
  else
    let (line, masked) := cutComment line (mask line)
    if p.isStructural masked then none
    else
      let text := unbraced line
      if text.all (· == ';') || p.isStructural (unbraced masked) then none else some text

def statementsFrom (p : Profile) (inComment : Bool) (n : Nat) : List (List Char) → List Statement
  | [] => []
  | raw :: rest =>
    let line := trim raw
    if line.isEmpty then statementsFrom p inComment (n + 1) rest
    else if inComment || commentStart.isPrefixOf line then
      statementsFrom p (!isInfix commentEnd line) (n + 1) rest
    else
      match statementText? p line with
      | some text => ⟨String.ofList text, n⟩ :: statementsFrom p false (n + 1) rest
      | none => statementsFrom p false (n + 1) rest

def statements (p : Profile) (source : String) : List Statement :=
  statementsFrom p false 1 (lines source.toList)

end Source

namespace Graph

def extend (state : Graph × NodeId) (s : Statement) : Graph × NodeId :=
  let new := Int.ofNat (state.1.statements.length + 1)
  ((state.1.push s).addEdge state.2 new, new)

def ofStatements (statements : List Statement) : Graph :=
  (statements.foldl extend ({}, entryId)).1.close

def ofSource (p : Profile) (source : String) : Graph := ofStatements (Source.statements p source)

end Graph

end GenKill
