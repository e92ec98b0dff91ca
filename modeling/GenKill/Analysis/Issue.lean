import GenKill.Fact.Basic
import GenKill.Flow.Basic
import GenKill.Report.Basic
import GenKill.Token

namespace GenKill.Issue

def uninitialized (name : String) : Issue where
  severity := .warning
  message := s!"Variable '{name}' may be uninitialized"
  code := "uninitialized-use"
  subject := some name

def multiplyDefined (name : String) : Issue where
  severity := .info
  message := s!"Variable '{name}' has multiple reaching definitions"
  code := "multiple-definitions"
  subject := some name

def deadStore (name : String) : Issue where
  severity := .warning
  message := s!"Dead code: Variable '{name}' is never used after this definition"
  code := "dead-store"
  subject := some name

def redundant (text : String) : Issue where
  severity := .info
  message := s!"Expression '{text}' is already available here; its earlier value can be reused"
  code := "redundant-computation"

def hoistable (text : String) : Issue where
  severity := .info
  message := s!"Expression '{text}' is evaluated again on every path from here; " ++
    "later evaluations can reuse this value"
  code := "hoistable-expression"

def definitionsOf (name : String) (reaching : TokenSet Token) : List Token :=
  reaching.toList.filter (·.defines name)

def atUse (f : Fact) (reaching : TokenSet Token) : List Issue :=
  (f.used.filter fun name => (definitionsOf name reaching).isEmpty).map uninitialized

def atDefinition (f : Fact) (reaching : TokenSet Token) : List Issue :=
  match f.target with
  | some name => if (definitionsOf name reaching).length > 1 then [multiplyDefined name] else []
  | none => []

def ofReaching (f : Fact) (reaching : TokenSet Token) : List Issue :=
  atUse f reaching ++ atDefinition f reaching

def ofLive (f : Fact) (liveAfter : TokenSet Token) : List Issue :=
  match f.target with
  | some name => if liveAfter.contains (.var name) then [] else [deadStore name]
  | none => []

def ofAvailable (f : Fact) (availableBefore : TokenSet Token) : List Issue :=
  (f.expressions.filter fun text => availableBefore.contains (.expr text)).map redundant

def ofBusy (f : Fact) (busyAfter : TokenSet Token) : List Issue :=
  (f.expressions.filter fun text => busyAfter.contains (.expr text)).map hoistable

end GenKill.Issue
