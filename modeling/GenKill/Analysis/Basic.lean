import GenKill.Analysis.Issue
import GenKill.Flow.Solver

/-!
The four analyses: what each tracks, makes and destroys, and the problem it poses.
-/

namespace GenKill

open GenKill.Flow

inductive Boundary where
  | universal
  | empty
  deriving DecidableEq, Repr

namespace Boundary

def all : List Boundary := [universal, empty]

def label : Boundary → String
  | universal => "universal"
  | empty => "empty"

def ofLabel? (label : String) : Option Boundary := all.find? fun b => b.label == label

end Boundary

inductive Analysis where
  | reaching
  | live
  | available
  | busy
  deriving DecidableEq, Repr

namespace Analysis

def all : List Analysis := [reaching, live, available, busy]

def name : Analysis → String
  | reaching => "reaching"
  | live => "live"
  | available => "available"
  | busy => "busy"

def ofName? (name : String) : Option Analysis := all.find? fun a => a.name == name

def names : List String := all.map name

def title : Analysis → String
  | reaching => "Reaching Definitions"
  | live => "Live Variables"
  | available => "Available Expressions"
  | busy => "Very Busy Expressions"

def direction : Analysis → Direction
  | reaching => .forward
  | live => .backward
  | available => .forward
  | busy => .backward

def meet : Analysis → Meet
  | reaching => .union
  | live => .union
  | available => .intersection
  | busy => .intersection

def sitesOf (g : Graph) (facts : FactTable) (name : String) : TokenSet Token :=
  TokenSet.ofList ((g.numbered.filter fun (n, _) => (facts.fact n).target == some name).map
    fun (_, s) => .site name s.line)

def expressions (facts : FactTable) : TokenSet Token :=
  TokenSet.ofList (facts.allExpressions.map .expr)

def gen (a : Analysis) (s : Statement) (f : Fact) : TokenSet Token :=
  match a with
  | reaching => f.target.elim ∅ fun name => TokenSet.ofList [Token.site name s.line]
  | live => TokenSet.ofList (f.used.map .var)
  | available | busy => TokenSet.ofList (f.expressions.map .expr)

def killBy (a : Analysis) (g : Graph) (facts : FactTable) (s : Statement) (name : String) :
    TokenSet Token :=
  match a with
  | reaching => sitesOf g facts name \ TokenSet.ofList [Token.site name s.line]
  | live => TokenSet.ofList [.var name]
  | available | busy => (expressions facts).filter (·.mentions name)

/-- The sets of a statement with what it makes and destroys put in. A statement that writes nothing
leaves alone what it destroys. -/
def equip (a : Analysis) (g : Graph) (facts : FactTable) (s : Statement) (f : Fact)
    (sets : Sets Token) : Sets Token :=
  { sets with
    gen := a.gen s f
    kill := f.target.elim sets.kill (a.killBy g facts s) }

def prepare (a : Analysis) (g : Graph) (facts : FactTable) (store : Store Token) : Store Token :=
  g.numbered.foldl (fun store (n, s) =>
    let f := facts.fact n
    if a = reaching ∧ f.target = none then store
    else Store.update store n (a.equip g facts s f)) store

def everything (a : Analysis) (facts : FactTable) : TokenSet Token :=
  match a.meet with
  | .intersection => expressions facts
  | .union => ∅

def boundary (a : Analysis) (b : Boundary) (everything : TokenSet Token) : TokenSet Token :=
  match a.meet, b with
  | .intersection, .universal => everything
  | _, _ => ∅

def initial (a : Analysis) (everything : TokenSet Token) : Option (TokenSet Token) :=
  match a.meet with
  | .intersection => some everything
  | .union => none

def problem (a : Analysis) (b : Boundary) (facts : FactTable) : Problem Token where
  direction := a.direction
  meet := a.meet
  boundary := a.boundary b (a.everything facts)
  initial := a.initial (a.everything facts)

def solve (a : Analysis) (b : Boundary) (cap : Nat) (g : Graph) (facts : FactTable) : Run Token :=
  (a.problem b facts).solve g cap (a.prepare g facts (Store.ofIds g.nodeIds))

def texts (tokens : TokenSet Token) : Except Value.Misuse (List String) :=
  tokens.toList.mapM Token.written

def exposed (a : Analysis) (sets : Sets Token) : List (String × TokenSet Token) :=
  match a with
  | reaching => [("reaching", sets.before)]
  | live => [("liveIn", sets.before), ("liveOut", sets.after)]
  | available => [("availableIn", sets.before), ("availableOut", sets.after)]
  | busy => [("busyIn", sets.before), ("busyOut", sets.after)]

def shown (a : Analysis) (sets : Sets Token) : List (String × List String) :=
  (a.exposed sets).map fun (name, tokens) => (name, tokens.toList.map Token.shown)

def issues (a : Analysis) (hints : Bool) (f : Fact) (sets : Sets Token) : List Issue :=
  match a with
  | reaching => Issue.ofReaching f sets.before
  | live => Issue.ofLive f sets.after
  | available => if hints then Issue.ofAvailable f sets.before else []
  | busy => if hints then Issue.ofBusy f sets.after else []

def record (a : Analysis) (hints : Bool) (f : Fact) (sets : Sets Token) (n : NodeId)
    (s : Statement) : Record where
  nodeId := n
  line := s.line
  statement := s.text
  sets := ⟨a.shown sets⟩
  issues := a.issues hints f sets

def result (a : Analysis) (hints : Bool) (g : Graph) (facts : FactTable) (run : Run Token) :
    Result where
  name := a.name
  records := g.numbered.map fun (n, s) => a.record hints (facts.fact n) (run.store.sets n) n s
  convergence := some run.convergence

def checkWritten (a : Analysis) (g : Graph) (run : Run Token) : Except Value.Misuse Unit :=
  g.numbered.forM fun (n, _) => (a.exposed (run.store.sets n)).forM fun (_, tokens) =>
    discard (texts tokens)

end Analysis

end GenKill
