import GenKill.OrderedMap

namespace GenKill

abbrev NodeId := Int

namespace Fact

inductive Kind where
  | decl
  | assign
  | use
  | other (label : String)
  deriving DecidableEq, Repr

def Kind.label : Kind → String
  | decl => "decl"
  | assign => "assign"
  | use => "use"
  | other label => label

def Kind.ofLabel (label : String) : Kind :=
  if label = "decl" then .decl
  else if label = "assign" then .assign
  else if label = "use" then .use
  else .other label

end Fact

structure Fact where
  kind : Fact.Kind := .use
  defined : Option String := none
  used : List String := []
  expressions : List String := []
  deriving DecidableEq, Repr

def Fact.target (f : Fact) : Option String := f.defined.filter (· ≠ "")

abbrev FactTable := OrderedMap NodeId Fact

namespace FactTable

def fact (t : FactTable) (n : NodeId) : Fact := (t.get? n).getD {}

def allExpressions (t : FactTable) : List String :=
  ((t.keys.mergeSort (· ≤ ·)).flatMap fun n => (fact t n).expressions).eraseDups

end FactTable

end GenKill
