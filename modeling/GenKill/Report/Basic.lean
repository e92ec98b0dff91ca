import GenKill.Flow.Solver
import GenKill.OrderedMap
import GenKill.Value.Basic

namespace GenKill

inductive Severity where
  | error
  | warning
  | info
  deriving DecidableEq, Repr

namespace Severity

def all : List Severity := [error, warning, info]

def label : Severity → String
  | error => "error"
  | warning => "warning"
  | info => "info"

def ofLabel? (label : String) : Option Severity := all.find? fun s => s.label == label

def priority : Severity → Nat
  | error => 3
  | warning => 2
  | info => 1

end Severity

structure Issue where
  severity : Severity
  message : String
  code : String
  subject : Option String := none
  deriving DecidableEq, Repr

structure Record where
  nodeId : NodeId
  line : Int
  statement : String
  sets : OrderedMap String (List String) := {}
  issues : List Issue := []
  deriving DecidableEq, Repr

structure Result where
  name : String
  records : List Record := []
  convergence : Option Flow.Convergence := none
  deriving DecidableEq, Repr

namespace Result

def converged (r : Result) : Bool := r.convergence.all (·.converged)

def issues (r : Result) : List Issue := r.records.flatMap (·.issues)

def recordAt? (r : Result) (line : Int) : Option Record :=
  r.records.find? fun rec => rec.line == line

end Result

structure Report where
  source : String
  language : Value
  timestamp : String
  results : OrderedMap String Result := {}
  errors : List String := []

namespace Report

def allIssues (r : Report) : List (String × Record × Issue) :=
  r.results.entries.flatMap fun (name, result) =>
    result.records.flatMap fun record => record.issues.map fun issue => (name, record, issue)

def issues (r : Report) : List Issue := r.allIssues.map (·.2.2)

def withSeverity (r : Report) (s : Severity) : List Issue :=
  r.issues.filter fun issue => issue.severity == s

def count (r : Report) (s : Severity) : Nat := (r.withSeverity s).length

def hasWarnings (r : Report) : Bool :=
  r.issues.any fun issue => Severity.warning.priority ≤ issue.severity.priority

def converged (r : Report) : Bool := r.results.values.all (·.converged)

end Report

end GenKill
