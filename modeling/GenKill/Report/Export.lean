import GenKill.Failure
import GenKill.Report.Console
import GenKill.Value.Json

namespace GenKill

def Issue.toValue (i : Issue) : Value :=
  .object [
    ("severity", .text i.severity.label),
    ("message", .text i.message),
    ("code", .text i.code),
    ("variable", i.subject.elim .null .text)]

def textList (items : List String) : Value := .list (items.map .text)

/-- The sets stand beside the fixed fields. A set named like a field before it takes that field's
place, and one named like the issues gives its place to them. -/
def Record.toValue (r : Record) : Value :=
  let fixed := [(.text "line", .int r.line), (.text "statement", .text r.statement)]
  let shown := r.sets.entries.foldl (fun es s => Value.setEntry (.text s.1) (textList s.2) es) fixed
  .map (Value.setEntry (.text "issues") (.list (r.issues.map Issue.toValue)) shown)

def Flow.Convergence.toValue (c : Flow.Convergence) : Value :=
  .object [
    ("converged", .bool c.converged),
    ("iterations", .int c.iterations),
    ("direction", .text c.direction.label),
    ("meet", .text c.meet.label)]

def Result.convergenceValue (r : Result) : Value := r.convergence.elim .null (·.toValue)

def Result.recordsValue (r : Result) : Value := .list (r.records.map Record.toValue)

def Result.toValue (r : Result) : Value :=
  .object [
    ("name", .text r.name),
    ("records", r.recordsValue),
    ("convergence", r.convergenceValue)]

namespace Report

def summaryValue (r : Report) : Value :=
  .object (Severity.all.map fun s => (s.label, .int (r.count s)))

def toValue (r : Report) : Value :=
  .object [
    ("language", r.language),
    ("timestamp", .text r.timestamp),
    ("code", .text r.source),
    ("analysisResults",
      .object (r.results.entries.map fun (name, result) => (name, result.recordsValue))),
    ("convergence",
      .object (r.results.entries.map fun (name, result) => (name, result.convergenceValue))),
    ("summary", r.summaryValue),
    ("errors", textList r.errors)]

def toJson (r : Report) (indent : Value := .int 2) : Except Value.Misuse String := do
  r.toValue.toJson (← Value.Layout.ofValue indent)

inductive Format where
  | console
  | json
  deriving DecidableEq, Repr

namespace Format

def all : List Format := [console, json]

def name : Format → String
  | console => "console"
  | json => "json"

def ofName? (name : String) : Option Format := all.find? fun f => f.name == name

def names : List String := all.map name

def find (name : String) : Except Failure Format :=
  (ofName? (Text.lower name)).elim (.error (.unknownFormat name names)) .ok

end Format

def render (r : Report) (o : Console.Options) : Format → Except Value.Misuse String
  | .console => r.toConsole o
  | .json => r.toJson

end Report

end GenKill
