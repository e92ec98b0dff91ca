import GenKill.Analysis.Basic
import GenKill.Text.Case

namespace GenKill.Report.Console

inductive Style where
  | bold
  | gray
  | green
  | severity (s : Severity)
  deriving DecidableEq

def Style.code : Style → String
  | bold => "\x1b[1m"
  | gray => "\x1b[90m"
  | green => "\x1b[92m"
  | severity .error => "\x1b[91m"
  | severity .warning => "\x1b[93m"
  | severity .info => "\x1b[94m"

structure Options where
  colors : Bool := false
  verbose : Bool := false

def Options.on (terminal useColors verbose : Bool) : Options where
  colors := useColors && terminal
  verbose := verbose

def Options.paint (o : Options) (style : Style) (text : String) : String :=
  if o.colors then style.code ++ text ++ "\x1b[0m" else text

def rule (c : Char) : String := String.ofList (List.replicate 60 c)

def severityText (o : Options) (s : Severity) : String := o.paint (.severity s) (Text.upper s.label)

def titleOf (name : String) : String := ((Analysis.ofName? name).map (·.title)).getD name

def tokensText (tokens : List String) : String :=
  if tokens.isEmpty then "None" else ", ".intercalate tokens

abbrev Lines := Except Value.Misuse (List String)

def recordLines (o : Options) (r : Record) : Lines := do
  let line ← (Value.int r.line).written
  return s!"  Line {line}: {r.statement}" ::
    r.sets.entries.map (fun (name, tokens) => s!"    {name}: {tokensText tokens}") ++
    r.issues.map fun issue => s!"    {severityText o issue.severity}: {issue.message}"

def convergenceLines (o : Options) (c : Option Flow.Convergence) : Lines :=
  match c, o.verbose with
  | some c, true => do
    let state := if c.converged then "converged" else "NOT converged"
    let passes ← (Value.int c.iterations).written
    return [o.paint .gray s!"  {state} after {passes} passes"]
  | _, _ => .ok []

def resultLines (o : Options) (name : String) (r : Result) : Lines := do
  let convergence ← convergenceLines o r.convergence
  let records ← r.records.mapM (recordLines o)
  return ["", o.paint .bold s!"[{Text.upper (titleOf name)}]"] ++ convergence ++ [rule '-'] ++
    (if r.records.isEmpty then ["  No statements"] else []) ++ records.flatten

def countLine (o : Options) (r : Report) (s : Severity) : Except Value.Misuse String := do
  return s!"  {severityText o s}: {← (Value.int (r.count s)).written}"

def summaryLines (o : Options) (r : Report) : Lines := do
  let counted := Severity.all.filter fun s => r.count s > 0
  return (← counted.mapM (countLine o r)) ++
    if counted.isEmpty then [o.paint .green "  No issues found!"] else []

def errorLines (o : Options) (errors : List String) : List String :=
  if errors.isEmpty then []
  else ["", o.paint (.severity .error) "ERRORS:"] ++ errors.map fun e => s!"  - {e}"

def lines (o : Options) (r : Report) : Lines := do
  let language ← r.language.written
  let results ← r.results.entries.mapM fun (name, result) => resultLines o name result
  return ["", o.paint .bold (rule '='), o.paint .bold "  DATAFLOW ANALYSIS RESULTS",
    o.paint .bold (rule '='), "", s!"Language: {language}", s!"Timestamp: {r.timestamp}"] ++
    results.flatten ++
    ["", o.paint .bold "SUMMARY BY SEVERITY:"] ++ (← summaryLines o r) ++ errorLines o r.errors ++
    ["", o.paint .bold (rule '=')]

end Console

def toConsole (r : Report) (o : Console.Options) : Except Value.Misuse String :=
  (Console.lines o r).map "\n".intercalate

end GenKill.Report
