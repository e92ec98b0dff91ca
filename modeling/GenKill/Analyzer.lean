import GenKill.Fact.Statement
import GenKill.Flow.Solver
import GenKill.Graph.Source
import GenKill.Profile.Library

namespace GenKill

namespace Analysis

def find (name : String) : Except Failure Analysis :=
  (ofName? (Text.lower name)).elim (.error (.unknownAnalysis name names)) .ok

def log (a : Analysis) (c : Flow.Convergence) : Log :=
  c.log ++ [⟨.debug, .analyses, s!"{a.name}: {c.iterations} passes, " ++
    s!"converged={(Value.bool c.converged).shown}"⟩]

def traced (a : Analysis) (g : Graph) (run : Flow.Run Token) : Traced Unit :=
  ⟨a.log run.convergence, (a.checkWritten g run).mapError .misuse⟩

end Analysis

def Graph.traced (p : Profile) (source : String) : Traced Graph :=
  let g := ofSource p source
  ⟨[⟨.debug, .graph, s!"Built CFG with {g.statements.length} statements"⟩], .ok g⟩

def FactTable.traced (p : Profile) (g : Graph) : Traced FactTable :=
  let facts := ofGraph p g
  ⟨[⟨.debug, .facts, s!"Extracted facts for {facts.size} statements"⟩], .ok facts⟩

structure Clock where
  timestamp : String
  elapsed : Nat := 0

def Clock.seconds (c : Clock) : String :=
  let thousandths := toString (c.elapsed % 1000)
  let zeros := String.ofList (List.replicate (3 - thousandths.length) '0')
  s!"{c.elapsed / 1000}.{zeros}{thousandths}"

structure Analyzer where
  settings : Settings
  library : Library

namespace Analyzer

def libraryDir? (s : Settings) : Option Path :=
  match s.languagesDir with
  | .text dir => if dir == "" then none else some (Path.ofText dir)
  | _ => none

def new (read : Yaml.Reader) (s : Settings) : Traced Analyzer :=
  ⟨s.log, .ok ⟨s, { read, dir := libraryDir? s }⟩⟩

def runs (a : Analyzer) (g : Graph) (facts : FactTable) : List (Analysis × Flow.Run Token) :=
  a.settings.analyses.map fun x => (x, x.solve a.settings.boundary a.settings.passLimit g facts)

def runErrors (x : Analysis) (c : Flow.Convergence) : List String :=
  if c.converged then []
  else [s!"{x.title} did not converge after {c.iterations} passes; results are approximate"]

/-- The report on a graph. An analysis that ran before is replaced, but not its errors. -/
def report (a : Analyzer) (clock : Clock) (g : Graph) (facts : FactTable)
    (runs : List (Analysis × Flow.Run Token)) : Report where
  source := ""
  language := a.settings.language
  timestamp := clock.timestamp
  results := runs.foldl (fun results (x, run) =>
    results.insert x.name (x.result a.settings.hints.isPresent g facts run)) {}
  errors := runs.flatMap fun (x, run) => runErrors x run.convergence

def opening (g : Graph) (runs : List (Analysis × Flow.Run Token)) : Log.Entry :=
  ⟨.info, .analyzer,
    s!"Analyzing {g.statements.length} statements with {runs.length} analyses"⟩

def closing (clock : Clock) (r : Report) : Log.Entry :=
  ⟨.info, .analyzer, s!"Analysis complete in {clock.seconds}s: {r.issues.length} issues"⟩

def reported (a : Analyzer) (clock : Clock) (g : Graph) (facts : FactTable) : Traced Report :=
  let runs := a.runs g facts
  let r := a.report clock g facts runs
  ⟨opening g runs :: runs.flatMap (fun (x, run) => x.log run.convergence) ++ [closing clock r], .ok r⟩

def analyzeGraph (a : Analyzer) (clock : Clock) (g : Graph) (facts : FactTable) : Traced Report := do
  let runs := a.runs g facts
  Traced.say [opening g runs]
  runs.forM fun (x, run) => x.traced g run
  let r := a.report clock g facts runs
  Traced.say [closing clock r]
  return r

def languageOr (a : Analyzer) (language : Value) : Value :=
  if language.isPresent then language else a.settings.language

def analyze (a : Analyzer) (clock : Clock) (t : FileTree) (source : String) (language : Value) :
    Traced Report := do
  let (_, profile) ← a.library.profile t (a.languageOr language)
  let g ← Graph.traced profile source
  let facts ← FactTable.traced profile g
  -- no text has so many lines that the number of one could not be written
  let r ← a.reported clock g facts
  return { r with source, language := .text profile.name }

def atSource (p : Path) (e : FileTree.Error) : Failure :=
  if e.cause = .nullByte then .file e else .unreadable p e

def readSource (t : FileTree) (p : Path) : Traced String := do
  let content ← Traced.of ((t.read p).mapError (atSource p))
  match Text.utf8? content with
  | some text => return text
  | none =>
    Traced.say [⟨.debug, .analyzer, s!"{p.text} is not utf-8, trying next encoding"⟩]
    return Text.latin1 content

def analyzeFile (a : Analyzer) (clock : Clock) (t : FileTree) (p : Path) (language : Value) :
    Traced Report := do
  match language with
  | .null =>
    let library ← a.library.ready t
    let found := Profile.findForFile? library.profiles p
    let source ← readSource t p
    { a with library }.analyze clock t source (found.elim .null fun x => .text x.name)
  | language => a.analyze clock t (← readSource t p) language

end Analyzer

end GenKill
