import GenKill.Analyzer
import GenKill.CommandLine.Parser
import GenKill.Yaml.Document

namespace GenKill.CommandLine

structure Environment where
  read : Yaml.Reader := Yaml.read
  files : FileTree
  input : Option String := some ""
  terminal : Bool := false
  clock : Clock

structure Outcome where
  ending : Except Failure Nat
  stdout : String := ""
  log : Log := []
  stderr : String := ""
  written : Option (String × String) := none
  files : FileTree

def programName : String := "flowscan"

def version : String := "0.3.0"

namespace Stop

def helpText : String :=
  let flags := Flag.all.map fun f => s!"[{f.label}]"
  " ".intercalate (["usage:", programName] ++ flags ++ ["[source]"]) ++ "\n"

def outcome (files : FileTree) : Stop → Outcome
  | help => { ending := .ok 0, stdout := helpText, files }
  | version => { ending := .ok 0, stdout := s!"{programName} {CommandLine.version}\n", files }
  | usage e => { ending := .ok 2, stderr := s!"{programName}: error: {e.message}\n", files }

end Stop

namespace Options

def logLevel (o : Options) : Log.Level :=
  if o.debug then .debug else if o.verbose then .info else .warning

def nonempty (name : Option String) : Option String := name.filter (· != "")

def configPath? (o : Options) : Option Path := (nonempty o.config.value?).map Path.ofText

def analysesValue (o : Options) : Value :=
  if o.analyses.isEmpty then .null else .list (o.analyses.map (·.toValue fun a => .text a.name))

def overrides (o : Options) : List (Settings.Key × Value) :=
  [(.passLimit, o.passLimit.toValue .int), (.boundary, o.boundary.toValue fun b => .text b.label),
    (.hints, if o.hints then .bool true else .null), (.analyses, o.analysesValue)]

def settings (o : Options) (env : Environment) : Traced Settings := do
  let s ← Settings.load env.read env.files o.configPath?
  Settings.traced (s.merged o.overrides)

def report (o : Options) (env : Environment) (source : String) : Traced Report := do
  let analyzer ← Analyzer.new env.read (← o.settings env)
  let language := o.language.toValue .text
  if source == "-" then
    match env.input with
    | some text => analyzer.analyze env.clock env.files text language
    | none => Traced.fail .interrupted
  else analyzer.analyzeFile env.clock env.files (Path.ofText source) language

def console (o : Options) (env : Environment) : Report.Console.Options :=
  .on env.terminal (!o.noColor) o.verbose

def exitCode (r : Report) : Nat :=
  if !r.errors.isEmpty then 2 else if r.hasWarnings then 1 else 0

def write (o : Options) (env : Environment) (content : String) (exitCode : Nat) : Outcome :=
  match nonempty o.output.value? with
  | none => { ending := .ok exitCode, stdout := content ++ "\n", files := env.files }
  | some path =>
    match env.files.write path content.toUTF8 with
    | .ok files => { ending := .ok exitCode, written := some (path, content), files }
    | .error e => { ending := .error (.file e), files := env.files }

def deliver (o : Options) (env : Environment) (r : Report) : Outcome :=
  match o.format with
  | .value format =>
    match r.render (o.console env) format with
    | .ok content => o.write env content (exitCode r)
    | .error m => { ending := .error (.misuse m), files := env.files }
  | format =>
    let kind := (format.toValue fun f => .text f.name).kind
    { ending := .error (.misuse (.notText kind)), files := env.files }

def failed (files : FileTree) (e : Failure) : Outcome :=
  match e.origin? with
  | some _ => { ending := .ok 1, stderr := s!"Error: {e.message}\n", files }
  | none => { ending := .error e, files }

def analysisFailed (o : Options) (files : FileTree) : Failure → Outcome
  | .interrupted => { ending := .ok 130, stderr := s!"\n{Failure.interrupted.text}\n", files }
  | e => if o.debug then { ending := .error e, files } else failed files e

def padded (width : Nat) (text : String) : String :=
  text ++ String.ofList (List.replicate (width - text.length) ' ')

def listed (names : List String) : String :=
  if names.isEmpty then "-" else ", ".intercalate names

def profileLine (p : Profile) : String :=
  s!"  {padded 10 p.name} aliases: {padded 20 (listed p.aliases)} " ++
    s!"extensions: {listed p.extensions}\n"

def profileList (profiles : List Profile) : String :=
  s!"\nAvailable Languages ({profiles.length} total):\n\n" ++
    String.join ((profiles.mergeSort fun a b => a.name ≤ b.name).map profileLine)

def loadProfiles (env : Environment) (s : Settings) : Traced (List Profile) := do
  let lib ← Library.ready { read := env.read, dir := Analyzer.libraryDir? s } env.files
  return lib.profiles

def concluded {α : Type} (o : Options) (t : Traced α) (ok : α → Outcome)
    (error : Failure → Outcome) : Outcome :=
  let outcome := match t.outcome with
    | .ok a => ok a
    | .error e => error e
  { outcome with log := t.log.atLeast o.logLevel ++ outcome.log }

def runList (o : Options) (env : Environment) : Outcome :=
  o.concluded (Settings.load env.read env.files o.configPath?)
    (fun s => o.concluded (loadProfiles env s)
      (fun profiles => { ending := .ok 0, stdout := profileList profiles, files := env.files })
      (fun e => { ending := .error e, files := env.files }))
    (failed env.files)

def runAnalysis (o : Options) (env : Environment) (source : String) : Outcome :=
  o.concluded (o.report env source) (o.deliver env) (o.analysisFailed env.files)

def run (o : Options) (env : Environment) : Outcome :=
  let refused (message : String) : Outcome :=
    { ending := .ok 1, stderr := s!"Error: {message}\n", files := env.files }
  if o.listLanguages then o.runList env
  else match nonempty o.source with
    | none => refused "No source file given"
    | some source =>
      if source == "-" then o.runAnalysis env source
      else match env.files.exists? (Path.ofText source) with
        | .ok true => o.runAnalysis env source
        | .ok false => refused s!"Source file does not exist: {source}"
        | .error e => { ending := .error (.file e), files := env.files }

end Options

def run (env : Environment) (args : List String) : Outcome :=
  match Options.parse args with
  | .error stop => stop.outcome env.files
  | .ok o => o.run env

end GenKill.CommandLine
