import GenKill.Analysis.Basic
import GenKill.Failure
import GenKill.Text.Bytes
import GenKill.Text.Case

namespace GenKill

namespace Settings

inductive Key where
  | passLimit
  | boundary
  | hints
  | language
  | languagesDir
  | analyses
  deriving DecidableEq, Repr

namespace Key

def all : List Key := [passLimit, boundary, hints, language, languagesDir, analyses]

def label : Key → String
  | passLimit => "max_iterations"
  | boundary => "must_boundary"
  | hints => "optimization_hints"
  | language => "language"
  | languagesDir => "languages_dir"
  | analyses => "analyses"

def ofLabel? (label : String) : Option Key := all.find? fun k => k.label == label

end Key

end Settings

structure Settings where
  passLimit : Nat := 100
  boundary : Boundary := .universal
  hints : Value := .bool false
  language : Value := .text "java"
  languagesDir : Value := .null
  analyses : List Analysis := Analysis.all

namespace Settings

def get (s : Settings) : Key → Value
  | .passLimit => .int s.passLimit
  | .boundary => .text s.boundary.label
  | .hints => s.hints
  | .language => s.language
  | .languagesDir => s.languagesDir
  | .analyses => .list (s.analyses.map fun a => .text a.name)

abbrev Draft := Key → Value

def Draft.set (d : Draft) (key : Key) (v : Value) : Draft := fun k => if k = key then v else d k

def refuse {α : Type} (e : SettingsError) (values : List Value) : Except Failure α :=
  .error (if Value.areWritable values then .settings e else .misuse .tooLong)

def checkPassLimit (v : Value) : Except Failure Nat :=
  match v with
  | .int n => if n < 1 then refuse (.passLimit v) [v] else .ok n.toNat
  | _ => refuse (.passLimit v) [v]

def checkBoundary (v : Value) : Except Failure Boundary :=
  match v with
  | .text s => (Boundary.ofLabel? s).elim (refuse (.boundary v) [v]) .ok
  | _ => refuse (.boundary v) [v]

def analysisOf? : Value → Option Analysis
  | .text s => Analysis.ofName? s
  | _ => none

def checkLookup (names : List Value) : Except Failure Unit :=
  match names.find? fun v => !v.isKey with
  | some v => .error (.misuse (.notKey v.kind))
  | none => .ok ()

def members (v : Value) : Except Failure (List Value) := v.members.mapError .misuse

def checkAnalyses (v : Value) : Except Failure (List Analysis) := do
  if !v.isPresent then throw (.settings .noAnalyses)
  let names ← members v
  checkLookup names
  let unknown := names.filter fun n => (analysisOf? n).isNone
  if unknown.isEmpty then return names.filterMap analysisOf?
  refuse (.unknownAnalyses unknown Analysis.names) unknown

def check (d : Draft) : Except Failure Settings := do
  let passLimit ← checkPassLimit (d .passLimit)
  let boundary ← checkBoundary (d .boundary)
  let analyses ← checkAnalyses (d .analyses)
  return ⟨passLimit, boundary, d .hints, d .language, d .languagesDir, analyses⟩

def log (s : Settings) : Log :=
  if s.hints.isPresent && s.boundary = .universal then
    [⟨.warning, .settings,
      "Optimization hints with a universal must boundary report every expression as available " ++
      "at ENTRY and busy at EXIT; use must_boundary: empty for precise hints"⟩]
  else []

def defaults : Settings := {}

def revise (s : Settings) (changes : List (Key × Value)) : Except Failure Settings :=
  check (changes.foldl (fun d c => Draft.set d c.1 c.2) s.get)

def withoutNulls {α : Type} (overrides : List (α × Value)) : List (α × Value) :=
  overrides.filter fun o => o.2.kind != .null

def merged (s : Settings) (overrides : List (Key × Value)) : Except Failure Settings :=
  s.revise (withoutNulls overrides)

def keyOf? : Value → Option Key
  | .text s => Key.ofLabel? s
  | _ => none

def insertSorted (v : Value) : List Value → Except Value.Misuse (List Value)
  | [] => .ok [v]
  | w :: rest => do
    if ← v.before? w then return v :: w :: rest
    return w :: (← insertSorted v rest)

def sorted (vs : List Value) : Except Value.Misuse (List Value) :=
  vs.foldlM (fun acc v => insertSorted v acc) []

def pathValue (v : Value) : Except Failure Value :=
  if !v.isPresent then .ok v
  else match v with
    | .text s => .ok (.text (Path.ofText s).text)
    | .points codes => .ok (.points codes)
    | v => .error (.misuse (.notPath v.kind))

def lowered (v : Value) : Except Failure Value :=
  match v with
  | .points codes => .ok (.points (Text.lowerPoints [] codes))
  | v => (v.written.mapError .misuse).map fun s => .text (Text.lower s)

def analysisNames (v : Value) : Except Failure Value := do
  let items ← match v with
    | .text s => pure [.text s]
    | .points codes => pure [.points codes]
    | v => if v.isPresent then members v else pure []
  return .list (← items.mapM lowered)

def convert (key : Key) (v : Value) : Except Failure Value :=
  match key with
  | .languagesDir => pathValue v
  | .analyses => analysisNames v
  | _ => .ok v

def convertKey (entries : List (Value × Value)) (d : Draft) (key : Key) : Except Failure Draft :=
  match Value.field? key.label entries with
  | some v => (convert key v).map (d.set key)
  | none => .ok d

def ofEntries (entries : List (Value × Value)) : Except Failure Settings := do
  let unknown := (entries.map (·.1)).filter fun k => (keyOf? k).isNone
  if !unknown.isEmpty then
    let keys ← (sorted unknown).mapError .misuse
    refuse (.unknownKeys keys) keys
  check (← Key.all.foldlM (convertKey entries) defaults.get)

def languagesDirValue (s : Settings) : Value :=
  if s.languagesDir.isPresent then .text s.languagesDir.plain else .null

def toValue (s : Settings) : Value :=
  .object [
    (Key.passLimit.label, s.get .passLimit),
    (Key.boundary.label, s.get .boundary),
    (Key.hints.label, s.hints),
    (Key.language.label, s.language),
    (Key.languagesDir.label, s.languagesDirValue),
    (Key.analyses.label, s.get .analyses)]

end Settings

def Failure.ofYaml : Yaml.Error → Failure
  | .scalar f => .scalar f
  | e => .document e

def FileTree.document (t : FileTree) (read : Yaml.Reader) (p : Path) : Except Failure Value := do
  let content ← (t.read p).mapError .file
  match Text.utf8? content with
  | none => throw .undecodable
  | some text => (read text).mapError .ofYaml

namespace Settings

def atPath (p : Path) : Failure → Failure
  | .file e => if e.cause = .nullByte then .file e else .settings (.unreadable p e)
  | .document e => .settings (.malformed p e)
  | f => f

def ofDocument (p : Path) : Value → Except Failure Settings
  | .null => ofEntries []
  | .map entries => ofEntries entries
  | _ => .error (.settings (.notMap p))

def ofFile (read : Yaml.Reader) (t : FileTree) (p : Path) : Except Failure Settings := do
  ofDocument p (← (t.document read p).mapError (atPath p))

def traced (s : Except Failure Settings) : Traced Settings := do
  let s ← Traced.of s
  Traced.say s.log
  return s

def load (read : Yaml.Reader) (t : FileTree) (path : Option Path) : Traced Settings :=
  match path with
  | none => traced (.ok defaults)
  | some p => do
    let s ← traced (ofFile read t p)
    Traced.say [⟨.info, .settings, s!"Loaded configuration from {p.text}"⟩]
    return s

end Settings

end GenKill
