import GenKill.Profile.Basic
import GenKill.Settings.Basic

namespace GenKill

namespace Profile

def texts (v : Value) : Except Value.Misuse (List String) :=
  if !v.isPresent then .ok []
  else match v with
    | .text s => .ok [s]
    | .points codes => .ok [(Value.points codes).plain]
    | v => do (← v.members).mapM Value.written

def ofEntries (entries : List (Value × Value)) : Except Value.Misuse (Option Profile) := do
  let name := Value.field "name" entries
  if !name.isPresent then return none
  return some {
    name := ← name.written
    aliases := ← texts (Value.field "aliases" entries)
    extensions := ← texts (Value.field "extensions" entries)
    typeKeywords := ← texts (Value.field "type_keywords" entries)
    ignored := ← texts (Value.field "ignored_identifiers" entries)
    markers := ← texts (Value.field "structural_markers" entries)
    structuralLines := ← texts (Value.field "structural_lines" entries) }

def ofFile (read : Yaml.Reader) (t : FileTree) (p : Path) : Except Failure (Option Profile) := do
  match ← t.document read p with
  | .map entries => (ofEntries entries).mapError .misuse
  | _ => return none

inductive Loaded where
  | profile (fileName : String) (p : Profile)
  | nameless (fileName : String)
  | failed (path : Path) (cause : Failure)

namespace Loaded

def profile? : Loaded → Option Profile
  | profile _ p => some p
  | _ => none

def entry : Loaded → Log.Entry
  | profile fileName p =>
    ⟨.debug, .profiles, s!"Loaded language profile '{p.name}' from {fileName}"⟩
  | nameless fileName =>
    ⟨.warning, .profiles, s!"Skipping language profile without a name: {fileName}"⟩
  | failed path cause =>
    ⟨.error, .profiles, s!"Failed to load language profile from {path.text}: {cause.text}"⟩

end Loaded

def isLocal : Failure → Bool
  | .file _ | .document _ => true
  | _ => false

structure Loading where
  missing : Option Path := none
  files : List Loaded := []
  stop : Option Failure := none

namespace Loading

def profiles (l : Loading) : List Profile := l.files.filterMap (·.profile?)

def log (l : Loading) : Log :=
  match l.missing with
  | some p => [⟨.warning, .profiles, s!"Languages directory not found: {p.text}"⟩]
  | none =>
    l.files.map (·.entry) ++
      if l.stop.isSome then []
      else [⟨.info, .profiles, s!"Total language profiles loaded: {l.profiles.length}"⟩]

def traced (l : Loading) : Traced Unit := ⟨l.log, l.stop.elim (.ok ()) .error⟩

def add (more : Loading) (p : Path) (outcome : Except Failure (Option Profile)) : Loading :=
  match outcome with
  | .ok (some profile) => { more with files := .profile p.name profile :: more.files }
  | .ok none => { more with files := .nameless p.name :: more.files }
  | .error e =>
    if isLocal e then { more with files := .failed p e :: more.files } else { stop := some e }

end Loading

def loadFiles (read : Yaml.Reader) (t : FileTree) (paths : List Path) : Loading :=
  paths.foldr (fun p more => more.add p (ofFile read t p)) {}

def withEnding (names : List String) (ending : String) : List String :=
  (names.filter fun n => n.endsWith ending).mergeSort (· ≤ ·)

def documents (t : FileTree) (dir : Path) : List Path :=
  let names := t.list dir
  (withEnding names ".yaml" ++ withEnding names ".yml").map dir.child

def load (read : Yaml.Reader) (t : FileTree) (dir : Option Path) : Loading :=
  match dir with
  | none => { files := packaged.map fun (name, p) => .profile name p }
  | some dir =>
    match t.exists? dir with
    | .ok true => loadFiles read t (documents t dir)
    | .ok false => { missing := some dir }
    | .error e => { stop := some (.file e) }

/-- The first profile that answers to a language. Only a text can be a language, but that shows
only when there is a profile to compare it with. -/
def find (profiles : List Profile) (language : Value) : Except Failure Profile :=
  match profiles, language with
  | [], _ => .error (.unsupported language [])
  | _, .text s =>
    (profiles.find? (·.answersTo s)).elim
      (.error (.unsupported language (profiles.map (·.name)))) .ok
  | _, v =>
    .error (if v.kind = .text ∨ v.kind = .bytes then .unsupported v (profiles.map (·.name))
      else .misuse (.notText v.kind))

def findForFile? (profiles : List Profile) (p : Path) : Option Profile :=
  profiles.find? (·.covers p.suffix)

end Profile

structure Library where
  read : Yaml.Reader
  dir : Option Path := none
  profiles : List Profile := []

namespace Library

def loaded (lib : Library) (t : FileTree) (anew : Bool) : Library × Traced Unit :=
  if anew || lib.profiles.isEmpty then
    let loading := Profile.load lib.read t lib.dir
    ({ lib with profiles := loading.profiles }, loading.traced)
  else (lib, pure ())

def ready (lib : Library) (t : FileTree) : Traced Library := do
  let (lib, loading) := lib.loaded t false
  loading
  return lib

def profile (lib : Library) (t : FileTree) (language : Value) : Traced (Library × Profile) := do
  let lib ← lib.ready t
  let p ← Traced.of (Profile.find lib.profiles language)
  return (lib, p)

end Library

end GenKill
