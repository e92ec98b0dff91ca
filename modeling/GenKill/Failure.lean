import GenKill.FileTree
import GenKill.Log
import GenKill.Value.Basic
import GenKill.Yaml.Error

namespace GenKill

inductive SettingsError where
  | passLimit (got : Value)
  | boundary (got : Value)
  | noAnalyses
  | unknownAnalyses (names : List Value) (known : List String)
  | unknownKeys (keys : List Value)
  | unreadable (path : Path) (cause : FileTree.Error)
  | malformed (path : Path) (cause : Yaml.Error)
  | notMap (path : Path)

def SettingsError.message : SettingsError → String
  | passLimit got => s!"max_iterations must be a positive integer, got {got.shown}"
  | boundary got => s!"must_boundary must be one of ['universal', 'empty'], got {got.shown}"
  | noAnalyses => "At least one analysis must be enabled"
  | unknownAnalyses names known =>
    s!"Unknown analyses: {(Value.list names).shown}. Supported: {Text.quotedList known}"
  | unknownKeys keys => s!"Unknown configuration keys: {(Value.list keys).shown}"
  | unreadable path cause => s!"Cannot read config file {path.text}: {cause.message}"
  | malformed path cause => s!"Invalid YAML in {path.text}: {cause.message}"
  | notMap path => s!"Config file {path.text} must contain a mapping"

abbrev Yaml.Reader := String → Except Yaml.Error Value

inductive Failure where
  | settings (e : SettingsError)
  | unsupported (language : Value) (supported : List String)
  | unreadable (path : Path) (cause : FileTree.Error)
  | misuse (m : Value.Misuse)
  | undecodable
  | file (e : FileTree.Error)
  | document (e : Yaml.Error)
  | scalar (f : Yaml.Fault)
  | unknownAnalysis (name : String) (known : List String)
  | unknownFormat (name : String) (known : List String)
  | interrupted

namespace Failure

def origin? : Failure → Option String
  | settings _ => some "config"
  | unsupported _ _ => some "languages"
  | unreadable _ _ => some "input"
  | _ => none

def text : Failure → String
  | settings e => e.message
  | unsupported language supported =>
    s!"No language profile for '{language.plain}'. Supported: {Text.quotedList supported}"
  | unreadable path cause => s!"Cannot read {path.text}: {cause.message}"
  | misuse m => m.message
  | undecodable => "the text is not in UTF-8"
  | file e => e.message
  | document e => e.message
  | scalar f => f.message
  | unknownAnalysis name known =>
    s!"Unknown analysis: {name}. Supported: {Text.quotedList known}"
  | unknownFormat name known =>
    s!"Unknown report format: {name}. Supported: {Text.quotedList known}"
  | interrupted => "Analysis interrupted by user"

def message (f : Failure) : String :=
  match f.origin? with
  | some origin => s!"[{origin}] {f.text}"
  | none => f.text

end Failure

structure Traced (α : Type) where
  log : Log := []
  outcome : Except Failure α

namespace Traced

variable {α β : Type}

def bind (t : Traced α) (f : α → Traced β) : Traced β :=
  match t.outcome with
  | .ok a => ⟨t.log ++ (f a).log, (f a).outcome⟩
  | .error e => ⟨t.log, .error e⟩

instance : Monad Traced where
  pure a := ⟨[], .ok a⟩
  bind := bind

def say (log : Log) : Traced Unit := ⟨log, .ok ()⟩

def fail (e : Failure) : Traced α := ⟨[], .error e⟩

def of (outcome : Except Failure α) : Traced α := ⟨[], outcome⟩

end Traced

end GenKill
