import GenKill.Profile.Library
import GenKill.Proofs.FileTree
import GenKill.Proofs.Ordering
import GenKill.Proofs.Value.Use
import GenKill.Yaml.Document

/-! Loading the profiles of a directory, whatever reads the documents in it. A file has a verdict of its own: it describes a profile, it is passed
over, or it stops the loading. The profiles are those of the files before the first one that stops, and a file
that is passed over makes no difference to the others. -/

namespace GenKill.Profile

open Value

section Fields

variable {v : Value} {items : List Value}

def listed (v : Value) : List String :=
  if v.isPresent then
    if v.IsText then [v.plain] else (v.members.toOption.getD []).map plain
  else []

end Fields

def listKeys : List String :=
  ["aliases", "extensions", "type_keywords", "ignored_identifiers", "structural_markers",
    "structural_lines"]

def described (entries : List (Value × Value)) : Profile where
  name := (field "name" entries).plain
  aliases := listed (field "aliases" entries)
  extensions := listed (field "extensions" entries)
  typeKeywords := listed (field "type_keywords" entries)
  ignored := listed (field "ignored_identifiers" entries)
  markers := listed (field "structural_markers" entries)
  structuralLines := listed (field "structural_lines" entries)

inductive Verdict where
  | profile (p : Profile)
  | skipped
  | stopped
  deriving DecidableEq

namespace Verdict

def profile? : Verdict → Option Profile
  | profile p => some p
  | _ => none

def ofEntries (entries : List (Value × Value)) : Verdict :=
  if (field "name" entries).isPresent then
    if (field "name" entries).isWritable ∧ ∀ key ∈ listKeys, ¬ (field key entries).Unlistable then
      .profile (described entries)
    else .stopped
  else .skipped

/-- What cannot be read, is no document or is no map is passed over. Bytes that are no text, and scalars that
are no value of their type, stop the loading. -/
def ofFile (read : Yaml.Reader) (t : FileTree) (p : Path) : Verdict :=
  match t.read p with
  | .error _ => .skipped
  | .ok content =>
    match Text.utf8? content with
    | none => .stopped
    | some s =>
      match read s with
      | .ok (.map entries) => .ofEntries entries
      | .ok _ => .skipped
      | .error (.scalar _) => .stopped
      | .error _ => .skipped

lemma bind_eq_ok {ε α β : Type} {x : Except ε α} {f : α → Except ε β} {b : β} :
    x >>= f = .ok b ↔ ∃ a, x = .ok a ∧ f a = .ok b := by
  cases x with
  | error e =>
    constructor
    · intro h
      cases h
    · rintro ⟨a, h, -⟩
      cases h
  | ok a =>
    constructor
    · intro h
      exact ⟨a, rfl, h⟩
    · rintro ⟨_, ⟨⟩, h⟩
      exact h

end Verdict

section Files

variable {read : Yaml.Reader} {t t' : FileTree} {paths : List Path}

end Files

section Directory

variable {read : Yaml.Reader} {t : FileTree} {dir : Path} {name : String} {names : List String}

end Directory

end GenKill.Profile
