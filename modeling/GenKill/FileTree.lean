import GenKill.Text.Quoted

/-!
Paths, and the files that a run can see. Files and directories are named by their parts below the root.
-/

namespace GenKill

structure Path where
  root : String
  parts : List String
  deriving DecidableEq, Repr

namespace Path

def rootOf (text : List Char) : String :=
  match (text.takeWhile (· == '/')).length with
  | 0 => ""
  | 2 => "//"
  | _ => "/"

def ofText (text : String) : Path :=
  ⟨rootOf text.toList, (text.splitOn "/").filter fun part => part != "" && part != "."⟩

def text (p : Path) : String :=
  if p.root == "" && p.parts.isEmpty then "." else p.root ++ "/".intercalate p.parts

def name (p : Path) : String := p.parts.getLast?.getD ""

def suffix (p : Path) : String :=
  let name := p.name.toList
  let behind := (name.reverse.takeWhile (· != '.')).reverse
  if behind.isEmpty || name.length ≤ behind.length + 1 then "" else String.ofList ('.' :: behind)

def child (p : Path) (name : String) : Path := ⟨p.root, p.parts ++ [name]⟩

end Path

structure FileTree where
  base : List String := []
  files : List (List String × ByteArray) := []
  directories : List (List String) := []

namespace FileTree

inductive Cause where
  | noSuchFile
  | notDirectory
  | isDirectory
  | nameTooLong
  | nullByte
  deriving DecidableEq, Repr

structure Error where
  cause : Cause
  path : String
  deriving DecidableEq, Repr

def Error.message (e : Error) : String :=
  match e.cause with
  | .noSuchFile => s!"[Errno 2] No such file or directory: {Text.quoted e.path}"
  | .notDirectory => s!"[Errno 20] Not a directory: {Text.quoted e.path}"
  | .isDirectory => s!"[Errno 21] Is a directory: {Text.quoted e.path}"
  | .nameTooLong => s!"[Errno 36] File name too long: {Text.quoted e.path}"
  | .nullByte => "embedded null byte"

def nameLimit : Nat := 255

def pathLimit : Nat := 4095

inductive Spot where
  | file (parts : List String) (content : ByteArray)
  | directory (parts : List String)

def isDirectory (t : FileTree) (parts : List String) : Bool :=
  parts.isPrefixOf t.base || t.directories.contains parts

def spotAt? (t : FileTree) (parts : List String) : Option Spot :=
  match t.files.lookup parts with
  | some content => some (.file parts content)
  | none => if t.isDirectory parts then some (.directory parts) else none

def enter (t : FileTree) (spot : Spot) (part : String) : Except Cause Spot :=
  match spot with
  | .file _ _ => .error .notDirectory
  | .directory parts =>
    if part == "." then .ok (.directory parts)
    else if part == ".." then .ok (.directory parts.dropLast)
    else if part.utf8ByteSize > nameLimit then .error .nameTooLong
    else (t.spotAt? (parts ++ [part])).elim (.error .noSuchFile) .ok

def start (t : FileTree) (root : String) : List String := if root == "" then t.base else []

def checkText (text : String) : Except Cause Unit :=
  if text.toList.contains '\x00' then .error .nullByte
  else if text.utf8ByteSize > pathLimit then .error .nameTooLong
  else .ok ()

def find (t : FileTree) (p : Path) : Except Cause Spot := do
  checkText p.text
  p.parts.foldlM t.enter (.directory (t.start p.root))

def exists? (t : FileTree) (p : Path) : Except Error Bool :=
  match t.find p with
  | .ok _ => .ok true
  | .error .nameTooLong => .error ⟨.nameTooLong, p.text⟩
  | .error _ => .ok false

def read (t : FileTree) (p : Path) : Except Error ByteArray :=
  match t.find p with
  | .ok (.file _ content) => .ok content
  | .ok _ => .error ⟨.isDirectory, p.text⟩
  | .error cause => .error ⟨cause, p.text⟩

def list (t : FileTree) (p : Path) : List String :=
  match t.find p with
  | .ok (.directory parts) =>
    let names := (t.files.map (·.1) ++ t.directories).filterMap fun q =>
      if q.length = parts.length + 1 && q.dropLast == parts then q.getLast? else none
    names.eraseDups
  | _ => []

def addDirectory (t : FileTree) (parts : List String) : FileTree :=
  let above := (List.range (parts.length + 1)).map parts.take
  { t with directories := t.directories ++ above.filter fun d => !t.directories.contains d }

def addFile (t : FileTree) (parts : List String) (content : ByteArray) : FileTree :=
  let t := t.addDirectory parts.dropLast
  { t with files := (parts, content) :: t.files.filter fun f => f.1 != parts }

def target (t : FileTree) (text : String) : Except Cause (List String) := do
  checkText text
  let parts := (text.splitOn "/").filter (· != "")
  match ← parts.dropLast.foldlM t.enter (.directory (t.start (Path.rootOf text.toList))) with
  | .file _ _ => throw .notDirectory
  | .directory dir =>
    match parts.getLast? with
    | none => throw .isDirectory
    | some name =>
      if name == "." || name == ".." || text.endsWith "/" then throw .isDirectory
      if name.utf8ByteSize > nameLimit then throw .nameTooLong
      match t.spotAt? (dir ++ [name]) with
      | some (.directory _) => throw .isDirectory
      | _ => return dir ++ [name]

def write (t : FileTree) (text : String) (content : ByteArray) : Except Error FileTree :=
  match t.target text with
  | .ok parts => .ok (t.addFile parts content)
  | .error cause => .error ⟨cause, text⟩

end FileTree

end GenKill
