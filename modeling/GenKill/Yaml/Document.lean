import GenKill.Yaml.Node
import GenKill.Yaml.Reading

namespace GenKill.Yaml

namespace Node

abbrev Anchored := List (String × Reading)

def kind : Node → Value.Kind
  | seq _ _ => .list
  | map tag _ => if Reading.tagOr .map tag = .set then .set else .map
  | _ => .null

mutual

/-- The reading of a node, and those of all anchored nodes up to its end. An anchor whose node has
not come to its end is open. -/
def readIn (openAnchors done : Anchored) : Node → Reading × Anchored
  | scalar tag plain text => (.ofScalar tag plain text, done)
  | reference name =>
    (((done ++ openAnchors).lookup name).getD { tag := .unknown, value := .fail .anchor }, done)
  | anchored name n =>
    let (r, done) := readIn ((name, .inside n.kind) :: openAnchors) done n
    (r, (name, r) :: done)
  | seq tag items =>
    let (rs, done) := readItems openAnchors done items
    (.ofSeq tag rs, done)
  | map tag entries =>
    let (rs, done) := readEntries openAnchors done entries
    (.ofMap tag rs, done)

def readItems (openAnchors done : Anchored) : List Node → List Reading × Anchored
  | [] => ([], done)
  | n :: rest =>
    let (r, done) := readIn openAnchors done n
    let (rs, done) := readItems openAnchors done rest
    (r :: rs, done)

def readEntries (openAnchors done : Anchored) :
    List (Node × Node) → List (Reading × Reading) × Anchored
  | [] => ([], done)
  | (k, v) :: rest =>
    let (key, done) := readIn openAnchors done k
    let (value, done) := readIn openAnchors done v
    let (rs, done) := readEntries openAnchors done rest
    ((key, value) :: rs, done)

end

def reading : Node → Reading
  | anchored name n =>
    let whole := (readIn [(name, .inside n.kind)] [] n).1
    (readIn [] [(name, whole)] n).1
  | n => (readIn [] [] n).1

end Node

def read (text : String) : Except Error Value := do
  match ← Node.ofLexemes (lexemes text.toList) with
  | none => return .null
  | some node => node.reading.value.mapError (·.2)

end GenKill.Yaml
