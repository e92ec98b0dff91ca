import GenKill.Yaml.Typed

namespace GenKill.Yaml

abbrev Deep (α : Type) := Except (Nat × Error) α

namespace Deep

variable {α β : Type}

def fail (e : Error) : Deep α := .error (0, e)

def of (r : Except Error α) : Deep α := r.mapError fun e => (0, e)

def deeper (a : Deep α) : Deep α := a.mapError fun (depth, e) => (depth + 1, e)

def both (a : Deep α) (b : Deep β) : Deep (α × β) :=
  match a, b with
  | .ok a, .ok b => .ok (a, b)
  | .ok _, .error f => .error f
  | .error e, .ok _ => .error e
  | .error e, .error f => .error (if f.1 < e.1 then f else e)

def all : List (Deep α) → Deep (List α)
  | [] => .ok []
  | a :: rest => (both a (all rest)).map fun (a, rest) => a :: rest

end Deep

abbrev Entries := List (Value × Value)

structure Reading where
  tag : Tag
  value : Deep Value
  text : Option Points := none
  entries : Option (Except Error (Deep Entries)) := none
  single : Option (Deep (Value × Value)) := none
  parts : Option (List (Option (Except Error (Deep Entries)))) := none

namespace Reading

def isCollection (tag : Tag) : Bool := [.seq, .map, .set, .orderedMap, .pairs].contains tag

def scalarValue (tag : Tag) (text : Points) : Deep Value :=
  if isCollection tag then (Deep.fail .tag).deeper else Deep.of (Typed.value tag text)

def scalarTag (tag : Option String) (plain : Bool) (text : Points) : Tag :=
  match tag with
  | none => if plain then .ofForm (Text.charsOf text) else .text
  | some name => if name == "!" then .ofForm (Text.charsOf text) else .ofName name

def ofScalar (tag : Option String) (plain : Bool) (text : Points) : Reading :=
  let tag := scalarTag tag plain text
  { tag, value := scalarValue tag text, text := some text }

def tagOr (usual : Tag) (tag : Option String) : Tag :=
  match tag with
  | none => usual
  | some name => if name == "!" then usual else .ofName name

def pairsOf (items : List Reading) : Deep (List Value) :=
  (Deep.all (items.map fun r => r.single.getD (.fail .shape))).map
    (·.map fun (k, v) => .pair k v)

def ofSeq (tag : Option String) (items : List Reading) : Reading :=
  let tag := tagOr .seq tag
  let value := match tag with
    | .seq => (Deep.all (items.map (·.value))).deeper.map .list
    | .orderedMap | .pairs => (pairsOf items).deeper.map .list
    | .map | .set => (Deep.fail .shape).deeper
    | _ => .fail .tag
  { tag, value, parts := some (items.map (·.entries)) }

/-- The entries that a node brings in under a merge key. Of several maps the last one comes first,
so that the values of the first one last. -/
def brought (r : Reading) : Except Error (Deep Entries) :=
  match r.entries, r.parts with
  | some entries, _ => entries
  | none, some parts => do
    let maps ← parts.mapM fun p => p.getD (.error .shape)
    return (Deep.all maps.reverse).map List.flatten
  | none, none => .error .shape

def key (r : Reading) : Deep Value :=
  if r.tag = .value then .ok (.ofPoints (r.text.getD []))
  else match r.value with
    | .ok v => if v.isKey then .ok v else .fail .key
    | .error (0, e) => .fail e
    | .error _ => .fail .key

def flattened (entries : List (Reading × Reading)) : Except Error (Deep Entries) := do
  let merged ← (entries.filter fun e => e.1.tag = .merge).mapM fun e => e.2.brought
  let own := (entries.filter fun e => e.1.tag ≠ .merge).map fun (k, v) => Deep.both k.key v.value
  return (Deep.both (Deep.all merged) (Deep.all own)).map fun (merged, own) =>
    merged.flatten ++ own

def ofMap (tag : Option String) (entries : List (Reading × Reading)) : Reading :=
  let tag := tagOr .map tag
  let flat := flattened entries
  let content := match flat with
    | .ok content => content
    | .error e => .fail e
  let text := (entries.find? fun e => e.1.tag = .value).bind fun e => e.2.text
  let value := match tag with
    | .map => content.deeper.map fun es => .map (Value.distinctEntries es)
    | .set => content.deeper.map fun es => .set ((Value.distinctEntries es).map (·.1))
    | .seq | .orderedMap | .pairs => (Deep.fail .shape).deeper
    | tag => text.elim (.fail .tag) (scalarValue tag)
  let single := match entries with
    | [(k, v)] => some (Deep.both k.value v.value)
    | _ => none
  { tag, value, text, entries := some flat, single }

def inside (kind : Value.Kind) : Reading where
  tag := if kind = .list then .seq else .map
  value := .ok (.again kind)
  entries := if kind = .list then none else some (.ok (.ok []))
  parts := if kind = .list then some [] else none

end Reading

end GenKill.Yaml
