import GenKill.Moment
import GenKill.Number.Binary64
import GenKill.Text.Integer
import GenKill.Text.Quoted

namespace GenKill

namespace Value

inductive Kind where
  | null | bool | int | float | text | bytes | day | moment | pair | list | set | map
  deriving DecidableEq, Repr

namespace Kind

def label : Kind → String
  | null => "NoneType"
  | bool => "bool"
  | int => "int"
  | float => "float"
  | text => "str"
  | bytes => "bytes"
  | day => "datetime.date"
  | moment => "datetime.datetime"
  | pair => "tuple"
  | list => "list"
  | set => "set"
  | map => "dict"

def shortLabel : Kind → String
  | day => "date"
  | moment => "datetime"
  | k => k.label

def ellipsis : Kind → String
  | set => "set(...)"
  | map => "\x7b...\x7d"
  | _ => "[...]"

end Kind

end Value

/-- A map keeps the order in which its keys came first. The points of a text are given where some
of them are no characters, and a collection that stands inside of itself is there by its kind. -/
inductive Value where
  | null
  | bool (b : Bool)
  | int (n : Int)
  | float (x : Binary64)
  | text (s : String)
  | points (codes : List Nat)
  | bytes (content : List UInt8)
  | day (d : Day)
  | moment (m : Moment)
  | pair (first second : Value)
  | list (items : List Value)
  | set (items : List Value)
  | map (entries : List (Value × Value))
  | again (kind : Value.Kind)

namespace Value

def kind : Value → Kind
  | null => .null
  | bool _ => .bool
  | int _ => .int
  | float _ => .float
  | text _ => .text
  | points _ => .text
  | bytes _ => .bytes
  | day _ => .day
  | moment _ => .moment
  | pair _ _ => .pair
  | list _ => .list
  | set _ => .set
  | map _ => .map
  | again k => k

def isPresent : Value → Bool
  | null => false
  | bool b => b
  | int n => n != 0
  | float x => !x.isZero
  | text s => s != ""
  | bytes content => !content.isEmpty
  | list items => !items.isEmpty
  | set items => !items.isEmpty
  | map entries => !entries.isEmpty
  | _ => true

mutual

def shown : Value → String
  | null => "None"
  | bool b => if b then "True" else "False"
  | int n => toString n
  | float x => x.text
  | text s => Text.quoted s
  | points codes => Text.quotedPoints codes
  | bytes content => Text.quotedBytes content
  | day d => d.shown
  | moment m => m.shown
  | pair a b => "(" ++ a.shown ++ ", " ++ b.shown ++ ")"
  | list items => "[" ++ shownItems items ++ "]"
  | set [] => "set()"
  | set items => "\x7b" ++ shownItems items ++ "\x7d"
  | map entries => "\x7b" ++ shownEntries entries ++ "\x7d"
  | again k => k.ellipsis

def shownItems : List Value → String
  | [] => ""
  | [v] => v.shown
  | v :: rest => v.shown ++ ", " ++ shownItems rest

def shownEntries : List (Value × Value) → String
  | [] => ""
  | [(k, v)] => k.shown ++ ": " ++ v.shown
  | (k, v) :: rest => k.shown ++ ": " ++ v.shown ++ ", " ++ shownEntries rest

end

mutual

def isWritable : Value → Bool
  | int n => Text.isWritable n
  | pair a b => a.isWritable && b.isWritable
  | list items => areWritable items
  | set items => areWritable items
  | map entries => entriesWritable entries
  | _ => true

def areWritable : List Value → Bool
  | [] => true
  | v :: rest => v.isWritable && areWritable rest

def entriesWritable : List (Value × Value) → Bool
  | [] => true
  | (k, v) :: rest => k.isWritable && v.isWritable && entriesWritable rest

end

def plain : Value → String
  | text s => s
  | points codes => String.ofList (codes.flatMap (Text.escapedPoint '\x00'))
  | day d => d.text
  | moment m => m.text
  | v => v.shown

inductive Misuse where
  | notIterable (kind : Kind)
  | notPath (kind : Kind)
  | notText (kind : Kind)
  | notKey (kind : Kind)
  | notCount (kind : Kind)
  | notComparable (left right : Kind)
  | dayWithMoment
  | momentsApart
  | tooLong
  | notIndex
  | notSerializable (kind : Kind)
  | notFieldName (kind : Kind)
  | circular
  deriving DecidableEq, Repr

def Misuse.message : Misuse → String
  | notIterable k => s!"'{k.label}' object is not iterable"
  | notPath .bytes => "argument should be a str object or an os.PathLike object returning str, " ++
    "not <class 'bytes'>"
  | notPath k => s!"expected str, bytes or os.PathLike object, not {k.shortLabel}"
  | notText k => s!"'{k.label}' object has no attribute 'lower'"
  | notKey k => s!"unhashable type: '{k.label}'"
  | notCount k => s!"can't multiply sequence by non-int of type '{k.label}'"
  | notComparable l r => s!"'<' not supported between instances of '{l.label}' and '{r.label}'"
  | dayWithMoment => "can't compare datetime.datetime to datetime.date"
  | momentsApart => "can't compare offset-naive and offset-aware datetimes"
  | tooLong => s!"Exceeds the limit ({Text.digitLimit} digits) for integer string conversion; " ++
    "use sys.set_int_max_str_digits() to increase the limit"
  | notIndex => "cannot fit 'int' into an index-sized integer"
  | notSerializable k => s!"Object of type {k.shortLabel} is not JSON serializable"
  | notFieldName k => s!"keys must be str, int, float, bool or None, not {k.shortLabel}"
  | circular => "Circular reference detected"

def written (v : Value) : Except Misuse String :=
  if v.isWritable then .ok v.plain else .error .tooLong

def number? : Value → Option Extended
  | bool b => some (.fraction (if b then 1 else 0) 1)
  | int n => some (.fraction n 1)
  | float x => some x.extended
  | _ => none

def countBelow? (v : Value) : Except Misuse (Option Nat) :=
  v.number?.elim (.error (.notComparable .int v.kind)) fun x => .ok x.countBelow?

def points? : Value → Option (List Nat)
  | text s => some (Text.codesOf s)
  | points codes => some codes
  | _ => none

def sameMoment (a b : Moment) : Bool :=
  match a.offset, b.offset with
  | none, none => a.localTime == b.localTime
  | some s, some t => a.universalTime s == b.universalTime t
  | _, _ => false

def sameKey : Value → Value → Bool
  | null, null => true
  | text s, text t => s == t
  | points cs, points ds => cs == ds
  | bytes a, bytes b => a == b
  | day a, day b => decide (a = b)
  | moment a, moment b => sameMoment a b
  | v, w =>
    match v.number?, w.number? with
    | some x, some y => x.same y
    | _, _ => false

def momentBefore? (a b : Moment) : Except Misuse Bool :=
  match a.offset, b.offset with
  | none, none => .ok (a.localTime < b.localTime)
  | some s, some t => .ok (a.universalTime s < b.universalTime t)
  | _, _ => .error .momentsApart

def before? (a b : Value) : Except Misuse Bool :=
  match a, b with
  | bytes s, bytes t => .ok (s < t)
  | day d, day e => .ok (d.number < e.number)
  | moment m, moment n => momentBefore? m n
  | day _, moment _ => .error .dayWithMoment
  | moment _, day _ => .error .dayWithMoment
  | a, b =>
    match a.number?, b.number?, a.points?, b.points? with
    | some x, some y, _, _ => .ok (x.less y)
    | _, _, some s, some t => .ok (s < t)
    | _, _, _, _ => .error (.notComparable a.kind b.kind)

def isKey (v : Value) : Bool := !([.list, .set, .map] : List Kind).contains v.kind

def entry? (key : Value) (entries : List (Value × Value)) : Option Value :=
  (entries.find? fun e => e.1.sameKey key).map (·.2)

def setEntry (key v : Value) : List (Value × Value) → List (Value × Value)
  | [] => [(key, v)]
  | (k, w) :: rest => if k.sameKey key then (k, v) :: rest else (k, w) :: setEntry key v rest

def distinctEntries (entries : List (Value × Value)) : List (Value × Value) :=
  entries.foldl (fun es e => setEntry e.1 e.2 es) []

def field? (name : String) (entries : List (Value × Value)) : Option Value :=
  entry? (.text name) entries

def field (name : String) (entries : List (Value × Value)) : Value :=
  (field? name entries).getD .null

def object (fields : List (String × Value)) : Value :=
  .map (fields.map fun f => (.text f.1, f.2))

def ofPoints (codes : List Nat) : Value :=
  if codes.all Nat.isValidChar then .text (String.ofList (Text.charsOf codes)) else .points codes

def members : Value → Except Misuse (List Value)
  | list items => .ok items
  | set items => .ok items
  | pair a b => .ok [a, b]
  | map entries => .ok (entries.map (·.1))
  | text s => .ok (s.toList.map fun c => .text (String.singleton c))
  | points codes => .ok (codes.map fun n => ofPoints [n])
  | bytes content => .ok (content.map fun b => .int b.toNat)
  | again k => .ok [.again k]
  | v => .error (.notIterable v.kind)

end Value

end GenKill
