import GenKill.CommandLine.Options

namespace GenKill.CommandLine

inductive Argument where
  | value (text : String)
  | endOfFlags
  | flag (f : Flag) (short : Bool) (attached : Option (List Char))
  | unknown (text : String)
  deriving DecidableEq, Repr

namespace Argument

def isDigit (c : Char) : Bool := (Text.digitValue? c).isSome

def isNegativeNumber (arg : List Char) : Bool :=
  match arg with
  | '-' :: rest =>
    let body := if rest.getLast? == some '\n' then rest.dropLast else rest
    let whole := body.takeWhile isDigit
    match body.dropWhile isDigit with
    | [] => !whole.isEmpty
    | '.' :: fraction => !fraction.isEmpty && fraction.all isDigit
    | _ => false
  | _ => false

def other (arg : String) : Argument :=
  if isNegativeNumber arg.toList || arg.toList.contains ' ' then .value arg else .unknown arg

def splitEquals (arg : List Char) : List Char × Option (List Char) :=
  match arg.dropWhile (· != '=') with
  | _ :: behind => (arg.takeWhile (· != '='), some behind)
  | [] => (arg, none)

def ofLong (arg : String) : Except UsageError Argument :=
  let (name, attached) := splitEquals arg.toList
  let name := String.ofList name
  match Flag.ofLong? name with
  | some f => .ok (.flag f false attached)
  | none =>
    match Flag.beginning name with
    | [] => .ok (other arg)
    | [f] => .ok (.flag f false attached)
    | flags => .error (.ambiguous arg flags)

def ofShort (arg : String) (letter : Char) (behind : List Char) : Argument :=
  match Flag.ofLetter? letter, behind with
  | none, _ => other arg
  | some f, [] => .flag f true none
  | some f, '=' :: text => .flag f true (some text)
  | some f, text => .flag f true (some text)

def ofText (arg : String) : Except UsageError Argument :=
  match arg.toList with
  | '-' :: '-' :: _ => ofLong arg
  | '-' :: letter :: behind => .ok (ofShort arg letter behind)
  | _ => .ok (.value arg)

def ofTexts : List String → Except UsageError (List Argument)
  | [] => .ok []
  | arg :: rest =>
    if arg == "--" then .ok (.endOfFlags :: rest.map .value)
    else do return (← ofText arg) :: (← ofTexts rest)

end Argument

structure Expansion where
  sets : List (Flag × String) := []
  pending : Option Flag := none
  deriving DecidableEq, Repr

namespace Expansion

def ofFlag (f : Flag) : Expansion :=
  if f.takesValue then { pending := some f } else { sets := [(f, "")] }

def also (f : Flag) (e : Expansion) : Expansion := { e with sets := (f, "") :: e.sets }

def ofAttached (f : Flag) (short : Bool) (text : List Char) : Except UsageError Expansion :=
  if f.takesValue then .ok { sets := [(f, String.ofList text)] }
  else if !short then .error (.unwantedValue f (String.ofList text))
  else match text with
    | [] => .error (.unwantedValue f "")
    | letter :: rest =>
      match Flag.ofLetter? letter, rest with
      | none, rest => .error (.unwantedValue f (String.ofList (letter :: rest)))
      | some g, [] => .ok (also f (ofFlag g))
      | some g, c :: behind => (ofAttached g true (c :: behind)).map (also f)
termination_by text.length

def of (f : Flag) (short : Bool) : Option (List Char) → Except UsageError Expansion
  | none => .ok (ofFlag f)
  | some text => ofAttached f short text

end Expansion

end GenKill.CommandLine
