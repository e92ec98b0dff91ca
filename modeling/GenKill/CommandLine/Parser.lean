import GenKill.CommandLine.Argument

namespace GenKill.CommandLine

structure Progress where
  options : Options := {}
  sourceRead : Bool := false
  extras : List String := []

namespace Progress

def source (p : Progress) (source : Option String) : Progress :=
  { p with options := { p.options with source }, sourceRead := true }

def extra (p : Progress) (text : String) : Progress := { p with extras := p.extras ++ [text] }

def expand (p : Progress) (e : Expansion) (value : String) : Except Stop Progress := do
  let sets := e.sets ++ e.pending.toList.map fun f => (f, value)
  let options ← sets.foldlM (fun o s => o.set s.1 s.2) p.options
  return { p with options }

def read (p : Progress) : List Argument → Except Stop Progress
  | [] => .ok p
  | .value v :: rest =>
    if p.sourceRead then (p.extra v).read rest
    else match rest with
      | .endOfFlags :: rest => (p.source (some v)).read rest
      | rest => (p.source (some v)).read rest
  | .endOfFlags :: rest =>
    if p.sourceRead then (p.extra "--").read rest
    else match rest with
      | .value v :: rest => (p.source (some v)).read rest
      | rest => (p.source none).read rest
  | .unknown text :: rest => (p.extra text).read rest
  | .flag f short attached :: rest => do
    let e ← (Expansion.of f short attached).mapError .usage
    match e.pending, rest with
    | none, rest => (← p.expand e "").read rest
    | some _, .value v :: rest => (← p.expand e v).read rest
    | some g, _ => throw (.usage (.missingValue g))

end Progress

namespace Options

def parse (args : List String) : Except Stop Options := do
  let arguments ← (Argument.ofTexts args).mapError .usage
  let p ← Progress.read {} arguments
  if !p.extras.isEmpty then throw (.usage (.unrecognized p.extras))
  return p.options

end Options

end GenKill.CommandLine
