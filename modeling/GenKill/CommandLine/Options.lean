import GenKill.CommandLine.Flag
import GenKill.Report.Export
import GenKill.Text.Integer

namespace GenKill.CommandLine

inductive UsageError where
  | missingValue (flag : Flag)
  | badChoice (flag : Flag) (given : String) (choices : List String)
  | badInteger (flag : Flag) (given : String)
  | unwantedValue (flag : Flag) (given : String)
  | ambiguous (given : String) (flags : List Flag)
  | unrecognized (arguments : List String)
  deriving DecidableEq, Repr

def UsageError.message : UsageError → String
  | missingValue flag => s!"argument {flag.label}: expected one argument"
  | badChoice flag given choices =>
    s!"argument {flag.label}: invalid choice: {Text.quoted given} (choose from " ++
      ", ".intercalate (choices.map Text.quoted) ++ ")"
  | badInteger flag given => s!"argument {flag.label}: invalid int value: {Text.quoted given}"
  | unwantedValue flag given =>
    s!"argument {flag.label}: ignored explicit argument {Text.quoted given}"
  | ambiguous given flags =>
    s!"ambiguous option: {given} could match " ++ ", ".intercalate (flags.map Flag.long)
  | unrecognized arguments => "unrecognized arguments: " ++ " ".intercalate arguments

inductive Stop where
  | help
  | version
  | usage (e : UsageError)
  deriving DecidableEq, Repr

inductive Given (α : Type) where
  | absent
  | blank
  | value (a : α)
  deriving DecidableEq, Repr

namespace Given

variable {α : Type}

def value? : Given α → Option α
  | value a => some a
  | _ => none

def toValue (f : α → Value) : Given α → Value
  | absent => .null
  | blank => .list []
  | value a => f a

end Given

structure Options where
  source : Option String := none
  output : Given String := .absent
  format : Given Report.Format := .value .console
  noColor : Bool := false
  language : Given String := .absent
  analyses : List (Given Analysis) := []
  config : Given String := .absent
  passLimit : Given Int := .absent
  boundary : Given Boundary := .absent
  hints : Bool := false
  listLanguages : Bool := false
  verbose : Bool := false
  debug : Bool := false
  deriving DecidableEq, Repr

namespace Options

def given {α : Type} (read : String → Except Stop α) (text : String) : Except Stop (Given α) :=
  if text == "--" then .ok .blank else (read text).map .value

def choice {α : Type} (flag : Flag) (choices : List String) (find : String → Option α)
    (text : String) : Except Stop α :=
  (find text).elim (.error (.usage (.badChoice flag text choices))) .ok

def integer (flag : Flag) (text : String) : Except Stop Int :=
  (Text.int? text).elim (.error (.usage (.badInteger flag text))) .ok

def set (o : Options) (flag : Flag) (text : String) : Except Stop Options :=
  match flag with
  | .help => .error .help
  | .version => .error .version
  | .noColor => .ok { o with noColor := true }
  | .hints => .ok { o with hints := true }
  | .listLanguages => .ok { o with listLanguages := true }
  | .verbose => .ok { o with verbose := true }
  | .debug => .ok { o with debug := true }
  | .output => do return { o with output := ← given .ok text }
  | .language => do return { o with language := ← given .ok text }
  | .config => do return { o with config := ← given .ok text }
  | .format => do
    let format ← given (choice flag Report.Format.names Report.Format.ofName?) text
    return { o with format }
  | .analysis => do
    let analysis ← given (choice flag Analysis.names Analysis.ofName?) text
    return { o with analyses := o.analyses ++ [analysis] }
  | .boundary => do
    let names := Boundary.all.map Boundary.label
    return { o with boundary := ← given (choice flag names Boundary.ofLabel?) text }
  | .passLimit => do return { o with passLimit := ← given (integer flag) text }

end Options

end GenKill.CommandLine
