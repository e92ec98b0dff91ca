namespace GenKill.CommandLine

inductive Flag where
  | help
  | output
  | format
  | noColor
  | language
  | analysis
  | config
  | passLimit
  | boundary
  | hints
  | listLanguages
  | verbose
  | debug
  | version
  deriving DecidableEq, Repr

namespace Flag

def all : List Flag := [help, output, format, noColor, language, analysis, config, passLimit,
  boundary, hints, listLanguages, verbose, debug, version]

def letter? : Flag → Option Char
  | help => some 'h'
  | output => some 'o'
  | format => some 'f'
  | language => some 'l'
  | analysis => some 'a'
  | config => some 'c'
  | verbose => some 'v'
  | _ => none

def word : Flag → String
  | help => "help"
  | output => "output"
  | format => "format"
  | noColor => "no-color"
  | language => "language"
  | analysis => "analysis"
  | config => "config"
  | passLimit => "max-iterations"
  | boundary => "must-boundary"
  | hints => "hints"
  | listLanguages => "list-languages"
  | verbose => "verbose"
  | debug => "debug"
  | version => "version"

def long (f : Flag) : String := "--" ++ f.word

def label (f : Flag) : String :=
  match f.letter? with
  | some c => s!"-{c}/{f.long}"
  | none => f.long

def takesValue : Flag → Bool
  | output | format | language | analysis | config | passLimit | boundary => true
  | _ => false

def ofLetter? (c : Char) : Option Flag := all.find? fun f => f.letter? == some c

def ofLong? (name : String) : Option Flag := all.find? fun f => f.long == name

def beginning (start : String) : List Flag := all.filter fun f => f.long.startsWith start

end Flag

end GenKill.CommandLine
