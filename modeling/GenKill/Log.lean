namespace GenKill

namespace Log

inductive Level where
  | debug
  | info
  | warning
  | error
  deriving DecidableEq, Repr

namespace Level

def label : Level → String
  | debug => "DEBUG"
  | info => "INFO"
  | warning => "WARNING"
  | error => "ERROR"

def rank : Level → Nat
  | debug => 0
  | info => 1
  | warning => 2
  | error => 3

def ofLabel? (label : String) : Option Level :=
  [debug, info, warning, error].find? fun l => l.label == label

end Level

inductive Topic where
  | profiles
  | graph
  | facts
  | settings
  | solver
  | analyses
  | analyzer
  deriving DecidableEq, Repr

def Topic.label : Topic → String
  | profiles => "flowscan.language_loader"
  | graph => "flowscan.cfg"
  | facts => "flowscan.facts"
  | settings => "flowscan.config"
  | solver => "flowscan.dataflow.engine"
  | analyses => "flowscan.dataflow.analyses"
  | analyzer => "flowscan.analyzer"

structure Entry where
  level : Level
  topic : Topic
  text : String
  deriving DecidableEq, Repr

def Entry.line (e : Entry) (time : String) : String :=
  s!"{time} - {e.topic.label} - {e.level.label} - {e.text}"

end Log

abbrev Log := List Log.Entry

def Log.atLeast (log : Log) (level : Log.Level) : Log :=
  log.filter fun e => level.rank ≤ e.level.rank

end GenKill
