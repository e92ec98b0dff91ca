import GenKill.Moment
import GenKill.Text.Integer
import GenKill.Text.Quoted

namespace GenKill.Yaml

abbrev Points := List Nat

inductive Fault where
  | noDigits
  | integer (base : Nat) (text : Points)
  | integerTooLong (digits : Nat)
  | float (text : Points)
  | floatTooLarge
  | truth (text : Points)
  | timestamp
  | calendar (e : CalendarError)
  | codePoint
  | codePointTooLarge
  deriving DecidableEq, Repr

def Fault.message : Fault → String
  | noDigits => "string index out of range"
  | integer base text => s!"invalid literal for int() with base {base}: {Text.quotedPoints text}"
  | integerTooLong digits =>
    s!"Exceeds the limit ({Text.digitLimit} digits) for integer string conversion: value has " ++
      s!"{digits} digits; use sys.set_int_max_str_digits() to increase the limit"
  | float text => s!"could not convert string to float: {Text.quotedPoints text}"
  | floatTooLarge => "int too large to convert to float"
  | truth text => Text.quotedPoints text
  | timestamp => "'NoneType' object has no attribute 'groupdict'"
  | calendar e => e.message
  | codePoint => "chr() arg not in range(0x110000)"
  | codePointTooLarge => "Python int too large to convert to C int"

inductive Error where
  | character
  | indentation
  | quote
  | key
  | shape
  | tag
  | directive
  | anchor
  | documents
  | scalar (fault : Fault)
  deriving DecidableEq, Repr

def Error.message : Error → String
  | character => "a character that cannot stand here"
  | indentation => "a key or an entry that is not allowed at this place"
  | quote => "a quoted text that is not closed or has an unknown escape"
  | key => "a key without its value, or one that cannot be a key"
  | shape => "a node or the end of a collection was expected"
  | tag => "a tag that is not known or does not fit its node"
  | directive => "a directive that is malformed or given twice"
  | anchor => "an alias without its anchor, or an anchor given twice"
  | documents => "more than one document"
  | scalar fault => fault.message

end GenKill.Yaml
