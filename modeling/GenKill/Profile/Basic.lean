import GenKill.Text.Basic
import GenKill.Text.Case

namespace GenKill

structure Profile where
  name : String
  aliases : List String := []
  extensions : List String := []
  typeKeywords : List String := []
  ignored : List String := []
  markers : List String := []
  structuralLines : List String := []
  deriving DecidableEq, Repr

namespace Profile

def answersTo (p : Profile) (language : String) : Bool :=
  let language := Text.lower language
  language == Text.lower p.name || (p.aliases.map Text.lower).contains language

def covers (p : Profile) (extension : String) : Bool :=
  (p.extensions.map Text.lower).contains (Text.lower extension)

def isStructural (p : Profile) (line : List Char) : Bool :=
  p.structuralLines.any (fun l => l.toList == line) ||
    p.markers.any fun m => Text.isInfix m.toList line

def cpp : Profile where
  name := "cpp"
  aliases := ["c++", "cxx", "cc"]
  extensions := [".cpp", ".cc", ".cxx", ".hpp"]
  typeKeywords := ["int", "long", "short", "unsigned", "float", "double", "char", "bool", "auto",
    "string", "std::string", "const int", "const double", "const auto"]
  ignored := ["std", "cout", "cerr", "endl", "printf", "return", "else", "do", "try", "new",
    "delete", "True", "False", "nullptr", "None", "this", "int", "long", "short", "unsigned",
    "float", "double", "char", "bool", "auto", "string", "const"]
  markers := ["#include", "#define", "using namespace", "int main(", "void main(", "class ",
    "struct ", "namespace ", "public:", "private:", "protected:"]
  structuralLines := ["\x7b", "\x7d", "\x7d;"]

def java : Profile where
  name := "java"
  aliases := ["jav"]
  extensions := [".java"]
  typeKeywords := ["int", "long", "short", "byte", "float", "double", "char", "boolean", "String",
    "var", "final int", "final long", "final double", "final String"]
  ignored := ["System", "out", "err", "println", "print", "printf", "return", "else", "do", "try",
    "new", "True", "False", "None", "this", "super", "int", "long", "short", "byte", "float",
    "double", "char", "boolean", "String", "var", "final"]
  markers := ["class ", "interface ", "public static", "void main", "import ", "package "]
  structuralLines := ["\x7b", "\x7d", "\x7d;"]

def packaged : List (String × Profile) := [("cpp.yaml", cpp), ("java.yaml", java)]

end Profile

end GenKill
