import GenKill.FileTree
import Mathlib.Data.List.Infix
import Mathlib.Tactic.Common

namespace GenKill.FileTree

section Find

variable {t : FileTree} {spot spot' : Spot} {part : String} {dir : Path} {parts : List String}

end Find

section AddFile

variable {t : FileTree} {parts : List String} {name : String} {content : ByteArray}

variable {dir : Path}

end AddFile

end GenKill.FileTree
