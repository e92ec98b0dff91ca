namespace GenKill.Text

/-- Reads a literal from behind its opening quote: the inside, and what follows the closing quote.
A backslash takes the next character with it, which may not be a line feed. -/
def inside? (quote : Char) : List Char → Option (List Char × List Char)
  | [] => none
  | '\\' :: c :: rest =>
    if c = '\n' then none else (inside? quote rest).map fun p => ('\\' :: c :: p.1, p.2)
  | c :: rest =>
    if c = quote then some ([], rest)
    else if c = '\\' then none
    else (inside? quote rest).map fun p => (c :: p.1, p.2)

theorem eq_of_inside? {quote : Char} {text body rest : List Char}
    (h : inside? quote text = some (body, rest)) : text = body ++ quote :: rest := by
  fun_induction inside? quote text generalizing body with
  | case1 => simp at h
  | case2 => simp at h
  | case3 c rest' _ ih =>
    obtain ⟨⟨b, r⟩, hb, he⟩ := Option.map_eq_some_iff.mp h
    obtain ⟨rfl, rfl⟩ := Prod.mk.inj he
    simp [ih hb]
  | case4 => simp_all
  | case5 => simp at h
  | case6 c rest' _ _ _ ih =>
    obtain ⟨⟨b, r⟩, hb, he⟩ := Option.map_eq_some_iff.mp h
    obtain ⟨rfl, rfl⟩ := Prod.mk.inj he
    simp [ih hb]

theorem length_lt_of_inside? {quote : Char} {text body rest : List Char}
    (h : inside? quote text = some (body, rest)) : rest.length < text.length := by
  rw [eq_of_inside? h]
  simp
  omega

inductive Piece where
  | single (c : Char)
  | literal (quote : Char) (body : List Char)
  deriving DecidableEq

namespace Piece

def text : Piece → List Char
  | single c => [c]
  | literal quote body => quote :: body ++ [quote]

def masked : Piece → List Char
  | single c => [c]
  | literal quote body => quote :: body.map (fun _ => ' ') ++ [quote]

def emptied : Piece → List Char
  | single c => [c]
  | literal _ _ => ['"', '"']

end Piece

def isQuote (c : Char) : Bool := c == '"' || c == '\''

/-- The text cut into literals and single characters, literals as far left as possible. A quote that
is never closed is a character like any other. -/
def pieces (text : List Char) : List Piece :=
  match text with
  | [] => []
  | c :: rest =>
    if isQuote c then
      match _h : inside? c rest with
      | some (body, rest') => .literal c body :: pieces rest'
      | none => .single c :: pieces rest
    else .single c :: pieces rest
termination_by text.length
decreasing_by
  · have := length_lt_of_inside? _h
    simp only [List.length_cons]
    omega
  · simp
  · simp

def mask (text : List Char) : List Char := (pieces text).flatMap Piece.masked

def emptyLiterals (text : List Char) : List Char := (pieces text).flatMap Piece.emptied

theorem flatMap_text_pieces (text : List Char) : (pieces text).flatMap Piece.text = text := by
  fun_induction pieces text with
  | case1 => rfl
  | case2 c rest _ body rest' h ih => simp [Piece.text, ih, eq_of_inside? h]
  | case3 c rest _ _ ih => simp [Piece.text, ih]
  | case4 c rest _ ih => simp [Piece.text, ih]

theorem length_mask (text : List Char) : (mask text).length = text.length := by
  have h : ∀ ps : List Piece,
      (ps.flatMap Piece.masked).length = (ps.flatMap Piece.text).length := by
    intro ps
    induction ps with
    | nil => rfl
    | cons p ps ih => cases p <;> simp [Piece.masked, Piece.text, ih]
  rw [mask, h, flatMap_text_pieces]

end GenKill.Text
