import GenKill.Proofs.Fact.Naming
import GenKill.Proofs.Text.Pieces

/-! What literals hold does not count for facts. Semicolons are left out before literals are looked for, so
this is said of the literals of what is then left; they are those of the statement itself unless a
backslash takes a semicolon. -/

namespace GenKill

open Text

namespace Statement

variable {text : List Char}

lemma emptyLiterals_trim (text : List Char) :
    emptyLiterals (trim text) = (trimPieces ((pieces text).map Piece.hull)).flatMap Piece.text := by
  rw [emptyLiterals, pieces_trim, trimPieces_map Piece.isBlank_hull, List.flatMap_map]
  simp only [Piece.text_hull]

lemma clean_mask (h : escapesSemicolon false text = false) : clean (mask text) = clean text := by
  rw [clean, clean, emptyLiterals_trim, emptyLiterals_trim, pieces_filter h,
    pieces_filter (escapesSemicolon_mask h), pieces_mask, List.map_filterMap, List.map_filterMap,
    List.filterMap_map]
  simp only [Function.comp_def, Piece.hull_thin?_blank]

lemma escapesSemicolon_filter (escaped : Bool) (text : List Char) :
    escapesSemicolon escaped (text.filter (· != ';')) = false := by
  induction text generalizing escaped with
  | nil => rfl
  | cons c rest ih =>
    by_cases hc : c = ';'
    · simp [hc, ih]
    · simp [hc, escapesSemicolon, ih]

lemma clean_filter (text : List Char) : clean (text.filter (· != ';')) = clean text := by
  simp [clean]

/-- A statement has the fact of its mask if no backslash takes a semicolon, and in any case the fact of
the mask of what is left without semicolons. -/
theorem ofStatement_mask (p : Profile) (statement : String) :
    Fact.ofStatement p (String.ofList (mask (statement.toList.filter (· != ';')))) =
      Fact.ofStatement p statement ∧
    (escapesSemicolon false statement.toList = false →
      Fact.ofStatement p (String.ofList (mask statement.toList)) = Fact.ofStatement p statement) := by
  have hplain := clean_mask (escapesSemicolon_filter false statement.toList)
  rw [clean_filter] at hplain
  refine ⟨?_, fun h => ?_⟩
  · simp only [Fact.ofStatement, String.toList_ofList, hplain]
  · simp only [Fact.ofStatement, String.toList_ofList, clean_mask h]

theorem search_path_masked :
    escapesSemicolon false "s = \"C:\\\\;D:\\\\\" + y;".toList = false ∧
    Fact.ofStatement .java (String.ofList (mask "s = \"C:\\\\;D:\\\\\" + y;".toList)) =
      Fact.ofStatement .java "s = \"C:\\\\;D:\\\\\" + y;" :=
  ⟨by decide, (ofStatement_mask .java _).2 (by decide)⟩

theorem escaped_semicolon_read :
    (Fact.ofStatement .java "x = \"\\;\" + y + \"z\";").used = ["z"] ∧
    (Fact.ofStatement .java (String.ofList (mask "x = \"\\;\" + y + \"z\";".toList))).used = ["y"] := by
  simp only [Fact.ofStatement, form, keywords_java]
  decide +kernel

end Statement

end GenKill
