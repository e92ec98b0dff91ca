import GenKill.Proofs.Graph.Chain

namespace GenKill

open Text

namespace Text

lemma lines_cons_of_not_break {c : Char} (hc : isLineBreak c = false) (rest : List Char) :
    lines (c :: rest) = (c :: (lines rest).headD []) :: (lines rest).tail := by
  have hr : c ≠ '\r' := by
    rintro rfl
    exact absurd hc (by decide)
  rw [lines.eq_def]
  split
  case h_1 h => cases h
  case h_2 h => exact absurd (List.cons.inj h).1 hr
  case h_3 h =>
    obtain ⟨rfl, rfl⟩ := List.cons.inj h
    rw [if_neg (by simp [hc])]
    split
    case h_1 hlines => rw [hlines]; rfl
    case h_2 hlines => rw [hlines]; rfl

lemma lines_append_feed {line : List Char} (h : line.any isLineBreak = false)
    (rest : List Char) : lines (line ++ '\n' :: rest) = line :: lines rest := by
  induction line with
  | nil => rfl
  | cons c line ih =>
    rw [List.any_cons, Bool.or_eq_false_iff] at h
    obtain ⟨hc, hline⟩ := h
    rw [List.cons_append, lines_cons_of_not_break hc, ih hline]
    rfl

lemma lines_of_no_break {line : List Char} (h : line.any isLineBreak = false) :
    lines line = if line = [] then [] else [line] := by
  induction line with
  | nil => rfl
  | cons c line ih =>
    rw [List.any_cons, Bool.or_eq_false_iff] at h
    obtain ⟨hc, hline⟩ := h
    rw [lines_cons_of_not_break hc, ih hline]
    cases line <;> rfl

end Text

namespace Source

def HasLines (source : String) (ls : List (List Char)) : Prop :=
  lines source.toList = ls ∨ lines source.toList ++ [[]] = ls

def ofLines (ls : List (List Char)) : String := String.ofList (List.intercalate ['\n'] ls)

lemma hasLines_ofLines {ls : List (List Char)} (h : ∀ l ∈ ls, l.any isLineBreak = false) :
    HasLines (ofLines ls) ls := by
  rw [HasLines, ofLines, String.toList_ofList]
  induction ls with
  | nil => exact Or.inl rfl
  | cons l ls ih =>
    obtain ⟨hl, hls⟩ := List.forall_mem_cons.mp h
    cases ls with
    | nil =>
      rw [List.intercalate_singleton, lines_of_no_break hl]
      split
      case isTrue hnil => exact Or.inr (by rw [hnil]; rfl)
      case isFalse => exact Or.inl rfl
    | cons m ls =>
      rw [List.intercalate_cons_cons, List.append_assoc, List.singleton_append, lines_append_feed hl]
      exact (ih hls).imp (congrArg (l :: ·)) (congrArg (l :: ·))

def commentOpen (ls : List (List Char)) : Bool := ls.foldl commentBehind false

end Source

def Increasing (f : Int → Int) : Prop := ∀ x y, x < y → f x < f y

def Statement.reline (f : Int → Int) (s : Statement) : Statement := { s with line := f s.line }

namespace Source

variable {p : Profile}

lemma statementsFrom_append (p : Profile) (inComment : Bool) (n : ℕ) (ls ms : List (List Char)) :
    statementsFrom p inComment n (ls ++ ms) = statementsFrom p inComment n ls ++
      statementsFrom p (ls.foldl commentBehind inComment) (n + ls.length) ms := by
  induction ls generalizing inComment n with
  | nil => rfl
  | cons raw ls ih =>
    rw [List.cons_append, statementsFrom_cons, ih, statementsFrom_cons p inComment n raw ls,
      List.append_assoc, List.foldl_cons, List.length_cons, Nat.add_right_comm, Nat.add_assoc]

lemma statementsFrom_succ (p : Profile) (inComment : Bool) (n : ℕ) (ls : List (List Char)) :
    statementsFrom p inComment (n + 1) ls =
      (statementsFrom p inComment n ls).map (Statement.reline (· + 1)) := by
  induction ls generalizing inComment n with
  | nil => rfl
  | cons raw ls ih =>
    rw [statementsFrom_cons, statementsFrom_cons p inComment n, List.map_append, ih, List.map_map]
    rfl

lemma line_lt_of_mem_statementsFrom {inComment : Bool} {n : ℕ} {ls : List (List Char)}
    {s : Statement} (hs : s ∈ statementsFrom p inComment n ls) : s.line < n + ls.length := by
  induction ls generalizing inComment n with
  | nil => cases hs
  | cons raw ls ih =>
    rw [statementsFrom_cons, List.mem_append] at hs
    rw [List.length_cons]
    rcases hs with hs | hs
    · obtain ⟨text, -, heq⟩ := List.mem_map.mp hs
      have hline : s.line = n := by rw [← heq]
      omega
    · have hlt := ih hs
      omega

def IsPlain (line : List Char) : Prop := trim line = [] ∨ lineComment <+: trim line

instance (line : List Char) : Decidable (IsPlain line) :=
  inferInstanceAs (Decidable (trim line = [] ∨ lineComment <+: trim line))

lemma lineText?_of_isPlain {line : List Char} (h : IsPlain line) :
    lineText? p false line = none ∧ commentBehind false line = false := by
  rcases h with hblank | ⟨rest, hrest⟩
  · simp [lineText?, commentBehind, hblank]
  · simp [lineText?, commentBehind, ← hrest, lineComment, commentStart, statementText?,
      isCommentLine, List.isPrefixOf]

def pushedDown (k : ℕ) (line : Int) : Int := if line ≤ k then line else line + 1

lemma pushedDown_increasing (k : ℕ) : Increasing (pushedDown k) := by
  intro x y hxy
  simp only [pushedDown]
  split <;> split <;> omega

lemma statementsFrom_insert {before : List (List Char)} (hopen : commentOpen before = false)
    {line : List Char} (hline : IsPlain line) (behind : List (List Char)) :
    statementsFrom p false 1 (before ++ line :: behind) =
      (statementsFrom p false 1 (before ++ behind)).map
        (Statement.reline (pushedDown before.length)) := by
  obtain ⟨hnone, hclosed⟩ := lineText?_of_isPlain (p := p) hline
  have hbefore : (statementsFrom p false 1 before).map
      (Statement.reline (pushedDown before.length)) = statementsFrom p false 1 before := by
    refine (List.map_congr_left fun s hs => ?_).trans (List.map_id _)
    have hlt := line_lt_of_mem_statementsFrom hs
    have hle : s.line ≤ before.length := by omega
    simp only [Statement.reline, pushedDown, if_pos hle, id]
  have hbehind : (statementsFrom p false (1 + before.length) behind).map
      (Statement.reline (pushedDown before.length)) =
      statementsFrom p false (1 + before.length + 1) behind := by
    rw [statementsFrom_succ]
    refine List.map_congr_left fun s hs => ?_
    have hge := (statementsFrom_lines p false (1 + before.length) behind).2 s hs
    have hgt : ¬ s.line ≤ before.length := by omega
    simp only [Statement.reline, pushedDown, if_neg hgt]
  rw [commentOpen] at hopen
  rw [statementsFrom_append, hopen, statementsFrom_cons, hnone, hclosed, Option.toList_none,
    List.map_nil, List.nil_append, statementsFrom_append p false 1 before behind, hopen,
    List.map_append, hbefore, hbehind]

lemma statements_of_hasLines {source : String} {ls : List (List Char)} (h : HasLines source ls) :
    statements p source = statementsFrom p false 1 ls := by
  rcases h with rfl | rfl
  · rfl
  · rw [statementsFrom_append]
    simp [statements, statementsFrom, trim_nil]

end Source

namespace Graph

def reline (f : Int → Int) (g : Graph) : Graph :=
  { g with statements := g.statements.map (Statement.reline f) }

variable {f : Int → Int} {g : Graph}

lemma push_reline (s : Statement) : (g.reline f).push (s.reline f) = (g.push s).reline f := by
  simp [push, reline]

lemma addEdge_reline (a b : NodeId) : (g.reline f).addEdge a b = (g.addEdge a b).reline f := by
  by_cases h : (a, b) ∈ g.edges
  · rw [addEdge, if_pos (show (a, b) ∈ (g.reline f).edges from h), addEdge, if_pos h]
  · rw [addEdge, if_neg (show (a, b) ∉ (g.reline f).edges from h), addEdge, if_neg h]
    rfl

lemma close_reline : (g.reline f).close = g.close.reline f := by
  have hlength : (g.reline f).statements.length = g.statements.length := by simp [reline]
  have hdangling : (g.reline f).dangling = g.dangling := by
    simp only [dangling, nodeIds, size, hlength]
    rfl
  unfold close
  by_cases hc : g.closed = true
  · rw [if_pos hc]
    exact if_pos hc
  · rw [if_neg hc]
    refine (if_neg hc).trans ?_
    simp only [hlength, hdangling]
    refine List.foldl_rel (r := fun x y : Graph => x = y.reline f) rfl ?_
    intro n _ x y hxy
    rw [hxy, addEdge_reline]

lemma ofStatements_reline (ss : List Statement) :
    ofStatements (ss.map (Statement.reline f)) = (ofStatements ss).reline f := by
  have hfold : ss.foldl (fun x s => extend x (s.reline f)) ({}, entryId) =
      ((ss.foldl extend ({}, entryId)).1.reline f, (ss.foldl extend ({}, entryId)).2) := by
    refine List.foldl_rel (r := fun x y : Graph × NodeId => x = (y.1.reline f, y.2)) rfl ?_
    intro s _ x y hxy
    rw [hxy]
    simp only [extend, push_reline, addEdge_reline]
    simp [reline]
  rw [ofStatements, List.foldl_map, hfold, close_reline, ofStatements]

lemma numbered_reline : (g.reline f).numbered = g.numbered.map fun x => (x.1, x.2.reline f) := by
  refine List.mapIdx_eq_iff.mpr fun i => ?_
  simp [numbered, reline, Function.comp_def]

end Graph

end GenKill
