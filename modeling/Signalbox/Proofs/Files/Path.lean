import Mathlib.Data.List.Basic
import Mathlib.Data.List.TakeWhile
import Signalbox.Program.Store

/-!
# The last name of a path

What a path leads to is told apart by its last name. The path with another ending leads somewhere else, unless the path
ends in no name of its own: then it stays as it is.

Main results:

* `Path.getLast?_names`: the last name of a path.
* `Path.withEnding_cases`: the path with another ending has another last name, or it is the same path.
-/

namespace Signalbox.Path

/-! ## Pieces -/

/-- A slash ends a piece, and the next one begins behind it. -/
theorem piecesFrom_append_slash (begun before after : List Char) :
    piecesFrom begun (before ++ '/' :: after) = piecesFrom begun before ++ piecesFrom [] after := by
  induction before generalizing begun with
  | nil => rfl
  | cons c rest ih =>
    rw [List.cons_append]
    by_cases hc : c = '/'
    · subst hc
      rw [piecesFrom, piecesFrom, ih, List.cons_append]
    · rw [piecesFrom.eq_3 _ _ _ hc, piecesFrom.eq_3 _ _ _ hc, ih]

/-- Without a slash there is one piece. -/
theorem piecesFrom_of_not_mem (begun : List Char) {name : List Char} (h : '/' ∉ name) :
    piecesFrom begun name = [String.ofList (begun.reverse ++ name)] := by
  induction name generalizing begun with
  | nil => rw [piecesFrom, List.append_nil]
  | cons c rest ih =>
    rw [List.mem_cons, not_or] at h
    rw [piecesFrom.eq_3 _ _ _ (Ne.symm h.1), ih _ h.2, List.reverse_cons, List.append_assoc]
    rfl

/-- The pieces that count. -/
def inside (cs : List Char) : List String :=
  (piecesFrom [] cs).filter fun name => name ≠ "" ∧ name ≠ "."

/-- The names on both sides of a slash, one after the other. -/
theorem inside_append_slash (before after : List Char) :
    inside (before ++ '/' :: after) = inside before ++ inside after := by
  rw [inside, piecesFrom_append_slash, List.filter_append]
  rfl

/-- A name that counts. -/
structure IsName (name : List Char) : Prop where
  ne_nil : name ≠ []
  ne_dot : name ≠ ['.']
  slash : '/' ∉ name

/-- A name is the only one in itself. -/
theorem inside_of_isName {name : List Char} (h : IsName name) : inside name = [String.ofList name] := by
  have hcounts : String.ofList name ≠ "" ∧ String.ofList name ≠ "." := by
    refine ⟨fun heq => h.ne_nil ?_, fun heq => h.ne_dot ?_⟩
    · exact String.ofList_injective heq
    · exact String.ofList_injective heq
  rw [inside, piecesFrom_of_not_mem [] h.slash, List.reverse_nil, List.nil_append,
    List.filter_cons_of_pos (by simpa using hcounts), List.filter_nil]

/-- What does not count at the end of a path has no pieces that count. -/
theorem inside_dropEnd (cs : List Char) : inside (dropEnd cs).reverse = inside cs.reverse := by
  have hempty : inside [] = [] := by decide
  have hdot : inside ['.'] = [] := by decide
  fun_induction dropEnd cs with
  | case1 rest ih => rw [ih, List.reverse_cons, inside_append_slash, hempty, List.append_nil]
  | case2 rest ih =>
    rw [ih, List.reverse_cons, List.reverse_cons, List.append_assoc]
    show _ = inside (rest.reverse ++ '/' :: ['.'])
    rw [inside_append_slash, hdot, List.append_nil]
  | case3 => rfl

/-- The name at the end of a path is the last one in it. -/
theorem getLast?_inside_append (cs : List Char) {name : List Char} (h : IsName name) :
    (inside ((cs.dropWhile (· ≠ '/')).reverse ++ name)).getLast? = some (String.ofList name) := by
  cases hdir : cs.dropWhile (· ≠ '/') with
  | nil =>
    rw [List.reverse_nil, List.nil_append, inside_of_isName h]
    rfl
  | cons c rest =>
    -- the directory ends in a slash
    have hne : cs.dropWhile (· ≠ '/') ≠ [] := by
      rw [hdir]
      exact List.cons_ne_nil _ _
    have hnot := List.head_dropWhile_not (fun c : Char => decide (c ≠ '/')) hne
    have hhead : (cs.dropWhile (· ≠ '/')).head hne = c := by simp only [hdir, List.head_cons]
    obtain rfl : c = '/' := by
      rw [hhead] at hnot
      simpa using hnot
    rw [List.reverse_cons, List.append_assoc]
    show (inside (rest.reverse ++ '/' :: name)).getLast? = _
    rw [inside_append_slash, inside_of_isName h, List.getLast?_concat]

/-- The last name of a path. -/
theorem getLast?_names {path name : String} (h : (inside path.toList).getLast? = some name) :
    (names path).getLast? = some name := by
  have hne : inside path.toList ≠ [] := by
    intro hnil
    rw [hnil] at h
    cases h
  show (if path.toList.head? = some '/' then root :: inside path.toList else inside path.toList).getLast? = _
  split_ifs
  · rw [List.getLast?_cons, h]
    rfl
  · exact h

/-! ## Other endings -/

/-- The characters in front of the ending are characters of the name. -/
theorem mem_of_mem_stem {name : List Char} {c : Char} (h : c ∈ stem name) : c ∈ name := by
  unfold stem at h
  dsimp only at h
  split_ifs at h
  · exact h
  · have hmem := List.mem_reverse.mp (List.dropLast_subset _ h)
    exact List.mem_reverse.mp ((List.dropWhile_sublist _).subset hmem)

/-- The ending of a draft has two parts, of which a stem loses only the last one. -/
theorem stem_append_draftEnding (name : List Char) :
    stem (name ++ '.' :: Program.draftEnding.toList) = name ++ ".json".toList := by
  have hup : ((name ++ '.' :: Program.draftEnding.toList).reverse.dropWhile (· ≠ '.')).reverse =
      name ++ ".json.".toList := by
    simp [Program.draftEnding]
  unfold stem
  dsimp only
  rw [hup, if_neg (by simp)]
  simp

/-- The name of a draft is a name. -/
theorem isName_draft {name : List Char} (hslash : '/' ∉ name) :
    IsName (stem name ++ '.' :: Program.draftEnding.toList) := by
  refine ⟨by simp, fun h => ?_, fun hmem => ?_⟩
  · have hlength := congrArg List.length h
    simp [Program.draftEnding] at hlength
  · rcases List.mem_append.mp hmem with hmem | hmem
    · exact hslash (mem_of_mem_stem hmem)
    · exact absurd hmem (by decide)

/-- A name is not the name of its own draft, whose stem is longer. -/
theorem draft_ne (name : List Char) : stem name ++ '.' :: Program.draftEnding.toList ≠ name := by
  intro h
  have hstem := stem_append_draftEnding (stem name)
  rw [h] at hstem
  have hlength := congrArg List.length hstem
  simp at hlength

/-- The file that a program is written to first has another name than the file itself, or the path does not end in a
name and is its own draft. -/
theorem withEnding_cases (path : String) :
    withEnding path Program.draftEnding = path ∨ ∃ name draft : String,
      (names path).getLast? = some name ∧ (names (withEnding path Program.draftEnding)).getLast? = some draft ∧
        name ≠ ".." ∧ draft ≠ ".." ∧ name ≠ draft := by
  -- the last name of the path, read from its end
  let cs := dropEnd path.toList.reverse
  let name := (cs.takeWhile (· ≠ '/')).reverse
  -- a path without a name is left as it is
  by_cases hname : name = [] ∨ name = ['.'] ∨ name = ['.', '.']
  · exact .inl (if_pos hname)
  have hending : withEnding path Program.draftEnding =
      String.ofList ((cs.dropWhile (· ≠ '/')).reverse ++ stem name) ++ "." ++ Program.draftEnding := if_neg hname
  rw [not_or, not_or] at hname
  have hslash : '/' ∉ name := by
    intro hmem
    simpa using List.mem_takeWhile_imp (List.mem_reverse.mp hmem)
  let draft := stem name ++ '.' :: Program.draftEnding.toList
  refine .inr ⟨String.ofList name, String.ofList draft, getLast?_names ?_, getLast?_names ?_, ?_, ?_, ?_⟩
  · have hpath : inside path.toList = inside ((cs.dropWhile (· ≠ '/')).reverse ++ name) := by
      rw [← List.reverse_append, List.takeWhile_append_dropWhile, inside_dropEnd, List.reverse_reverse]
    rw [hpath]
    exact getLast?_inside_append cs ⟨hname.1, hname.2.1, hslash⟩
  · have hpath : (withEnding path Program.draftEnding).toList = (cs.dropWhile (· ≠ '/')).reverse ++ draft := by
      rw [hending]
      simp [draft]
    rw [hpath]
    exact getLast?_inside_append cs (isName_draft hslash)
  · exact fun h => hname.2.2 (String.ofList_injective h)
  · intro h
    have hlength := congrArg List.length (String.ofList_injective h : draft = ['.', '.'])
    simp [draft, Program.draftEnding] at hlength
  · exact fun h => draft_ne name (String.ofList_injective h).symm

end Signalbox.Path
