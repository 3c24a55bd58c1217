import Mathlib.Data.List.Basic
import Signalbox.Program.Outline
import Signalbox.Proofs.Block.Preorder
import Signalbox.Proofs.Decimal.Marks

/-!
# The lines of an outline

An outline writes the blocks of a program in the order of the document, each on a line of its own that starts with two
blanks for every block around it. But a line shows texts that were entered, as they are: an id, a condition, a scalar, the
name of a device. If one of them holds a newline, the line ends there for who splits the outline, and what is left of it
starts a line that belongs to no block. So the lines of an outline are counted here together with the newlines of these
texts.

Main results:

* `Block.pieces_outlineIn_append`: an outline falls apart like the lines of its blocks do.
* `Block.newlines_outlineLine`: the newlines of a line are those of the texts that it shows.
* `Program.outline_lines`: the lines of an outline, and when there is one for each block.
-/

namespace Signalbox

/-! ## Texts and their newlines -/

namespace Text

/-- How many newlines a text holds. -/
def newlines (s : String) : Nat :=
  s.toList.count '\n'

/-- How many newlines some texts hold together. -/
def newlinesIn : List String → Nat
  | [] => 0
  | text :: rest => newlines text + newlinesIn rest

/-- The pieces between the newlines of a text. -/
def pieces (s : String) : List String :=
  (s.toList.splitOn '\n').map String.ofList

theorem newlines_append (s t : String) : newlines (s ++ t) = newlines s + newlines t := by
  rw [newlines, String.toList_append, List.count_append]
  rfl

theorem newlinesIn_append (front back : List String) : newlinesIn (front ++ back) = newlinesIn front + newlinesIn back := by
  induction front with
  | nil => exact (Nat.zero_add _).symm
  | cons text rest ih => rw [List.cons_append, newlinesIn, newlinesIn, ih, Nat.add_assoc]

/-- Texts have no newline together when none of them has one. -/
theorem newlinesIn_eq_zero_iff {texts : List String} : newlinesIn texts = 0 ↔ ∀ text ∈ texts, newlines text = 0 := by
  induction texts with
  | nil => exact iff_of_true rfl fun _ h => absurd h List.not_mem_nil
  | cons text rest ih => rw [newlinesIn, Nat.add_eq_zero_iff, ih, List.forall_mem_cons]

theorem newlines_of_areMarks {s : String} (h : AreMarks s.toList) : newlines s = 0 :=
  List.count_eq_zero.mpr fun hnewline => absurd (h.isMark_of_mem hnewline) (by decide)

/-- A text has one piece more than it has newlines. -/
theorem length_pieces (s : String) : (pieces s).length = newlines s + 1 := by
  rw [pieces, List.length_map, newlines]
  induction s.toList with
  | nil => rfl
  | cons c rest ih =>
    -- a newline begins another piece, and any other character belongs to the first one
    rw [List.splitOn_cons_eq_if_modifyHead, List.count_cons]
    split
    next => rw [List.length_cons, ih]
    next => rw [List.length_modifyHead, ih]

theorem pieces_of_newlines_eq_zero {s : String} (h : newlines s = 0) : pieces s = [s] := by
  rw [pieces, List.splitOn_eq_singleton (List.count_eq_zero.mp h), List.map_singleton, String.ofList_toList]

/-- A newline parts a text in two. -/
theorem pieces_append_newline (s t : String) : pieces (s ++ "\n" ++ t) = pieces s ++ pieces t := by
  have hsplit : (s ++ "\n" ++ t).toList = s.toList ++ '\n' :: t.toList := by
    rw [String.toList_append, String.toList_append, List.append_assoc]
    rfl
  rw [pieces, hsplit, List.splitOn_append_cons_self, List.map_append]
  rfl

end Text

open Text

/-- The text of a scalar, if it was entered as one. -/
def Scalar.texts : Scalar → List String
  | .text s => [s]
  | .number _ => []

/-- A value shows the newlines of its own texts. -/
theorem Scalar.newlines_display (value : Scalar) : newlines value.display = newlinesIn value.texts := by
  cases value with
  | text s => exact (Nat.add_zero _).symm
  | number n => exact newlines_of_areMarks n.areMarks_text

/-- A position shows no newline. -/
theorem Position.newlines_label (p : Position) : newlines p.label = 0 := by
  have hx := newlines_of_areMarks (Layout.plain.areMarks_write p.x)
  have hy := newlines_of_areMarks (Layout.plain.areMarks_write p.y)
  show newlines (" @(" ++ Layout.plain.write p.x ++ ", " ++ Layout.plain.write p.y ++ ")") = 0
  rw [newlines_append, newlines_append, newlines_append, newlines_append, hx, hy]
  rfl

namespace Block

/-! ## Lines -/

/-- What a label shows between the type of a block and its id. -/
def fields : Block → String
  | .container _ _ (.loop count) _ => "(" ++ toString count ++ ")"
  | .container _ _ (.branch condition) _ => "(" ++ condition ++ ")"
  | .container .. => ""
  | .statement _ _ (.wait condition) => "(" ++ condition ++ ")"
  | .statement _ _ (.sleep value) => "(" ++ value.display ++ ")"
  | .statement _ _ (.log value) => "(" ++ value.display ++ ")"
  | .statement _ _ (.alert value) => "(" ++ value.display ++ ")"
  | .statement _ _ (.deviceSet device prop value) => "(" ++ (device ++ ":" ++ prop ++ "=" ++ value.display) ++ ")"

/-- The texts of a block that were entered, besides its id. -/
def fieldTexts : Block → List String
  | .container _ _ (.branch condition) _ => [condition]
  | .container .. => []
  | .statement _ _ (.wait condition) => [condition]
  | .statement _ _ (.sleep value) => value.texts
  | .statement _ _ (.log value) => value.texts
  | .statement _ _ (.alert value) => value.texts
  | .statement _ _ (.deviceSet device prop value) => device :: prop :: value.texts

/-- The texts of a block that were entered. -/
def texts (block : Block) : List String :=
  block.id :: block.fieldTexts

/-- A label is the type's name, the fields and the id. -/
theorem label_eq (block : Block) : block.label = block.type.name ++ block.fields ++ (" #" ++ block.id) := by
  have hfields : ∀ name fields : String, name ++ "(" ++ fields ++ ")" ++ " #" ++ block.id =
      name ++ ("(" ++ fields ++ ")") ++ (" #" ++ block.id) := by
    intro name fields
    simp only [String.append_assoc]
  rcases block with ⟨id, position, kind, children⟩ | ⟨id, position, kind⟩
  · cases kind with
    | once => exact String.append_assoc
    | forever => exact String.append_assoc
    | loop count => exact hfields "loop" (toString count)
    | branch condition => exact hfields "if" condition
    | dummy => exact String.append_assoc
  · cases kind with
    | wait condition => exact hfields "wait" condition
    | sleep value => exact hfields "sleep" value.display
    | log value => exact hfields "log" value.display
    | alert value => exact hfields "alert" value.display
    | deviceSet device prop value =>
      -- a label writes the three fields one by one
      refine Eq.trans ?_ (hfields "device-set" (device ++ ":" ++ prop ++ "=" ++ value.display))
      show "device-set" ++ "(" ++ device ++ ":" ++ prop ++ "=" ++ value.display ++ ")" ++ " #" ++ id = _
      simp only [String.append_assoc]
      rfl

theorem newlines_parenthesized (s : String) : newlines ("(" ++ s ++ ")") = newlines s := by
  rw [newlines_append, newlines_append]
  exact Nat.zero_add _

/-- The fields show the newlines of their texts. -/
theorem newlines_fields (block : Block) : newlines block.fields = newlinesIn block.fieldTexts := by
  rcases block with ⟨id, position, kind, children⟩ | ⟨id, position, kind⟩
  · cases kind with
    | once => rfl
    | forever => rfl
    | loop count => exact (newlines_parenthesized _).trans (newlines_of_areMarks (Number.areMarks_repr count.toNat))
    | branch condition => exact newlines_parenthesized condition
    | dummy => rfl
  · cases kind with
    | wait condition => exact newlines_parenthesized condition
    | sleep value => exact (newlines_parenthesized _).trans value.newlines_display
    | log value => exact (newlines_parenthesized _).trans value.newlines_display
    | alert value => exact (newlines_parenthesized _).trans value.newlines_display
    -- the device, the property and the value, with marks between them
    | deviceSet device prop value =>
      refine (newlines_parenthesized _).trans ?_
      rw [newlines_append, newlines_append, newlines_append, newlines_append, value.newlines_display]
      rw [fieldTexts, newlinesIn, newlinesIn]
      have hcolon : newlines ":" = 0 := rfl
      have hequals : newlines "=" = 0 := rfl
      omega

/-- The place that a line shows behind the label. -/
def place (block : Block) : String :=
  (block.position.map Position.label).getD ""

/-- A line is its indentation, the label and the place. -/
theorem outlineLine_eq (depth : Nat) (block : Block) :
    block.outlineLine depth =
      String.ofList (List.replicate (2 * depth) ' ') ++ block.label ++ block.place := by
  rw [outlineLine, place]
  cases block.position <;> rfl

/-- A line starts with two blanks for every entry, and no other. -/
theorem takeWhile_outlineLine (depth : Nat) (block : Block) :
    (block.outlineLine depth).toList.takeWhile (· = ' ') = List.replicate (2 * depth) ' ' := by
  -- the name of a type starts with a letter, so the blanks end with the indentation
  have hname : ∀ rest, (block.type.name.toList ++ rest).takeWhile (· = ' ') = [] := by
    intro rest
    cases block.type <;> rfl
  have hblanks : ∀ c ∈ List.replicate (2 * depth) ' ', decide (c = ' ') = true :=
    fun c hc => decide_eq_true (List.mem_replicate.mp hc).2
  rw [outlineLine_eq, label_eq]
  simp only [String.toList_append, String.toList_ofList, List.append_assoc]
  rw [List.takeWhile_append_of_pos hblanks, hname, List.append_nil]

/-- The newlines of a line are those of the texts that it shows. -/
theorem newlines_outlineLine (depth : Nat) (block : Block) :
    newlines (block.outlineLine depth) = newlinesIn block.texts := by
  -- what a line shows besides the entered texts has no newlines
  have hblanks : newlines (String.ofList (List.replicate (2 * depth) ' ')) = 0 := by
    rw [newlines, String.toList_ofList]
    exact List.count_eq_zero.mpr fun h => absurd (List.mem_replicate.mp h).2 (by decide)
  have hname : newlines block.type.name = 0 := by
    cases block.type <;> rfl
  have hid : newlines (" #" ++ block.id) = newlines block.id :=
    (newlines_append _ _).trans (Nat.zero_add _)
  have hplace : newlines block.place = 0 := by
    rw [place]
    cases block.position with
    | none => rfl
    | some p => exact p.newlines_label
  rw [outlineLine_eq, label_eq, newlines_append, newlines_append, newlines_append, newlines_append, hblanks, hname, hid,
    hplace, newlines_fields]
  show _ = newlines block.id + newlinesIn block.fieldTexts
  omega

/-! ## Depths -/

mutual

/-- A block and everything inside it with the depth of each, in the order of the document. -/
def withDepths (depth : Nat) : Block → List (Nat × Block)
  | .container id position kind children =>
    (depth, .container id position kind children) :: withDepthsIn (depth + 1) children
  | .statement id position kind => [(depth, .statement id position kind)]

/-- A list of blocks and everything inside them with the depth of each, in the order of the document. -/
def withDepthsIn (depth : Nat) : List Block → List (Nat × Block)
  | [] => []
  | block :: rest => block.withDepths depth ++ withDepthsIn depth rest

end

theorem withDepthsIn_cons (depth : Nat) (block : Block) (rest : List Block) :
    withDepthsIn depth (block :: rest) =
      (depth, block) :: (withDepthsIn (depth + 1) block.children ++ withDepthsIn depth rest) := by
  cases block <;> rfl

/-- Blocks with their depths are the blocks in preorder. -/
theorem map_snd_withDepthsIn (depth : Nat) (blocks : List Block) :
    (withDepthsIn depth blocks).map Prod.snd = preorderIn blocks := by
  induction blocks using children_induction generalizing depth with
  | nil => rfl
  | cons block rest hchildren hrest =>
    rw [withDepthsIn_cons, preorderIn, preorder_eq_cons, List.map_cons, List.map_append, hchildren, hrest,
      List.cons_append]

theorem outlineIn_cons (depth : Nat) (block : Block) (rest : List Block) :
    outlineIn depth (block :: rest) =
      block.outlineLine depth ++ "\n" ++ (outlineIn (depth + 1) block.children ++ outlineIn depth rest) := by
  rw [outlineIn, ← String.append_assoc]
  congr 1
  cases block with
  | container => rfl
  | statement => exact String.append_empty.symm

/-- Lists of blocks that are written one after the other fall apart like each of them does. -/
theorem pieces_outlineIn_append (depth : Nat) (blocks : List Block) (rest : String) :
    pieces (outlineIn depth blocks ++ rest) =
      (withDepthsIn depth blocks).flatMap (fun entry => pieces (entry.2.outlineLine entry.1)) ++ pieces rest := by
  induction blocks using children_induction generalizing depth rest with
  | nil =>
    rw [outlineIn, String.empty_append]
    rfl
  | cons block others hchildren hothers =>
    -- the text behind the children is the outline of the other blocks, so the induction is over any text behind
    rw [outlineIn_cons, String.append_assoc, pieces_append_newline, String.append_assoc, hchildren, hothers,
      withDepthsIn_cons, List.flatMap_cons, List.flatMap_append, List.append_assoc, List.append_assoc]

/-- Split at its newlines a line has one piece more than its texts have newlines. -/
theorem length_flatMap_pieces (entries : List (Nat × Block)) :
    (entries.flatMap fun entry => pieces (entry.2.outlineLine entry.1)).length =
      entries.length + newlinesIn ((entries.map Prod.snd).flatMap texts) := by
  induction entries with
  | nil => rfl
  | cons entry rest ih =>
    rw [List.flatMap_cons, List.length_append, length_pieces, newlines_outlineLine, ih, List.length_cons, List.map_cons,
      List.flatMap_cons, newlinesIn_append]
    omega

end Block

namespace Program

/-- All blocks of a program with their depths, in the order of the document. -/
def withDepths (p : Program) : List (Nat × Block) :=
  Block.withDepthsIn 0 p.blocks

/-- All texts of a program that were entered. -/
def texts (p : Program) : List String :=
  p.preorder.flatMap Block.texts

variable (p : Program)

theorem map_snd_withDepths : p.withDepths.map Prod.snd = p.preorder :=
  Block.map_snd_withDepthsIn 0 p.blocks

theorem map_id_withDepths : p.withDepths.map (fun entry => entry.2.id) = p.ids := by
  rw [ids, Block.idsIn_eq_map_preorderIn, ← Block.map_snd_withDepthsIn 0, List.map_map]
  rfl

/-- The outline is cut into the pieces of its lines, and the empty one behind the last newline. -/
theorem pieces_outline :
    pieces p.outline = p.withDepths.flatMap (fun entry => pieces (entry.2.outlineLine entry.1)) ++ [""] := by
  have h := Block.pieces_outlineIn_append 0 p.blocks ""
  rwa [String.append_empty] at h

/-- The pieces of an outline are one for each block, one for each newline of a text, and the empty one at the end. -/
theorem length_pieces_outline : (pieces p.outline).length = p.ids.length + newlinesIn p.texts + 1 := by
  have hlength : p.withDepths.length = p.ids.length := by
    rw [← map_id_withDepths, List.length_map]
  rw [pieces_outline, List.length_append, Block.length_flatMap_pieces, map_snd_withDepths, hlength]
  rfl

/-- Without newlines in its texts every block has one line. -/
theorem pieces_outline_of_forall (h : ∀ text ∈ p.texts, newlines text = 0) :
    pieces p.outline = p.withDepths.map (fun entry => entry.2.outlineLine entry.1) ++ [""] := by
  have hlines : ∀ entry ∈ p.withDepths,
      pieces (entry.2.outlineLine entry.1) = [entry.2.outlineLine entry.1] := by
    intro entry hentry
    have hblock : entry.2 ∈ p.preorder := map_snd_withDepths p ▸ List.mem_map_of_mem hentry
    refine pieces_of_newlines_eq_zero ?_
    rw [Block.newlines_outlineLine]
    exact newlinesIn_eq_zero_iff.mpr fun text htext => h text (List.mem_flatMap.mpr ⟨entry.2, hblock, htext⟩)
  rw [pieces_outline, List.flatMap_congr hlines, ← List.map_eq_flatMap]

/-- The blocks of a program in the order of its ids are written behind each other. The line of each starts with two blanks
for every level and no other, shows the type, the fields and the id, and ends with a newline, behind the last one of which
nothing stands. Split at its newlines the outline has one line more than there are blocks for every newline of a text that
was entered. So there is one line for each block just when these texts have no newlines, and then the lines are those of
the blocks. -/
theorem outline_lines :
    p.withDepths.map (fun entry => entry.2.id) = p.ids ∧
    pieces p.outline = p.withDepths.flatMap (fun entry => pieces (entry.2.outlineLine entry.1)) ++ [""] ∧
    (∀ depth block,
      Block.outlineLine depth block = String.ofList (List.replicate (2 * depth) ' ') ++ block.type.name ++ block.fields ++
        " #" ++ block.id ++ block.place ∧
      (block.outlineLine depth).toList.takeWhile (· = ' ') = List.replicate (2 * depth) ' ') ∧
    (pieces p.outline).length = p.ids.length + newlinesIn p.texts + 1 ∧
    ((pieces p.outline).length = p.ids.length + 1 ↔ ∀ text ∈ p.texts, newlines text = 0) ∧
    ((∀ text ∈ p.texts, newlines text = 0) →
      pieces p.outline = p.withDepths.map (fun entry => entry.2.outlineLine entry.1) ++ [""]) := by
  refine ⟨p.map_id_withDepths, p.pieces_outline, fun depth block => ⟨?_, ?_⟩, p.length_pieces_outline, ?_,
    p.pieces_outline_of_forall⟩
  · rw [Block.outlineLine_eq, Block.label_eq]
    simp only [String.append_assoc]
  · exact Block.takeWhile_outlineLine depth block
  · -- one line for each block, unless a text brings more
    rw [length_pieces_outline, ← newlinesIn_eq_zero_iff]
    omega

/-- A log of two lines. -/
def twoLineLog : Program :=
  ⟨[.container "setup" none .once [.statement "a" none (.log (.text "first\nsecond"))]]⟩

/-- The two blocks have three lines, and those of the first program have one each. -/
theorem outline_lines_twoLineLog :
    (twoLineLog.ids.length = 2 ∧ (pieces twoLineLog.outline).length = 4) ∧
      pieces starter.outline = ["once #setup", "forever #loop", ""] := by
  obtain ⟨-, -, -, hlength, -, -⟩ := outline_lines twoLineLog
  obtain ⟨-, -, -, -, -, hlines⟩ := outline_lines starter
  exact ⟨⟨rfl, hlength⟩, hlines (by decide)⟩

example : twoLineLog.outline = "once #setup\n  log(first\nsecond) #a\n" := by decide

end Program

end Signalbox
