import Signalbox.Proofs.Files.Path
import Signalbox.Proofs.Files.Tree

/-!
# Files that were not written

A file that can be read keeps its text when a directory is created and when another file is written. A draft of a file
is another file, and where it is the file itself, it takes the place of the file without fail.

Main results:

* `FileTree.read_of_createDirectories`: a file after a directory was created.
* `FileTree.read_of_write_other` / `FileTree.read_of_write_draft`: a file after another one was written, such as its
  draft.
* `FileTree.exists_rename_self`: a file that was written can be given its own path.
-/

namespace Signalbox.FileTree

variable {t t' : FileTree} {path text : String} {names : List String}

/-! ## Directories that are added -/

/-- What stands in the first tree stands in the second one. -/
def Adds (t t' : FileTree) : Prop :=
  ∀ names node, t.node? names = some node → t'.node? names = some node

theorem Adds.keeps (h : t.Adds t') : t.Keeps t' :=
  fun names => h names .directory

/-- A file can still be read when the directories are kept and it stands where it stood. -/
theorem Keeps.read (hkeeps : t.Keeps t') (h : t.read path = .ok text)
    (hnode : ∀ names, t.resolve path = .ok names → t'.node? names = t.node? names) : t'.read path = .ok text := by
  obtain ⟨names, hresolve, hfile, hpath⟩ := read_eq_ok h
  exact read_of_node? (hkeeps.resolve hresolve) ((hnode names hresolve).trans hfile) hpath

/-- A file that can be read still can be when nodes are added. -/
theorem Adds.read (hadds : t.Adds t') (h : t.read path = .ok text) : t'.read path = .ok text := by
  obtain ⟨names, hresolve, hfile, -⟩ := read_eq_ok h
  refine hadds.keeps.read h fun names' hresolve' => ?_
  obtain rfl : names = names' := Except.ok.inj (hresolve.symm.trans hresolve')
  rw [hfile, hadds names _ hfile]

/-- A node is added where there was none. -/
theorem adds_put (node : FileNode) (h : t.node? names = none) : t.Adds (t.put names node) := by
  intro other node' hother
  have hne : other ≠ names := by
    rintro rfl
    rw [h] at hother
    cases hother
  rw [node?_put_of_ne t node hne, hother]

/-- Directories that are created along a path are added. -/
theorem adds_createAlong {here way : List String} (h : t.createAlong here way = .ok t') : t.Adds t' := by
  induction way generalizing t here with
  | nil =>
    obtain rfl := Except.ok.inj h
    exact fun _ _ hnode => hnode
  | cons name rest ih =>
    unfold createAlong at h
    dsimp only at h
    split at h
    · exact ih h
    · cases h
    next hnone => exact fun names node hnode => ih h names node (adds_put .directory hnone names node hnode)

/-- A file after a directory was created. -/
theorem read_of_createDirectories {directory : String} (h : t.createDirectories directory = .ok t')
    (hread : t.read path = .ok text) : t'.read path = .ok text :=
  (adds_createAlong h).read hread

/-! ## Other files -/

/-- A way ends in the last of its names. -/
theorem getLast?_of_walk {here way : List String} {name : String} (h : t.walk here way = .ok names)
    (hlast : way.getLast? = some name) (hname : name ≠ "..") : names.getLast? = some name := by
  induction way generalizing here with
  | nil => cases hlast
  | cons first rest ih =>
    -- the last name is put at the end; before it, the walk goes through directories
    cases rest with
    | nil =>
      obtain rfl : first = name := Option.some.inj hlast
      obtain rfl := Except.ok.inj h
      rw [if_neg hname, List.getLast?_concat]
    | cons next rest =>
      unfold walk at h
      dsimp only at h
      split at h
      · exact ih h (by rwa [List.getLast?_cons_cons] at hlast)
      · cases h
      · cases h

/-- A path that ends in a name leads to something of this name. -/
theorem getLast?_of_resolve {name : String} (h : t.resolve path = .ok names)
    (hlast : (Path.names path).getLast? = some name) (hname : name ≠ "..") : names.getLast? = some name := by
  unfold resolve at h
  split_ifs at h
  exact getLast?_of_walk h hlast hname

/-- A file after another one was written. -/
theorem read_of_write_other {other written : String} (h : t.write other written = .ok t')
    (hother : t.resolve other ≠ t.resolve path) (hread : t.read path = .ok text) : t'.read path = .ok text := by
  obtain ⟨names, hresolve, hnode, -, rfl⟩ := write_eq_ok h
  refine (keeps_put _ hnode).read hread fun names' hresolve' => node?_put_of_ne t _ ?_
  rintro rfl
  exact hother (hresolve.trans hresolve'.symm)

/-- The draft of a file stands somewhere else than the file. -/
theorem resolve_draft_ne (hdraft : Path.withEnding path Program.draftEnding ≠ path) (h : t.resolve path = .ok names) :
    t.resolve (Path.withEnding path Program.draftEnding) ≠ t.resolve path := by
  obtain ⟨name, other, hname, hother, hne, hneOther, hdiffer⟩ := (Path.withEnding_cases path).resolve_left hdraft
  intro hsame
  -- the two ways end in different names
  have hlast := getLast?_of_resolve h hname hne
  rw [getLast?_of_resolve (hsame.trans h) hother hneOther] at hlast
  exact hdiffer (Option.some.inj hlast).symm

/-- A file after its draft was written, if the draft is another file. -/
theorem read_of_write_draft {draft : String} (hdraft : Path.withEnding path Program.draftEnding ≠ path)
    (h : t.write (Path.withEnding path Program.draftEnding) draft = .ok t') (hread : t.read path = .ok text) :
    t'.read path = .ok text := by
  obtain ⟨names, hresolve, -, -⟩ := read_eq_ok hread
  exact read_of_write_other h (resolve_draft_ne hdraft hresolve) hread

/-- Two paths that lead to the same place still do when a file is written there. -/
theorem resolve_eq_of_write {other written : String} (h : t.write other written = .ok t')
    (hsame : t.resolve other = t.resolve path) : t'.resolve other = t'.resolve path := by
  obtain ⟨names, hresolve, hnode, -, rfl⟩ := write_eq_ok h
  have hkeeps := keeps_put (.file written) hnode
  rw [hkeeps.resolve hresolve, hkeeps.resolve (hsame.symm.trans hresolve)]

/-- A file that was written can be given its own path. -/
theorem exists_rename_self (h : t.write path text = .ok t') : ∃ t'', t'.rename path path = .ok t'' := by
  have hread := read_of_write h
  obtain ⟨names, hresolve, hfile, hpath⟩ := read_eq_ok hread
  refine ⟨(t'.remove names).put names (.file text), ?_⟩
  rw [rename, hresolve, ok_bind, hread, ok_bind, ok_bind, hfile]
  simp only [hpath, Bool.false_eq_true, if_false]
  rfl

end Signalbox.FileTree
