import Mathlib.Data.List.Basic
import Signalbox.Files.Tree
import Signalbox.Proofs.Json.Outcome

/-!
# Files that were written

A path leads to the same place as before in every tree that keeps the directories of the old one. Writing
and renaming keep them, since neither puts a file in the place of a directory, so that the path that was
written to leads to what was written.

Main results:

* `FileTree.read_of_write`: the text of a file that was written.
* `FileTree.read_of_rename`: the text of a file that got another path.
-/

namespace Signalbox.FileTree

variable {t t' : FileTree} {path text : String} {names : List String}

/-! ## Nodes -/

/-- What is taken out under a name leaves the other names as they are. -/
theorem lookup_filter_of_ne {nodes : List (List String × FileNode)} {other : List String}
    (h : other ≠ names) : (nodes.filter (·.1 ≠ names)).lookup other = nodes.lookup other := by
  induction nodes with
  | nil => rfl
  | cons entry rest ih =>
    obtain ⟨key, node⟩ := entry
    by_cases hkey : key = names
    · -- an entry that is left out is not the one looked for
      have hother : (other == key) = false := beq_eq_false_iff_ne.mpr (hkey ▸ h)
      rw [List.filter_cons_of_neg (by simpa using hkey), List.lookup_cons, hother, ih]
    · rw [List.filter_cons_of_pos (by simpa using hkey), List.lookup_cons, List.lookup_cons, ih]

theorem node?_remove_of_ne (t : FileTree) {other : List String} (h : other ≠ names) :
    (t.remove names).node? other = t.node? other := by
  rw [node?, node?, remove, lookup_filter_of_ne h]

/-- A node that is removed is gone. -/
theorem node?_remove_self (t : FileTree) (h : names ≠ []) : (t.remove names).node? names = none := by
  rw [node?, remove, if_neg (by simpa using h), List.lookup_eq_none_iff]
  intro entry hentry
  have hkey : entry.1 ≠ names := by simpa using (List.mem_filter.mp hentry).2
  simpa using hkey.symm

theorem node?_put_of_ne (t : FileTree) {other : List String} (node : FileNode) (h : other ≠ names) :
    (t.put names node).node? other = t.node? other := by
  rw [node?, node?, put, List.lookup_cons, beq_eq_false_iff_ne.mpr h, lookup_filter_of_ne h]

theorem node?_put_self (t : FileTree) (node : FileNode) (h : names ≠ []) :
    (t.put names node).node? names = some node := by
  rw [node?, put, List.lookup_cons, beq_self_eq_true, if_neg (by simpa using h)]

/-- What is no directory is not the tree's own one. -/
theorem ne_nil_of_node? (h : t.node? names ≠ some .directory) : names ≠ [] := by
  rintro rfl
  exact h rfl

/-! ## Directories -/

/-- Every directory of the first tree is one of the second. -/
def Keeps (t t' : FileTree) : Prop :=
  ∀ names, t.node? names = some .directory → t'.node? names = some .directory

theorem Keeps.trans {t'' : FileTree} (h : t.Keeps t') (h' : t'.Keeps t'') : t.Keeps t'' :=
  fun names hnames => h' names (h names hnames)

/-- Putting a node in place of anything but a directory keeps the directories. -/
theorem keeps_put (node : FileNode) (h : t.node? names ≠ some .directory) : t.Keeps (t.put names node) := by
  intro other hother
  have hne : other ≠ names := fun heq => h (heq ▸ hother)
  rw [node?_put_of_ne t node hne, hother]

/-- Removing anything but a directory keeps the directories. -/
theorem keeps_remove (h : t.node? names ≠ some .directory) : t.Keeps (t.remove names) := by
  intro other hother
  have hne : other ≠ names := fun heq => h (heq ▸ hother)
  rw [node?_remove_of_ne t hne, hother]

/-- A way leads to the same place when the directories are kept. -/
theorem Keeps.walk (hkeeps : t.Keeps t') {here way : List String} (h : t.walk here way = .ok names) :
    t'.walk here way = .ok names := by
  induction way generalizing here with
  | nil => exact h
  | cons name rest ih =>
    cases rest with
    | nil => exact h
    | cons next rest =>
      unfold FileTree.walk at h ⊢
      dsimp only at h ⊢
      split at h
      next hnode =>
        rw [hkeeps _ hnode]
        exact ih h
      · cases h
      · cases h

/-- A path leads to the same place as long as the directories are kept. -/
theorem Keeps.resolve (hkeeps : t.Keeps t') (h : t.resolve path = .ok names) :
    t'.resolve path = .ok names := by
  unfold FileTree.resolve at h ⊢
  split_ifs at h with hempty
  rw [if_neg hempty]
  exact hkeeps.walk h

/-! ## Reading -/

/-- A file that can be read is there, under a path that does not ask for a directory. -/
theorem read_eq_ok (h : t.read path = .ok text) :
    ∃ names, t.resolve path = .ok names ∧ t.node? names = some (.file text) ∧
      Path.asksForDirectory path = false := by
  obtain ⟨node, hfind, h⟩ := bind_eq_ok.mp h
  obtain ⟨names, hresolve, hfind⟩ := bind_eq_ok.mp hfind
  refine ⟨names, hresolve, ?_⟩
  split at hfind
  · cases hfind
  · cases hfind
    cases h
  next text' hnode =>
    split_ifs at hfind with hpath
    cases hfind
    cases h
    exact ⟨hnode, by simpa using hpath⟩

/-- A file that is there can be read, under a path that does not ask for a directory. -/
theorem read_of_node? (hresolve : t.resolve path = .ok names) (hnode : t.node? names = some (.file text))
    (hpath : Path.asksForDirectory path = false) : t.read path = .ok text := by
  rw [read, find, hresolve, ok_bind, hnode]
  dsimp only
  rw [hpath]
  rfl

/-- What is written is put in place of anything but a directory. -/
theorem write_eq_ok (h : t.write path text = .ok t') :
    ∃ names, t.resolve path = .ok names ∧ t.node? names ≠ some .directory ∧
      Path.asksForDirectory path = false ∧ t' = t.put names (.file text) := by
  obtain ⟨names, hresolve, h⟩ := bind_eq_ok.mp h
  refine ⟨names, hresolve, ?_⟩
  split at h
  · cases h
  next hnode =>
    split_ifs at h with hpath
    exact ⟨by simp [hnode], by simpa using hpath, (Except.ok.inj h).symm⟩
  next hnode =>
    split_ifs at h with hpath
    exact ⟨by simp [hnode], by simpa using hpath, (Except.ok.inj h).symm⟩

/-- A file that was written holds the text. -/
theorem read_of_write (h : t.write path text = .ok t') : t'.read path = .ok text := by
  obtain ⟨names, hresolve, hnode, hpath, rfl⟩ := write_eq_ok h
  exact read_of_node? ((keeps_put _ hnode).resolve hresolve)
    (node?_put_self t _ (ne_nil_of_node? hnode)) hpath

/-- A file that is renamed is put under the new name and taken away from the old one. -/
theorem rename_eq_ok {source target : String} (h : t.rename source target = .ok t') :
    ∃ origin names text, t.resolve source = .ok origin ∧ t.read source = .ok text ∧
      t.resolve target = .ok names ∧ t.node? names ≠ some .directory ∧
      Path.asksForDirectory target = false ∧ t' = (t.remove origin).put names (.file text) := by
  obtain ⟨origin, horigin, h⟩ := bind_eq_ok.mp h
  obtain ⟨text, htext, h⟩ := bind_eq_ok.mp h
  obtain ⟨names, hresolve, h⟩ := bind_eq_ok.mp h
  refine ⟨origin, names, text, horigin, htext, hresolve, ?_⟩
  split at h
  · cases h
  next hnode =>
    split_ifs at h with hpath
    exact ⟨hnode, by simpa using hpath, (Except.ok.inj h).symm⟩

/-- A file that got another path holds the text that it held. -/
theorem read_of_rename {source target : String} (h : t.rename source target = .ok t') :
    t'.read target = t.read source := by
  obtain ⟨origin, names, text, horigin, htext, hresolve, hnode, hpath, rfl⟩ := rename_eq_ok h
  obtain ⟨origin', horigin', hfile, -⟩ := read_eq_ok htext
  obtain rfl : origin = origin' := Except.ok.inj (horigin.symm.trans horigin')
  have hremove : t.Keeps (t.remove origin) := keeps_remove (by simp [hfile])
  -- without the old file there is still no directory in the place of the new one
  have hnode' : (t.remove origin).node? names ≠ some .directory := by
    by_cases heq : names = origin
    · rw [← heq, node?_remove_self t (ne_nil_of_node? hnode)]
      simp
    · rwa [node?_remove_of_ne t heq]
  rw [htext]
  exact read_of_node? ((hremove.trans (keeps_put _ hnode')).resolve hresolve)
    (node?_put_self _ _ (ne_nil_of_node? hnode)) hpath

end Signalbox.FileTree
