import Signalbox.CommandLine.Commands
import Signalbox.Files.Tree

/-!
# Benches

A `Bench` holds everything that a command works on as a value: the files, what was written to the streams, and
how many numbers were drawn. `Bench.station` is the station of a state that is a bench. No time passes
there, and nothing interrupts a run.
-/

namespace Signalbox.CommandLine

/-- What a command works on. -/
structure Bench where
  tree : FileTree
  out : String
  err : String
  /-- How many numbers were drawn. -/
  draws : Nat
  deriving DecidableEq, Repr, Inhabited

namespace Bench

/-- A bench with files on which nothing has been done. -/
def ofTree (tree : FileTree) : Bench :=
  ⟨tree, "", "", 0⟩

/-- Does something with the files. -/
def onTree (action : StateM FileTree α) : StateM Bench α := fun b =>
  let (a, tree) := action b.tree
  (a, { b with tree })

/-- The files as a disk. -/
def disk : Disk (StateM Bench) where
  exists? path := onTree (FileTree.disk.exists? path)
  read path := onTree (FileTree.disk.read path)
  write path text := onTree (FileTree.disk.write path text)
  rename source target := onTree (FileTree.disk.rename source target)
  createDirectories path := onTree (FileTree.disk.createDirectories path)

/-- The streams. -/
def console : Console (StateM Bench) where
  out s := fun b => ((), { b with out := b.out ++ s })
  err s := fun b => ((), { b with err := b.err ++ s })

/-- A bench as a station, where the numbers that are drawn are the ones given. -/
def station (place : ConfigPlace) (numbers : Nat → Nat) (patience : Nat) :
    Station (StateM Bench) where
  disk := disk
  console := console
  place := place
  draw := fun b => (numbers b.draws, { b with draws := b.draws + 1 })
  sleep _ := return ()
  isRunning := return true
  patience := patience

end Bench

end Signalbox.CommandLine
