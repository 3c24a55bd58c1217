import Signalbox.CommandLine.Commands
import Signalbox.CommandLine.Help

/-!
# The program

Carries out the command line on the disk and the streams of the system.
-/

namespace Signalbox

open CommandLine

/-- What an error of the system says about a file. -/
def diskErrorOf (e : IO.Error) : DiskError :=
  match e with
  | .noFileOrDirectory .. => .notFound
  | .alreadyExists .. => .alreadyExists
  | .inappropriateType _ code _ => if code = 20 then .notDirectory else .isDirectory
  | e => .other (toString e)

/-- Does something with a file. -/
def onDisk (action : IO α) : IO (Except DiskError α) := do
  try return .ok (← action)
  catch e => return .error (diskErrorOf e)

/-- The disk of the system. -/
def systemDisk : Disk IO where
  exists? path := do
    match ← onDisk (IO.FS.Handle.mk path .read) with
    | .ok _ => return true
    | .error _ => return false
  read path := onDisk (IO.FS.readFile path)
  write path text := onDisk (IO.FS.writeFile path text)
  rename source target := onDisk (IO.FS.rename source target)
  createDirectories path := do
    if path.isEmpty then return .ok () else onDisk (IO.FS.createDirAll path)

/-- The streams of the system. -/
def systemConsole : Console IO where
  out s := do
    IO.print s
    (← IO.getStdout).flush
  err s := IO.eprint s

/-- The longest sleep in milliseconds that the system takes at a time. -/
def longestSleep : Nat := UInt32.size - 1

/-- Sleeps at least as many nanoseconds. -/
def sleepNanoseconds (length : Nat) : IO Unit := do
  let milliseconds := (length + 999999) / 1000000
  for _ in [0 : milliseconds / longestSleep] do
    IO.sleep longestSleep.toUInt32
  IO.sleep (milliseconds % longestSleep).toUInt32

/-- The system as a place where commands are carried out. -/
def systemStation (place : ConfigPlace) : Station IO where
  disk := systemDisk
  console := systemConsole
  place := place
  draw := IO.rand 0 (idSpace - 1)
  sleep := sleepNanoseconds
  isRunning := return true
  patience := 0x4000000000000000

end Signalbox

open Signalbox CommandLine in
/-- Carries out the command line. -/
def main (args : List String) : IO UInt32 := do
  match Invocation.read args with
  | .error usage =>
    if usage.code = 0 then IO.println usage.message else IO.eprintln usage.message
    return usage.code.toUInt32
  | .ok inv =>
    let place : ConfigPlace := ⟨← IO.getEnv "RAILBLOCKS_CONFIG", ← IO.getEnv "HOME"⟩
    let code ← (systemStation place).perform inv
    return (code % 256).toNat.toUInt32
