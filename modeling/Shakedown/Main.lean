import Shakedown.CommandLine.Run
import Shakedown.Machine.System

/-!
# The program

Takes the working directory with all that is below it and a few variables of the environment, and
answers the command line on the machine that they make up. The stages run there: nothing is changed
outside of it. A file counts as one that may be run if its first line names an interpreter.
-/

set_option autoImplicit false

namespace Shakedown

/-- The variables of the environment that the machine knows. -/
def knownVariables : List String :=
  ["PATH", "HOME", "CC", "CCGAUNTLET_PLAN", "CCGAUNTLET_REFERENCE_CC", "NO_COLOR",
    "CLICOLOR_FORCE"]

/-- The known variables that are set. -/
def readEnvironment : IO Environment :=
  knownVariables.filterMapM fun name => do
    return (← IO.getEnv name).map fun value => (Utf8.bytes name, Utf8.bytes value)

/-- A file with some contents. -/
def fileOf (bytes : Bytes) : File :=
  { mode := if (interpreter? bytes).isSome then 0o755 else 0o644, content := .data bytes }

/-- Adds directory entries and all that is below them to a file tree. -/
partial def addEntries (l : Location) (t : FileTree) (entries : Array IO.FS.DirEntry) :
    IO FileTree :=
  entries.foldlM
    (fun t entry => do
      let place := l ++ [Utf8.bytes entry.fileName]
      if ← entry.path.isDir then
        addEntries place (t.put place FileTree.plainDirectory) (← entry.path.readDir)
      else
        let bytes ← IO.FS.readBinFile entry.path
        return t.putFile place (fileOf bytes.data.toList))
    t

/-- The location of a working directory that was removed. -/
def goneDirectory : Location := [[]]

/-- The machine that the program finds itself on. -/
def readMachine : IO Machine := do
  let env ← readEnvironment
  try
    let directory ← IO.currentDir
    let here := Machine.location directory.toString
    let tree ← addEntries here (Machine.usualSystem.putDirectories here) (← directory.readDir)
    return { tree, cwd := here, env }
  catch _ =>
    return { tree := Machine.usualSystem, cwd := goneDirectory, env }

end Shakedown

open Shakedown in
/-- Answers the command line. -/
def main (args : List String) : IO UInt32 := do
  let t := CommandLine.respond (← readMachine) (args.map Utf8.bytes)
  (← IO.getStdout).write ⟨t.output.toArray⟩
  (← IO.getStderr).write ⟨t.errors.toArray⟩
  return t.status.toUInt32
