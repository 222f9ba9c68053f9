import Docking.Program

/-!
# The command line

Runs the program on the files of the machine. The layout goes to the standard output; the open
windows and everything that is wrong go to the standard error.
-/

namespace Docking

/-- The files of the machine. -/
def machineFiles : Files IO where
  readText path := do
    try
      return some (← IO.FS.readFile path)
    catch _ => return none
  folders path := do
    try
      let mut names := #[]
      for e in ← (← IO.FS.realPath path).readDir do
        if ← e.path.isDir then names := names.push e.fileName
      return some names.toList
    catch _ => return none

/-- What the machine says about the user's folders. -/
def machineSurroundings : IO Surroundings := do
  return ⟨← IO.getEnv "XDG_CONFIG_HOME", ← IO.getEnv "HOME"⟩

/-- Prints an outcome. -/
def Outcome.print (outcome : Outcome) : IO Unit := do
  IO.print outcome.output
  for line in outcome.notes do
    IO.eprintln line

end Docking

/-- The program. -/
def main (arguments : List String) : IO UInt32 := do
  let surroundings ← Docking.machineSurroundings
  let outcome ← Docking.Program.run Docking.machineFiles surroundings arguments
  outcome.print
  return outcome.code.toUInt32
