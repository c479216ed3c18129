import OrcRows.Command.Run

/-!
# The program

Reads the words of the command line, the environment and the file that the command looks at, runs
the command and prints its conclusion. No table library is linked, so a file can be inspected but
its tables are refused.
-/

namespace OrcRows.Main

/-- The variables of the environment that are set. -/
def environment : IO (List (String × String)) := do
  let found ← StoreAccess.variableNames.mapM fun name => do
    return (← IO.getEnv name).map (name, ·)
  return found.filterMap id

/-- The contents of a file, if it can be read. -/
def contents? (path : String) : IO (Option (List UInt8)) := do
  try
    return some (← IO.FS.readBinFile path).toList
  catch _ =>
    return none

/-- Storage with the file that a path leads to. -/
def storageOf (directory : String) (environment : List (String × String)) (path : String) :
    IO Storage := do
  match Handle.ofUri environment path >>= FileSystem.ofHandle directory with
  | .ok (.disk place) => return .ofFile directory place (← contents? place)
  | _ => return ⟨directory, []⟩

/-- Prints a conclusion and gives its exit code. -/
def present (conclusion : Conclusion) : IO UInt32 := do
  IO.print conclusion.text
  for listing in conclusion.listings do
    for line in listing.lines do
      IO.println line
  IO.eprint conclusion.complaint
  return UInt32.ofNat conclusion.exitCode

/-- Runs a command line. -/
def run (words : List String) : IO UInt32 := do
  let directory := (← IO.currentDir).toString
  let environment ← environment
  let path := ((Command.ofWords? words).bind Command.path?).getD ""
  let storage ← storageOf directory environment path
  let workplace : Workplace := ⟨.start storage (.table .malformed), environment, .standard⟩
  present (Command.runWords workplace words)

end OrcRows.Main

/-- Runs the program. -/
def main (words : List String) : IO UInt32 := OrcRows.Main.run words
