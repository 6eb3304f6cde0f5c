import EffectLang.CommandLine.Run

/-! The command line on a real terminal: reads the manifests that a command may ask for, and prints
what the command writes. -/
namespace EffectLang.CommandLine

/-- The file at a path, if it can be read. -/
def readFile? (path : Text) : IO (Option (Text × Text)) := do
  match ← (IO.FS.readFile (String.ofList path)).toBaseIO with
  | .ok source => return some (path, source.toList)
  | .error _ => return none

/-- Where the program stands, as far as the arguments make it matter. -/
def surroundings (arguments : List Text) : IO Surroundings := do
  let directory ← IO.currentDir
  let found ← (manifestPaths arguments).mapM readFile?
  return ⟨directory.toString.toList, found.filterMap id, ← (← IO.getStdout).isTty⟩

/-- Prints what a command wrote; a failure is named and misuse explained on the error channel. -/
def report (outcome : Outcome) : IO UInt32 := do
  IO.print (String.ofList outcome.output)
  if outcome = .usage then IO.eprintln usageText
  outcome.failure.forM IO.eprintln
  return outcome.exit.toUInt32

end EffectLang.CommandLine

def main (arguments : List String) : IO UInt32 := do
  let arguments := arguments.map String.toList
  let around ← EffectLang.CommandLine.surroundings arguments
  EffectLang.CommandLine.report (EffectLang.CommandLine.run around arguments)
