import ProblemMatcher.CommandLine

/-!
# The program

Collects the files that a command is about and those that may hold its settings, runs it and writes
what it leaves behind.
-/

open ProblemMatcher

/-- The names that lead to a path from the root. -/
def absoluteNames (directory : List String) (p : Path) : List String :=
  ((if p.isAbsolute then [] else directory) ++ p.names).foldl
    (fun place name => if name = ".." then place.dropLast else place ++ [name]) []

/-- What is at a path of the file system, if anything. -/
def contentAt (path : String) : IO (Option Content) := do
  try
    let bytes ← IO.FS.readBinFile path
    return some (.file bytes.toList)
  catch
    | .noFileOrDirectory .. => return none
    | .inappropriateType _ code _ => return if code = 21 then some .directory else none
    | _ => return none

/-- The files at some paths and what lies on the way to them. -/
def gather (directory : List String) (paths : List Path) : IO FileTree := do
  let all := paths.flatMap fun p => p :: p.parents
  let entries ← all.filterMapM fun p => do
    return (← contentAt p.toString).map (absoluteNames directory p, ·)
  return { entries, workingDirectory := directory }

/-- Where the settings that count for a directory may be. -/
def settingsFiles (directory : Path) : List Path :=
  (directory :: directory.parents).map (·.join Settings.fileName)

/-- A code of 32 hexadecimal digits. -/
def madeUpCode : IO String := do
  let digits ← (List.range 32).mapM fun _ => do
    return Text.hexDigit (← IO.rand 0 15)
  return "regexpreview-" ++ String.ofList digits

def usage : String :=
  "usage: check CONFIG SAMPLE [--matcher NAME]...\n" ++
    "usage: preview PATTERN SAMPLE [--flags LETTERS] [--no-inject]"

def main (arguments : List String) : IO UInt32 := do
  match Command.parse arguments with
  | none =>
    IO.eprintln usage
    return 2
  | some command =>
    let directory := Path.ofString (← IO.currentDir).toString
    let tree ← gather directory.names (settingsFiles directory ++ command.paths)
    let seed ← madeUpCode
    let codes (i : Nat) : String :=
      String.ofList ((seed.toList.take 29) ++ Text.hexDigits 16 i)
    match command.run tree codes with
    | .ok result =>
      IO.print result.output
      IO.eprint result.errors
      return UInt32.ofNat result.exitCode
    | .error why =>
      IO.eprintln why.message
      return 1
