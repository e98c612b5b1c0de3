import Affordance.Command.Inspect
import Affordance.Command.Instrument

/-!
# The program

  * `main`: the files that a command may look at are read, the command is run, and the files
    that it leaves are written.
-/

namespace Affordance

open Affordance.Text

/-! ## 1. What a command looks at -/

/-- The variables that commands look at. -/
def variableNames : List String := [
  "AFC_ENV_FILE", "AFC_LLM_MODEL", "AFC_LLM_API_KEY", "AFC_LLM_BASE_URL", "AFC_LLM_MAX_RETRIES",
  "AFC_LLM_RETRY_BASE_SEC", "AFC_LLM_REQUEST_TIMEOUT", "OPENAI_API_KEY",
  Environment.disablingVariable]

/-- The files that a command may look at: those that its arguments name, the settings in
    the directories above them, the file of variables and the cache. -/
def placesToRead (home : String) (env : Environment) (args : List String) : List String :=
  let named := args.map fun a => Path.absolute home ((splitValue a).2.getD a)
  let directories := (home :: named.map Path.parent).flatMap ConfigFile.ancestors
  let settings := directories.flatMap fun d =>
    (ConfigFile.packageName :: ConfigFile.ownNames).map (Path.join d)
  let own := [Path.absolute home env.filePath] ++ (homeCache { home }).path.toList
  (named ++ settings ++ own).eraseDups

/-- A disk with a file and the directories above it. -/
def Disk.withPlace (d : Disk) (path : String) (bs : List UInt8) : Disk :=
  { d.putFile path bs with
    directories := (d.directories ++ ConfigFile.ancestors (Path.parent path)).eraseDups }

/-- The files of one disk that another one lacks or has otherwise. -/
def changedFiles (before after : Disk) : List (String × List UInt8) :=
  after.files.filter fun (path, bs) => before.files.lookup path ≠ some bs

/-- A browser that does not start. -/
def noBrowser : Browser where
  payload := .null
  fault := fun _ => some (.error "no browser is available")

/-- The command that arguments name, and the arguments that are left for it. -/
def commandOf : List String → Command × List String
  | "parse_file" :: args => (analyzeCommand, args)
  | "probe" :: args => (probeCommand, args)
  | args => (instrumentCommand, args)

/-! ## 2. Reading and writing -/

/-- A disk with a file as it is found, if it is found. -/
def readPlace (d : Disk) (path : String) : IO Disk := do
  try
    let bs ← IO.FS.readBinFile path
    return d.withPlace path bs.toList
  catch _ => return d

/-- The variables that are set. -/
def readVariables : IO Environment := do
  let mut env : Environment := []
  for name in variableNames do
    if let some value ← IO.getEnv name then
      env := env ++ [(name, value)]
  return env

/-- What a command finds. -/
def readSurroundings (args : List String) : IO Surroundings := do
  let env ← readVariables
  let home := (← IO.getEnv "PWD").getD "/"
  let start : Disk := { home, directories := ConfigFile.ancestors home }
  let disk ← (placesToRead home env args).foldlM readPlace start
  return { disk, environment := env, browser := noBrowser, time := ← IO.monoMsNow }

/-- The files that a command leaves. -/
def writeFiles (before after : Disk) : IO Unit := do
  for (path, bs) in changedFiles before after do
    IO.FS.createDirAll (Path.parent path)
    IO.FS.writeBinFile path ⟨bs.toArray⟩

/-- A command run on the files that there are. -/
def runProgram (args : List String) : IO UInt32 := do
  let (command, args) := commandOf args
  let surroundings ← readSurroundings args
  let out := command.run surroundings args
  IO.print out.output
  writeFiles surroundings.disk out.disk
  match out.exit with
  | .code n => return n.toUInt32
  | .crash c =>
    IO.eprintln c.message
    return 1

end Affordance

/-- The program. -/
def main (args : List String) : IO UInt32 := Affordance.runProgram args
