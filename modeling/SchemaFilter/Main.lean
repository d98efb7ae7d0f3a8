import SchemaFilter.Command.Failure
import SchemaFilter.Command.Run

/-!
# The program

Fetches the files that a command may read, runs the command on them, and writes what the command
printed and the configuration that it left. All decisions are made by `Invocation.read` and
`Command.run`.
-/

namespace SchemaFilter.Main

def usage : String :=
  "Usage: sv [OPTIONS] [validate|compile|query|eval|schema|config|completions|help]\n"

def environment : IO Environment := do
  return {
    config := ← IO.getEnv "SV_CONFIG"
    configHome := ← IO.getEnv "XDG_CONFIG_HOME"
    home := ← IO.getEnv "HOME"
    schema := ← IO.getEnv "SV_SCHEMA"
    records := ← IO.getEnv "SV_RECORDS" }

/-- Adds what lies at a path to a disk. What is there but cannot be read counts as a folder. -/
def fetch (d : Disk) (path : String) : IO Disk := do
  try
    return d.add path (← IO.FS.readFile path)
  catch
    | .noFileOrDirectory .. => return d
    | _ => return d.addFolder path

def store (before after : Disk) (path : String) : IO Unit :=
  match after.read path with
  | .ok text => do
    if (before.read path).toOption != some text then
      if Disk.folderPath path != "" then
        IO.FS.createDirAll (Disk.folderPath path)
      IO.FS.writeFile path text
  | .error _ => return

/-- Prints why a command fails, and answers with the exit status. -/
def fail (i : Invocation) (e : CommandError) : IO UInt32 := do
  if i.json then IO.eprintln (e.layout.render true)
  else IO.eprint (e.text (!i.noColor))
  return e.exitStatus.toUInt32

/-- Runs a command on the files of the system. -/
def run (e : Environment) (i : Invocation) : IO UInt32 := do
  match e.configPath with
  | .error error => fail i (.config error)
  | .ok path =>
    let disk ← fetch (Disk.ofFiles []) path
    let c := ((Command.loadConfig e disk).toOption).getD {}
    let disk ← (i.paths c).foldlM fetch disk
    let o := Command.run e i disk
    IO.eprint o.progress
    match o.result with
    | .error error => fail i error
    | .ok text =>
      try
        store disk o.disk path
        IO.print text
        return 0
      catch _ => fail i (.config .notWritten)

end SchemaFilter.Main

def main (arguments : List String) : IO UInt32 := do
  let e ← SchemaFilter.Main.environment
  match SchemaFilter.Invocation.read e.options arguments with
  | .ok i => SchemaFilter.Main.run e i
  | .error .shown =>
    IO.print SchemaFilter.Main.usage
    return 0
  | .error .rejected =>
    IO.eprint SchemaFilter.Main.usage
    return 2
