import SiteBuilder.CommandLine.Lookup
import SiteBuilder.CommandLine.Run
import SiteBuilder.CommandLine.Usage
import SiteBuilder.Disk.Change

/-!
# The program

A run takes the part of the disk that its command looks at, runs the command on it, and does to the disk
what the command has changed. Lines of the log go to standard error. The program has no way to the network,
so every request fails.
-/

namespace SiteBuilder.Program

open CommandLine

/-- The names in a folder of the real disk, if there is one at a path. -/
def namesIn? (path : String) : IO (Option (List String)) := do
  match ← (do (← IO.FS.realPath path).readDir).toBaseIO with
  | .ok entries => return some (entries.toList.map (·.fileName))
  | .error _ => return none

/-- The file at a path of the real disk, if there is one. -/
def file? (path : String) : IO (Option Node) := do
  match ← (IO.FS.readBinFile path).toBaseIO with
  | .ok bytes => return some (.file bytes.toList)
  | .error _ => return none

/-- What is at a path of the real disk, with some levels of folders below it. Folders whose names start
with a dot are not looked into. -/
def nodeAt : (depth : Nat) → (path : String) → IO (Option Node)
  | 0, path => do
    match ← namesIn? path with
    | some _ => return some (.folder [])
    | none => file? path
  | depth + 1, path => do
    match ← namesIn? path with
    | none => file? path
    | some names =>
      let entries ← names.filterMapM fun name => do
        let inner := path ++ "/" ++ name
        let node ← if name.toList.head? = some '.' then nodeAt 0 inner else nodeAt depth inner
        return node.map (name, ·)
      return some (.folder entries)

/-- The disk with what is at a path of the real disk and the folders on the way to it. -/
def look (disk : Disk) (lookup : Lookup) : IO Disk := do
  let location := disk.locationOf lookup.path
  let onTheWay := ((List.range location.length).map location.take).reverse
  match ← nodeAt lookup.depth (Disk.pathOf location) with
  | some node => return disk.graft location node
  | none => do
    for folder in onTheWay do
      if let some node ← nodeAt 0 (Disk.pathOf folder) then return disk.graft folder node
    return disk

/-- The part of the real disk that an invocation looks at. -/
def lookAround (invocation : Invocation) : IO Disk := do
  let working := (Path.parts (← IO.currentDir).toString).filterMap fun
    | .name s => some s
    | _ => none
  let start : Disk := ⟨.folder [], working⟩
  let start := start.graft working (.folder [])
  let disk ← invocation.settings.toList.foldlM (fun disk path => look disk ⟨path, 0⟩) start
  let settings := (invocation.settings.bind (Settings.load? disk)).getD {}
  (invocation.command.lookups settings).foldlM look disk

/-- Make a change to the real disk. -/
def change : DiskChange → IO Unit
  | .makeFolder path => IO.FS.createDirAll path
  | .write path bytes => IO.FS.writeBinFile path ⟨bytes.toArray⟩
  | .remove path => IO.FS.removeFile path

/-- The variables of the environment that settings name. -/
def environmentFor (settings : Settings) : IO (NameMap String) := do
  let name := settings.github.tokenVariable
  return ((← IO.getEnv name).map (.singleton name)).getD ∅

/-- A text of 32 hexadecimal digits that nobody can guess. -/
def newNonce : IO String := do
  let bytes ← IO.getRandomBytes 16
  let digits := bytes.toList.flatMap fun b => [Json.hexChar (b.toNat / 16), Json.hexChar (b.toNat % 16)]
  return .ofList digits

/-- The machine the program runs on. -/
def machineFor (settings : Settings) : IO (Machine IO) := do
  return ⟨← environmentFor settings, fun _ => return .error "there is no way to the network", ← newNonce⟩

/-- How a line of the log starts. -/
def tag : Severity → String
  | .error => "[ERROR sitestudio] "
  | .warning => "[WARN  sitestudio] "
  | .info => "[INFO  sitestudio] "

/-- Run an invocation and tell what it comes to. -/
def runInvocation (invocation : Invocation) (arguments : List String) : IO UInt32 := do
  let disk ← lookAround invocation
  let settings := (invocation.settings.bind (Settings.load? disk)).getD {}
  let outcome ← CommandLine.run (← machineFor settings) disk arguments
  (disk.changes outcome.disk).forM change
  outcome.logged.forM fun line => IO.eprintln (tag line.1 ++ line.2)
  outcome.printed.forM fun line => IO.println line
  outcome.error.forM fun cause => IO.eprintln ("Error: " ++ cause.message)
  return .ofNat outcome.status

/-- Run the program. -/
def run (arguments : List String) : IO UInt32 := do
  match parse arguments with
  | .error .help => do
    IO.println usage
    return 0
  | .error .usage => do
    IO.eprintln usage
    return 2
  | .ok invocation =>
    match ← (runInvocation invocation arguments).toBaseIO with
    | .ok status => return status
    | .error cause => do
      IO.eprintln ("Error: " ++ toString cause)
      return 1

end SiteBuilder.Program

/-- Run the program with the arguments of the command line. -/
def main (arguments : List String) : IO UInt32 := SiteBuilder.Program.run arguments
