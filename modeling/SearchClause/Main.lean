import SearchClause.Command.Run

/-!
# The command line program

The outer layer: it takes the words and the environment, looks up the configuration files that can
matter, runs the command on them as a value, and carries out what came of it.
-/

namespace SearchClause

/-- The place of an absolute path. -/
def placeOf (path : Text) : Place :=
  (Path.components path).2

/-- The disk with what a path leads to, as far as it can be read. -/
def lookAt (disk : Disk) (path : String) : IO Disk := do
  let place := placeOf path.toList
  try
    let bytes ← IO.FS.readBinFile path
    return disk.addFile place (Content.ofBytes bytes)
  catch _ => return disk

/-- The machine as far as configuration goes. The account is not asked for its home directory. -/
def machine : IO Machine := do
  let working := toString (← IO.currentDir)
  let home ← IO.getEnv "HOME"
  let start : Machine := {
    disk := Disk.empty.makeDirectory (placeOf working.toList)
    working := placeOf working.toList
    home := home.map String.toList
    accountHome := none }
  let files := start.globalFile.toList ++ Machine.candidates working.toList
  let disk ← files.foldlM (fun disk path => lookAt disk (String.ofList path)) start.disk
  let homes := start.homeDirectory.toList.map placeOf
  return { start with disk := homes.foldl Disk.makeDirectory disk }

end SearchClause

open SearchClause in
/-- Runs a command line. -/
def main (args : List String) : IO UInt32 := do
  let m ← machine
  let filter ← IO.getEnv "RUST_LOG"
  let (outcome, logging) := Run.words m (filter.map String.toList) (args.map String.toList)
  for (place, content) in outcome.disk.changesSince m.disk do
    match content with
    | .text t => IO.FS.writeFile (String.ofList place.path) (String.ofList t)
    | .bytes _ => pure ()
  IO.eprint (String.ofList (stderrOf logging outcome.said))
  IO.print (String.ofList (stdoutOf outcome.said))
  return outcome.code.toUInt32
