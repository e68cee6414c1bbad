import FacetSearch.CommandLine.Outcome

/-! The program: a command line, run on the files that are there. -/
namespace FacetSearch.CommandLine

/-- What stands at a path. -/
def found? (path : String) : IO (Option Entry) := do
  try return some (.file (← IO.FS.readFile path))
  catch
    | .noFileOrDirectory .. => return none
    | _ => return some .directory

/-- The part of the disk that a command line may read or write: one file and the way to it. -/
def snapshot (path : String) : IO Disk := do
  let home := (Path.names (← IO.currentDir).toString).filter (· ≠ "")
  let names := Path.names path
  let mut d : Disk := { home }
  for count in List.range names.length do
    let text := "/".intercalate (names.take (count + 1))
    match d.resolve text with
    | .ok p =>
      match ← found? text with
      | some e => d := d.put p e
      | none => pure ()
    | .error _ => pure ()
  return d

/-- Makes the directories and writes the files that a run has left. -/
def keep (before after : Disk) : IO Unit := do
  for (p, e) in after.entries.reverse do
    if before.lookup p ≠ some e then
      let path := "/" ++ "/".intercalate p
      match e with
      | .file text => IO.FS.writeFile path text
      | .directory => IO.FS.createDirAll path

/-- Tells what came of a command line. -/
def report : Outcome → IO Unit
  | .printed text => IO.print text
  | .failed message => IO.eprintln ("Error: " ++ message)
  | .misused => IO.eprint usage
  | .serving _ address => IO.eprintln ("Error: cannot listen on " ++ address)

end FacetSearch.CommandLine

open FacetSearch FacetSearch.CommandLine in
def main (args : List String) : IO UInt32 := do
  match Reading.ofArgs? args with
  | some (.invocation i) =>
    let path := Config.fileIn i.directory
    let before ← snapshot path
    let (after, outcome) := run args before
    keep before after
    report outcome
    return outcome.exitCode
  | _ =>
    let (_, outcome) := run args {}
    report outcome
    return outcome.exitCode
