import CodeScribe.Command.Run

/-! The program: the file system of the machine, and the command line. -/
namespace CodeScribe

private def succeeds (action : IO Unit) : IO Bool := do
  try
    action
    return true
  catch _ => return false

private def result? {α : Type} (action : IO α) : IO (Option α) := do
  try return some (← action) catch _ => return none

instance : FileSystem IO where
  readText? path := result? (IO.FS.readFile path)
  fileNames? folder := result? do
    let entries ← (← IO.FS.realPath folder).readDir
    let files ← entries.filterM fun entry => return (← entry.path.metadata).type == .file
    return (files.map (·.fileName)).toList
  isPresent path := return (← result? (IO.FS.realPath path)).isSome
  makeFolders folder :=
    if folder.isEmpty then return true else succeeds (IO.FS.createDirAll folder)
  writeText path text := succeeds (IO.FS.writeFile path text)

end CodeScribe

open CodeScribe in
def main (arguments : List String) : IO UInt32 := do
  let outcome ← Command.runLine (m := IO) arguments
  IO.print outcome.printed
  IO.eprint outcome.complaint
  return outcome.exitCode.toUInt32
