import BindingStubs.Stub.Whole

set_option autoImplicit false

/-!
# The command

Standard input names the files of the source tree, one per line, as paths below the directory `src`.
-/

namespace BindingStubs.Command

def targetDirectory : String := "freecad_stubs"

partial def readLines (stream : IO.FS.Stream) : IO (List String) := do
  let line ← stream.getLine
  if line.isEmpty then return []
  return Text.trimEnd line :: (← readLines stream)

def readTree (names : List String) : IO SourceTree := do
  let files ← names.mapM fun name => do
    let path := SourceTree.root.join name
    let octets ← IO.FS.readBinFile path.text
    return (path, octets.toList)
  return { files }

def writeFiles (fs : StubFiles) : IO Unit := do
  try IO.FS.removeDirAll targetDirectory catch _ => pure ()
  for (path, text) in fs.files do
    let directory := Text.join "/" (targetDirectory :: path.dropLast)
    IO.FS.createDirAll directory
    IO.FS.writeFile (directory ++ "/" ++ path.getLastD "") text

def describe (f : Fault) : String := (f.message?).getD "the sources cannot be processed"

/-- Writes the stubs of a tree; a fault is reported by the exit code and on standard error. -/
def generate (tree : SourceTree) : IO UInt32 := do
  let stderr ← IO.getStderr
  match Project.load tree with
  | .error f =>
    stderr.putStrLn (describe f)
    return 1
  | .ok project =>
    let g := Generation.ofProject project
    stderr.putStr (LogRecord.printed LogLevel.info.rank g.log)
    match g.fault with
    | some f =>
      stderr.putStrLn (describe f)
      return 1
    | none =>
      writeFiles g.files
      return 0

end BindingStubs.Command

open BindingStubs.Command in
def main : IO UInt32 := do
  let names ← readLines (← IO.getStdin)
  generate (← readTree (names.filter fun name => !name.isEmpty))
