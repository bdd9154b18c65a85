import Dashboard.Command.Program

/-!
# The command line

Reads what a run needs, and prints how it ended.
-/

namespace Dashboard.Program

def readFile (path : String) : IO (Except ReadError String) := do
  try
    let bytes ← IO.FS.readBinFile path
    match String.fromUTF8? bytes with
    | some text => return .ok text
    | none => return .error .notText
  catch
    | .noFileOrDirectory .. => return .error .notFound
    | .inappropriateType .. => return .error .notDirectory
    | _ => return .error .isDirectory

def readFiles (paths : List String) : IO (List (String × Except ReadError String)) :=
  paths.mapM fun path => return (path, ← readFile path)

def readEnvironment : IO (List (String × String)) := do
  let block ← IO.FS.readBinFile "/proc/self/environ"
  let entries := ((String.fromUTF8? block).getD "").splitOn "\x00"
  return entries.filterMap fun e =>
    (Text.cut? '=' e.toList).map fun (name, value) =>
      (String.ofList name, String.ofList value)

end Dashboard.Program

open Dashboard in
def main (arguments : List String) : IO UInt32 := do
  let environment ← Program.readEnvironment
  let home := (← IO.getEnv "HOME").getD ""
  let first : Surroundings := ⟨.ofContents [], environment, home⟩
  let documents ← Program.readFiles (Program.firstPaths arguments first)
  let second : Surroundings := ⟨.ofContents documents, environment, home⟩
  let manifests ← Program.readFiles (Program.manifestPaths arguments second)
  let ended := Program.run arguments ⟨.ofContents (documents ++ manifests), environment, home⟩
  IO.print ended.output
  match ended with
  | .diagnostics errors => errors.forM fun e => IO.eprintln e.message
  | .failed e => IO.eprintln ("error: " ++ e.message)
  | .usage => IO.eprintln "error: unexpected arguments"
  | _ => pure ()
  return ended.code.toUInt32
