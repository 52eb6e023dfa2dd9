import FoxScript.CommandLine.Run

/-!
# The program

Reads the console and the files that a run can ask for, runs the command line and prints its
report. A run can ask for the script and for every path that stands as a text in a file or line
that is read.
-/
namespace FoxScript

/-- The texts that stand in a program. -/
def mentioned (source : String) : List String :=
  (Lexer.tokens (Lexer.scan source)).filterMap fun t =>
    match t.literal with
    | some (.text s) => some s
    | _ => none

/-- The bytes of the file at a path, if it can be read. -/
def readFile? (path : String) : IO (Option (List UInt8)) :=
  try return some (← IO.FS.readBinFile path).toList catch _ => return none

/-- Adds the files at some paths, and the files that stand as texts in them, to a file system. At
most so many files are read. -/
def gather (fs : FileSystem) : Nat → List Path → IO FileSystem
  | 0, _ | _, [] => return fs
  | n + 1, path :: rest => do
    if fs.isFile path then gather fs n rest
    else
      match ← readFile? path.toString with
      | none => gather fs n rest
      | some bytes =>
        let source := String.ofList (Text.Utf8.decodeLossy bytes)
        let found := (mentioned source).map fun s => path.parent.join (.ofString s)
        gather (fs.add path bytes) n (rest ++ found)

end FoxScript

open FoxScript in
/-- Runs the command line. -/
def main (args : List String) : IO UInt32 := do
  let bytes := (← (← IO.getStdin).readBinToEnd).toList
  let now := Float.ofNat (← IO.monoMsNow) / 1000
  let wanted := match (Options.ofArgs args).script with
    | some script => [Path.ofString script]
    | none =>
      (mentioned (String.ofList (Text.Utf8.decodeLossy bytes))).map fun s =>
        Path.current.join (.ofString s)
  let directory := Path.ofString (← IO.currentDir).toString
  let files ← gather (.within directory) 10000 wanted
  let report := CommandLine.run args files (.ofBytes bytes) now
  IO.print report.output
  IO.eprint report.errors
  return report.code.toUInt32
