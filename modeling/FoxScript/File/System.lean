import FoxScript.Diagnostic
import FoxScript.File.Path
import FoxScript.Text.Utf8

/-!
# File systems

A file system is a finite set of files, each at a list of names from the root, and a working
directory. The directories are the places above the files and the working directory. There are no
links.
-/
namespace FoxScript

/-- The place of a file or directory: the names that lead to it from the root. -/
abbrev Place := List (List Char)

/-- A finite set of files, and the directory from which paths that are not absolute are seen. -/
structure FileSystem where
  /-- The place of the working directory. -/
  workingDirectory : Place
  /-- The files with their bytes. -/
  files : List (Place × List UInt8)
  deriving Repr

namespace FileSystem

/-- The place to which the parts of a path lead from another place, whatever is there. -/
def follow (place : Place) (parts : List (List Char)) : Place :=
  parts.foldl (fun place part =>
    if Path.isIdle part then place
    else if part == ['.', '.'] then place.dropLast
    else place ++ [part]) place

/-- The system without files, seen from a directory whose path is absolute. -/
def within (directory : Path) : FileSystem := ⟨follow [] (Path.splitSlashes directory.chars), []⟩

/-- The system without files. -/
def empty : FileSystem := within (.ofString "/work")

/-- Where the parts of a path lead from: the root or the working directory. -/
def origin (fs : FileSystem) (path : Path) : Place :=
  if path.isAbsolute then [] else fs.workingDirectory

/-- Adds a file at a path. -/
def add (fs : FileSystem) (path : Path) (bytes : List UInt8) : FileSystem :=
  { fs with
    files := fs.files ++ [(follow (fs.origin path) (Path.splitSlashes path.chars), bytes)] }

/-- The bytes of the file at a place. -/
def file? (fs : FileSystem) (place : Place) : Option (List UInt8) := fs.files.lookup place

/-- Whether there is a directory at a place. -/
def isDirectory (fs : FileSystem) (place : Place) : Bool :=
  place.isPrefixOf fs.workingDirectory ||
    fs.files.any fun (p, _) => place.isPrefixOf p && place.length < p.length

/-- There is nothing at a path. -/
def notFound : IoFault := ⟨.notFound, "No such file or directory (os error 2)"⟩

/-- A file stands where a directory has to stand. -/
def notADirectory : IoFault := ⟨.notADirectory, "Not a directory (os error 20)"⟩

/-- A directory stands where a file has to stand. -/
def isADirectory : IoFault := ⟨.isADirectory, "Is a directory (os error 21)"⟩

/-- A name or a path is too long. -/
def nameTooLong : IoFault := ⟨.invalidFilename, "File name too long (os error 36)"⟩

/-- A path with a null character. -/
def nullInName : IoFault := ⟨.invalidInput, "file name contained an unexpected NUL byte"⟩

/-- The number of bytes that a text takes. -/
def byteLength (cs : List Char) : Nat := cs.foldl (fun n c => n + c.utf8Size) 0

/-- Follows the parts of a path from a place on. Each step starts from a directory; an idle part
stays there and two dots go one level up. -/
def walk (fs : FileSystem) (place : Place) : List (List Char) → Except IoFault Place
  | [] => .ok place
  | part :: parts =>
    if !fs.isDirectory place then .error notADirectory
    else if Path.isIdle part then fs.walk place parts
    else if part == ['.', '.'] then fs.walk place.dropLast parts
    else if byteLength part > 255 then .error nameTooLong
    else
      let next := place ++ [part]
      if fs.isDirectory next || (fs.file? next).isSome then fs.walk next parts
      else .error notFound

/-- The place to which a path leads. -/
def locate (fs : FileSystem) (path : Path) : Except IoFault Place :=
  if path.chars.contains '\x00' then .error nullInName
  else if path.chars.isEmpty then .error notFound
  else if byteLength path.chars > 4095 then .error nameTooLong
  else fs.walk (fs.origin path) (Path.splitSlashes path.chars)

/-- Whether a path leads to a file. -/
def isFile (fs : FileSystem) (path : Path) : Bool :=
  match fs.locate path with
  | .ok place => (fs.file? place).isSome
  | .error _ => false

/-- The bytes of the file to which a path leads. -/
def readBytes (fs : FileSystem) (path : Path) : Except IoFault (List UInt8) := do
  let place ← fs.locate path
  match fs.file? place with
  | some bytes => return bytes
  | none => throw isADirectory

/-- The text of the file to which a path leads. -/
def readText (fs : FileSystem) (path : Path) : Except IoFault String := do
  match Text.Utf8.decode? (← fs.readBytes path) with
  | some cs => return String.ofList cs
  | none => throw .notUtf8

end FileSystem

end FoxScript
