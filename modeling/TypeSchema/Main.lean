import Std.Time.Format
import TypeSchema.Program

/-!
# The executable

Takes a picture of the files around the working directory and the arguments, asks for the outcome
of the run, and carries it out.
-/

namespace TypeSchema.Executable

/-- How deep directories are looked into. -/
def depthLimit : Nat := 64

/-- What is at a place, and below it down to a depth. -/
def entriesAt : Nat → IO.FS.DirEntry → List String → IO (List (List String × FileTree.Entry))
  | 0, _, _ => return []
  | depth + 1, entry, place => do
    if ← entry.path.isDir then
      let mut entries := [(place, FileTree.Entry.directory)]
      for child in ← entry.path.readDir do
        entries := entries ++ (← entriesAt depth child (place ++ [child.fileName]))
      return entries
    match (← entry.path.metadata).type with
    | .file => return [(place, .file (← IO.FS.readBinFile entry.path))]
    | _ => return [(place, .other)]

/-- The names that lead from the root to an absolute path. -/
def namesOf (absolute : String) : List String :=
  (Path.components ⟨absolute⟩).filterMap fun
    | .normal name => some name
    | _ => none

/-- What is at and below an absolute path; nothing if it cannot be read. -/
def pictureOf (absolute : String) : IO (List (List String × FileTree.Entry)) := do
  try entriesAt depthLimit ⟨absolute, "."⟩ (namesOf absolute) catch _ => return []

/-- The directory of an absolute path. -/
def directoryOf (absolute : String) : String :=
  (FileTree.placePath (namesOf absolute).dropLast).text

/-- The files around the working directory and the words of a command. -/
def picture (words : List String) : IO FileTree := do
  let here := (← IO.currentDir).toString
  let mut places := [here]
  for word in words do
    let directory := directoryOf (← IO.FS.realPath word).toString
    if !(places.any fun p => (namesOf p).isPrefixOf (namesOf directory)) then
      places := places ++ [directory]
  let entries ← places.mapM pictureOf
  return ⟨entries.flatten, namesOf here⟩

/-- The first year of the current century. -/
def currentCentury : IO Int := do
  let today ← Std.Time.PlainDate.now
  return today.year.toInt / 100 * 100

end TypeSchema.Executable

open TypeSchema in
/-- Run the program on the words of its command line. -/
def main (words : List String) : IO UInt32 := do
  let files ← Executable.picture words
  let outcome := World.runWords ⟨files, ← Executable.currentCentury⟩ words
  if let some (path, text) := outcome.written then IO.FS.writeFile path.text text
  (← IO.getStdout).putStr outcome.stdout
  (← IO.getStderr).putStr outcome.stderr
  return outcome.exit.toUInt32
