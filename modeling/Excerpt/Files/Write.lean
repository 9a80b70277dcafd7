import Excerpt.Files.Basic

/-!
# Writing files

A file can be written into a directory that is there, and takes the place of a file that is there
already. `FileSystem.makeDirectories` makes a directory together with those on the way to it; if
one of them cannot be made, those before it stay, so the file system as far as it has come is part
of the error (`FileSystem.Incomplete`).

What a command has changed is read off the file systems before and after it
(`FileSystem.changes`), and then written to the computer.

* `FileSystem.write`: write a file.
* `FileSystem.makeDirectories`: make a directory and those on the way to it.
* `FileSystem.changes`: the entries that are new or differ.
-/

namespace Excerpt.FileSystem

variable (s : FileSystem)

/-- The place of a directory. -/
def locateDirectory (cs : List Path.Component) : Except FileError Location := do
  let l ← s.locate cs
  if s.isDirectoryAt l then return l else .error .notADirectory

/-- Write to the path of the components. -/
def writeAt (cs : List Path.Component) (content : ByteArray) : Except FileError FileSystem := do
  let l ← s.locateDirectory cs.dropLast
  match cs.getLast? with
  | some (.name n) =>
    if s.isDirectoryAt (l ++ [n]) then .error .isADirectory
    else return s.put (l ++ [n]) (.file content)
  | _ => .error .isADirectory

/-- Write a file. A path that ends with a slash is that of a directory. -/
def write (path : String) (content : ByteArray) : Except FileError FileSystem :=
  if path.isEmpty then .error .notFound
  else if path.toList.getLast? == some '/' then
    match s.locateDirectory (Path.components path).dropLast with
    | .ok _ => .error .isADirectory
    | .error e => .error e
  else s.writeAt (Path.steps path) content

/-- Make a directory inside one that is there. -/
def makeDirectory (cs : List Path.Component) : Except FileError FileSystem := do
  let l ← s.locateDirectory cs.dropLast
  match cs.getLast? with
  | some (.name n) =>
    if (s.entry? (l ++ [n])).isSome then .error .alreadyExists
    else return s.put (l ++ [n]) .directory
  | _ => .error .alreadyExists

/-- The path of the components is that of a directory. -/
def isDirectory (cs : List Path.Component) : Bool :=
  match s.locateDirectory cs with
  | .ok _ => true
  | .error _ => false

/-- Make a directory, unless it is there. -/
def ensureDirectory (cs : List Path.Component) : Except FileError FileSystem :=
  match s.makeDirectory cs with
  | .ok t => .ok t
  | .error e => if s.isDirectory cs then .ok s else .error e

/-- Directories that could not all be made. -/
structure Incomplete where
  /-- The files with the directories that were made. -/
  files : FileSystem
  cause : FileError

/-- Make a directory and those on the way to it, as far as they are not there. If one of them
cannot be made, those that were made before it stay. -/
def makeDirectories (cs : List Path.Component) : Except Incomplete FileSystem :=
  if h : cs = [] then .ok s
  else
    match s.ensureDirectory cs with
    | .ok t => .ok t
    | .error .notFound =>
      have : cs.dropLast.length < cs.length := by
        have := List.length_pos_iff.2 h
        simp only [List.length_dropLast]
        omega
      match makeDirectories cs.dropLast with
      | .ok t => (t.ensureDirectory cs).mapError fun e => ⟨t, e⟩
      | .error e => .error e
    | .error e => .error ⟨s, e⟩
termination_by cs.length

/-! ### What has changed -/

/-- The entries of the second file system that are new or differ from those of the first one. -/
def changes (before after : FileSystem) : List (Location × Entry) :=
  after.entries.filter fun (l, e) => before.entry? l != some e

/-- The place that a path names, whatever is there. -/
def placeOf (home : Location) (path : String) : Location :=
  (Path.steps path).foldl (fun l c =>
    match c with
    | .root => []
    | .current => l
    | .parent => l.dropLast
    | .name n => l ++ [n]) home

end Excerpt.FileSystem
