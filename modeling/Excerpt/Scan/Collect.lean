import Excerpt.Files.Basic
import Excerpt.Java.Parse
import Excerpt.Rule.Settings

/-!
# The files to scan

Below a directory, all files that the front end is for are scanned, except those in hidden
directories and in directories that usually hold no sources of their own, and those that the
settings exclude. A file that is named is scanned in any case, and a path that leads nowhere is an
error.

The directory is walked level by level (`FileSystem.walk`), and the paths that are found are
sorted at the end. Whether a path is excluded is up to the patterns (`PathPatterns`), which are
asked about the names below the directory and about the path as a whole.
-/

namespace Excerpt

/-- Names of directories that are not entered. -/
def passedDirectories : List String :=
  ["target", "build", "out", "node_modules", "vendor"]

/-- A directory below the scanned one is entered. -/
def isEntered (name : String) : Bool :=
  !(name.toList.head? == some '.' || passedDirectories.contains name)

/-- The root of a scan is not there. -/
structure MissingRoot where
  path : String
  deriving DecidableEq, Repr

/-- The error in words. -/
def MissingRoot.message (e : MissingRoot) : String :=
  "path does not exist: " ++ e.path

namespace Frontend

variable [PathPatterns] (f : Frontend)

/-- The file that is reached from `root` by the names is scanned. -/
def isWanted (settings : Settings) (root : String) (names : List String) : Bool :=
  f.handles (Path.joinAll root names) &&
    !(settings.excludes (Path.ofNames names) || settings.excludes (Path.joinAll root names))

/-- The paths of the files to scan, in ascending order. -/
def collect (files : FileSystem) (settings : Settings) (root : String) :
    Except MissingRoot (List String) :=
  match files.resolve root with
  | .error _ => .error ⟨root⟩
  | .ok l =>
    if files.isDirectoryAt l then
      let found := (files.walk isEntered files.height l).filter (f.isWanted settings root)
      .ok ((found.map (Path.joinAll root)).mergeSort Path.le)
    else .ok [root]

end Frontend

/-- The paths of the Java sources to scan. -/
def collect [PathPatterns] (files : FileSystem) (settings : Settings) (root : String) :
    Except MissingRoot (List String) :=
  (Java.frontend false).collect files settings root

end Excerpt
