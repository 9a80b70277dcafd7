import Excerpt.Path

/-!
# Files and directories

A file system is a list of the places at which there is a file or a directory. A place is the list
of names on the way from the root to it, so that no two entries share a place and nothing depends
on how paths are written. The working directory is a place as well.

Paths are followed from the working directory, name by name (`FileSystem.follow`). A step to the
parent goes back from the place that has been reached, and all places on the way have to be
directories. That the directory of an entry is there is not required of a file system; nothing
that is defined here needs it.

Directories are walked level by level, to the greatest depth at which there is an entry.

* `FileSystem`: entries at places, none of which occurs twice.
* `FileSystem.resolve`: the place of a path.
* `FileSystem.read`: the text of a file.
* `FileSystem.walk`: the files below a directory.
* `FileError`: why a file cannot be read or written.
-/

namespace Excerpt

/-- Why a file cannot be read or written. -/
inductive FileError
  | notFound
  | alreadyExists
  | notADirectory
  | isADirectory
  /-- The content is no UTF-8. -/
  | notText
  deriving DecidableEq, Repr

/-- The error in the words of the operating system. -/
def FileError.message : FileError → String
  | notFound => "No such file or directory (os error 2)"
  | alreadyExists => "File exists (os error 17)"
  | notADirectory => "Not a directory (os error 20)"
  | isADirectory => "Is a directory (os error 21)"
  | notText => "stream did not contain valid UTF-8"

/-- The names on the way from the root to a file or a directory. -/
abbrev Location := List String

/-- What there is at a place. -/
inductive Entry
  | file (content : ByteArray)
  | directory

instance : DecidableEq Entry
  | .file a, .file b =>
    match ByteArray.decEq a b with
    | isTrue h => isTrue (congrArg Entry.file h)
    | isFalse h => isFalse fun e => h (Entry.file.inj e)
  | .directory, .directory => isTrue rfl
  | .file _, .directory => isFalse nofun
  | .directory, .file _ => isFalse nofun

/-- Files and directories, and the directory that paths start from. -/
structure FileSystem where
  entries : List (Location × Entry) := []
  home : Location := []
  distinct : (entries.map (·.1)).Nodup := by simp

namespace FileSystem

/-- Put an entry at a place, instead of the one that is there. -/
def putEntry (l : Location) (e : Entry) : List (Location × Entry) → List (Location × Entry)
  | [] => [(l, e)]
  | (k, d) :: es => if k = l then (k, e) :: es else (k, d) :: putEntry l e es

/-- An entry is put where its place is listed, or at the end. -/
theorem map_fst_putEntry (l : Location) (e : Entry) (es : List (Location × Entry)) :
    (putEntry l e es).map (·.1) = if l ∈ es.map (·.1) then es.map (·.1)
      else es.map (·.1) ++ [l] := by
  induction es with
  | nil => simp [putEntry]
  | cons a es ih =>
    obtain ⟨k, d⟩ := a
    rw [putEntry]
    by_cases h : k = l
    · simp [h]
    · have h' : l ≠ k := fun e => h e.symm
      simp only [h, if_false, List.map_cons, ih, List.mem_cons, h', false_or]
      split <;> rfl

/-- No place is listed twice. -/
theorem nodup_putEntry {l : Location} {e : Entry} {es : List (Location × Entry)}
    (h : (es.map (·.1)).Nodup) : ((putEntry l e es).map (·.1)).Nodup := by
  rw [map_fst_putEntry]
  split
  · exact h
  · next hl =>
    rw [List.nodup_append]
    refine ⟨h, by simp, fun a ha b hb => ?_⟩
    rw [List.mem_singleton.1 hb]
    exact fun e => hl (e ▸ ha)

variable (s : FileSystem)

/-- Put an entry at a place, instead of the one that is there. -/
def put (l : Location) (e : Entry) : FileSystem :=
  ⟨putEntry l e s.entries, s.home, nodup_putEntry s.distinct⟩

/-- What there is at a place. The root is a directory. -/
def entry? (l : Location) : Option Entry :=
  if l = [] then some .directory else s.entries.lookup l

/-- There is a directory at the place. -/
def isDirectoryAt (l : Location) : Bool :=
  s.entry? l == some .directory

/-! ### Following paths -/

/-- Follow the components of a path from a place. All but the last one have to be directories. -/
def follow (l : Location) : List Path.Component → Except FileError Location
  | [] => if (s.entry? l).isSome then .ok l else .error .notFound
  | c :: cs =>
    match s.entry? l with
    | none => .error .notFound
    | some (.file _) => .error .notADirectory
    | some .directory =>
      match c with
      | .root => follow [] cs
      | .current => follow l cs
      | .parent => follow l.dropLast cs
      | .name n => follow (l ++ [n]) cs

/-- Follow the components of a path from the working directory. -/
def locate (cs : List Path.Component) : Except FileError Location :=
  s.follow s.home cs

/-- The place of a path. -/
def resolve (path : String) : Except FileError Location :=
  if path.isEmpty then .error .notFound else s.locate (Path.steps path)

/-- There is something at the path. -/
def isThere (path : String) : Bool :=
  match s.resolve path with
  | .ok _ => true
  | .error _ => false

/-- Read a text. -/
def read (path : String) : Except FileError String := do
  match s.entry? (← s.resolve path) with
  | some (.file content) =>
    match String.fromUTF8? content with
    | some text => return text
    | none => .error .notText
  | some .directory => .error .isADirectory
  | none => .error .notFound

/-! ### Walking through directories -/

/-- The greatest number of names on the way to an entry. -/
def height : Nat :=
  (s.entries.map (·.1.length)).foldr max 0

/-- The names in a directory, in ascending order. -/
def namesIn (l : Location) : List String :=
  (s.entries.filterMap fun e => e.1.getLast?.filter fun _ => e.1.dropLast = l).mergeSort fun a b =>
    a ≤ b

/-- The names on the way from a directory to the files at most `depth` levels below it, directory
by directory. Below the first directory, only those whose name satisfies `enters` are entered. -/
def walk (enters : String → Bool) : (depth : Nat) → Location → List (List String)
  | 0, _ => []
  | depth + 1, l => (s.namesIn l).flatMap fun n =>
    let ways := match s.entry? (l ++ [n]) with
      | some (.file _) => [[]]
      | some .directory => if enters n then walk enters depth (l ++ [n]) else []
      | none => []
    ways.map (n :: ·)

end FileSystem

end Excerpt
