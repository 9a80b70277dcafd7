import Excerpt.Command.Execute
import Excerpt.Command.Help

/-!
# The program

The files that a command is about are read into a `FileSystem`, the command is executed on it, and
what it changes is written. This is the only module that touches the computer: what a command does
is decided by `Command.execute`, and here it is only supplied with files.

A command is about the paths on its command line, the rule files that are looked for, and the
directories on the way to them. Of a directory to scan, only sources are read, and only in
directories that are entered. How deep directories may be nested is limited.

* `readFor`: read all files that a command is about.
* `writeChange`: write what a command changes.
* `main`: read a command line and execute the command.
-/

namespace Excerpt.Program

/-- How deep directories may be nested. -/
def maxNesting : Nat := 4096

/-- The text of a place. -/
def textOf (l : Location) : String :=
  "/" ++ Path.ofNames l

/-- Read what is at a place; of a directory, the Java sources in it and in those that are entered,
to some depth. -/
def readAt : (depth : Nat) → FileSystem → Location → IO FileSystem
  | depth, s, l => do
    let path := (← IO.currentDir) / textOf l
    if ← path.isDir then
      let s := s.put l .directory
      match depth with
      | 0 => return s
      | depth + 1 =>
        let names : List String := (← path.readDir).toList.map fun e => e.fileName
        names.foldlM (fun s (n : String) => do
          let isDir ← (path / n).isDir
          if (isDir && isEntered n) || (!isDir && Java.handles n) then readAt depth s (l ++ [n])
          else return s) s
    else if ← path.pathExists then return s.put l (.file (← IO.FS.readBinFile path))
    else return s

/-- Read what a path names, and the directories on the way to it. -/
def readPath (depth : Nat) (s : FileSystem) (path : String) : IO FileSystem := do
  let l := FileSystem.placeOf s.home path
  let ways := (List.range l.length).map l.take
  let s ← (ways.filter (· != [])).foldlM (fun s k => readAt 0 s k) s
  if l = [] then return s else readAt depth s l

/-- Read all files that a command is about. -/
def readFor (s : FileSystem) : Command → IO FileSystem
  | .extract request => do
    let rules := match request.rules with
      | some path => [path]
      | none => ruleFileNames
    let s ← (rules ++ request.output.toList).foldlM (readPath 0) s
    readPath maxNesting s request.path
  | .init request => readPath 0 s request.output
  | .tokenize _ => return s

/-- Write what a command changes. -/
def writeChange (change : Location × Entry) : IO Unit := do
  let path := (← IO.currentDir) / textOf change.1
  match change.2 with
  | .file content => IO.FS.writeBinFile path content
  | .directory => IO.FS.createDirAll path

/-- Execute a command on the files of the computer. -/
def execute (command : Command) : IO UInt32 := do
  let home := FileSystem.placeOf [] (← IO.currentDir).toString
  let before ← readPath 0 { home := home } "."
  let before ← readFor before command
  let out ← IO.getStdout
  let x := command.execute (← out.isTty) before
  (before.changes x.files).forM writeChange
  out.putStr x.output
  let err ← IO.getStderr
  err.putStr x.errors
  match x.status with
  | .failed e => err.putStrLn ("Error: " ++ e.message)
  | _ => pure ()
  return x.status.exitCode.toUInt32

end Excerpt.Program

/-- Read a command line and execute the command. -/
def main (args : List String) : IO UInt32 := do
  match Excerpt.Usage.parse args with
  | .ok command => Excerpt.Program.execute command
  | .error r =>
    if r.isAnswered then
      IO.print r.message
      return 0
    else
      IO.eprint r.message
      return 2
