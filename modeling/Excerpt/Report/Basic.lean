import Excerpt.Detect.Engine

/-!
# Reports

What an extraction gives: the snippets of all files, how many files they come from, and the files
that were left out with the reason. Reports are put together file by file, or from the reports of
several lists of files (`Report.append`).

Snippets are counted by rule in one pass, and rules come in the order of their first snippets
(`tally`).

* `Report`: the result of an extraction.
* `Report.addFile`, `Report.addSkipped`, `Report.append`: how reports are put together.
* `Report.countsByRule`: the number of snippets of each rule.
-/

namespace Excerpt

/-- A file that was left out. -/
structure Skipped where
  path : String
  reason : String
  deriving DecidableEq, Repr

/-- The result of an extraction. -/
structure Report where
  snippets : List Snippet := []
  /-- Number of files that were not left out. -/
  scanned : Nat := 0
  skipped : List Skipped := []
  deriving DecidableEq, Repr

namespace Report

variable (r : Report)

/-- Add the snippets of a file. -/
def addFile (snippets : List Snippet) : Report :=
  { r with snippets := r.snippets ++ snippets, scanned := r.scanned + 1 }

/-- Add a file that was left out. -/
def addSkipped (path reason : String) : Report :=
  { r with skipped := r.skipped ++ [⟨path, reason⟩] }

/-- One report after the other. -/
def append (s : Report) : Report :=
  ⟨r.snippets ++ s.snippets, r.scanned + s.scanned, r.skipped ++ s.skipped⟩

end Report

/-- Count one more of a key; a new key comes last. -/
def countOne (key : String) : List (String × Nat) → List (String × Nat)
  | [] => [(key, 1)]
  | (k, n) :: counts => if k = key then (k, n + 1) :: counts else (k, n) :: countOne key counts

/-- How often each key occurs, in the order of first occurrence. -/
def tally (keys : List String) : List (String × Nat) :=
  keys.foldl (fun counts key => countOne key counts) []

/-- The number of snippets of each rule, in the order in which they come. -/
def Report.countsByRule (r : Report) : List (String × Nat) :=
  tally (r.snippets.map fun s => s.rule.id)

end Excerpt
