import Excerpt.Report.Basic
import Excerpt.Report.Style

/-!
# Reports for the terminal

A report is written as lines: what was scanned and how much was found, then the snippets with a
header wherever the file changes, then the files that were left out and the number of snippets of
each rule. Without snippets or files that were left out, these parts are not written at all.

A header is written where the file of a snippet differs from that of the snippet before it, so it
is up to the order of the snippets that each file has one header only.

* `snippetsFrom`: snippets with the headers of their files.
* `prettyLines`: the lines of a report.
* `pretty`: a report for the terminal.
-/

namespace Excerpt.Report

open Style

/-- The version that reports are headed with. -/
def version : String := "0.1.0"

/-- What is written above the snippets. -/
def headerLines (color : Bool) (path rules : String) (r : Report) : List String :=
  let skipped :=
    if r.skipped.isEmpty then ""
    else "  " ++ yellow.paint color ("(" ++ toString r.skipped.length ++ " skipped)")
  ["",
   "  " ++ boldCyan.paint color "rulesnip" ++ " v" ++ version,
   "",
   "  " ++ dimmed.paint color "Scanning: " ++ path,
   "  " ++ dimmed.paint color "Rules:    " ++ rules,
   "",
   "  " ++ boldGreen.paint color (toString r.snippets.length) ++ " snippets from " ++
     toString r.scanned ++
     " files" ++ skipped,
   ""]

/-- A snippet under the header of its file. -/
def snippetLines (color : Bool) (s : Snippet) : List String :=
  let place := if 0 < s.finding.line then ":" ++ toString s.finding.line else ""
  ("    " ++ cyan.paintTo color 10 s.rule.id ++ dimmed.paintTo color 7 place ++
    s.finding.subject) ::
    (Text.lines s.finding.code.toList).map fun l =>
      "        " ++ dimmed.paint color (String.ofList l)

/-- Snippets, with a header wherever the file changes. `current` is the file of the snippet before
them. -/
def snippetsFrom (color : Bool) (current : Option String) : List Snippet → List String
  | [] => []
  | s :: rest =>
    let header :=
      if current = some s.path then []
      else (if current.isSome then [""] else []) ++ ["  " ++ boldBlue.paint color s.path]
    header ++ snippetLines color s ++ snippetsFrom color (some s.path) rest

/-- The files that were left out. -/
def skippedLines (color : Bool) (skipped : List Skipped) : List String :=
  if skipped.isEmpty then []
  else
    ("  " ++ yellow.paint color "Skipped" ++ " (" ++ toString skipped.length ++ "):") ::
      skipped.map (fun s => "    " ++ blue.paint color s.path ++ "  " ++
        dimmed.paint color s.reason) ++ [""]

/-- The number of snippets of each rule. -/
def countLines (color : Bool) (counts : List (String × Nat)) : List String :=
  if counts.isEmpty then []
  else
    ("  " ++ bold.paint color "By rule:") ::
      counts.map (fun (rule, n) =>
        "    " ++ String.ofList (padEnd 12 rule.toList) ++ " " ++
          String.ofList (padStart 4 (toString n).toList) ++ " snippet" ++ (if n = 1 then ""
            else "s")) ++ [""]

/-- The lines of a report for the terminal. -/
def prettyLines (color : Bool) (path rules : String) (r : Report) : List String :=
  headerLines color path rules r ++
    (if r.snippets.isEmpty then [] else snippetsFrom color none r.snippets ++ [""]) ++
    skippedLines color r.skipped ++ countLines color r.countsByRule

/-- A report for the terminal. -/
def pretty (color : Bool) (path rules : String) (r : Report) : String :=
  String.join ((prettyLines color path rules r).map (· ++ "\n"))

end Excerpt.Report
