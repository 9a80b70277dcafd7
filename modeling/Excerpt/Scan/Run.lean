import Excerpt.Files.Basic
import Excerpt.Java.Parse
import Excerpt.Report.Basic

/-!
# Scanning files

A scanner reads files one after the other, makes units of them by its front end, and extracts
snippets from the units by its engine. A file that cannot be read, or that the front end makes no
unit of, is left out of the report, with the reason. The report of several files is put together
from theirs, in order.

The front end is a part of the scanner, so that nothing here depends on the language of the
sources. `Scanner.ofRuleSet` is the scanner for Java sources that the settings of a rule set ask
for.
-/

namespace Excerpt

/-- Why a file is left out. -/
inductive Obstacle
  | unreadable (path : String) (cause : FileError)
  | malformed (cause : FrontendError)
  deriving DecidableEq, Repr

/-- The reason in words. -/
def Obstacle.message : Obstacle → String
  | unreadable path cause => "failed to read " ++ path ++ ": " ++ cause.message
  | malformed cause => cause.message

/-- An engine, and the front end that makes units for it. -/
structure Scanner where
  engine : Engine
  frontend : Frontend := Java.frontend false

namespace Scanner

/-- The scanner of a rule set. -/
def ofRuleSet (set : RuleSet) : Except RuleError Scanner :=
  (Engine.ofRuleSet set).map fun engine => ⟨engine, Java.frontend set.settings.tolerateSyntaxErrors⟩

variable (scanner : Scanner) (files : FileSystem)

/-- The snippets of a file. -/
def scanFile (path : String) : Except Obstacle (List Snippet) :=
  match files.read path with
  | .error e => .error (.unreadable path e)
  | .ok source =>
    match scanner.frontend.parse path source with
    | .error e => .error (.malformed e)
    | .ok u => .ok (scanner.engine.extract u)

/-- A report with one more file. -/
def addTo (r : Report) (path : String) : Report :=
  match scanner.scanFile files path with
  | .ok snippets => r.addFile snippets
  | .error o => r.addSkipped path o.message

/-- The report of files. -/
def scan (paths : List String) : Report :=
  paths.foldl (scanner.addTo files) {}

end Scanner

end Excerpt
