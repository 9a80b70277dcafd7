import Excerpt.Detect.Accessors
import Excerpt.Detect.Concurrency
import Excerpt.Detect.Documentation
import Excerpt.Detect.LongStatements
import Excerpt.Detect.Loops
import Excerpt.Detect.Members
import Excerpt.Detect.Messages
import Excerpt.Detect.Requests

/-!
# Built-in detectors

The detectors that the program comes with, and the rules that they are bound to from the start.
Some of them are adjusted by settings: which types are locks or threads, which methods write to a
log, how long a statement may be. Their names and their bindings do not depend on settings.

Several detectors may be bound to one rule, and a detector to several rules. Rules that are not
listed here have no detectors unless settings bind some.

* `builtin`: the detectors under given settings.
* `builtinNames`: their names.
* `defaultBindings`: the rules that they are bound to.
-/

namespace Excerpt.Detect

/-- The built-in detectors, adjusted by settings. -/
def builtin (s : Settings) : List Detector :=
  [naming,
   javadoc,
   methodDoc,
   requestPath s.baseMapping s.mappingSuffix,
   continuity,
   interfaceConstants,
   accessors,
   classOutline,
   (LongStatement.ofSettings s.longStatement).detector,
   throwMessage,
   constants,
   loopContains s.linearScanTypes,
   loopBody,
   threadName s.threadTypes s.threadNameSetter,
   lock s.lockTypes,
   logMessage s.logMethods]

/-- The names of the built-in detectors. -/
def builtinNames : List String :=
  (builtin {}).map Detector.name

/-- Which detector is bound to which rule from the start. -/
def defaultBindings : List (String × String) :=
  [("RULE-001", "naming"),
   ("RULE-002", "naming"),
   ("RULE-003", "naming"),
   ("RULE-004", "javadoc"),
   ("RULE-005", "method-doc"),
   ("RULE-006", "method-doc"),
   ("RULE-007", "method-doc"),
   ("RULE-008", "method-doc"),
   ("RULE-009", "request-path"),
   ("RULE-010", "continuity"),
   ("RULE-011", "naming"),
   ("RULE-012", "naming"),
   ("RULE-013", "naming"),
   ("RULE-014", "interface-constants"),
   ("RULE-015", "naming"),
   ("RULE-017", "naming"),
   ("RULE-018", "accessors"),
   ("RULE-019", "accessors"),
   ("RULE-020", "naming"),
   ("RULE-021", "naming"),
   ("RULE-022", "class-outline"),
   ("RULE-023", "long-statement"),
   ("RULE-024", "throw-message"),
   ("RULE-025", "throw-message"),
   ("RULE-026", "constants"),
   ("RULE-027", "loop-contains"),
   ("RULE-028", "loop-body"),
   ("RULE-029", "thread-name"),
   ("RULE-030", "lock"),
   ("RULE-031", "log-message")]

end Excerpt.Detect
