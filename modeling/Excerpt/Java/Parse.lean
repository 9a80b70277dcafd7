import Excerpt.Frontend
import Excerpt.Java.Grammar
import Excerpt.Java.Lowering

/-!
# The Java front end

A Java source is read in two steps. A reader makes concrete syntax of the text, whatever the text
is: pieces that are no Java, or that are missing, are marked as faults (`Concrete.isFault`). Then
the concrete syntax is lowered to a syntax tree (`treeOf`). In between, a source with faults is
rejected, unless the front end tolerates them; the error says how many outermost faults there are
and on which line the first one begins. A tolerant front end lowers the concrete syntax together
with its faults, so that what was read of a broken source is not lost.

The reader is a parameter of `parseWith` and `frontendWith`, for what becomes of concrete syntax
does not depend on how it was read. The program is run with the reader of this library,
`Concrete.recovered`, which reads statements up to the first one that is no Java and makes one
fault of the rest.

* `treeOf`: the syntax tree of concrete syntax.
* `parseWith`, `parse`: the unit of a source, for any reader and for the one that is used.
* `frontendWith`, `frontend`: the front ends that are made of them.
-/

namespace Excerpt.Java

/-- The ending of the names of Java sources. -/
def fileExtension : String := "java"

/-- The syntax tree of concrete syntax over its source. -/
def treeOf (source : String) (concrete : Concrete) : SyntaxTree :=
  let chars := source.toList
  let parts := (Focus.mk [] concrete).namedParts
  (SyntaxTree.ofSource source).graftAll 0 (parts.filterMap (lower chars concrete.depth))

/-- The unit of a source that is read by `read`. A source with faults is an error, unless they are
tolerated. -/
def parseWith (read : List Char → Concrete) (tolerant : Bool) (path source : String) :
    Except FrontendError SourceUnit :=
  let concrete := read source.toList
  if concrete.hasFault && !tolerant then
    .error (.malformed path (max concrete.faultLines.length 1) (concrete.faultLines.headD 1))
  else .ok ⟨path, treeOf source concrete⟩

/-- The unit of a source. -/
def parse (tolerant : Bool) (path source : String) : Except FrontendError SourceUnit :=
  parseWith Concrete.recovered tolerant path source

/-- The front end with a reader. -/
def frontendWith (read : List Char → Concrete) (tolerant : Bool) : Frontend where
  extensions := [fileExtension]
  parse := parseWith read tolerant

/-- The front end of the program. -/
def frontend (tolerant : Bool) : Frontend :=
  frontendWith Concrete.recovered tolerant

/-- The path is that of a Java source. -/
def handles (path : String) : Bool :=
  (frontend false).handles path

end Excerpt.Java
