import Excerpt.Tree.Comment

/-!
# Descriptions in javadoc comments

The description of a javadoc comment is its text before the first block tag, without the stars
that begin its lines. Blank lines at both ends are dropped. A line without a star is kept as it
is, so text that is indented without one stays indented.

The line at which a description begins is not kept while it is read. It is found again, by looking
for the first line of the description in the lines of the comment.

* `Javadoc.cleanLine`: one line without its decoration.
* `Javadoc.description`: the description of a comment.
* `Javadoc.descriptionLine`: the line that it is reported at.
-/

namespace Excerpt.Javadoc

open Text

/-- A line without what stands before its text: the leading blanks, a star and one blank, if there
is a star. A blank line is empty. -/
def cleanLine (raw : List Char) : List Char :=
  let line := dropCarriage raw
  let cleaned := match trimStart line with
    | '*' :: ' ' :: rest => rest
    | '*' :: '\t' :: rest => rest
    | '*' :: rest => rest
    | _ => line
  if isBlankText cleaned then [] else cleaned

/-- The lines of the text between the delimiters. -/
def rawLines (c : Comment) : List (List Char) :=
  pieces (· == '\n') c.content

/-- A line that begins with a block tag. -/
def isTagLine (line : List Char) : Bool :=
  (trimStart line).head? == some '@'

/-- The first line without one leading blank. -/
def dropLeadingSpace : List (List Char) → List (List Char)
  | (' ' :: line) :: lines => line :: lines
  | lines => lines

/-- The lines between the first and the last line that are not empty. -/
def dropEmptyEnds (lines : List (List Char)) : List (List Char) :=
  ((lines.dropWhile List.isEmpty).reverse.dropWhile List.isEmpty).reverse

/-- The lines of the description. -/
def descriptionLines (c : Comment) : List (List Char) :=
  (dropEmptyEnds (dropLeadingSpace ((rawLines c).map cleanLine))).takeWhile (!isTagLine ·)

/-- The description of a comment; empty if the comment is no javadoc. -/
def description (c : Comment) : List Char :=
  if c.isJavadoc then trimEnd (['\n'].intercalate (descriptionLines c)) else []

/-- The line of the comment that holds the first line of the description, or the first line of the
comment. -/
def descriptionLine (c : Comment) (description : List Char) : Nat :=
  match ((lines description).map trim).find? (!·.isEmpty) with
  | some needle =>
    match (rawLines c).findIdx? (occursIn needle) with
    | some offset => c.line + offset
    | none => c.line
  | none => c.line

end Excerpt.Javadoc
