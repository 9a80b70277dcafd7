import Excerpt.Text.Basic

/-!
# Comments

A comment keeps its text with the delimiters and the line it opens on. A javadoc comment opens
with two stars, except that a block comment with nothing between its stars is an ordinary one.

The content of a comment is what stands between its delimiters. A delimiter at the end may be
missing, for a comment may be broken off by the end of the source; then all that follows the
beginning is content.

* `Comment`: a comment of the source.
* `Comment.isJavadoc`: the comment is documentation.
* `Comment.content`: the text between the delimiters.
-/

namespace Excerpt

/-- A comment of the source. -/
structure Comment where
  text : String
  line : Nat
  deriving DecidableEq, Repr, Inhabited

namespace Comment

open Text in
/-- The text between the delimiters of a comment. -/
def contentOf (text : List Char) : List Char :=
  match dropStart? ['/', '/'] text with
  | some rest => rest
  | none =>
    match (dropStart? ['/', '*', '*'] text).or (dropStart? ['/', '*'] text) with
    | some inner => (dropEnd? ['*', '/'] inner).getD inner
    | none => text

/-- The comment is documentation. -/
def isJavadoc (c : Comment) : Bool :=
  ['/', '*', '*'].isPrefixOf c.text.toList && c.text != "/**/"

/-- The text between the delimiters. -/
def content (c : Comment) : List Char :=
  contentOf c.text.toList

end Comment

end Excerpt
