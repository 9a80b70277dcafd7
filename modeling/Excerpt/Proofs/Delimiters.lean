import Excerpt.Proofs.Lines
import Excerpt.Tree.Comment

/-!
# Delimiters of comments

A comment is a text between its delimiters, and the content of the comment is this text again. A
block comment is javadoc if its text begins with a star, and then the star does not belong to the
content.

One comment is an exception. The delimiters of a block comment without a text stand side by side,
so the star of the second one is taken for the star of javadoc, and the slash behind it is left
over (`Comment.content_delimited`).

The proof takes the delimiters off one after the other. The one at the beginning and the star go
first, whatever follows them (`Comment.contentOf_block`); the one at the end is still there unless
the text was empty.

## Main results

* `Comment.content_delimited`: the content of a comment of each kind.
-/

namespace Excerpt.Comment

open Text

variable (b : List Char) (line : Nat)

/-- The text as a block comment. -/
def block : Comment :=
  ⟨String.ofList ('/' :: '*' :: (b ++ ['*', '/'])), line⟩

/-- The text as a comment up to the end of the line. -/
def toLineEnd : Comment :=
  ⟨String.ofList ('/' :: '/' :: b), line⟩

/-- The text without one star, if it begins with one. -/
def withoutStar (b : List Char) : List Char :=
  if b.head? = some '*' then b.tail else b

/-- One star is dropped, if there is one. -/
private theorem getD_dropStart?_star : (dropStart? ['*'] b).getD b = withoutStar b := by
  cases b with
  | nil => rfl
  | cons c b =>
    by_cases hc : c = '*'
    · subst hc
      rfl
    · simp [dropStart?, withoutStar, hc, Ne.symm hc]

private theorem toList_block : (block b line).text.toList = '/' :: '*' :: (b ++ ['*', '/']) :=
  String.toList_ofList

/-- Only a block comment without a text is the one that is never javadoc. -/
private theorem text_block_eq_iff : (block b line).text = "/**/" ↔ b = [] := by
  rw [← String.toList_inj, toList_block]
  simp

/-- A block comment is javadoc just if its text begins with a star. -/
private theorem isJavadoc_block : (block b line).isJavadoc = true ↔ b.head? = some '*' := by
  rw [isJavadoc, Bool.and_eq_true, bne_iff_ne, ne_eq, text_block_eq_iff, toList_block,
    List.isPrefixOf_iff_prefix]
  cases b with
  | nil => simp
  | cons c b => simp [eq_comm]

/-- The delimiter at the beginning and the star of javadoc go first, whatever follows them. -/
theorem contentOf_block (rest : List Char) : contentOf ('/' :: '*' :: rest) =
    (dropEnd? ['*', '/'] (withoutStar rest)).getD (withoutStar rest) := by
  have hslashes : dropStart? ['/', '/'] ('/' :: '*' :: rest) = none := by simp [dropStart?]
  have hstars : (dropStart? ['/', '*', '*'] ('/' :: '*' :: rest)).or
      (dropStart? ['/', '*'] ('/' :: '*' :: rest)) =
      some (withoutStar rest) := by
    rw [← getD_dropStart?_star]
    simp only [dropStart?, if_true]
    exact Option.or_some
  simp only [contentOf, hslashes, hstars]

private theorem withoutStar_append (hb : b ≠ []) (rest : List Char) :
    withoutStar (b ++ rest) = withoutStar b ++ rest := by
  obtain ⟨c, b, rfl⟩ := List.exists_cons_of_ne_nil hb
  by_cases hc : c = '*' <;> simp [withoutStar, hc]

/-- The content of a block comment. Without a text, the star of its end is taken for that of
javadoc, and the slash behind it is left over. -/
private theorem content_block : (block b line).content = if b = [] then ['/']
    else withoutStar b := by
  rw [content, toList_block, contentOf_block]
  split
  · next hb =>
    subst hb
    rfl
  · next hb => rw [withoutStar_append b hb, dropEnd?_eq_some_iff.2 rfl, Option.getD_some]

/-- The content of a comment up to the end of the line is its text. -/
private theorem content_toLineEnd : (toLineEnd b line).content = b := by
  have hslashes : dropStart? ['/', '/'] ('/' :: '/' :: b) = some b := dropStart?_eq_some_iff.2 rfl
  simp only [content, contentOf, toLineEnd, String.toList_ofList, hslashes]

/-- **What the content of a comment is.** A block comment is javadoc just if its text begins with
a star, and its content is the text without this star, except that the content of the comment
without text is a slash. The content of a comment up to the end of the line is its text. -/
theorem content_delimited (b : List Char) (line : Nat) :
    ((block b line).isJavadoc = true ↔ b.head? = some '*') ∧
      (block b line).content = (if b = [] then ['/'] else withoutStar b) ∧
      (toLineEnd b line).content = b :=
  ⟨isJavadoc_block b line, content_block b line, content_toLineEnd b line⟩

end Excerpt.Comment
