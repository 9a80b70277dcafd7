import Excerpt.Java.Concrete
import Excerpt.Text.NameChar

/-!
# Reading tokens

A `Cursor` is a place in the source: what is left to read, and the byte and row reached. Between
tokens stand blanks and comments; comments become pieces of the syntax. A punctuation token is the
longest one that the text begins with, a word ends where no character of a name follows.

Every step of a cursor goes on (`Cursor.length_advance_le`), and a comment is not empty
(`commentAt?_ne_zero`), which is why reading all comments before a token comes to an end.

* `Cursor`: a place in the source.
* `Cursor.take`: the piece made of the next characters.
* `Cursor.trivia`: the comments before the next token.
* `punctuationAt?`, `hasWord`, `nameAt?`: tokens at the beginning of a text.
-/

namespace Excerpt.Java

/-- A place in the source. -/
structure Cursor where
  rest : List Char
  byte : Nat
  row : Nat
  deriving Repr

namespace Cursor

/-- The place after `n` more characters. -/
def advance : Nat → Cursor → Cursor
  | 0, c => c
  | n + 1, c =>
    match c.rest with
    | [] => c
    | ch :: rest =>
      advance n ⟨rest, c.byte + ch.utf8Size, if ch = '\n' then c.row + 1 else c.row⟩

/-- The range between two places. -/
def rangeTo (c d : Cursor) : Range :=
  ⟨c.byte, d.byte, c.row, d.row⟩

/-- The piece made of the next `n` characters, and the place after it. -/
def take (c : Cursor) (n : Nat) (kind : String) (named : Bool) : Concrete × Cursor :=
  let d := c.advance n
  (.node kind named none (c.rangeTo d) [], d)

end Cursor

/-! ### Blanks and comments -/

/-- The blanks that may stand between tokens. -/
def isSeparator (c : Char) : Bool :=
  (9 ≤ c.toNat && c.toNat ≤ 13) || c == ' '

/-- Number of characters up to and including the first star and slash. -/
def closingLength? : List Char → Option Nat
  | '*' :: '/' :: _ => some 2
  | _ :: rest => (closingLength? rest).map (· + 1)
  | [] => none

/-- Length and kind of the comment that the text begins with. -/
def commentAt? : List Char → Option (Nat × String)
  | '/' :: '/' :: rest => some (2 + (rest.takeWhile (· != '\n')).length, "line_comment")
  | '/' :: '*' :: rest => (closingLength? rest).map fun n => (n + 2, "block_comment")
  | _ => none

/-- A cursor never goes back. -/
theorem Cursor.length_advance_le (n : Nat) (c : Cursor) :
    (c.advance n).rest.length ≤ c.rest.length := by
  induction n generalizing c with
  | zero => exact Nat.le_refl _
  | succ n ih =>
    rw [advance]
    split
    · exact Nat.le_refl _
    · next ch rest h =>
      rw [h]
      exact Nat.le_trans (ih _) (Nat.le_succ _)

/-- A cursor that goes on before the end has less to read. -/
theorem Cursor.length_advance_lt {n : Nat} {c : Cursor} (hn : n ≠ 0) (hc : c.rest ≠ []) :
    (c.advance n).rest.length < c.rest.length := by
  obtain ⟨m, rfl⟩ := Nat.exists_eq_succ_of_ne_zero hn
  rw [advance]
  split
  · next h => exact absurd h hc
  · next ch rest h =>
    rw [h]
    exact Nat.lt_succ_of_le (Cursor.length_advance_le m ⟨rest, _, _⟩)

/-- A comment is not empty. -/
theorem commentAt?_ne_zero {cs : List Char} {n : Nat} {kind : String}
    (h : commentAt? cs = some (n, kind)) :
    n ≠ 0 := by
  unfold commentAt? at h
  split at h
  · simp only [Option.some.injEq, Prod.mk.injEq] at h
    omega
  · obtain ⟨m, _, hm⟩ := Option.map_eq_some_iff.1 h
    simp only [Prod.mk.injEq] at hm
    omega
  · exact absurd h (by simp)

/-- The comments before the next token, and the place where it begins. -/
def Cursor.trivia (c : Cursor) : List Concrete × Cursor :=
  match hc : c.rest with
  | [] => ([], c)
  | ch :: _ =>
    if isSeparator ch then
      have := Cursor.length_advance_lt (n := 1) (c := c) (by decide) (by simp [hc])
      (c.advance 1).trivia
    else match hn : commentAt? c.rest with
      | some (n, kind) =>
        have := Cursor.length_advance_lt (c := c) (commentAt?_ne_zero hn) (by simp [hc])
        let (more, d) := (c.advance n).trivia
        ((c.take n kind true).1 :: more, d)
      | none => ([], c)
termination_by c.rest.length

/-! ### Tokens -/

/-- The punctuation of Java, longer tokens before their beginnings. -/
def punctuation : List String :=
  ["@interface", ">>>=", "<<=", ">>=", ">>>", "...", "->", "::", "++", "--", "&&", "||", "==",
   "!=", "<=", ">=", "<<", ">>", "+=", "-=", "*=", "/=", "&=", "|=", "^=", "%=", "(", ")", "\x7b",
   "\x7d", "[", "]", ";", ",", ".", "@", "=", ">", "<", "!", "~", "?", ":", "&", "|", "+", "-", "*",
   "/", "^", "%"]

/-- The longest punctuation token at the beginning of the text. -/
def punctuationAt? (cs : List Char) : Option String :=
  punctuation.find? fun p => p.toList.isPrefixOf cs

/-- The word `w` stands at the beginning of the text. -/
def hasWord (w : String) (cs : List Char) : Bool :=
  match w.toList.isPrefixOf cs, cs.drop w.length with
  | true, c :: _ => !Text.isNamePart c
  | true, [] => true
  | false, _ => false

/-- The name at the beginning of the text. -/
def nameAt? : List Char → Option (List Char)
  | c :: rest => if Text.isNameStart c then some (c :: rest.takeWhile Text.isNamePart) else none
  | [] => none

end Excerpt.Java
