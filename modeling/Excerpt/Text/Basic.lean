/-!
# Texts as lists of characters

Cutting and joining of texts: blanks, pieces between separators, lines, and pieces given by byte
offsets of the UTF-8 form. Every function works on `List Char`; strings are converted where they
enter and leave. So all of them are recursions on lists, or are put together from functions on
lists of the library.

Byte offsets come from the ranges of nodes. An offset need not lie between characters, so
functions that take one may have no result (`Text.dropBytes?`, `Text.byteSlice?`).

Sets of characters are tables of ranges, or of ranges with a step for the scripts in which capital
and small letters alternate.

* `Text.trim`, `Text.isBlankText`: blanks.
* `Text.pieces`, `Text.cutAt`, `Text.piecesUpTo`: pieces between separators.
* `Text.lines`: lines, with either way to end them.
* `Text.byteSlice?`: the text between two offsets.
* `Ranges.has`, `Strides.has`: sets of characters.
-/

namespace Excerpt.Text

/-! ### Blanks -/

/-- The characters with the Unicode property White_Space. -/
def isBlank (c : Char) : Bool :=
  let n := c.toNat
  (9 ≤ n && n ≤ 13) || n == 0x20 || n == 0x85 || n == 0xA0 || n == 0x1680 ||
    (0x2000 ≤ n && n ≤ 0x200A) || n == 0x2028 || n == 0x2029 || n == 0x202F || n ==
      0x205F || n == 0x3000

/-- The text without its leading blanks. -/
def trimStart (cs : List Char) : List Char :=
  cs.dropWhile isBlank

/-- The text without its trailing blanks. -/
def trimEnd (cs : List Char) : List Char :=
  (cs.reverse.dropWhile isBlank).reverse

/-- The text without its leading and trailing blanks. -/
def trim (cs : List Char) : List Char :=
  trimEnd (trimStart cs)

/-- Nothing but blanks. -/
def isBlankText (cs : List Char) : Bool :=
  cs.all isBlank

/-! ### Beginnings and ends -/

/-- What follows `p`, if the text begins with it. -/
def dropStart? : List Char → List Char → Option (List Char)
  | [], cs => some cs
  | _ :: _, [] => none
  | p :: ps, c :: cs => if p = c then dropStart? ps cs else none

/-- What precedes `p`, if the text ends with it. -/
def dropEnd? (p cs : List Char) : Option (List Char) :=
  (dropStart? p.reverse cs.reverse).map List.reverse

/-- `p` occurs somewhere in the text. -/
def occursIn (p : List Char) : List Char → Bool
  | [] => p.isEmpty
  | c :: cs => p.isPrefixOf (c :: cs) || occursIn p cs

/-! ### Pieces -/

/-- The pieces between the characters that satisfy `sep`; there is always at least one. -/
def pieces (sep : Char → Bool) : List Char → List (List Char)
  | [] => [[]]
  | c :: cs =>
    if sep c then [] :: pieces sep cs
    else match pieces sep cs with
      | [] => [[c]]
      | w :: ws => (c :: w) :: ws

/-- The first piece and what follows the separator after it, if there is one. -/
def cutAt (sep : Char) : List Char → List Char × Option (List Char)
  | [] => ([], none)
  | c :: cs =>
    if c = sep then ([], some cs)
    else
      let (w, rest) := cutAt sep cs
      (c :: w, rest)

/-- What follows the last separator, or the whole text. -/
def afterLast (sep : Char) (cs : List Char) : List Char :=
  (cs.reverse.takeWhile (· != sep)).reverse

/-- At most `n + 1` pieces between separators; the last one keeps the separators inside it. -/
def piecesUpTo (sep : Char) : Nat → List Char → List (List Char)
  | 0, cs => [cs]
  | n + 1, cs =>
    match cutAt sep cs with
    | (w, some rest) => w :: piecesUpTo sep n rest
    | (w, none) => [w]

/-- A line without the carriage return before its line feed. -/
def dropCarriage (line : List Char) : List Char :=
  (dropEnd? ['\r'] line).getD line

/-- The lines of a text: each ends at a line feed, before which one carriage return is dropped.
The text after the last line feed is a line only if it is not empty, and keeps its carriage
returns. -/
def lines (cs : List Char) : List (List Char) :=
  let parts := pieces (· == '\n') cs
  let last := parts.getLastD []
  parts.dropLast.map dropCarriage ++ (if last.isEmpty then [] else [last])

/-! ### Bytes -/

/-- Number of bytes of the UTF-8 form. -/
def byteLength : List Char → Nat
  | [] => 0
  | c :: cs => c.utf8Size + byteLength cs

/-- What follows the first `n` bytes, unless they end inside a character or beyond the text. -/
def dropBytes? (n : Nat) : List Char → Option (List Char)
  | [] => if n = 0 then some [] else none
  | c :: cs =>
    if n = 0 then some (c :: cs)
    else if c.utf8Size ≤ n then dropBytes? (n - c.utf8Size) cs
    else none

/-- The first `n` bytes, unless they end inside a character or beyond the text. -/
def takeBytes? (n : Nat) : List Char → Option (List Char)
  | [] => if n = 0 then some [] else none
  | c :: cs =>
    if n = 0 then some []
    else if c.utf8Size ≤ n then (takeBytes? (n - c.utf8Size) cs).map (c :: ·)
    else none

/-- The text from byte `first` up to byte `last`, if both lie between characters in this order. -/
def byteSlice? (first last : Nat) (cs : List Char) : Option (List Char) :=
  if first ≤ last then (dropBytes? first cs).bind (takeBytes? (last - first)) else none

/-! ### Sets of characters

A property of characters is a table of ranges of code points. A range may step by two, since in
several scripts capital and small letters alternate. -/

/-- A table of ranges `(first, last)` of code points. -/
abbrev Ranges := List (Nat × Nat)

/-- The code point `n` lies in one of the ranges. -/
def Ranges.has (rs : Ranges) (n : Nat) : Bool :=
  rs.any fun r => r.1 ≤ n && n ≤ r.2

/-- A table of ranges `(first, last, step)` of code points. -/
abbrev Strides := List (Nat × Nat × Nat)

/-- The code point `n` is reached by one of the stepped ranges. -/
def Strides.has (rs : Strides) (n : Nat) : Bool :=
  rs.any fun r => r.1 ≤ n && n ≤ r.2.1 && (n - r.1) % r.2.2 == 0

end Excerpt.Text
