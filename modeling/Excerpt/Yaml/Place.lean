/-!
# Places in a YAML text

A place is what is left to read, with the line and the column reached. A line ends with a line
feed, a carriage return, both, or one of three further characters of Unicode.

Columns decide about the grouping of a text, and lines about which texts may be keys, so both are
kept. The index of a place counts characters from the beginning, since a key must end within a
certain number of them.

* `Place`: a place in a text.
* `Place.skip`, `Place.takeWhile`: go on within a line.
* `Place.takeBreak`: go on to the next line.
* `Place.atDocumentMark`: the marks that begin and end documents.
-/

namespace Excerpt.Yaml

/-- The characters that a text may hold. -/
def isAllowed (c : Char) : Bool :=
  let n := c.toNat
  n == 0x09 || n == 0x0A || n == 0x0D || (0x20 ≤ n && n ≤ 0x7E) || n ==
    0x85 || (0xA0 ≤ n && n ≤ 0xD7FF) ||
    (0xE000 ≤ n && n ≤ 0xFFFD) || 0x10000 ≤ n

/-- A blank inside a line. -/
def isSpace (c : Char) : Bool :=
  c == ' ' || c == '\t'

/-- A character that ends a line. -/
def isBreak (c : Char) : Bool :=
  c == '\n' || c == '\r' || c.toNat == 0x85 || c.toNat == 0x2028 || c.toNat == 0x2029

/-- Letters, digits, underscores and dashes. -/
def isWordChar (c : Char) : Bool :=
  c.isAlphanum || c == '_' || c == '-'

/-- A place in a text. -/
structure Place where
  rest : List Char
  /-- Number of characters before the place. -/
  index : Nat := 0
  line : Nat := 0
  column : Nat := 0
  deriving Repr

namespace Place

variable (p : Place)

/-- The character `n` places further. -/
def at? (n : Nat) : Option Char :=
  p.rest[n]?

/-- The next character. -/
def next? : Option Char :=
  p.rest.head?

/-- Nothing follows. -/
def isAtEnd : Bool :=
  p.rest.isEmpty

/-- The character `n` places further is the given one. -/
def has (n : Nat) (c : Char) : Bool :=
  p.at? n == some c

/-- The next character is one of the given ones. -/
def hasOneOf (cs : String) : Bool :=
  p.next?.any cs.toList.contains

/-- A space or a tab follows. -/
def atSpace : Bool :=
  p.next?.any isSpace

/-- A line end follows. -/
def atBreak : Bool :=
  p.next?.any isBreak

/-- A blank, the end of a line or the end of the text is `n` places further. -/
def blankAt (n : Nat) : Bool :=
  (p.at? n).all fun c => isSpace c || isBreak c

/-- The place after the next character, on the same line. -/
def skip : Place :=
  match p.rest with
  | [] => p
  | _ :: rest => ⟨rest, p.index + 1, p.line, p.column + 1⟩

/-- The place after `n` characters on the same line. -/
def skipN : Nat → Place → Place
  | 0, p => p
  | n + 1, p => skipN n p.skip

/-- The end of a line, as it counts in a value, and the place after it. -/
def takeBreak : List Char × Place :=
  match p.rest with
  | '\r' :: '\n' :: rest => (['\n'], ⟨rest, p.index + 2, p.line + 1, 0⟩)
  | c :: rest =>
    if isBreak c then
      (if c.toNat == 0x2028 || c.toNat == 0x2029 then [c]
        else ['\n'], ⟨rest, p.index + 1, p.line + 1, 0⟩)
    else ([], p)
  | [] => ([], p)

/-- The place after the end of a line, if one is next. -/
def skipBreak : Place :=
  p.takeBreak.2

/-- The characters up to the first one that does not satisfy `f`, none of which ends a line, and
the place there. -/
def takeWhile (f : Char → Bool) : List Char × Place :=
  let taken := p.rest.takeWhile fun c => f c && !isBreak c
  (taken, ⟨p.rest.drop taken.length, p.index + taken.length, p.line, p.column + taken.length⟩)

/-- The place after the characters that satisfy `f`. -/
def skipWhile (f : Char → Bool) : Place :=
  (p.takeWhile f).2

/-- The place at the end of the line. -/
def skipToBreak : Place :=
  p.skipWhile fun _ => true

/-- Three equal characters that begin or end a document stand at the beginning of a line. -/
def atDocumentMark : Bool :=
  p.column == 0 && p.blankAt 3 &&
    ((p.has 0 '-' && p.has 1 '-' && p.has 2 '-') || (p.has 0 '.' && p.has 1 '.' && p.has 2 '.'))

end Place

end Excerpt.Yaml
