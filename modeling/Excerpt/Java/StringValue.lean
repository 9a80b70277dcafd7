import Excerpt.Java.Literal
import Excerpt.Text.Basic

/-!
# Values of string literals

A literal is written between quotes, a text block between triple quotes. The indentation that all
lines of a text block share is not part of its value, nor are blanks at the ends of its lines.
Afterwards escapes are replaced by what they stand for. An escape may stand for half of a
surrogate pair; a half without the other one becomes the replacement character.

Escapes are replaced in two passes. The text is cut into parts, each of which is characters or the
code of a `u` escape (`literalParts`), and then the parts are joined, where two codes in a row may
make one character (`joinParts`).

* `unescape`: the characters that a literal without its quotes stands for.
* `stripIndent`: the lines of a text block without common indentation.
* `stringValue`: the value of a string literal or text block.
-/

namespace Excerpt.Java

open Text

/-! ### Escapes -/

/-- A part of a literal: characters, or a code written by a `u` escape. -/
inductive LiteralPart
  | text (cs : List Char)
  | code (n : Nat)
  deriving DecidableEq, Repr

/-- The value of a hexadecimal digit. -/
def hexValue (c : Char) : Nat :=
  if c.isDigit then c.toNat - 48
  else if 'a' ≤ c && c ≤ 'f' then c.toNat - 87
  else c.toNat - 55

/-- The value of digits in a base, most significant first. -/
def digitsValue (base : Nat) (ds : List Char) : Nat :=
  ds.foldl (fun n d => n * base + hexValue d) 0

/-- The replacement character. -/
def replacementChar : Char := Char.ofNat 0xFFFD

/-- The character with the given code, or the replacement character. -/
def charOfCode (n : Nat) : Char :=
  if n.isValidChar then Char.ofNat n else replacementChar

/-- What a backslash with one character stands for. -/
def simpleEscape : Char → List Char
  | 'n' => ['\n']
  | 't' => ['\t']
  | 'r' => ['\r']
  | 'b' => [Char.ofNat 8]
  | 'f' => [Char.ofNat 12]
  | 's' => [' ']
  | '\n' => []
  | c => [c]

/-- What is left of a list is no longer than the list. -/
theorem length_dropWhile_le (p : Char → Bool) (cs : List Char) :
    (cs.dropWhile p).length ≤ cs.length :=
  (List.dropWhile_sublist p).length_le

/-- The parts of a literal. A `u` escape has four hexadecimal digits after one or more `u`s, and
an octal escape up to three digits, the first of three being at most 3. -/
def literalParts : List Char → List LiteralPart
  | [] => []
  | '\\' :: 'u' :: cs =>
    let rest := cs.dropWhile (· == 'u')
    have : (cs.dropWhile (· == 'u')).length ≤ cs.length := length_dropWhile_le _ cs
    let digits := rest.take 4
    if digits.length = 4 && digits.all isHexDigit then
      .code (digitsValue 16 digits) :: literalParts (rest.drop 4)
    else .text ['\\', 'u'] :: literalParts rest
  | ['\\'] => [.text ['\\']]
  | '\\' :: c :: cs =>
    if isOctalDigit c then
      let more := (cs.take (if c ≤ '3' then 2 else 1)).takeWhile isOctalDigit
      .text [charOfCode (digitsValue 8 (c :: more))] :: literalParts (cs.drop more.length)
    else .text (simpleEscape c) :: literalParts cs
  | c :: cs => .text [c] :: literalParts cs
termination_by cs => cs.length
decreasing_by all_goals simp_wf <;> omega

/-- The first half of a surrogate pair. -/
def isHighSurrogate (n : Nat) : Bool := 0xD800 ≤ n && n ≤ 0xDBFF

/-- The second half of a surrogate pair. -/
def isLowSurrogate (n : Nat) : Bool := 0xDC00 ≤ n && n ≤ 0xDFFF

/-- The characters of the parts, with surrogate pairs put together. -/
def joinParts : List LiteralPart → List Char
  | [] => []
  | .text cs :: parts => cs ++ joinParts parts
  | .code high :: .code low :: parts =>
    if isHighSurrogate high && isLowSurrogate low then
      charOfCode (0x10000 + (high - 0xD800) * 0x400 + (low - 0xDC00)) :: joinParts parts
    else charOfCode high :: joinParts (.code low :: parts)
  | .code n :: parts => charOfCode n :: joinParts parts

/-- The characters that a literal without its quotes stands for. -/
def unescape (cs : List Char) : List Char :=
  joinParts (literalParts cs)

/-! ### Text blocks -/

/-- Number of blanks that a line begins with. -/
def indentOf (line : List Char) : Nat :=
  (line.takeWhile isBlank).length

/-- The least indentation of the lines that are not blank and of the last one. -/
def commonIndent : List (List Char) → Nat
  | [] => 0
  | [last] => indentOf last
  | line :: lines =>
    if isBlankText line then commonIndent lines else min (indentOf line) (commonIndent lines)

/-- The lines of a text block without common indentation and trailing blanks. -/
def stripIndent (body : List Char) : List Char :=
  let lines := pieces (· == '\n') body
  let indent := commonIndent lines
  List.intercalate ['\n'] <| lines.map fun line =>
    if isBlankText line then [] else trimEnd (line.drop indent)

/-- The value of a string literal or text block. -/
def stringValue (raw : List Char) : List Char :=
  let block := ['"', '"', '"']
  match dropStart? block raw with
  | some body =>
    let body := (dropEnd? block body).getD body
    unescape (stripIndent ((cutAt '\n' body).2.getD []))
  | none =>
    let body := (dropStart? ['"'] raw).getD raw
    unescape ((dropEnd? ['"'] body).getD body)

end Excerpt.Java
