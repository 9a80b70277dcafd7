/-!
# Literals of Java

Each scanner takes the longest literal of its form from the beginning of a text and returns what
follows it. Digits may be grouped by underscores, never at the ends. A literal may be of several
forms; the longest one counts, and of equal ones the first (`literalAt?`).

Strings and text blocks are no single tokens, since expressions may stand inside them. Their
fragments and escapes are scanned one by one, without the blanks and comments that may stand
between tokens elsewhere.

* `Scan`: what follows a lexeme at the beginning of a text.
* `literalForms`: the literal tokens by their names in the grammar.
* `literalAt?`: the longest literal token at the beginning of a text.
* `stringFragment`, `blockFragment`, `stringEscape`, `blockEscape`: the parts of strings.
-/

namespace Excerpt.Java

/-- What follows a lexeme at the beginning of a text. -/
abbrev Scan := List Char → Option (List Char)

namespace Scan

/-- One character that satisfies `p`. -/
def char (p : Char → Bool) : Scan
  | c :: cs => if p c then some cs else none
  | [] => none

/-- One or more characters that satisfy `p`. -/
def run (p : Char → Bool) : Scan
  | c :: cs => if p c then some (cs.dropWhile p) else none
  | [] => none

/-- One after the other. -/
def andThen (f g : Scan) : Scan := fun cs => (f cs).bind g

/-- The first that matches. -/
def orElse (f g : Scan) : Scan := fun cs => (f cs).or (g cs)

/-- Zero or one. -/
def maybe (f : Scan) : Scan := fun cs => some ((f cs).getD cs)

/-- Number of characters of the lexeme. -/
def length? (f : Scan) (cs : List Char) : Option Nat :=
  (f cs).map fun rest => cs.length - rest.length

/-- Groups of digits separated by `sep`, at most `fuel` of them after the first. -/
def groupsFrom (digit : Char → Bool) (sep : Scan) : Nat → List Char → List Char
  | 0, cs => cs
  | fuel + 1, cs =>
    match (sep.andThen (run digit)) cs with
    | some rest => groupsFrom digit sep fuel rest
    | none => cs

/-- Groups of digits separated by `sep`. -/
def groups (digit : Char → Bool) (sep : Scan) : Scan := fun cs =>
  (run digit cs).map fun rest => groupsFrom digit sep rest.length rest

end Scan

open Scan

/-- A digit with base sixteen. -/
def isHexDigit (c : Char) : Bool :=
  c.isDigit || ('a' ≤ c && c ≤ 'f') || ('A' ≤ c && c ≤ 'F')

/-- A digit with base eight. -/
def isOctalDigit (c : Char) : Bool :=
  '0' ≤ c && c ≤ '7'

/-- A digit with base two. -/
def isBinaryDigit (c : Char) : Bool :=
  c == '0' || c == '1'

private def oneOf (s : String) : Scan := char s.toList.contains

private def underscore : Scan := char (· == '_')

private def underscores : Scan := run (· == '_')

/-- A decimal integer without superfluous zeros. -/
def plainDigits : Scan :=
  (char (· == '0')).orElse <|
    (char fun c => '1' ≤ c && c ≤ '9').andThen <|
      maybe ((maybe underscore).andThen (groups Char.isDigit underscores))

/-- Decimal digits that may begin with zeros. -/
def anyDigits : Scan := groups Char.isDigit underscore

private def hexDigits : Scan := groups isHexDigit underscore

private def longSuffix : Scan := maybe (oneOf "lL")

private def floatSuffix : Scan := oneOf "fFdD"

private def sign : Scan := maybe (oneOf "+-")

private def exponent : Scan := (oneOf "eE").andThen (sign.andThen anyDigits)

private def hexMark : Scan := (char (· == '0')).andThen (oneOf "xX")

/-- A decimal integer such as `1_000L`. -/
def decimalInteger : Scan := plainDigits.andThen longSuffix

/-- A hexadecimal integer such as `0xFF`. -/
def hexInteger : Scan := hexMark.andThen (hexDigits.andThen longSuffix)

/-- An octal integer such as `017`. -/
def octalInteger : Scan :=
  ((char (· == '0')).andThen (maybe (oneOf "oO"))).andThen
    ((groups isOctalDigit underscore).andThen longSuffix)

/-- A binary integer such as `0b101`. -/
def binaryInteger : Scan :=
  ((char (· == '0')).andThen (oneOf "bB")).andThen
    ((groups isBinaryDigit underscore).andThen longSuffix)

/-- The forms of a decimal floating-point literal: with a point, or with an exponent or suffix. -/
def decimalFloats : List Scan :=
  let point := char (· == '.')
  let tail := (maybe exponent).andThen (maybe floatSuffix)
  [anyDigits.andThen (point.andThen ((maybe anyDigits).andThen tail)),
   point.andThen (anyDigits.andThen tail),
   plainDigits.andThen
     ((oneOf "eEpP").andThen (sign.andThen (anyDigits.andThen (maybe floatSuffix)))),
   plainDigits.andThen ((maybe exponent).andThen floatSuffix)]

/-- The forms of a hexadecimal floating-point literal. -/
def hexFloats : List Scan :=
  let point := char (· == '.')
  let tail :=
    maybe ((oneOf "eEpP").andThen (sign.andThen (plainDigits.andThen (maybe floatSuffix))))
  [hexMark.andThen (hexDigits.andThen ((maybe point).andThen tail)),
   hexMark.andThen ((maybe hexDigits).andThen (point.andThen (hexDigits.andThen tail)))]

/-- The body of a character literal up to and including its closing quote, of at least one
character when `first` is false. -/
def charBody (first : Bool) : Scan
  | '\\' :: _ :: rest => charBody true rest
  | '\'' :: rest => if first then some rest else none
  | c :: rest => if c == '\\' || c == '\n' then none else charBody true rest
  | [] => none

/-- A character in single quotes. -/
def charLiteral : Scan
  | '\'' :: rest => charBody false rest
  | _ => none

/-- The literal tokens by their names in the grammar; a longer match wins, of equal ones the
first. -/
def literalForms : List (String × Scan) :=
  [("decimal_integer_literal", decimalInteger), ("hex_integer_literal", hexInteger),
   ("octal_integer_literal", octalInteger), ("binary_integer_literal", binaryInteger)] ++
  decimalFloats.map (("decimal_floating_point_literal", ·)) ++
  hexFloats.map (("hex_floating_point_literal", ·)) ++
  [("character_literal", charLiteral)]

/-- The longest literal token at the beginning of a text: its length and its name in the grammar. -/
def literalAt? (cs : List Char) : Option (Nat × String) :=
  literalForms.foldl (fun best (kind, scan) =>
    match scan.length? cs, best with
    | some n, some (m, k) => if m < n then some (n, kind) else some (m, k)
    | some n, none => some (n, kind)
    | none, best => best) none

/-! ### Pieces of string literals -/

/-- Characters of a string literal without quotes and backslashes. -/
def stringFragment : Scan := run fun c => c != '"' && c != '\\'

/-- Characters of a text block before a backslash or the closing quotes, of which there are `seen`
already. -/
def blockFragmentFrom (seen : Bool) : Scan
  | [] => if seen then some [] else none
  | '"' :: '"' :: '"' :: rest => if seen then some ('"' :: '"' :: '"' :: rest) else none
  | c :: rest =>
    if c == '\\' then (if seen then some (c :: rest) else none) else blockFragmentFrom true rest

/-- Text of a text block up to an escape or three quotes. -/
def blockFragment : Scan := blockFragmentFrom false

/-- An escape in a string literal: a backslash with one character that is no digit, `x` or `u`,
with up to three octal digits, or with `x` or `u` and their hexadecimal digits. -/
def stringEscape : Scan
  | '\\' :: 'x' :: a :: b :: rest => if isHexDigit a && isHexDigit b then some rest else none
  | '\\' :: 'x' :: _ => none
  | '\\' :: 'u' :: '{' :: rest =>
    ((run isHexDigit).andThen (char (· == '}'))) rest
  | '\\' :: 'u' :: a :: b :: c :: d :: rest =>
    if isHexDigit a && isHexDigit b && isHexDigit c && isHexDigit d then some rest else none
  | '\\' :: 'u' :: _ => none
  | '\\' :: c :: rest =>
    if isOctalDigit c then
      let more := (rest.take 2).takeWhile isOctalDigit
      some (rest.drop more.length)
    else if c == '{' then none
    else some rest
  | _ => none

/-- An escape in a text block: a backslash with any one character. -/
def blockEscape : Scan
  | '\\' :: c :: rest => if c == '{' then none else some rest
  | _ => none

end Excerpt.Java
