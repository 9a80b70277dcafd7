import Excerpt.Text.Basic

/-!
# Coloured text

A style puts escape codes around a text. Where the text itself ends a style, the codes are written
again, so that what follows is styled too. Widths are those of the text and not of the codes, so
padding comes before styling.

Without colours a text is only padded. Whether there are colours is a parameter, and nothing here
asks for the terminal.

* `Style`: how a text looks.
* `Style.paint`, `Style.paintTo`: a text in a style, and up to a width.
-/

namespace Excerpt

/-- How a text looks. -/
inductive Style
  | bold
  | dimmed
  | blue
  | cyan
  | yellow
  | boldBlue
  | boldCyan
  | boldGreen
  deriving DecidableEq, Repr

namespace Style

/-- The parameters of the escape code. -/
def codes : Style → String
  | bold => "1"
  | dimmed => "2"
  | blue => "34"
  | cyan => "36"
  | yellow => "33"
  | boldBlue => "1;34"
  | boldCyan => "1;36"
  | boldGreen => "1;32"

/-- The code that begins the style. -/
def start (s : Style) : List Char :=
  Char.ofNat 27 :: '[' :: s.codes.toList ++ ['m']

/-- The code that ends every style. -/
def reset : List Char :=
  [Char.ofNat 27, '[', '0', 'm']

/-- Write a code again after each end of styles in a text. -/
def resume (code : List Char) : List Char → List Char
  | '\x1b' :: '[' :: '0' :: 'm' :: rest => reset ++ code ++ resume code rest
  | c :: cs => c :: resume code cs
  | [] => []

/-- A text with blanks after it up to a width. -/
def padEnd (width : Nat) (cs : List Char) : List Char :=
  cs ++ List.replicate (width - cs.length) ' '

/-- A text with blanks before it up to a width. -/
def padStart (width : Nat) (cs : List Char) : List Char :=
  List.replicate (width - cs.length) ' ' ++ cs

/-- A text in a style, up to a width, if there are colours. -/
def paintTo (color : Bool) (s : Style) (width : Nat) (text : String) : String :=
  if color then String.ofList (s.start ++ padEnd width (resume s.start text.toList) ++ reset)
  else String.ofList (padEnd width text.toList)

/-- A text in a style, if there are colours. -/
def paint (color : Bool) (s : Style) (text : String) : String :=
  s.paintTo color 0 text

end Style

end Excerpt
