import Excerpt.Text.Basic

/-!
# Numbers of YAML

Whole numbers are written in decimal, or in another base with a letter for it. Digits after a
leading zero are no number. Of the other numbers, those too large for double precision are none.

A plain scalar that is no number is a text, so reading a number never fails, it only finds none.
Numbers with a point or an exponent only matter because they are no texts: no setting is one.

* `wholeNumber?`: the whole number that a text stands for.
* `float?`: the number with double precision that a text stands for.
-/

namespace Excerpt.Yaml

/-- The value of a digit in some base up to sixteen. -/
def digitValue? (base : Nat) (c : Char) : Option Nat :=
  let n :=
    if c.isDigit then c.toNat - 48
    else if 'a' ≤ c && c ≤ 'f' then c.toNat - 87
    else if 'A' ≤ c && c ≤ 'F' then c.toNat - 55
    else base
  if n < base then some n else none

/-- The number with the given digits, of which there is at least one. -/
def natOfDigits? (base : Nat) (digits : List Char) : Option Nat :=
  if digits.isEmpty then none
  else digits.foldl (fun acc c => do return (← acc) * base + (← digitValue? base c)) (some 0)

/-- A sign and what follows it. -/
def splitSign : List Char → Bool × List Char
  | '-' :: cs => (true, cs)
  | '+' :: cs => (false, cs)
  | cs => (false, cs)

/-- Several digits of which the first is a zero. -/
def hasLeadingZero (text : List Char) : Bool :=
  match (splitSign text).2 with
  | '0' :: d :: ds => (d :: ds).all Char.isDigit
  | _ => false

/-- The whole number that a text stands for. -/
def wholeNumber? (text : List Char) : Option Int :=
  let (negative, cs) := splitSign text
  let magnitude := match cs with
    | '0' :: 'x' :: ds => natOfDigits? 16 ds
    | '0' :: 'o' :: ds => natOfDigits? 8 ds
    | '0' :: 'b' :: ds => natOfDigits? 2 ds
    | ds => if hasLeadingZero text then none else natOfDigits? 10 ds
  magnitude.map fun n => if negative then -(n : Int) else n

/-! ### Numbers with double precision -/

/-- The digits of a decimal number and its exponent. -/
structure Decimal where
  negative : Bool
  digits : List Char
  exponent : Int
  deriving Repr

/-- The exponent at the end of a decimal number. -/
def exponent? : List Char → Option Int
  | [] => some 0
  | e :: cs =>
    if e == 'e' || e == 'E' then
      let (negative, ds) := splitSign cs
      (natOfDigits? 10 ds).map fun n => if negative then -(n : Int) else n
    else none

/-- The parts of a decimal number. -/
def decimal? (text : List Char) : Option Decimal := do
  let (negative, cs) := splitSign text
  let whole := cs.takeWhile Char.isDigit
  let rest := cs.drop whole.length
  let (fraction, rest) := match rest with
    | '.' :: ds => (ds.takeWhile Char.isDigit, ds.dropWhile Char.isDigit)
    | _ => ([], rest)
  if whole.isEmpty && fraction.isEmpty then none
  let e ← exponent? rest
  return ⟨negative, whole ++ fraction, e - fraction.length⟩

/-- The nearest number with double precision. -/
def Decimal.toFloat (d : Decimal) : Float :=
  let digits := d.digits.dropWhile (· == '0')
  let n := (natOfDigits? 10 digits).getD 0
  let magnitude : Int := digits.length + d.exponent
  let x :=
    if n == 0 || magnitude < -400 then 0.0
    else if 400 < magnitude then 1.0 / 0.0
    else if d.exponent < 0 then Float.ofScientific n true d.exponent.natAbs
    else Float.ofScientific n false d.exponent.natAbs
  if d.negative then -x else x

/-- The number with double precision that a text stands for. -/
def float? (text : List Char) : Option Float :=
  let (_, cs) := splitSign text
  let words := String.ofList cs
  if words == ".inf" || words == ".Inf" || words == ".INF" then
    some (if text.head? == some '-' then -(1.0 / 0.0) else 1.0 / 0.0)
  else if text.length == 4 &&
    (words == ".nan" || words == ".NaN" || words == ".NAN") then some (0.0 / 0.0)
  else (decimal? text).bind fun d => if d.toFloat.isFinite then some d.toFloat else none

end Excerpt.Yaml
