import Excerpt.Text.Letter
import Excerpt.Text.Lowercase

/-!
# Words of identifiers

An identifier is read as a list of lower-case words: `getHTTPStatusV2` is `get`, `http`, `status`.
Whatever is no letter separates words. Inside a run of letters, a word begins at an upper-case
letter after a lower-case one, and at the last letter of an upper-case run that a lower-case
letter follows. A single upper-case letter before the digits that end the identifier marks a
version and is dropped, unless it is all there is of its run.

The words of a run are found letter by letter, with a look at one letter on either side
(`startsWord`). A version mark is looked for in the last word of a run, with a look at what
follows the run.

* `runs`: the runs of letters.
* `camelWords`: the words of a run.
* `Words.tokenize`: the words of an identifier in lower case.
* `Words.format`: words as a list in brackets.
-/

namespace Excerpt.Words

open Text

/-- The maximal runs of letters, each with what follows it. -/
def runs : List Char → List (List Char × List Char)
  | [] => []
  | c :: cs =>
    if isAlphabetic c then
      match cs, runs cs with
      | d :: _, (run, rest) :: more =>
        if isAlphabetic d then (c :: run, rest) :: more else ([c], cs) :: (run, rest) :: more
      | _, more => ([c], cs) :: more
    else runs cs

/-- A word begins at `c`, between the letters `before` and `after`. -/
def startsWord (before c : Char) (after : Option Char) : Bool :=
  isUpper c && (isLower before || (isUpper before && after.any isLower))

/-- The words of a run of letters. -/
def camelWords : List Char → List (List Char)
  | [] => []
  | [c] => [[c]]
  | c :: d :: rest =>
    match camelWords (d :: rest) with
    | [] => [[c]]
    | word :: words =>
      if startsWord c d rest.head? then [c] :: word :: words else (c :: word) :: words

/-- What follows a run marks a version: a digit, and then nothing but digits and underscores. -/
def endsInDigits (rest : List Char) : Bool :=
  rest.head?.any Char.isDigit && rest.all fun c => c.isDigit || c == '_'

/-- A word of one upper-case letter. -/
def isVersionMark : List Char → Bool
  | [c] => isUpper c
  | _ => false

/-- The words of a run of letters with `rest` after it, without a version mark. -/
def runWords (run rest : List Char) : List (List Char) :=
  let words := camelWords run
  if endsInDigits rest && 1 < words.length && words.getLast?.any isVersionMark then words.dropLast
  else words

/-- The words of an identifier as they are written. -/
def written (name : List Char) : List (List Char) :=
  (runs name).flatMap fun (run, rest) => runWords run rest

/-- The lower-case words of an identifier. -/
def words (name : List Char) : List (List Char) :=
  (written name).map lowercase

/-- The lower-case words of an identifier. -/
def tokenize (name : String) : List String :=
  (words name.toList).map String.ofList

/-- Words as a list in brackets. -/
def format (tokens : List String) : String :=
  "[" ++ ", ".intercalate tokens ++ "]"

end Excerpt.Words
