import Excerpt.Yaml.Place

/-!
# Scalars of YAML

A scalar is written plainly, in quotes or as a block. A single line break in it is folded to a
blank, except in literal blocks; of several breaks, the first is dropped. Each function reads a
scalar and returns its value and the place after it, or nothing if the text is malformed.

Whether a plain scalar ends depends on what is around it: a colon with a blank after it ends it
anywhere, brackets and commas only in flow collections. It may go on at the next line if that is
indented far enough. The indentation of a block is given in its header or is that of its first
line with text.

* `Gap`: blanks between two parts of a scalar, and what they are folded to.
* `readPlain`, `readQuoted`, `readBlock`: the three ways to write a scalar.
-/

namespace Excerpt.Yaml

/-! ### Blanks inside scalars -/

/-- Blanks between two parts of a scalar. -/
structure Gap where
  /-- The blanks before the first break. -/
  spaces : List Char := []
  /-- The first break. -/
  first : List Char := []
  /-- The breaks after the first one. -/
  more : List Char := []
  /-- There was a break. -/
  broken : Bool := false
  deriving Repr

namespace Gap

/-- What the blanks between two parts stand for. -/
def fold (g : Gap) : List Char :=
  if g.broken then
    if g.first.head? == some '\n' then (if g.more.isEmpty then [' '] else g.more)
    else g.first ++ g.more
  else g.spaces

/-- Add a blank. -/
def addSpace (g : Gap) (c : Char) : Gap :=
  if g.broken then g else { g with spaces := g.spaces ++ [c] }

/-- Add a break. -/
def addBreak (g : Gap) (text : List Char) : Gap :=
  if g.broken then { g with more := g.more ++ text }
    else { g with spaces := [], first := text, broken := true }

end Gap

/-- Read the blanks and breaks that follow. A tab at the beginning of a line before column
`indent` is malformed. -/
def readGap (indent : Nat) : Nat → Gap → Place → Option (Gap × Place)
  | 0, g, p => some (g, p)
  | fuel + 1, g, p =>
    match p.next? with
    | some c =>
      if isSpace c then
        if g.broken && p.column < indent && c == '\t' then none
        else readGap indent fuel (g.addSpace c) p.skip
      else if isBreak c then
        let (text, q) := p.takeBreak
        readGap indent fuel (g.addBreak text) q
      else some (g, p)
    | none => some (g, p)

/-! ### Plain scalars -/

/-- The plain scalar ends at the next character. -/
def endsPlain (flow : Bool) (p : Place) : Bool :=
  (p.has 0 ':' && p.blankAt 1) || (flow && p.hasOneOf ",[]\x7b\x7d")

/-- A colon before a character that makes it malformed in a flow collection. -/
def strayColon (flow : Bool) (p : Place) : Bool :=
  flow && p.has 0 ':' && p.skip.hasOneOf ",?[]\x7b\x7d"

/-- The characters of a plain scalar up to the next blank or its end. -/
def readPlainWord (flow : Bool) : Nat → Place → Option (List Char × Place)
  | 0, p => some ([], p)
  | fuel + 1, p =>
    match p.next? with
    | none => some ([], p)
    | some c =>
      if p.blankAt 0 then some ([], p)
      else if strayColon flow p then none
      else if endsPlain flow p then some ([], p)
      else (readPlainWord flow fuel p.skip).map fun (w, q) => (c :: w, q)

/-- A plain scalar, as far as it is read. -/
structure PlainReading where
  text : List Char
  /-- A line break follows the scalar. -/
  broken : Bool
  place : Place
  deriving Repr

/-- Read a plain scalar that may go on at columns from `indent`, with `gap` before its next part. -/
def readPlain (flow : Bool) (indent : Nat) : Nat → List Char → Gap → Place → Option PlainReading
  | 0, text, g, p => some ⟨text, g.broken, p⟩
  | fuel + 1, text, g, p =>
    if p.atDocumentMark || p.has 0 '#' then some ⟨text, g.broken, p⟩
    else
      match readPlainWord flow (p.rest.length + 1) p with
      | none => none
      | some (word, q) =>
        let text := if word.isEmpty then text else text ++ g.fold ++ word
        let g := if word.isEmpty then g else {}
        if q.isAtEnd || !q.blankAt 0 then some ⟨text, g.broken, q⟩
        else
          match readGap indent (q.rest.length + 1) g q with
          | none => none
          | some (g, r) =>
            if !flow && r.column < indent then some ⟨text, g.broken, r⟩
            else readPlain flow indent fuel text g r

/-! ### Quoted scalars -/

/-- The character with the given code. -/
def charOfCode? (n : Nat) : Option Char :=
  if n.isValidChar then some (Char.ofNat n) else none

/-- The value of a hexadecimal digit. -/
def hexValue? (c : Char) : Option Nat :=
  if c.isDigit then some (c.toNat - 48)
  else if 'a' ≤ c && c ≤ 'f' then some (c.toNat - 87)
  else if 'A' ≤ c && c ≤ 'F' then some (c.toNat - 55)
  else none

/-- The value of `n` hexadecimal digits. -/
def hexCode? (n : Nat) (cs : List Char) : Option Nat :=
  let digits := cs.take n
  if digits.length = n then
    digits.foldl (fun acc c => do return (← acc) * 16 + (← hexValue? c)) (some 0)
  else none

/-- What the character after a backslash stands for. -/
def simpleEscape? : Char → Option Char
  | '0' => some (Char.ofNat 0)
  | 'a' => some (Char.ofNat 7)
  | 'b' => some (Char.ofNat 8)
  | 't' => some '\t'
  | '\t' => some '\t'
  | 'n' => some '\n'
  | 'v' => some (Char.ofNat 11)
  | 'f' => some (Char.ofNat 12)
  | 'r' => some '\r'
  | 'e' => some (Char.ofNat 27)
  | ' ' => some ' '
  | '"' => some '"'
  | '/' => some '/'
  | '\\' => some '\\'
  | 'N' => some (Char.ofNat 0x85)
  | '_' => some (Char.ofNat 0xA0)
  | 'L' => some (Char.ofNat 0x2028)
  | 'P' => some (Char.ofNat 0x2029)
  | _ => none

/-- The number of digits of an escape by code. -/
def escapeLength? : Char → Option Nat
  | 'x' => some 2
  | 'u' => some 4
  | 'U' => some 8
  | _ => none

/-- The escape after a backslash, and the place after it. -/
def readEscape (p : Place) : Option (Char × Place) := do
  let c ← p.next?
  match escapeLength? c with
  | some n => return (← charOfCode? (← hexCode? n p.skip.rest), p.skip.skipN n)
  | none => return (← simpleEscape? c, p.skip)

/-- Read a quoted scalar after its opening quote. -/
def readQuoted (quote : Char) : Nat → List Char → Place → Option (List Char × Place)
  | 0, _, _ => none
  | fuel + 1, text, p =>
    if p.atDocumentMark then none
    else match p.next? with
      | none => none
      | some c =>
        if p.blankAt 0 then
          match readGap 0 (p.rest.length + 1) {} p with
          | some (g, q) => readQuoted quote fuel (text ++ g.fold) q
          | none => none
        else if c = quote then
          if quote = '\'' && p.has 1 '\'' then readQuoted quote fuel (text ++ ['\'']) (p.skipN 2)
          else some (text, p.skip)
        else if quote = '"' && c = '\\' then
          if p.skip.atBreak then
            match readGap 0 (p.rest.length + 1) { broken := true } p.skip.skipBreak with
            | some (g, q) => readQuoted quote fuel (text ++ g.fold) q
            | none => none
          else
            match readEscape p.skip with
            | some (e, q) => readQuoted quote fuel (text ++ [e]) q
            | none => none
        else readQuoted quote fuel (text ++ [c]) p.skip

/-! ### Block scalars -/

/-- What happens to the breaks at the end of a block. -/
inductive Chomping
  | strip
  | clip
  | keep
  deriving DecidableEq, Repr

/-- The header of a block: what happens to its end, and its indentation if it is given. -/
def readBlockHeader (p : Place) : Option (Chomping × Option Nat × Place) :=
  let chomping? (p : Place) : Option Chomping :=
    match p.next? with
    | some '+' => some .keep
    | some '-' => some .strip
    | _ => none
  let digit? (p : Place) : Option Nat := (p.next?.filter Char.isDigit).map fun c => c.toNat - 48
  let header : Chomping × Option Nat × Place :=
    match chomping? p with
    | some ch =>
      match digit? p.skip with
      | some d => (ch, some d, p.skipN 2)
      | none => (ch, none, p.skip)
    | none =>
      match digit? p with
      | some d =>
        match chomping? p.skip with
        | some ch => (ch, some d, p.skipN 2)
        | none => (.clip, some d, p.skip)
      | none => (.clip, none, p)
  let (ch, indent, q) := header
  let q := q.skipWhile isSpace
  let q := if q.has 0 '#' then q.skipToBreak else q
  if indent == some 0 || !(q.isAtEnd || q.atBreak) then none
  else some (ch, indent, q.skipBreak)

/-- Read blank lines up to the indentation of a block, or, if it is not known, up to the first
character that is no blank. The result also has the greatest column reached. -/
def readBlockBreaks (indent : Option Nat) :
    Nat → List Char → Nat → Place → Option (List Char × Nat × Place)
  | 0, breaks, widest, p => some (breaks, widest, p)
  | fuel + 1, breaks, widest, p =>
    let room := match indent with
      | some n => n - p.column
      | none => p.rest.length
    let blanks := ((p.rest.take room).takeWhile (· == ' ')).length
    let q := p.skipN blanks
    let widest := max widest q.column
    if indent.all (q.column < ·) && q.has 0 '\t' then none
    else if q.atBreak then
      let (text, r) := q.takeBreak
      readBlockBreaks indent fuel (breaks ++ text) widest r
    else some (breaks, widest, q)

/-- The lines of a block with the given indentation. `first` and `more` are the breaks before the
next line, and `spaced` says that the line before them begins with a blank. -/
def readBlockLines (literal : Bool) (indent : Nat) :
    Nat → List Char → (first more : List Char) → (spaced : Bool) → Place →
    Option (List Char × List Char × List Char × Place)
  | 0, text, first, more, _, p => some (text, first, more, p)
  | fuel + 1, text, first, more, spaced, p =>
    if p.column != indent || p.isAtEnd then some (text, first, more, p)
    else
      let starts := p.atSpace
      let joint :=
        if !literal && first.head? == some '\n' && !spaced &&
          !starts then (if more.isEmpty then [' '] else more)
        else first ++ more
      let (line, q) := p.takeWhile fun _ => true
      let (first, r) := q.takeBreak
      match readBlockBreaks (some indent) (r.rest.length + 1) [] 0 r with
      | none => none
      | some (more, _, s) =>
        readBlockLines literal indent fuel (text ++ joint ++ line) first more starts s

/-- Read a block after its indicator, inside a collection at column `parent`, or outside of any. -/
def readBlock (literal : Bool) (parent : Option Nat) (p : Place) : Option (List Char × Place) := do
  let (chomping, given, p) ← readBlockHeader p
  let indent := given.map (· + parent.getD 0)
  let (breaks, widest, p) ← readBlockBreaks indent (p.rest.length + 1) [] 0 p
  let indent := indent.getD (max widest (max 1 (match parent with
    | some n => n + 1
    | none => 0)))
  let (text, first, more, p) ← readBlockLines literal indent (p.rest.length + 1) []
      [] breaks false p
  let ending := match chomping with
    | .strip => []
    | .clip => first
    | .keep => first ++ more
  return (text ++ ending, p)

end Excerpt.Yaml
