import Excerpt.Yaml.Scalar

/-!
# Tokens of YAML

A text is read as a list of tokens. In the block style, where indentation groups, tokens for the
beginning and the end of collections are put in. That something is a key shows only at the colon
after it; the tokens for the beginning of its mapping and for the key are then put in before it.

So the scanner keeps, for each collection that is open, a candidate that may turn out to be a key,
with its place among the tokens (`KeyCandidate`). Candidates expire at the end of their line and
after a number of characters. A candidate is required where nothing but a key may stand, and then
it is an error if it expires.

Indentation is kept as a stack of columns. A token further to the right than the innermost column
begins a collection, one further to the left ends all collections that are not around it.

* `Token`: the tokens of a text.
* `Scanning`: a text as far as its tokens are read.
* `Scanning.saveCandidate`, `Scanning.fetchValue`: how keys are found.
* `Scanning.roll`, `Scanning.unroll`: how indentation groups.
* `tokens?`: the tokens of a text, unless it is malformed.
-/

namespace Excerpt.Yaml

/-- The tokens of a text. -/
inductive Token
  | streamEnd
  | version (major minor : Nat)
  | tagHandle (handle start : List Char)
  | documentStart
  | documentEnd
  | blockSequenceStart
  | blockMappingStart
  | blockEnd
  | flowSequenceStart
  | flowSequenceEnd
  | flowMappingStart
  | flowMappingEnd
  | blockEntry
  | flowEntry
  | key
  | value
  | alias (name : List Char)
  | anchor (name : List Char)
  | tag (handle suffix : List Char)
  | scalar (text : List Char) (plain : Bool)
  deriving DecidableEq, Repr

/-- Something that may turn out to be a key. -/
structure KeyCandidate where
  /-- Number of tokens before it. -/
  position : Nat
  line : Nat
  column : Nat
  index : Nat
  /-- It has to be a key. -/
  required : Bool
  deriving Repr

/-- A text as far as its tokens are read. -/
structure Scanning where
  place : Place
  tokens : List Token := []
  /-- The column of the innermost block collection; none outside of all. -/
  indent : Option Nat := none
  /-- The columns of the block collections around it. -/
  indents : List (Option Nat) := []
  /-- The candidate of each flow collection that is open, innermost first, and the one outside of
  them. -/
  candidates : List (Option KeyCandidate) := [none]
  /-- A key may begin at the place. -/
  keyAllowed : Bool := true
  deriving Repr

namespace Scanning

variable (s : Scanning)

/-- The place is inside a flow collection. -/
def inFlow : Bool :=
  1 < s.candidates.length

/-- Add a token at the end. -/
def emit (t : Token) : Scanning :=
  { s with tokens := s.tokens ++ [t] }

/-- Put a token in after the first `n`. -/
def insert (n : Nat) (t : Token) : Scanning :=
  { s with tokens := s.tokens.take n ++ t :: s.tokens.drop n }

/-- Go on at the place. -/
def moveTo (p : Place) : Scanning :=
  { s with place := p }

/-- Say whether a key may begin here. -/
def allowKey (allowed : Bool) : Scanning :=
  { s with keyAllowed := allowed }

/-! ### Candidates for keys -/

/-- The candidate is too far back to be a key: keys end on their line, within 1024 characters. -/
def isStale (p : Place) (k : KeyCandidate) : Bool :=
  k.line < p.line || k.index + 1024 < p.index

/-- Drop the candidates that are too far back; a required one must not be. -/
def dropStale : Option Scanning :=
  let stale := fun k => isStale s.place k
  if s.candidates.any fun c => c.any fun k => stale k && k.required then none
  else some { s with candidates := s.candidates.map fun c => c.filter fun k => !stale k }

/-- Drop the candidate of the innermost collection, which must not be required. -/
def dropCandidate : Option Scanning :=
  match s.candidates with
  | some k :: more => if k.required then none else some { s with candidates := none :: more }
  | _ => some s

/-- Remember that a key may begin at the place. -/
def saveCandidate : Option Scanning :=
  if s.keyAllowed then do
    let required := !s.inFlow && s.indent == some s.place.column
    let s ← s.dropCandidate
    let k : KeyCandidate := ⟨s.tokens.length, s.place.line, s.place.column, s.place.index, required⟩
    return { s with candidates := some k :: s.candidates.tail }
  else some s

/-! ### Indentation -/

/-- Begin a block collection at a column, before the token at `position`, unless one began there. -/
def roll (column position : Nat) (t : Token) : Scanning :=
  if !s.inFlow && s.indent.all (· < column) then
    { s.insert position t with indent := some column, indents := s.indent :: s.indents }
  else s

/-- End the block collections right of a column; all of them if there is none. -/
def unrollFrom (column : Option Nat) : Nat → Scanning → Scanning
  | 0, s => s
  | fuel + 1, s =>
    match s.indent, s.indents with
    | some n, outer :: more =>
      if column.all (· < n) then
        unrollFrom column fuel { s.emit .blockEnd with indent := outer, indents := more }
      else s
    | _, _ => s

/-- End the block collections right of a column; all of them if there is none. -/
def unroll (column : Option Nat) : Scanning :=
  if s.inFlow then s else unrollFrom column s.indents.length s

/-! ### Blanks and comments -/

/-- Skip blanks, comments and line ends. Tabs may not stand where indentation is read. -/
def skipBlanks : Nat → Scanning → Scanning
  | 0, s => s
  | fuel + 1, s =>
    let p := if s.place.index == 0 && s.place.next?.any (·.toNat == 0xFEFF) then s.place.skip
      else s.place
    let p := p.skipWhile fun c => c == ' ' || (c == '\t' && (s.inFlow || !s.keyAllowed))
    let p := if p.has 0 '#' then p.skipToBreak else p
    if p.atBreak then
      skipBlanks fuel { s with place := p.skipBreak, keyAllowed := s.keyAllowed || !s.inFlow }
    else s.moveTo p

/-! ### Single tokens -/

/-- End all block collections before a directive or a mark. -/
def outdent : Option Scanning := do
  let s ← (s.unroll none).dropCandidate
  return s.allowKey false

/-- A token of one character. -/
def single (t : Token) : Scanning :=
  (s.moveTo s.place.skip).emit t

/-- Begin a flow collection. -/
def fetchFlowStart (t : Token) : Option Scanning := do
  let s ← s.saveCandidate
  return ({ s with candidates := none :: s.candidates, keyAllowed := true }).single t

/-- End a flow collection. -/
def fetchFlowEnd (t : Token) : Option Scanning := do
  let s ← s.dropCandidate
  let candidates := if s.inFlow then s.candidates.tail else s.candidates
  return ({ s with candidates := candidates, keyAllowed := false }).single t

/-- Separate the entries of a flow collection. -/
def fetchFlowEntry : Option Scanning := do
  let s ← s.dropCandidate
  return (s.allowKey true).single .flowEntry

/-- Begin an entry of a block sequence, and the sequence if there is none at this column. -/
def fetchBlockEntry : Option Scanning := do
  if !s.inFlow && !s.keyAllowed then none
  let s ← (s.roll s.place.column s.tokens.length .blockSequenceStart).dropCandidate
  return (s.allowKey true).single .blockEntry

/-- A key that is marked as such. -/
def fetchKey : Option Scanning := do
  if !s.inFlow && !s.keyAllowed then none
  let s ← (s.roll s.place.column s.tokens.length .blockMappingStart).dropCandidate
  return (s.allowKey (!s.inFlow)).single .key

/-- The value of the key that the candidate turns out to be, or of an empty key. -/
def fetchValue : Option Scanning :=
  match s.candidates with
  | some k :: more =>
    let s := { s with candidates := none :: more }
    let s := (s.insert k.position .key).roll k.column k.position .blockMappingStart
    some ((s.allowKey false).single .value)
  | _ =>
    if !s.inFlow && !s.keyAllowed then none
    else
      let s := s.roll s.place.column s.tokens.length .blockMappingStart
      some ((s.allowKey (!s.inFlow)).single .value)

/-! ### Names and tags -/

/-- The name after an ampersand or a star. -/
def readName (p : Place) : Option (List Char × Place) :=
  let (name, q) := p.takeWhile isWordChar
  if name.isEmpty || !(q.blankAt 0 || q.hasOneOf "?:,]\x7d%@\x60") then none else some (name, q)

/-- The characters of a tag besides escapes. -/
def isTagChar (verbatim : Bool) (c : Char) : Bool :=
  isWordChar c || ";/?:@&=+$.!~*'()".toList.contains c || (verbatim && ",[]".toList.contains c)

/-- Number of bytes of a character by its first byte. -/
def utf8Width? (b : Nat) : Option Nat :=
  if b < 0x80 then some 1
  else if 0xC0 ≤ b && b < 0xE0 then some 2
  else if 0xE0 ≤ b && b < 0xF0 then some 3
  else if 0xF0 ≤ b && b < 0xF8 then some 4
  else none

/-- The bytes of `n` escapes with percent signs. -/
def escapedBytes? : Nat → List Char → Option (List Nat)
  | 0, _ => some []
  | n + 1, '%' :: cs => do
    let b ← hexCode? 2 cs
    return b :: (← escapedBytes? n (cs.drop 2))
  | _ + 1, _ => none

/-- The character that escapes with percent signs stand for, and their number. -/
def escapedChar? (cs : List Char) : Option (Char × Nat) := do
  let first ← (← escapedBytes? 1 cs).head?
  let width ← utf8Width? first
  let bytes ← escapedBytes? width cs
  if bytes.tail.any fun b => b / 64 != 2 then none
  let s ← String.fromUTF8? (ByteArray.mk (bytes.map UInt8.ofNat).toArray)
  return (← s.toList.head?, width)

/-- The rest of a tag. -/
def readTagText (verbatim : Bool) : Nat → Place → Option (List Char × Place)
  | 0, p => some ([], p)
  | fuel + 1, p =>
    match p.next? with
    | some '%' => do
      let (c, n) ← escapedChar? p.rest
      let (more, q) ← readTagText verbatim fuel (p.skipN (3 * n))
      return (c :: more, q)
    | some c =>
      if isTagChar verbatim c then (readTagText verbatim fuel p.skip).map fun (more, q) =>
        (c :: more, q)
      else some ([], p)
    | none => some ([], p)

/-- The rest of a tag after `head`; not both are empty. -/
def readTagRest (verbatim : Bool) (head : List Char) (p : Place) : Option (List Char × Place) := do
  let (more, q) ← readTagText verbatim (p.rest.length + 1) p
  if head.isEmpty && more.isEmpty then none else return (head.tail ++ more, q)

/-- The handle of a tag: an exclamation mark, or a word between two. -/
def readHandle (p : Place) : Option (List Char × Place) :=
  if p.has 0 '!' then
    let (word, q) := p.skip.takeWhile isWordChar
    if q.has 0 '!' then some ('!' :: word ++ ['!'], q.skip) else some ('!' :: word, q)
  else none

/-- The handle and the rest of a tag. -/
def readTag (p : Place) : Option (List Char × List Char × Place) := do
  if p.has 1 '<' then
    let (suffix, q) ← readTagRest true [] (p.skipN 2)
    if q.has 0 '>' then return ([], suffix, q.skip) else none
  else
    let (handle, q) ← readHandle p
    if 1 < handle.length && handle.getLast? == some '!' then
      let (suffix, r) ← readTagRest false [] q
      return (handle, suffix, r)
    else
      let (suffix, r) ← readTagRest false handle q
      return if suffix.isEmpty then ([], ['!'], r) else (['!'], suffix, r)

/-- A tag. -/
def fetchTag : Option Scanning := do
  let s ← s.saveCandidate
  let (handle, suffix, p) ← readTag s.place
  if p.blankAt 0 || (s.inFlow && p.has 0 ',') then
    return ((s.allowKey false).moveTo p).emit (.tag handle suffix)
  else none

/-- An anchor or an alias. -/
def fetchName (make : List Char → Token) : Option Scanning := do
  let s ← s.saveCandidate
  let (name, p) ← readName s.place.skip
  return ((s.allowKey false).moveTo p).emit (make name)

/-! ### Directives -/

/-- A number of at most nine digits. -/
def readNumber (p : Place) : Option (Nat × Place) :=
  let (digits, q) := p.takeWhile Char.isDigit
  if digits.isEmpty || 9 < digits.length then none
  else some (digits.foldl (fun n d => n * 10 + (d.toNat - 48)) 0, q)

/-- The version in a directive. -/
def readVersion (p : Place) : Option (Token × Place) := do
  let (major, q) ← readNumber (p.skipWhile isSpace)
  if q.has 0 '.' then
    let (minor, r) ← readNumber q.skip
    return (.version major minor, r)
  else none

/-- The handle and what it stands for in a directive. -/
def readTagDirective (p : Place) : Option (Token × Place) := do
  let (handle, q) ← readHandle (p.skipWhile isSpace)
  if handle != ['!'] && !(1 < handle.length && handle.getLast? == some '!') then none
  if !q.atSpace then none
  let (start, r) ← readTagRest true [] (q.skipWhile isSpace)
  if r.blankAt 0 then return (.tagHandle handle start, r) else none

/-- A directive for the version or for a handle of tags. -/
def fetchDirective : Option Scanning := do
  let s ← s.outdent
  let (name, p) := s.place.skip.takeWhile isWordChar
  if name.isEmpty || !p.blankAt 0 then none
  let (token, q) ←
    if name == "YAML".toList then readVersion p
    else if name == "TAG".toList then readTagDirective p
    else none
  let q := q.skipWhile isSpace
  let q := if q.has 0 '#' then q.skipToBreak else q
  if q.isAtEnd || q.atBreak then return (s.moveTo q.skipBreak).emit token else none

/-! ### Scalars -/

/-- A literal or folded scalar. -/
def fetchBlockScalar (literal : Bool) : Option Scanning := do
  let s ← s.dropCandidate
  let (text, p) ← readBlock literal s.indent s.place.skip
  return ((s.allowKey true).moveTo p).emit (.scalar text false)

/-- A scalar in quotes. -/
def fetchQuoted (quote : Char) : Option Scanning := do
  let s ← s.saveCandidate
  let (text, p) ← readQuoted quote (s.place.rest.length + 1) [] s.place.skip
  return ((s.allowKey false).moveTo p).emit (.scalar text false)

/-- A scalar without quotes. -/
def fetchPlain : Option Scanning := do
  let s ← s.saveCandidate
  let indent := match s.indent with
    | some n => n + 1
    | none => 0
  let r ← readPlain s.inFlow indent (s.place.rest.length + 1) [] {} s.place
  return ((s.allowKey r.broken).moveTo r.place).emit (.scalar r.text true)

/-! ### All tokens -/

/-- A plain scalar may begin with the next character. -/
def startsPlain : Bool :=
  let p := s.place
  !(p.blankAt 0 || p.hasOneOf "-?:,[]\x7b\x7d#&*!|>'\"%@\x60") ||
    (p.has 0 '-' && !(p.at? 1).any isSpace) ||
    (!s.inFlow && p.hasOneOf "?:" && !p.blankAt 1)

/-- The indicator is followed by a blank, or it stands in a flow collection. -/
def isIndicator (c : Char) : Bool :=
  s.place.has 0 c && (s.inFlow || s.place.blankAt 1)

/-- Read the next token after blanks; the text does not end there. -/
def fetchNext : Option Scanning :=
  let p := s.place
  if p.column == 0 && p.has 0 '%' then s.fetchDirective
  else if p.atDocumentMark then do
    let s ← s.outdent
    return (s.moveTo (p.skipN 3)).emit (if p.has 0 '-' then .documentStart else .documentEnd)
  else if p.has 0 '[' then s.fetchFlowStart .flowSequenceStart
  else if p.has 0 '\x7b' then s.fetchFlowStart .flowMappingStart
  else if p.has 0 ']' then s.fetchFlowEnd .flowSequenceEnd
  else if p.has 0 '\x7d' then s.fetchFlowEnd .flowMappingEnd
  else if p.has 0 ',' then s.fetchFlowEntry
  else if p.has 0 '-' && p.blankAt 1 then s.fetchBlockEntry
  else if s.isIndicator '?' then s.fetchKey
  else if s.isIndicator ':' then s.fetchValue
  else if p.has 0 '*' then s.fetchName .alias
  else if p.has 0 '&' then s.fetchName .anchor
  else if p.has 0 '!' then s.fetchTag
  else if p.has 0 '|' && !s.inFlow then s.fetchBlockScalar true
  else if p.has 0 '>' && !s.inFlow then s.fetchBlockScalar false
  else if p.has 0 '\'' then s.fetchQuoted '\''
  else if p.has 0 '"' then s.fetchQuoted '"'
  else if s.startsPlain then s.fetchPlain
  else none

/-- Read the end of the text. -/
def fetchEnd : Option Scanning := do
  let p := s.place
  let p := if p.column == 0 then p else { p with column := 0, line := p.line + 1 }
  let s ← ((s.moveTo p).unroll none).dropCandidate
  return s.emit .streamEnd

/-- Read all tokens. -/
def fetchAll : Nat → Scanning → Option (List Token)
  | 0, _ => none
  | fuel + 1, s => do
    let s ← (skipBlanks (s.place.rest.length + 1) s).dropStale
    let s := s.unroll (some s.place.column)
    if s.place.isAtEnd then return (← s.fetchEnd).tokens
    else fetchAll fuel (← s.fetchNext)

end Scanning

/-- The tokens of a text, unless it is malformed. -/
def tokens? (text : List Char) : Option (List Token) :=
  if text.all isAllowed then Scanning.fetchAll (text.length + 1) { place := { rest := text } }
    else none

end Excerpt.Yaml
