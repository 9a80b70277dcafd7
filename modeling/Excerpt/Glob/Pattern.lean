/-!
# Path patterns

A pattern is a list of tokens. `?` and `[...]` stand for one byte, `*` for any bytes, and `**` for
whole components where it is one: at the beginning, at the end, or between separators. Groups
`{a,b}` list alternatives and may nest. A backslash takes the next character literally.

A pattern is read from left to right with a stack of the groups that are open (`Reading`). Two
stars are the only token that looks back: whether they are a component depends on what stands
before them and after them, and if they are, the separator before them belongs to the token
(`Reading.joinStars`).

A text may be no pattern. Then the fault says why, and the message also has the text
(`Fault.message`).

* `Token`: the parts of a pattern.
* `Fault`: why a text is no pattern.
* `parse`: the tokens of a pattern.
-/

namespace Excerpt.Glob

/-- The parts of a pattern. -/
inductive Token
  | literal (c : Char)
  /-- Any one byte. -/
  | any
  /-- Any bytes. -/
  | many
  /-- Leading components, or none. -/
  | leading
  /-- A separator and what follows it. -/
  | trailing
  /-- A separator, or two with components between them. -/
  | between
  | oneOf (negated : Bool) (ranges : List (Char × Char))
  | alternatives (branches : List (List Token))
  deriving Repr, Inhabited

/-- Why a text is no pattern. -/
inductive Fault
  | unclosedClass
  | reversedRange (first last : Char)
  | unopenedGroup
  | unclosedGroup
  | danglingEscape
  deriving DecidableEq, Repr

/-- The fault in words. -/
def Fault.reason : Fault → String
  | unclosedClass => "unclosed character class; missing ']'"
  | reversedRange a b => "invalid range; '" ++ a.toString ++ "' > '" ++ b.toString ++ "'"
  | unopenedGroup => "unopened alternate group; missing '\x7b' (maybe escape '\x7d' with '[\x7d]'?)"
  | unclosedGroup => "unclosed alternate group; missing '\x7d' (maybe escape '\x7b' with '[\x7b]'?)"
  | danglingEscape => "dangling '\\'"

/-- The message for a text that is no pattern. -/
def Fault.message (text : String) (f : Fault) : String :=
  "error parsing glob '" ++ text ++ "': " ++ f.reason

/-! ### Character classes -/

/-- Extend the last range of a class, kept in reverse, up to `c`. -/
def extendRange (c : Char) : List (Char × Char) → Except Fault (List (Char × Char))
  | [] => .ok [(c, c)]
  | (a, _) :: ranges => if c < a then .error (.reversedRange a c) else .ok ((a, c) :: ranges)

/-- The ranges of a class up to its closing bracket, kept in reverse, and what follows it. `dash`
says that a dash waits for the end of its range. -/
def classRanges (first dash : Bool) (ranges : List (Char × Char)) :
    List Char → Except Fault (List (Char × Char) × List Char)
  | [] => .error .unclosedClass
  | c :: cs =>
    if c = ']' && !first then .ok (if dash then ('-', '-') :: ranges else ranges, cs)
    else if c = '-' && !first && !dash then classRanges false true ranges cs
    else if dash then
      match extendRange c ranges with
      | .ok ranges => classRanges false false ranges cs
      | .error e => .error e
    else classRanges false false ((c, c) :: ranges) cs

/-- The class after an opening bracket, and what follows it. -/
def classAt (cs : List Char) : Except Fault (Token × List Char) :=
  let (negated, cs) := match cs with
    | '!' :: rest => (true, rest)
    | '^' :: rest => (true, rest)
    | _ => (false, cs)
  match classRanges true false [] cs with
  | .ok (ranges, rest) => .ok (.oneOf negated ranges.reverse, rest)
  | .error e => .error e

/-! ### Patterns -/

/-- A group that is open: the tokens before it, and the branches before the one around it. -/
structure OpenGroup where
  tokens : List Token
  branches : List (List Token)
  deriving Repr

/-- A pattern as far as it is read. Tokens and branches are kept in reverse. -/
structure Reading where
  /-- The branch being read. -/
  tokens : List Token := []
  /-- The earlier branches of the innermost group. -/
  branches : List (List Token) := []
  /-- The groups that are open, innermost first. -/
  groups : List OpenGroup := []
  /-- The character before the next one. -/
  last : Option Char := none
  deriving Repr

namespace Reading

/-- Add a token to what has been read of the innermost pattern. -/
def push (r : Reading) (t : Token) : Reading :=
  { r with tokens := t :: r.tokens }

/-- The branches of the innermost group. -/
def allBranches (r : Reading) : List (List Token) :=
  (r.tokens.reverse :: r.branches).reverse

/-- Read an opening brace. -/
def openGroup (r : Reading) : Reading :=
  { r with tokens := [], branches := [], groups := ⟨r.tokens, r.branches⟩ :: r.groups }

/-- Read a comma. -/
def comma (r : Reading) : Reading :=
  if r.groups.isEmpty then r.push (.literal ',')
  else { r with tokens := [], branches := r.tokens.reverse :: r.branches }

/-- Read a closing brace. -/
def closeGroup (r : Reading) : Except Fault Reading :=
  match r.groups with
  | [] => .error .unopenedGroup
  | g :: groups =>
    let tokens := .alternatives r.allBranches :: g.tokens
    .ok { r with tokens := tokens, branches := g.branches, groups := groups }

/-- Two stars that are no component. -/
def pushStars (r : Reading) : Reading :=
  (r.push .many).push .many

/-- A component of two stars goes on from the token before it. -/
def joinStars (r : Reading) (isLast : Bool) : Reading :=
  match r.tokens with
  | .leading :: _ => r
  | .trailing :: _ => r
  | _ :: before => { r with tokens := (if isLast then .trailing else .between) :: before }
  | [] => r

/-- Read two stars, where `rest` follows them; the result also says how many characters of it are
read. -/
def stars (r : Reading) (rest : List Char) : Reading × Nat :=
  let grouped := !r.groups.isEmpty
  if r.tokens.isEmpty then
    match rest with
    | [] => (r.push .leading, 0)
    | '/' :: _ => (r.push .leading, 1)
    | _ => (r.pushStars, 0)
  else if r.last != some '/' &&
    !(grouped && (r.last == some ',' || r.last == some '\x7b')) then (r.pushStars, 0)
  else match rest with
    | [] => (r.joinStars true, 0)
    | '/' :: _ => (r.joinStars false, 1)
    | c :: _ =>
      if grouped && (c == ',' || c == '\x7d') then (r.joinStars true, 0) else (r.pushStars, 0)

end Reading

/-- Read the rest of a pattern. The fuel is its length. -/
def readFrom : Nat → Reading → List Char → Except Fault Reading
  | 0, r, _ => .ok r
  | _, r, [] => .ok r
  | fuel + 1, r, c :: cs =>
    let next (r : Reading) (rest : List Char) (last : Char) :=
      readFrom fuel { r with last := some last } rest
    match c, cs with
    | '?', _ => next (r.push .any) cs c
    | '*', '*' :: rest =>
      let (r, n) := r.stars rest
      next r (rest.drop n) (if n = 0 then '*' else '/')
    | '*', _ => next (r.push .many) cs c
    | '[', _ =>
      match classAt cs with
      | .ok (t, rest) => next (r.push t) rest ']'
      | .error e => .error e
    | '\x7b', _ => next r.openGroup cs c
    | '\x7d', _ =>
      match r.closeGroup with
      | .ok r => next r cs c
      | .error e => .error e
    | ',', _ => next r.comma cs c
    | '\\', d :: rest => next (r.push (.literal d)) rest d
    | '\\', [] => .error .danglingEscape
    | _, _ => next (r.push (.literal c)) cs c

/-- The tokens of a pattern. -/
def parse (text : List Char) : Except Fault (List Token) :=
  match readFrom text.length {} text with
  | .ok r => if r.groups.isEmpty then .ok r.tokens.reverse else .error .unclosedGroup
  | .error e => .error e

end Excerpt.Glob
