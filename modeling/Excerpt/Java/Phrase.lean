import Excerpt.Java.Cursor
import Excerpt.Java.Literal

/-!
# Phrases

A grammar gives each of its categories a phrase. Phrases are read by ordered choice: of several
alternatives the first that matches is taken, and a repetition takes as much as it can.
`Phrase.grow` reads constructs that begin with themselves, such as sums: it reads a base and then
goes on wrapping what it has into a larger piece as long as one of its tails matches.

Comments before a token are read together with it. A named piece does not take the comments before
its first token: they belong to the construct around it.

Readings nest as deep as constructs do, which the fuel bounds. A repetition stops where a phrase
takes nothing, so the fuel only has to account for nesting and for the length of the source.

* `Phrase`, `Tail`: the forms of pieces of source.
* `Phrase.read`: the pieces that a phrase yields at a place, and the place after them.
* `readSource`: a whole source as one piece.
-/

namespace Excerpt.Java

mutual

/-- The form of a piece of source, over the categories `κ` of a grammar. -/
inductive Phrase (κ : Type)
  /-- A punctuation token. -/
  | punct (text : String)
  /-- The given characters, whatever follows them. -/
  | glyphs (text : String)
  /-- A keyword. -/
  | word (text : String)
  /-- A name that is none of the `reserved` words, as a piece of the given kind. -/
  | name (kind : String) (reserved : List String)
  /-- A literal token. -/
  | literal
  /-- A token directly after the one before it. -/
  | inner (kind : String) (scan : Scan)
  /-- A phrase of another category. -/
  | cat (k : κ)
  | seq (ps : List (Phrase κ))
  | alt (ps : List (Phrase κ))
  | opt (p : Phrase κ)
  | many (p : Phrase κ)
  /-- The phrase in the role `field`. -/
  | role (field : String) (p : Phrase κ)
  /-- The phrase as one named piece. -/
  | piece (kind : String) (p : Phrase κ)
  /-- The phrase, if it is a piece of one of the given kinds. -/
  | only (kinds : List String) (p : Phrase κ)
  /-- Nothing, where the phrase follows. -/
  | ahead (p : Phrase κ)
  /-- Nothing, where the phrase does not follow. -/
  | unless (p : Phrase κ)
  | grow (base : Phrase κ) (tails : List (Tail κ))

/-- A way to go on after a piece: if it is of one of the kinds `after` (of any kind if there are
none), it becomes the first part, in the role `first`, of a piece of kind `kind` that continues
with `rest`. -/
inductive Tail (κ : Type)
  | mk (kind : String) (after : List String) (first : Option String) (rest : Phrase κ)

end

/-- What a phrase yields: pieces of syntax, and the place after them. -/
abbrev Reading := Option (List Concrete × Cursor)

/-- The pieces from the first one that is no comment on become one named piece. -/
def enclose (kind : String) (pieces : List Concrete) : List Concrete :=
  let lead := pieces.takeWhile Concrete.isComment
  match pieces.dropWhile Concrete.isComment with
  | [] => lead
  | first :: more =>
    let last := (first :: more).getLast (by simp)
    let range := ⟨first.range.startByte, last.range.endByte, first.range.startRow,
      last.range.endRow⟩
    lead ++ [.node kind true none range (first :: more)]

/-- Give the pieces that are no comments a role. -/
def assign (field : String) (pieces : List Concrete) : List Concrete :=
  pieces.map fun p => if p.isComment then p else p.withField (some field)

/-- A token of `length` characters, if there is one where the next token begins. -/
def readToken (c : Cursor) (find : List Char → Option (Nat × String × Bool)) : Reading :=
  let (comments, d) := c.trivia
  match find d.rest with
  | some (n, kind, named) =>
    let (piece, e) := d.take n kind named
    some (comments ++ [piece], e)
  | none => none

mutual

/-- Read a phrase. The fuel bounds how deep readings nest. -/
def read {κ : Type} (grammar : κ → Phrase κ) : Nat → Phrase κ → Cursor → Reading
  | 0, _, _ => none
  | fuel + 1, p, c =>
    match p with
    | .punct text => readToken c fun cs =>
        if text.toList.isPrefixOf cs && punctuationAt? cs ==
          some text then some (text.length, text, false) else none
    | .glyphs text => readToken c fun cs =>
        if text.toList.isPrefixOf cs then some (text.length, text, false) else none
    | .word text => readToken c fun cs =>
        if hasWord text cs then some (text.length, text, false) else none
    | .name kind reserved => readToken c fun cs =>
        match nameAt? cs with
        | some w =>
          if reserved.contains (String.ofList w) then none else some (w.length, kind, true)
        | none => none
    | .literal => readToken c fun cs => (literalAt? cs).map fun (n, kind) => (n, kind, true)
    | .inner kind scan =>
      match scan.length? c.rest with
      | some n =>
        let (piece, d) := c.take n kind true
        some ([piece], d)
      | none => none
    | .cat k => read grammar fuel (grammar k) c
    | .seq ps => readAll grammar fuel ps c
    | .alt ps => readFirst grammar fuel ps c
    | .opt p => (read grammar fuel p c).or (some ([], c))
    | .many p => readMany grammar fuel p c
    | .role field p => (read grammar fuel p c).map fun (ps, d) => (assign field ps, d)
    | .piece kind p => (read grammar fuel p c).map fun (ps, d) => (enclose kind ps, d)
    | .only kinds p =>
      match read grammar fuel p c with
      | some (ps, d) =>
        if (ps.filter (!·.isComment)).all fun p => kinds.contains p.kind then some (ps, d) else none
      | none => none
    | .ahead p => if (read grammar fuel p c).isSome then some ([], c) else none
    | .unless p => if (read grammar fuel p c).isSome then none else some ([], c)
    | .grow base tails =>
      match read grammar fuel base c with
      | some (ps, d) =>
        match ps.dropWhile Concrete.isComment with
        | [left] =>
          let (grown, e) := readTails grammar fuel tails tails left d
          some (ps.takeWhile Concrete.isComment ++ [grown], e)
        | _ => some (ps, d)
      | none => none

/-- Read phrases one after the other. -/
def readAll {κ : Type} (grammar : κ → Phrase κ) : Nat → List (Phrase κ) → Cursor → Reading
  | 0, _, _ => none
  | _ + 1, [], c => some ([], c)
  | fuel + 1, p :: ps, c =>
    match read grammar fuel p c with
    | some (here, d) =>
      match readAll grammar fuel ps d with
      | some (more, e) => some (here ++ more, e)
      | none => none
    | none => none

/-- Read the first phrase that matches. -/
def readFirst {κ : Type} (grammar : κ → Phrase κ) : Nat → List (Phrase κ) → Cursor → Reading
  | 0, _, _ => none
  | _ + 1, [], _ => none
  | fuel + 1, p :: ps, c =>
    match read grammar fuel p c with
    | some reading => some reading
    | none => readFirst grammar fuel ps c

/-- Read a phrase as often as it matches. -/
def readMany {κ : Type} (grammar : κ → Phrase κ) : Nat → Phrase κ → Cursor → Reading
  | 0, _, _ => none
  | fuel + 1, p, c =>
    match read grammar fuel p c with
    | some (here, d) =>
      if d.byte = c.byte then some ([], c)
      else match readMany grammar fuel p d with
        | some (more, e) => some (here ++ more, e)
        | none => none
    | none => some ([], c)

/-- Wrap `left` by the first of the tails that matches, and go on with all of them. -/
def readTails {κ : Type} (grammar : κ → Phrase κ) :
    Nat → List (Tail κ) → List (Tail κ) → Concrete → Cursor → Concrete × Cursor
  | 0, _, _, left, c => (left, c)
  | _ + 1, _, [], left, c => (left, c)
  | fuel + 1, tails, .mk kind after first rest :: more, left, c =>
    let grown :=
      if after.isEmpty || after.contains left.kind then
        match read grammar fuel rest c with
        | some (ps, d) =>
          match enclose kind (left.withField first :: ps) with
          | [piece] => some (piece, d)
          | _ => none
        | none => none
      else none
    match grown with
    | some (piece, d) => readTails grammar fuel tails tails piece d
    | none => readTails grammar fuel tails more left c

end

/-- Where a source begins: after the byte order mark, if there is one. -/
def Cursor.ofSource (source : List Char) : Cursor :=
  match source with
  | c :: rest => if c.toNat = 0xFEFF then ⟨rest, c.utf8Size, 0⟩ else ⟨source, 0, 0⟩
  | [] => ⟨[], 0, 0⟩

/-- All that is left at a place, as a piece that is no Java. -/
def Cursor.leftover (c : Cursor) : Concrete :=
  (c.take c.rest.length Concrete.errorKind true).1

/-- Read a whole source as a phrase, as a piece of kind `kind`. If something is left over, it
becomes the last part of the piece, and the piece is an error. -/
def readSource {κ : Type} (grammar : κ → Phrase κ) (kind : String) (p : Phrase κ)
    (source : List Char) :
    Except Concrete Concrete :=
  let start := Cursor.ofSource source
  let broken (before : List Concrete) (c : Cursor) : Concrete :=
    .node kind true none (start.rangeTo (c.advance c.rest.length)) (before ++ [c.leftover])
  match read grammar (200 * (source.length + 1)) p start with
  | some (pieces, c) =>
    let (comments, d) := c.trivia
    if d.rest.isEmpty then .ok (.node kind true none (start.rangeTo d) (pieces ++ comments))
    else .error (broken (pieces ++ comments) d)
  | none => .error (broken [] start)

end Excerpt.Java
