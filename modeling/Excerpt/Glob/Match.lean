import Excerpt.Glob.Pattern

/-!
# Matching of paths

A pattern is matched against the bytes of a path and has to cover all of them. A pattern that is
nothing but leading components matches every path.

Tokens are matched with a continuation: `Token.meets k` says that a token matches some first bytes
and that what follows them satisfies `k`, so that the tokens of a pattern are matched from left to
right without taking the path apart beforehand. A branch of a group that stands for nothing is
dropped, and a group without any other branch stands for nothing itself (`Token.isVoid`). This
goes through all levels of nesting: the first branch of `{{},a}` is a group whose only branch is
empty, so it is dropped, and only `a` is matched.

The rest of the program does not depend on these patterns. It asks a `PathPatterns` which texts
are patterns and which paths they match, and the patterns of this module are the instance that it
is run with.
-/

namespace Excerpt

namespace Glob

/-- The bytes of a text. -/
def bytesOf (s : String) : List UInt8 :=
  s.toUTF8.toList

/-- The byte of the separator. -/
def slash : UInt8 := 47

/-- Some suffix of the bytes satisfies `k`. -/
def anySuffix (k : List UInt8 → Bool) : List UInt8 → Bool
  | [] => k []
  | b :: bs => k (b :: bs) || anySuffix k bs

/-- What follows some separator satisfies `k`. -/
def afterSlash (k : List UInt8 → Bool) : List UInt8 → Bool
  | [] => false
  | b :: bs => (b == slash && k bs) || afterSlash k bs

/-- What follows `p` satisfies `k`, if the bytes begin with it. -/
def afterBytes (p : List UInt8) (k : List UInt8 → Bool) (bs : List UInt8) : Bool :=
  p.isPrefixOf bs && k (bs.drop p.length)

/-- The byte ranges of a class. Of characters with several bytes, each byte is a member, and a
range goes from the last byte of its first character to the first byte of its last one. -/
def byteRanges (ranges : List (Char × Char)) : List (UInt8 × UInt8) :=
  ranges.flatMap fun (a, b) =>
    let first := bytesOf a.toString
    if a = b then first.map fun x => (x, x)
    else
      let last := bytesOf b.toString
      first.dropLast.map (fun x => (x, x)) ++
        [(first.getLastD 0, last.headD 0)] ++ last.tail.map (fun x => (x, x))

/-- The byte is in the class. -/
def classHas (negated : Bool) (ranges : List (Char × Char)) (b : UInt8) : Bool :=
  negated != (byteRanges ranges).any fun (x, y) => x ≤ b && b ≤ y

mutual

/-- A token that stands for nothing: a group without a branch that stands for something. -/
def Token.isVoid : Token → Bool
  | .alternatives branches => allVoid branches
  | _ => false

/-- All branches stand for nothing. -/
def allVoid : List (List Token) → Bool
  | [] => true
  | branch :: branches => areVoid branch && allVoid branches

/-- All tokens stand for nothing. -/
def areVoid : List Token → Bool
  | [] => true
  | t :: ts => t.isVoid && areVoid ts

end

mutual

/-- A token matches some first bytes, and what follows them satisfies `k`. -/
def Token.meets (k : List UInt8 → Bool) : Token → List UInt8 → Bool
  | .literal c, bs => afterBytes (bytesOf c.toString) k bs
  | .any, bs =>
    match bs with
    | [] => false
    | _ :: bs => k bs
  | .many, bs => anySuffix k bs
  | .leading, bs => k bs || afterSlash k bs
  | .trailing, bs =>
    match bs with
    | [] => false
    | b :: bs => b == slash && anySuffix k bs
  | .between, bs =>
    match bs with
    | [] => false
    | b :: bs => b == slash && (k bs || afterSlash k bs)
  | .oneOf negated ranges, bs =>
    match bs with
    | [] => false
    | b :: bs => classHas negated ranges b && k bs
  | .alternatives branches, bs =>
    if allVoid branches then k bs else anyMeets k branches bs

/-- The tokens match some first bytes, and what follows them satisfies `k`. -/
def allMeet (k : List UInt8 → Bool) : List Token → List UInt8 → Bool
  | [], bs => k bs
  | t :: ts, bs => t.meets (allMeet k ts) bs

/-- Some branch that stands for something matches some first bytes, and what follows them
satisfies `k`. -/
def anyMeets (k : List UInt8 → Bool) : List (List Token) → List UInt8 → Bool
  | [], _ => false
  | branch :: branches, bs => (!areVoid branch && allMeet k branch bs) || anyMeets k branches bs

end

/-- The tokens of a pattern match all bytes of a path. -/
def covers (tokens : List Token) (path : String) : Bool :=
  match tokens with
  | [.leading] => true
  | _ => allMeet List.isEmpty tokens (bytesOf path)

end Glob

/-- A notation for patterns of paths: whether a text is a pattern, and which paths the pattern
matches. -/
class PathPatterns where
  compile (pattern : String) : Except Glob.Fault (String → Bool)

/-- The patterns of this module. -/
instance Glob.pathPatterns : PathPatterns where
  compile pattern := (Glob.parse pattern.toList).map Glob.covers

end Excerpt
