import Excerpt.Detect.Basic
import Excerpt.Rule.Settings

/-!
# Long statements

Two things are reported of variables and calls inside a method or constructor: that they are too
long for one line, and that the left operand of an argument ends before the last line of the
argument. The two are found independently of each other, and the first one comes first.

A variable or call inside a longer one would be reported for the same line again. If only the
outermost are to be reported, the way up from a node is searched for candidates that are too long,
up to the end of the statement (`hasLongAncestor`). Blocks, statements, types and callables end
the search, since they are laid out on lines of their own.

* `LongStatement`: what is too long, and which breaks are reported.
* `LongStatement.lengthFindings`, `LongStatement.argumentFindings`: the two things.
* `LongStatement.detector`: the detector.
-/

namespace Excerpt.Detect

/-- What is too long, and which breaks are reported. -/
structure LongStatement where
  maxLength : Nat
  continuation : Continuation := .anyBreak
  /-- Of things inside each other, report only the outermost. -/
  outermostOnly : Bool := true
  deriving DecidableEq, Repr

namespace LongStatement

/-- The settings for long statements, with their defaults. -/
def ofSettings (s : LongStatementSettings) : LongStatement :=
  ⟨s.maxLength, s.continuation, s.outermostOnly⟩

variable (d : LongStatement)

/-- A variable or a call. -/
def isCandidate : Kind → Bool
  | .declarator _ _ | .expr (.call _ _) => true
  | _ => false

/-- What ends the search for longer things around a node. -/
def isBarrier (k : Kind) : Bool :=
  k.isStatement || k.isBlock || k.isCallable || k.isType

/-- The node has one line, and it is too long. -/
def isTooLong (t : SyntaxTree) (i : NodeId) : Bool :=
  (t.node i).span.any Span.isSingleLine && d.maxLength < (t.textChars i).length

/-- A candidate that is too long. -/
def isLongCandidate (t : SyntaxTree) (i : NodeId) : Bool :=
  isCandidate (t.kind i) && d.isTooLong t i

/-- In the same statement, around the node, there is a candidate that is too long. -/
def hasLongAncestor (t : SyntaxTree) (i : NodeId) : Bool :=
  ((t.ancestors i).takeWhile fun a => !isBarrier (t.kind a)).any (d.isLongCandidate t)

/-- The finding for a node that is too long. -/
def lengthFindings (cx : Context) (signature : String) : List Finding :=
  if d.isTooLong cx.tree cx.node && !(d.outermostOnly && d.hasLongAncestor cx.tree cx.node) then
    [⟨cx.line, cx.trimmedText, signature⟩]
  else []

/-- The break between the operands of an argument is reported. -/
def reportsBreak (arg left : Span) (opLine : Option Nat) : Bool :=
  !arg.isSingleLine && left.endLine < arg.endLine &&
    (d.continuation == .anyBreak || opLine == some left.endLine)

/-- The finding for an argument that is broken. -/
def argumentFindings (cx : Context) (signature : String) (arg : NodeId) :
    Option (List Finding) := do
  let t := cx.tree
  match t.kind (← t.follow arg) with
  | .expr (.binary _ opLine left _) =>
    match (t.node arg).span, (t.node (← t.follow left)).span with
    | some argSpan, some leftSpan =>
      if d.reportsBreak argSpan leftSpan opLine then
        return [⟨leftSpan.endLine, cx.trimmedText, signature⟩]
      else return []
    | _, _ => return []
  | _ => return []

/-- The arguments of a call. -/
def argumentsOf : Kind → List NodeId
  | .expr (.call _ args) => args
  | _ => []

/-- Statements and calls that are too long for a line, and calls with an argument that is broken. -/
def detector : Detector := .searching "long-statement" fun cx =>
  match (if isCandidate cx.kind then cx.tree.enclosingCallable? cx.node else none) with
  | some callable => do
    let signature := Signature.ofCallable cx.tree callable
    let broken ← gather (argumentsOf cx.kind) (d.argumentFindings cx signature)
    return d.lengthFindings cx signature ++ broken
  | none => some []

end LongStatement

end Excerpt.Detect
