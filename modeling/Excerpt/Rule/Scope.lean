import Excerpt.Text.Basic
import Excerpt.Text.Lowercase
import Excerpt.Tree.Kind

/-!
# Scope tags

A scope tag stands for kinds of nodes. It is written in any case, with or without underscores,
dashes and blanks; a text is compared with the usual spelling of each tag after these are dropped
(`ScopeTag.normalized`).

Tags overlap: a construction may be that of a lock or of a thread, a call may write to a log or be
too long, and the tag for javadoc covers what those for the javadoc of types and of methods do.
Which of them it is shows only when a detector looks at the node. What a tag covers depends on the
kind of a node alone, so whether a rule is about a node can be decided before any detector is
called.

* `ScopeTag`: what kinds of nodes a rule is about.
* `ScopeTag.ofText?`: the tag that a text writes.
* `ScopeTag.covers`: the kinds of nodes that fall under a tag.
-/

namespace Excerpt

/-- What kinds of nodes a rule is about. -/
inductive ScopeTag
  | classDeclaration
  | methodDeclaration
  | variableDeclaration
  | fieldDeclaration
  | javadoc
  | classJavadoc
  | methodJavadoc
  | throwDeclaration
  | lockDeclaration
  | logDeclaration
  | longStatementDeclaration
  | threadDeclaration
  deriving DecidableEq, Repr

namespace ScopeTag

/-- The tag as it is usually written. -/
def label : ScopeTag → String
  | classDeclaration => "CLASS_DECLARATION"
  | methodDeclaration => "METHOD_DECLARATION"
  | variableDeclaration => "VARIABLE_DECLARATION"
  | fieldDeclaration => "FIELD_DECLARATION"
  | javadoc => "JAVADOC"
  | classJavadoc => "CLASS_JAVADOC"
  | methodJavadoc => "METHOD_JAVADOC"
  | throwDeclaration => "THROW_DECLARATION"
  | lockDeclaration => "LOCK_DECLARATION"
  | logDeclaration => "LOG_DECLARATION"
  | longStatementDeclaration => "LONGSTATEMENT_DECLARATION"
  | threadDeclaration => "THREAD_DECLARATION"

/-- All tags. -/
def all : List ScopeTag :=
  [classDeclaration, methodDeclaration, variableDeclaration, fieldDeclaration, javadoc,
   classJavadoc, methodJavadoc, throwDeclaration, lockDeclaration, logDeclaration,
   longStatementDeclaration, threadDeclaration]

/-- A tag without underscores, dashes and blanks, in lower case. -/
def normalized (cs : List Char) : List Char :=
  (cs.filter fun c => c != '_' && c != '-' && !Text.isBlank c).flatMap Text.lowerChar

/-- The tag that a text writes. -/
def ofText? (cs : List Char) : Option ScopeTag :=
  all.find? fun t => normalized t.label.toList == normalized cs

/-- Nodes of the kind fall under the tag. -/
def covers : ScopeTag → Kind → Bool
  | classDeclaration, .typeDecl d | classJavadoc, .typeDecl d | javadoc, .typeDecl d =>
    d.kind != .annotationType
  | methodDeclaration, .methodDecl _ | methodJavadoc, .methodDecl _ | javadoc, .methodDecl _ => true
  | variableDeclaration, .declarator _ _ => true
  | fieldDeclaration, .fieldDecl _ => true
  | throwDeclaration, .stmt (.throwStmt _) => true
  | lockDeclaration, .methodDecl _ => true
  | lockDeclaration, .stmt (.synchronized _ _) => true
  | lockDeclaration, .expr (.creation _ _) => true
  | logDeclaration, .expr (.call _ _) => true
  | longStatementDeclaration, .declarator _ _ => true
  | longStatementDeclaration, .expr (.call _ _) => true
  | threadDeclaration, .expr (.creation _ _) => true
  | threadDeclaration, .expr (.call _ _) => true
  | _, _ => false

end ScopeTag

end Excerpt
