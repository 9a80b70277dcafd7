import Excerpt.Java.Phrase

/-!
# Categories of the Java grammar

The constructs that refer to each other, and the short hands in which their phrases are written. A
construct that others refer to is a category, and its phrase is found by the category; all other
constructs are written out where they occur.

Where a name may stand, those words are reserved that mean something else at this place: a word
such as `open` is a keyword at the beginning of a statement and a name elsewhere. A category that
begins with a name therefore carries the place of this name.

Expressions carry the level of the operators that hold them, and whether an arrow may follow. The
label of a case ends before an arrow, so there a name before an arrow is no lambda.

* `Place`, `Place.reserved`: where a name stands, and which words are no names there.
* `Category`: the categories.
* `Grammar.P` and the functions after it: phrases, as they are written in the grammar.
-/

namespace Excerpt.Java

/-- Where a name stands. -/
inductive Place
  | plain
  | member
  | statement
  | operand
  deriving DecidableEq, Repr

/-- The categories of the grammar. -/
inductive Category
  | qualifiedName
  | annotationUse
  | elementValue
  | modifiers
  | simpleType (first : Place)
  | unannotatedType (first : Place)
  | type (first : Place)
  | typeArguments
  | typeParameters
  | dimensions
  | expression (above : Nat) (arrow : Bool)
  | operand (arrow : Bool)
  | primary
  | creation
  | lambda
  | arguments
  | stringLiteral
  | arrayInitializer
  | initializer
  | parenthesized
  | switchExpression
  | recordPattern
  | statement
  | block
  | localVariable
  | expressionStatement
  | throwStatement
  | variableDeclarator
  | formalParameters (first : Place)
  | classDeclaration
  | interfaceDeclaration
  | enumDeclaration
  | recordDeclaration
  | annotationTypeDeclaration
  | methodDeclaration
  | classBody
  | classMember
  | throwsClause
  deriving DecidableEq, Repr

/-! ### Words -/

/-- The types that are words of the language. -/
def primitiveWords : List String :=
  ["byte", "short", "int", "long", "char", "float", "double", "boolean", "void"]

/-- Words that begin an operand or continue one, and are not its name. -/
def operandWords : List String :=
  primitiveWords ++ ["true", "false", "null", "this", "super", "new", "switch", "instanceof"]

/-- Modifiers of declarations. -/
def modifierWords : List String :=
  ["public", "protected", "private", "abstract", "static", "final", "strictfp", "default",
   "synchronized", "native", "transient", "volatile", "sealed", "non-sealed"]

/-- Words that begin a statement other than an expression. -/
def statementWords : List String :=
  ["assert", "if", "while", "for", "do", "break", "continue", "return", "throw", "try", "class",
   "interface", "enum", "import", "package", "case", "public", "protected", "private", "abstract",
   "static", "final", "strictfp", "default", "synchronized", "native", "transient", "volatile"]

/-- Names that are keywords where a statement begins. -/
def softWords : List String :=
  ["open", "module", "record", "with", "sealed", "yield"]

/-- The words that are no names at the place. -/
def Place.reserved : Place → List String
  | plain => primitiveWords
  | member => primitiveWords ++ modifierWords ++ ["class", "interface", "enum", "record"]
  | statement => operandWords ++ statementWords ++ softWords
  | operand => operandWords ++ softWords

/-! ### Short hands -/

namespace Grammar

/-- A phrase of the Java grammar. -/
abbrev P := Phrase Category

/-- A token of the given characters. -/
def punct (s : String) : P := .punct s

/-- A keyword. -/
def word (s : String) : P := .word s

/-- Phrases one after the other. -/
def seq (ps : List P) : P := .seq ps

/-- The first of the phrases that matches. -/
def alt (ps : List P) : P := .alt ps

/-- A phrase or nothing. -/
def opt (p : P) : P := .opt p

/-- Zero or more. -/
def many (p : P) : P := .many p

/-- A construct of the category. -/
def cat (c : Category) : P := .cat c

/-- A phrase whose pieces play a role in what is around them. -/
def role (field : String) (p : P) : P := .role field p

/-- Phrases whose pieces become one piece of the given kind. -/
def piece (kind : String) (ps : List P) : P := .piece kind (.seq ps)

/-- One or more. -/
def some1 (p : P) : P := .seq [p, .many p]

/-- One or more, separated by a token. -/
def listOf (p : P) (sep : String) : P := .seq [p, .many (.seq [punct sep, p])]

/-- Zero or more, separated by a token. -/
def list (p : P) (sep : String) : P := .opt (listOf p sep)

/-- A name where the given words mean something else. -/
def nameBut (reserved : List String) : P := .name "identifier" reserved

/-- A name where no word means anything else. -/
def name : P := nameBut []

/-- An opening brace. -/
def openBrace : P := .punct "\x7b"

/-- A closing brace. -/
def closeBrace : P := .punct "\x7d"

/-- The word `this` as a piece of its own. -/
def thisPiece : P := piece "this" [word "this"]

/-- The word `super` as a piece of its own. -/
def superPiece : P := piece "super" [word "super"]

/-- Any expression. -/
def expression : P := cat (.expression 0 true)

end Grammar

end Excerpt.Java
