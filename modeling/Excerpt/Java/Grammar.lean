import Excerpt.Java.Grammar.Declarations

/-!
# The Java grammar

The phrase of each category. A compilation unit is a list of statements and methods, so that a
source may hold statements outside of any class.

A source is read up to the first statement that is no Java. What is left then is an error for
`Concrete.ofSource`, which says how far it came, and one fault for `Concrete.recovered`, which
gives concrete syntax of any source.

* `Grammar.phrase`: the grammar.
* `Concrete.ofSource`: the concrete syntax of a source that is Java.
* `Concrete.recovered`: the concrete syntax of any source.
-/

namespace Excerpt.Java

/-- The phrase of a category. -/
def Grammar.phrase : Category → Phrase Category
  | .qualifiedName => qualifiedName
  | .annotationUse => annotationUse
  | .elementValue => elementValue
  | .modifiers => modifiers
  | .simpleType first => simpleType first
  | .unannotatedType first => unannotatedType first
  | .type first => type first
  | .typeArguments => typeArguments
  | .typeParameters => typeParameters
  | .dimensions => dimensions
  | .expression above arrow => expressionAbove above arrow
  | .operand arrow => operand arrow
  | .primary => primary
  | .creation => creation
  | .lambda => lambda
  | .arguments => arguments
  | .stringLiteral => stringLiteral
  | .arrayInitializer => arrayInitializer
  | .initializer => initializer
  | .parenthesized => parenthesized
  | .switchExpression => switchExpression
  | .recordPattern => recordPattern
  | .statement => statement
  | .block => block
  | .localVariable => localVariable
  | .expressionStatement => expressionStatement
  | .throwStatement => throwStatement
  | .variableDeclarator => variableDeclarator
  | .formalParameters first => formalParameters first
  | .classDeclaration => classDeclaration
  | .interfaceDeclaration => interfaceDeclaration
  | .enumDeclaration => enumDeclaration
  | .recordDeclaration => recordDeclaration
  | .annotationTypeDeclaration => annotationTypeDeclaration
  | .methodDeclaration => methodDeclaration
  | .classBody => classBody
  | .classMember => classMember
  | .throwsClause => throwsClause

/-- The concrete syntax of a source. A source that is no Java is an error, with the
concrete syntax of as much as can be read. -/
def Concrete.ofSource (source : List Char) : Except Concrete Concrete :=
  readSource Grammar.phrase "program"
    (.many (.alt [.cat .statement, .cat .methodDeclaration])) source

/-- The concrete syntax of any source. The first statement that is no Java, and all that follows
it, is one fault. -/
def Concrete.recovered (source : List Char) : Concrete :=
  match ofSource source with
  | .ok c => c
  | .error c => c

end Excerpt.Java
