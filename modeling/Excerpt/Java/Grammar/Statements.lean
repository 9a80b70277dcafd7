import Excerpt.Java.Grammar.Expressions

/-!
# Statements of Java

Statements, among them the declarations of local variables, and what stands at the top of a
source: packages, imports and modules. A source is a list of statements, so declarations of types
are statements as well, wherever they stand.

A word at the beginning tells most statements apart. What remains is either the declaration of
a variable, which begins with a type, or an expression with a semicolon, and the former is
tried first. Words that begin another statement begin no expression here, although some of them
are names elsewhere.
-/

namespace Excerpt.Java.Grammar

/-- The name of a variable, or an underscore for one that is not used. -/
def underscoreOrName : P := alt [piece "underscore_pattern" [word "_"], name]

/-- A declared name with the dimensions after it. -/
def declaredName : P :=
  seq [role "name" underscoreOrName, opt (role "dimensions" (cat .dimensions))]

/-- `a[] = b` -/
def variableDeclarator : P :=
  piece "variable_declarator" [declaredName, opt (seq [punct "=", role "value" (cat .initializer)])]

/-- Variables of one declaration, with commas between them. -/
def declarators : P := listOf (role "declarator" (cat .variableDeclarator)) ","

/-- `final A a = b, c;` -/
def localVariable : P :=
  piece "local_variable_declaration" [
    alt [
      seq [cat .modifiers, role "type" (cat (.unannotatedType .member))],
      role "type" (cat (.unannotatedType .statement))],
    declarators, punct ";"]

/-- No word that begins another statement. -/
def noStatementWord : P := .unless (alt (statementWords.map word))

/-- An expression with a semicolon. -/
def expressionStatement : P :=
  seq [noStatementWord, piece "expression_statement" [expression, punct ";"]]

/-- `throw a;` -/
def throwStatement : P := piece "throw_statement" [word "throw", expression, punct ";"]

/-- Statements in braces. -/
def block : P := piece "block" [openBrace, many (cat .statement), closeBrace]

/-- A statement that another one repeats. -/
def body : P := role "body" (cat .statement)

/-- A condition in parentheses. -/
def condition : P := role "condition" (cat .parenthesized)

/-- `catch (A | B e)` and a block -/
def catchClause : P :=
  piece "catch_clause" [word "catch", punct "(",
    piece "catch_formal_parameter" [optModifiers,
      piece "catch_type" [listOf (cat (.unannotatedType .plain)) "|"], declaredName],
    punct ")", role "body" (cat .block)]

/-- `finally` and a block -/
def finallyClause : P := piece "finally_clause" [word "finally", cat .block]

/-- A resource that is declared, or a variable that holds one. -/
def resource : P :=
  .piece "resource" (alt [
    seq [optModifiers, role "type" (cat (.unannotatedType .operand)), declaredName, punct "=",
      role "value" expression],
    .only ["identifier", "field_access"] (cat .primary)])

/-- `try` with clauses after it, or with resources before the block -/
def tryStatements : List P :=
  [piece "try_statement" [word "try", role "body" (cat .block),
     alt [seq [many catchClause, finallyClause], some1 catchClause]],
   piece "try_with_resources_statement" [word "try",
     role "resources" (piece "resource_specification" [punct "(", listOf resource ";",
       opt (punct ";"), punct ")"]),
     role "body" (cat .block), many catchClause, opt finallyClause]]

/-- The four forms of loops. -/
def loopStatements : List P :=
  [piece "while_statement" [word "while", condition, body],
   piece "do_statement" [word "do", body, word "while", condition, punct ";"],
   piece "enhanced_for_statement" [word "for", punct "(", optModifiers,
     role "type" (cat (.unannotatedType .operand)), declaredName, punct ":",
     role "value" expression, punct ")", body],
   piece "for_statement" [word "for", punct "(",
     alt [role "init" (cat .localVariable), seq [list (role "init" expression) ",", punct ";"]],
     opt (role "condition" expression), punct ";", list (role "update" expression) ",",
     punct ")", body]]

/-- Statements that leave what is around them. -/
def jumpStatements : List P :=
  [piece "break_statement" [word "break", opt name, punct ";"],
   piece "continue_statement" [word "continue", opt name, punct ";"],
   piece "return_statement" [word "return", opt expression, punct ";"],
   piece "yield_statement" [word "yield", expression, punct ";"],
   cat .throwStatement]

/-! ### Packages and modules -/

/-- `package a.b;` -/
def packageDeclaration : P :=
  piece "package_declaration" [annotations, word "package", cat .qualifiedName, punct ";"]

/-- `import static a.b.*;` -/
def importDeclaration : P :=
  piece "import_declaration" [word "import", opt (word "static"), cat .qualifiedName,
    opt (seq [punct ".", piece "asterisk" [punct "*"]]), punct ";"]

/-- A directive that opens a package to all modules or to some. -/
def packageDirective (kind keyword : String) : P :=
  piece kind [word keyword, role "package" (cat .qualifiedName),
    opt (seq [word "to", listOf (role "modules" (cat .qualifiedName)) ","]), punct ";"]

/-- `open module a.b` and directives in braces -/
def moduleDeclaration : P :=
  piece "module_declaration" [annotations, opt (word "open"), word "module",
    role "name" (cat .qualifiedName), role "body" (piece "module_body" [openBrace, many (alt [
      piece "requires_module_directive" [word "requires",
        many (seq [role "modifiers"
          (piece "requires_modifier" [alt [word "transitive", word "static"]]),
          .unless (punct ";")]),
        role "module" (cat .qualifiedName), punct ";"],
      packageDirective "exports_module_directive" "exports",
      packageDirective "opens_module_directive" "opens",
      piece "uses_module_directive" [word "uses", role "type" (cat .qualifiedName), punct ";"],
      piece "provides_module_directive" [word "provides", role "provided" (cat .qualifiedName),
        word "with", cat .qualifiedName,
        many (seq [punct ",", role "provider" (cat .qualifiedName)]), punct ";"]]),
      closeBrace])]

/-! ### All statements -/

/-- Declarations of types. -/
def typeDeclarations : List P :=
  [cat .classDeclaration, cat .interfaceDeclaration, cat .enumDeclaration, cat .recordDeclaration,
   cat .annotationTypeDeclaration]

/-- Any statement. -/
def statement : P :=
  alt ([
    cat .block,
    punct ";",
    piece "labeled_statement" [nameBut (Place.reserved .statement), punct ":", cat .statement],
    piece "if_statement" [word "if", condition, role "consequence" (cat .statement),
      opt (seq [word "else", role "alternative" (cat .statement)])]] ++
    loopStatements ++ jumpStatements ++ tryStatements ++ [
    piece "assert_statement" [word "assert", expression,
      opt (seq [punct ":", expression]), punct ";"],
    piece "synchronized_statement" [word "synchronized", cat .parenthesized,
      role "body" (cat .block)],
    packageDeclaration, importDeclaration, moduleDeclaration] ++
    typeDeclarations ++ [
    cat .localVariable,
    .grow (cat .switchExpression)
      [.mk "expression_statement" ["switch_expression"] none (punct ";")],
    cat .expressionStatement])

end Excerpt.Java.Grammar
