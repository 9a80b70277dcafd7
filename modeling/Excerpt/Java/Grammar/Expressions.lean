import Excerpt.Java.Grammar.Types

/-!
# Expressions of Java

Operators bind by level: a level is the strength with which an operator holds its operands, and
`expression n` reads what is held by operators stronger than `n`. Operators of one level group to
the left, conditionals to the right. An assignment or a lambda takes everything to its right,
wherever it begins.

A parenthesis may begin a lambda, a cast or a parenthesized expression. A name in parentheses
before a sign is an operand, not a type.
-/

namespace Excerpt.Java.Grammar

/-! ### Operators -/

/-- Binary operators with their levels. -/
def binaryLevels : List (Nat × List String) :=
  [(4, ["||"]), (5, ["&&"]), (6, ["|"]), (7, ["^"]), (8, ["&"]), (9, ["==", "!="]),
   (10, ["<", ">", "<=", ">="]), (11, ["<<", ">>", ">>>"]), (12, ["+", "-"]), (13, ["*", "/", "%"])]

/-- Operators that assign to what stands on their left. -/
def assignmentOperators : List String :=
  ["=", "+=", "-=", "*=", "/=", "&=", "|=", "^=", "%=", "<<=", ">>=", ">>>="]

/-- The ways an operand goes on, with their levels. -/
def operatorTails (arrow : Bool) : List (Nat × Tail Category) :=
  binaryLevels.map (fun (level, ops) =>
    (level, .mk "binary_expression" [] (some "left")
      (seq [role "operator" (alt (ops.map punct)),
        role "right" (cat (.expression level arrow))]))) ++
  [(10, .mk "instanceof_expression" [] (some "left")
      (seq [word "instanceof", opt (word "final"),
        alt [role "pattern" (cat .recordPattern),
          seq [role "right" plainType, opt (role "name" (nameBut ["instanceof", "when"]))]]])),
   (3, .mk "ternary_expression" [] (some "condition")
      (seq [punct "?", role "consequence" expression, punct ":",
        role "alternative" (cat (.expression 2 arrow))])),
   (15, .mk "update_expression" [] none (alt [punct "++", punct "--"]))]

/-- What is held by operators stronger than the level. A lambda is among it only if an arrow may
follow. -/
def expressionAbove (above : Nat) (arrow : Bool) : P :=
  .grow (cat (.operand arrow)) (((operatorTails arrow).filter fun t => above < t.1).map Prod.snd)

/-! ### Operands -/

/-- `a -> b`, with one name, names in parentheses or parameters on the left -/
def lambda : P :=
  piece "lambda_expression" [
    role "parameters" (alt [
      nameBut operandWords,
      seq [piece "inferred_parameters" [punct "(", listOf (nameBut operandWords) ",", punct ")"],
        .ahead (punct "->")],
      cat (.formalParameters .operand)]),
    punct "->",
    role "body" (alt [cat .block, expression])]

/-- A type where an operand may stand. -/
def operandType : P := cat (.type .operand)

/-- `(A) b`, or several types with ampersands before a lambda or a primary expression -/
def castExpression (arrow : Bool) : P :=
  .piece "cast_expression" (alt [
    seq [punct "(", role "type" operandType, punct ")", role "value" (cat (.expression 14 arrow))],
    seq [punct "(", listOf (role "type" operandType) "&", punct ")",
      role "value" (alt [cat .lambda, cat .primary])]])

/-- A name in parentheses before a sign. -/
def parenthesizedNameBeforeSign : P :=
  seq [punct "(", nameBut operandWords, punct ")", alt [punct "+", punct "-"]]

/-- What stands between operators, with a sign before it or an assignment behind it. -/
def operand (arrow : Bool) : P :=
  alt ((if arrow then [cat .lambda] else []) ++ [
    cat .switchExpression,
    piece "unary_expression" [role "operator" (alt (["+", "-", "!", "~"].map punct)),
      role "operand" (cat (.expression 15 arrow))],
    piece "update_expression" [alt [punct "++", punct "--"], cat (.expression 15 arrow)],
    seq [.unless parenthesizedNameBeforeSign, castExpression arrow],
    .grow (cat .primary)
      [.mk "assignment_expression" ["identifier", "field_access", "array_access"] (some "left")
        (seq [role "operator" (alt (assignmentOperators.map punct)), role "right" expression])]])

/-- An expression in parentheses. -/
def parenthesized : P :=
  piece "parenthesized_expression" [punct "(", expression, punct ")"]

/-- Expressions in parentheses, with commas between them. -/
def arguments : P :=
  piece "argument_list" [punct "(", list expression ",", punct ")"]

/-! ### Primary expressions -/

/-- `new A(b)`, with the body of a class if it has one -/
def creation : P :=
  seq [word "new",
    alt [seq [annotations, role "type_arguments" (cat .typeArguments), annotations], annotations],
    role "type" (cat (.simpleType .plain)), role "arguments" (cat .arguments), opt (cat .classBody)]

/-- `new A[n]`, or with an initializer in braces -/
def arrayCreation : P :=
  piece "array_creation_expression" [word "new", annotations,
    role "type" (cat (.simpleType .plain)), alt [
      seq [some1 (role "dimensions"
        (piece "dimensions_expr" [annotations, punct "[", expression, punct "]"])),
        opt (role "dimensions" (cat .dimensions))],
      seq [role "dimensions" (cat .dimensions), role "value" (cat .arrayInitializer)]]]

/-- What follows the double colon of a method reference. -/
def referenceEnd : P :=
  seq [punct "::", opt (cat .typeArguments), alt [word "new", name]]

/-- A name in the middle of a primary expression. -/
def selectedName : P := nameBut ["super", "new"]

/-- What selects a member of an outer instance. -/
def optSuper : P := opt (seq [superPiece, punct "."])

/-- What a primary expression begins with. -/
def primaryBase : P :=
  alt [
    cat .stringLiteral,
    .literal,
    piece "true" [word "true"],
    piece "false" [word "false"],
    piece "null_literal" [word "null"],
    piece "class_literal" [cat (.unannotatedType .operand), punct ".", word "class"],
    seq [.unless (seq [cat .qualifiedName, punct "::"]),
      piece "method_reference" [operandType, referenceEnd]],
    piece "method_reference" [superPiece, referenceEnd],
    piece "method_invocation" [role "object" superPiece, punct ".", optSuper,
      opt (role "type_arguments" (cat .typeArguments)), role "name" selectedName,
      role "arguments" (cat .arguments)],
    piece "field_access" [role "object" superPiece, punct ".", optSuper,
      role "field" (alt [thisPiece, selectedName])],
    thisPiece,
    piece "method_invocation" [role "name" (nameBut operandWords),
      role "arguments" (cat .arguments)],
    nameBut operandWords,
    .piece "object_creation_expression" (cat .creation),
    arrayCreation,
    cat .parenthesized]

/-- A primary expression with all that is selected from it: elements, calls, fields and references
to methods. -/
def primary : P :=
  .grow primaryBase [
    .mk "array_access" [] (some "array") (seq [punct "[", role "index" expression, punct "]"]),
    .mk "method_invocation" [] (some "object")
      (seq [punct ".", optSuper, opt (role "type_arguments" (cat .typeArguments)),
        role "name" selectedName, role "arguments" (cat .arguments)]),
    .mk "object_creation_expression" [] none (seq [punct ".", cat .creation]),
    .mk "field_access" [] (some "object")
      (seq [punct ".", optSuper, role "field" (alt [thisPiece, selectedName])]),
    .mk "template_expression" [] (some "template_processor")
      (seq [punct ".", role "template_argument" (cat .stringLiteral)]),
    .mk "method_reference" [] none referenceEnd]

/-! ### Literals and initializers -/

/-- An expression inside a string, behind a backslash and in braces. -/
def interpolation : P :=
  piece "string_interpolation" [.inner "\\\x7b" (fun
      | '\\' :: '{' :: rest => some rest
      | _ => none),
    expression, closeBrace]

/-- A string or a text block, in fragments. -/
def stringLiteral : P :=
  .piece "string_literal" (alt [
    seq [.glyphs "\"\"\"",
      many (alt [.inner "multiline_string_fragment" blockFragment, interpolation,
        .inner "escape_sequence" blockEscape]),
      .inner "\"\"\"" (fun
        | '"' :: '"' :: '"' :: rest => some rest
        | _ => none)],
    seq [.unless (.glyphs "\"\"\""), .glyphs "\"",
      many (alt [.inner "string_fragment" stringFragment, interpolation,
        .inner "escape_sequence" stringEscape]),
      .inner "\"" (fun
        | '"' :: rest => some rest
        | _ => none)]])

/-- Initializers in braces, with commas between them. -/
def arrayInitializer : P :=
  piece "array_initializer" [openBrace, list (cat .initializer) ",", opt (punct ","), closeBrace]

/-- What a variable may begin with. -/
def initializer : P := alt [cat .arrayInitializer, expression]

/-! ### Switches and patterns -/

/-- An expression that ends before an arrow. -/
def labelExpression : P := cat (.expression 0 false)

/-- `A(B b, var c)` as a pattern -/
def recordPattern : P :=
  piece "record_pattern" [
    alt [.only ["generic_type"] (.grow (.name "type_identifier" primitiveWords) classTypeTails),
      nameBut primitiveWords],
    piece "record_pattern_body" [punct "(",
      list (alt [
        cat .recordPattern,
        .piece "record_pattern_component" (alt [
          seq [cat (.unannotatedType .plain), name],
          piece "underscore_pattern" [word "_"]])]) ",",
      punct ")"]]

/-- `case` with a pattern or expressions, or `default` -/
def switchLabel : P :=
  .piece "switch_label" (alt [
    seq [word "case",
      alt [
        seq [.piece "pattern" (alt [
            cat .recordPattern,
            piece "type_pattern" [cat (.unannotatedType .operand), nameBut operandWords]]),
          .ahead (alt [word "when", punct ":", punct "->"])],
        listOf labelExpression ","],
      opt (piece "guard" [word "when", labelExpression])],
    word "default"])

/-- `switch (a)` with groups of statements behind colons, or with rules behind arrows -/
def switchExpression : P :=
  piece "switch_expression" [word "switch", role "condition" (cat .parenthesized),
    role "body" (.piece "switch_block" (alt [
      seq [openBrace,
        many (piece "switch_block_statement_group" [switchLabel, punct ":", many (cat .statement)]),
        closeBrace],
      seq [openBrace,
        many (piece "switch_rule" [switchLabel, punct "->",
          alt [cat .throwStatement, cat .block, cat .expressionStatement]]),
        closeBrace]]))]

end Excerpt.Java.Grammar
