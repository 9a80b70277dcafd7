import Excerpt.Tree.Kind

/-!
# Constructs

What each construct of the grammar becomes in a syntax tree. Type syntax, comments, packages and
imports are folded into the node around them or left out. A construct that has no form of its own
becomes a node with the name of the construct and the drafts of all its parts, so that nothing
inside it is lost.

The forms are a table from the names of the grammar. A construct is told by its name alone,
whatever it is made of.

* `Construct`: what a construct of the grammar becomes.
* `Construct.forms`: the constructs that have a form of their own.
* `Construct.ofKind`: the form of a construct by its name.
-/

namespace Excerpt.Java

/-- What a construct of the grammar becomes. -/
inductive Construct
  | folded
  | typeDecl (kind : TypeKind)
  | methodDecl
  | constructorDecl
  | field
  | localVariable
  | resource
  | block
  | initializer
  | enumConstant
  | annotationUse
  | statement (form : Stmt)
  | call
  | creation
  | binary
  | assignment
  | name
  | fieldAccess
  | string
  | classLiteral
  | parenthesized
  | lambda
  | arrayInitializer
  | literal
  | otherExpression
  | other
  deriving DecidableEq, Repr

namespace Construct

/-- Constructs that leave no node. -/
def foldedKinds : List String :=
  ["line_comment", "block_comment", "modifiers", "type_identifier", "scoped_type_identifier",
   "generic_type", "integral_type", "floating_point_type", "boolean_type", "void_type",
   "array_type", "annotated_type", "type_arguments", "type_parameters", "dimensions",
   "formal_parameters", "inferred_parameters", "catch_formal_parameter", "throws", "superclass",
   "super_interfaces", "extends_interfaces", "permits", "package_declaration", "import_declaration"]

/-- Literals other than strings. -/
def literalKinds : List String :=
  ["decimal_integer_literal", "hex_integer_literal", "octal_integer_literal",
   "binary_integer_literal", "decimal_floating_point_literal", "hex_floating_point_literal",
   "character_literal", "true", "false", "null_literal"]

/-- The constructs that have a form of their own. -/
def forms : List (String × Construct) :=
  [("class_declaration", .typeDecl .classType),
   ("interface_declaration", .typeDecl .interfaceType),
   ("enum_declaration", .typeDecl .enumType),
   ("record_declaration", .typeDecl .recordType),
   ("annotation_type_declaration", .typeDecl .annotationType),
   ("method_declaration", .methodDecl),
   ("annotation_type_element_declaration", .methodDecl),
   ("constructor_declaration", .constructorDecl),
   ("compact_constructor_declaration", .constructorDecl),
   ("field_declaration", .field),
   ("constant_declaration", .field),
   ("local_variable_declaration", .localVariable),
   ("resource", .resource),
   ("block", .block),
   ("constructor_body", .block),
   ("static_initializer", .initializer),
   ("enum_constant", .enumConstant),
   ("annotation", .annotationUse),
   ("marker_annotation", .annotationUse),
   ("for_statement", .statement .forLoop),
   ("enhanced_for_statement", .statement .forEach),
   ("while_statement", .statement .whileLoop),
   ("do_statement", .statement .doLoop),
   ("throw_statement", .statement (.throwStmt none)),
   ("return_statement", .statement (.returnStmt none)),
   ("synchronized_statement", .statement (.synchronized none none)),
   ("expression_statement", .statement .expression),
   ("if_statement", .statement .conditional),
   ("try_statement", .statement .tryStmt),
   ("try_with_resources_statement", .statement .tryStmt),
   ("method_invocation", .call),
   ("object_creation_expression", .creation),
   ("binary_expression", .binary),
   ("assignment_expression", .assignment),
   ("identifier", .name),
   ("field_access", .fieldAccess),
   ("string_literal", .string),
   ("text_block", .string),
   ("class_literal", .classLiteral),
   ("parenthesized_expression", .parenthesized),
   ("lambda_expression", .lambda),
   ("array_initializer", .arrayInitializer),
   ("element_value_array_initializer", .arrayInitializer),
   ("this", .otherExpression),
   ("super", .otherExpression),
   ("array_access", .otherExpression)]

/-- What a construct of the given grammar name becomes. -/
def ofKind (kind : String) : Construct :=
  if foldedKinds.contains kind then .folded
  else if literalKinds.contains kind then .literal
  else match forms.lookup kind with
    | some form => form
    | none =>
      if kind.endsWith "_statement" then .statement .other
      else if kind.endsWith "_expression" then .otherExpression
      else .other

end Construct

end Excerpt.Java
