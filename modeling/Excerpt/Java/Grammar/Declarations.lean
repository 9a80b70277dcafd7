import Excerpt.Java.Grammar.Statements

/-!
# Declarations of Java

Methods and constructors with their parameters, and the declarations of types with their bodies.
The bodies of classes, interfaces, enums and annotation types admit different members, and are
pieces of different kinds; records have class bodies.

A member begins with modifiers and a type or a name, so most alternatives read the same beginning
before one of them fails. The order of the alternatives matters where several of them match:
declarations of types come first, then fields, methods and constructors.
-/

namespace Excerpt.Java.Grammar

/-! ### Callables -/

/-- A parameter whose type begins at the given place. -/
def formalParameter (first : Place) : P :=
  alt [
    piece "spread_parameter" [optModifiers, cat (.unannotatedType first), punct "...", annotations,
      cat .variableDeclarator],
    piece "formal_parameter" [optModifiers, role "type" (cat (.unannotatedType first)),
      declaredName]]

/-- Parameters in parentheses, the first of which begins at the given place. -/
def formalParameters (first : Place) : P :=
  let receiver := piece "receiver_parameter" [annotations, cat (.unannotatedType first),
    many (seq [name, punct "."]), thisPiece]
  let parameters := seq [formalParameter first, many (seq [punct ",", formalParameter .plain])]
  .piece "formal_parameters" (alt [
    seq [punct "(", receiver, punct ")"],
    seq [punct "(", opt (seq [receiver, punct ","]), opt parameters, punct ")"]])

/-- `throws A, B` -/
def throwsClause : P := piece "throws" [word "throws", listOf plainType ","]

/-- `<T> T f(A a) throws B`, with a body or a semicolon -/
def methodDeclaration : P :=
  piece "method_declaration" [optModifiers,
    opt (seq [role "type_parameters" (cat .typeParameters), annotations]),
    role "type" (cat (.unannotatedType .member)), role "name" name,
    role "parameters" (cat (.formalParameters .plain)), opt (role "dimensions" (cat .dimensions)),
    opt (cat .throwsClause), alt [role "body" (cat .block), punct ";"]]

/-- A call of another constructor at the beginning of a constructor. -/
def constructorCall : P :=
  let typeArgs := opt (role "type_arguments" (cat .typeArguments))
  let callEnd := seq [role "arguments" (cat .arguments), punct ";"]
  .piece "explicit_constructor_invocation" (alt [
    seq [typeArgs, role "constructor" (alt [thisPiece, superPiece]), callEnd],
    seq [role "object" (cat .primary), punct ".", typeArgs,
      role "constructor" superPiece, callEnd]])

/-- `A(B b) throws C` with a body, which may begin with a call of another constructor -/
def constructorDeclaration : P :=
  piece "constructor_declaration" [optModifiers, opt (role "type_parameters" (cat .typeParameters)),
    role "name" (nameBut (Place.reserved .member)),
    role "parameters" (cat (.formalParameters .plain)), opt (cat .throwsClause),
    role "body" (piece "constructor_body" [openBrace, opt constructorCall, many (cat .statement),
      closeBrace])]

/-- The constructor of a record without a list of parameters. -/
def compactConstructor : P :=
  piece "compact_constructor_declaration" [optModifiers,
    role "name" (nameBut (Place.reserved .member)), role "body" (cat .block)]

/-! ### Types -/

/-- Type parameters, if there are any. -/
def optTypeParameters : P := opt (role "type_parameters" (cat .typeParameters))

/-- `implements A, B`, if there is one -/
def optInterfaces : P :=
  opt (role "interfaces" (piece "super_interfaces" [word "implements", typeList]))

/-- `permits A, B`, if there is one -/
def optPermits : P := opt (role "permits" (piece "permits" [word "permits", typeList]))

/-- `class A<T> extends B implements C` and a body -/
def classDeclaration : P :=
  piece "class_declaration" [optModifiers, word "class", role "name" name, optTypeParameters,
    opt (role "superclass" (piece "superclass" [word "extends", plainType])),
    optInterfaces, optPermits, role "body" (cat .classBody)]

/-- Declarators with their type, as a piece of the given kind. -/
def variableMember (kind : String) : P :=
  piece kind [optModifiers, role "type" (cat (.unannotatedType .member)), declarators, punct ";"]

/-- A member of a class, or a semicolon. -/
def classMember : P :=
  alt (typeDeclarations ++ [
    piece "static_initializer" [word "static", cat .block],
    variableMember "field_declaration",
    cat .methodDeclaration,
    constructorDeclaration,
    compactConstructor,
    cat .block,
    punct ";"])

/-- The members of a class in braces. -/
def classBody : P := piece "class_body" [openBrace, many (cat .classMember), closeBrace]

/-- `interface A extends B, C` and a body -/
def interfaceDeclaration : P :=
  piece "interface_declaration" [optModifiers, word "interface", role "name" name,
    optTypeParameters, opt (piece "extends_interfaces" [word "extends", typeList]), optPermits,
    role "body" (piece "interface_body" [openBrace,
      many (alt (typeDeclarations ++ [variableMember "constant_declaration", cat .methodDeclaration,
        punct ";"])),
      closeBrace])]

/-- A constant, with arguments and a body if it has them. -/
def enumConstant : P :=
  piece "enum_constant" [optModifiers, role "name" (nameBut modifierWords),
    opt (role "arguments" (cat .arguments)), opt (role "body" (cat .classBody))]

/-- `enum A implements B` with constants, and members after a semicolon -/
def enumDeclaration : P :=
  piece "enum_declaration" [optModifiers, word "enum", role "name" name, optInterfaces,
    role "body" (piece "enum_body" [openBrace, list enumConstant ",", opt (punct ","),
      opt (piece "enum_body_declarations" [punct ";", many (cat .classMember)]), closeBrace])]

/-- `record A(B b) implements C` and a body -/
def recordDeclaration : P :=
  piece "record_declaration" [optModifiers, word "record", role "name" name, optTypeParameters,
    role "parameters" (cat (.formalParameters .plain)), optInterfaces, role "body" (cat .classBody)]

/-- `@interface A` with elements, constants and types -/
def annotationTypeDeclaration : P :=
  piece "annotation_type_declaration" [optModifiers, punct "@interface", role "name" name,
    role "body" (piece "annotation_type_body" [openBrace,
      many (alt [
        cat .classDeclaration, cat .interfaceDeclaration, cat .enumDeclaration,
        cat .annotationTypeDeclaration, piece "annotation_type_element_declaration" [optModifiers,
          role "type" (cat (.unannotatedType .member)), role "name" name, punct "(", punct ")",
          opt (role "dimensions" (cat .dimensions)),
          opt (seq [word "default", role "value" (cat .elementValue)]), punct ";"],
        variableMember "constant_declaration",
        punct ";"]),
      closeBrace])]

end Excerpt.Java.Grammar
