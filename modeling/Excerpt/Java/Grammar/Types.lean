import Excerpt.Java.Grammar.Category

/-!
# Names, annotations and types of Java

A class type grows to the right: type arguments and further parts of its name are tails of what
has been read, so that `a.B<C>.D` becomes nested pieces, the innermost of which is the first name.
Brackets come last and make an array type of any of them.

Types begin with names, and which names there are depends on the place. A type in an expression
must not begin with a word that begins an operand, and a type at the beginning of a statement must
not begin with one that begins another statement; so the phrases for types carry the place of
their first name.

The angle bracket that closes type arguments is read character by character, since two of them in
a row may look like an operator.
-/

namespace Excerpt.Java.Grammar

/-- A name, qualified or not. -/
def qualifiedName : P :=
  .grow name [.mk "scoped_identifier" [] (some "scope") (seq [punct ".", role "name" name])]

/-! ### Annotations -/

/-- `@A`, with arguments in parentheses if it has them -/
def annotationUse : P :=
  alt [
    piece "annotation" [punct "@", role "name" (cat .qualifiedName),
      role "arguments" (piece "annotation_argument_list" [punct "(",
        opt (alt [
          listOf (piece "element_value_pair" [role "key" name, punct "=",
            role "value" (cat .elementValue)]) ",",
          cat .elementValue]),
        punct ")"])],
    piece "marker_annotation" [punct "@", role "name" (cat .qualifiedName)]]

/-- A value in an annotation: an expression, another annotation, or several values in braces. -/
def elementValue : P :=
  alt [
    piece "element_value_array_initializer" [openBrace, list (cat .elementValue) ",",
      opt (punct ","), closeBrace],
    cat .annotationUse,
    expression]

/-- Annotations before a type or a name. -/
def annotations : P := many (cat .annotationUse)

/-- Annotations and modifiers of a declaration, in any order. -/
def modifiers : P :=
  piece "modifiers" [some1 (alt (cat .annotationUse :: modifierWords.map word))]

/-- Annotations and modifiers, if there are any. -/
def optModifiers : P := opt (cat .modifiers)

/-! ### Types -/

/-- A class type as it grows: type arguments and further parts of its name. -/
def classTypeTails : List (Tail Category) :=
  [.mk "generic_type" ["type_identifier", "scoped_type_identifier"] none (cat .typeArguments),
   .mk "scoped_type_identifier" [] none
     (seq [punct ".", annotations, .name "type_identifier" ["class", "new", "this", "super"]])]

/-- A type without dimensions whose first name stands at the place. -/
def simpleType (first : Place) : P :=
  alt [
    piece "void_type" [word "void"],
    piece "integral_type" [alt (["byte", "short", "int", "long", "char"].map word)],
    piece "floating_point_type" [alt (["float", "double"].map word)],
    piece "boolean_type" [word "boolean"],
    .grow (.name "type_identifier" first.reserved) classTypeTails]

/-- A type with its dimensions, but without annotations before it. -/
def unannotatedType (first : Place) : P :=
  .grow (cat (.simpleType first))
    [.mk "array_type" ["void_type", "integral_type", "floating_point_type", "boolean_type",
      "type_identifier", "scoped_type_identifier",
      "generic_type"] (some "element") (role "dimensions" (cat .dimensions))]

/-- A type whose first name stands at the place, with annotations if it has them. -/
def type (first : Place) : P :=
  alt [
    piece "annotated_type" [some1 (cat .annotationUse), cat (.unannotatedType .plain)],
    cat (.unannotatedType first)]

/-- A type where no word means anything else. -/
def plainType : P := cat (.type .plain)

/-- Pairs of brackets. -/
def dimensions : P :=
  piece "dimensions" [some1 (seq [annotations, punct "[", punct "]"])]

/-- `<A, ? extends B>`, or nothing between the angle brackets -/
def typeArguments : P :=
  piece "type_arguments" [punct "<",
    list (alt [
      piece "wildcard" [annotations, punct "?",
        opt (alt [seq [word "extends", plainType], seq [superPiece, plainType]])],
      plainType]) ",",
    .glyphs ">"]

/-- `<A, B extends C & D>` -/
def typeParameters : P :=
  piece "type_parameters" [punct "<",
    listOf (piece "type_parameter" [annotations, .name "type_identifier" [],
      opt (piece "type_bound" [word "extends", listOf plainType "&"])]) ",",
    .glyphs ">"]

/-- Types with commas between them. -/
def typeList : P := piece "type_list" [listOf plainType ","]

end Excerpt.Java.Grammar
