import Excerpt.Java.Parse
import Mathlib.Data.List.Basic

/-!
# Lowering to the full depth

`lower` goes down as many levels as it is told. This module says that a bound is never felt:
`lowered`, which lowers a piece to its full depth, satisfies the recursion that `lower` cuts off
(`lowered_eq`). All later results about lowering start from this equation and do not mention
bounds.

Every construct asks only for drafts of pieces that are less deep than itself, so two lowerings
that agree on those agree on the construct (`Lowering.draft_congr`). There is one lemma for each
construct; the reason is always that what it asks for is a part of it, or a part of a part.
Members of a body are an exception: they may lie several levels below it
(`depth_lt_of_mem_membersIn`).

From this it follows by induction on the bound that two bounds which are at least the depth of a
piece give the same draft (`lower_congr`).

## Main results

* `Lowering.draft_congr`: a construct depends on less deep pieces only.
* `lower_of_depth_le`: a bound that is at least the depth of a piece does not matter.
* `lowered_eq`: the recursion without a bound.
* `treeOf_eq`: the tree of concrete syntax leaves nothing out.
-/

namespace Excerpt.Java

/-! ### Depths of parts -/

/-- No piece of a list is deeper than the list. -/
private theorem Concrete.depth_le_depths {c : Concrete} {cs : List Concrete} (hc : c ∈ cs) :
    c.depth ≤ depth.depths cs := by
  induction cs with
  | nil => simp at hc
  | cons d cs ih =>
    rw [depth.depths]
    rcases List.mem_cons.mp hc with rfl | hc
    · exact Nat.le_max_left _ _
    · exact Nat.le_trans (ih hc) (Nat.le_max_right _ _)

/-- The pieces that a piece is made of are less deep than the piece. -/
private theorem Concrete.depth_lt_of_mem_children {c d : Concrete} (hc : c ∈ d.children) :
    c.depth < d.depth := by
  cases d with
  | node kind named field range cs missing =>
    rw [depth]
    exact Nat.lt_succ_of_le (depth_le_depths hc)

/-- A piece is one level deep at least, so that a bound of its depth allows for lowering it. -/
private theorem Concrete.depth_ne_zero (c : Concrete) : c.depth ≠ 0 := by
  cases c with
  | node kind named field range cs missing =>
    rw [depth]
    exact Nat.succ_ne_zero _

namespace Focus

variable {f g : Focus}

/-- The pieces along a list are those of the list. -/
theorem piece_mem_of_mem_along {before cs : List Concrete} (hg : g ∈ along before cs) :
    g.piece ∈ cs := by
  induction cs generalizing before with
  | nil => cases hg
  | cons c cs ih =>
    rcases List.mem_cons.mp hg with rfl | hg
    · exact List.mem_cons_self
    · exact List.mem_cons_of_mem c (ih hg)

/-- Parts are less deep than the whole. -/
theorem depth_lt_of_mem_parts (hg : g ∈ f.parts) : g.piece.depth < f.piece.depth :=
  Concrete.depth_lt_of_mem_children (piece_mem_of_mem_along hg)

private theorem depth_lt_of_mem_namedParts (hg : g ∈ f.namedParts) :
    g.piece.depth < f.piece.depth :=
  depth_lt_of_mem_parts (List.mem_of_mem_filter hg)

private theorem depth_lt_of_partIn? {field : String} (hg : f.partIn? field = some g) :
    g.piece.depth < f.piece.depth :=
  depth_lt_of_mem_parts (List.mem_of_find?_eq_some hg)

end Focus

namespace Lowering

/-- Modifiers are parts of a part, two levels below the declaration. -/
private theorem depth_lt_of_mem_modifierParts {f g : Focus} (hg : g ∈ modifierParts f) :
    g.piece.depth < f.piece.depth := by
  rw [modifierParts] at hg
  split at hg
  · next m hm =>
    exact Nat.lt_trans (Focus.depth_lt_of_mem_parts hg)
      (Focus.depth_lt_of_mem_parts (List.mem_of_find?_eq_some hm))
  · cases hg

mutual

/-- A member may lie several levels below the body that it belongs to. -/
theorem depth_lt_of_mem_membersIn {g : Focus} :
    (c : Concrete) → g ∈ membersIn c → g.piece.depth < c.depth
  | .node _ _ _ _ cs _, hg => by
    rw [membersIn] at hg
    rw [Concrete.depth]
    exact Nat.lt_succ_of_le (depth_le_of_mem_membersAmong cs hg)

/-- A member among pieces is no deeper than these. It is one of them, or a member of what follows
the constants of an enum. -/
private theorem depth_le_of_mem_membersAmong {g : Focus} {before : List Concrete} :
    (cs : List Concrete) →
    g ∈ membersAmong before cs → g.piece.depth ≤ Concrete.depth.depths cs
  | [], hg => by simp [membersAmong] at hg
  | c :: cs, hg => by
    rw [membersAmong, List.mem_append] at hg
    rw [Concrete.depth.depths]
    rcases hg with hg | hg
    · refine Nat.le_trans ?_ (Nat.le_max_left _ _)
      split at hg
      · cases hg
      · split at hg
        · exact Nat.le_of_lt (depth_lt_of_mem_membersIn c hg)
        · rw [List.mem_singleton] at hg
          exact Nat.le_of_eq (congrArg (fun g : Focus => g.piece.depth) hg)
    · exact Nat.le_trans (depth_le_of_mem_membersAmong cs hg) (Nat.le_max_right _ _)

end

/-! ### Constructs -/

section

variable {source : List Char} {below below' : Focus → Option Draft} {f : Focus}
  (h : ∀ g : Focus, g.piece.depth < f.piece.depth → below g = below' g)

include h

/-- The drafts of pieces that are less deep than the construct. -/
private theorem each_congr {fs : List Focus} (hfs : ∀ g ∈ fs, g.piece.depth < f.piece.depth) :
    each ⟨source, below⟩ fs = each ⟨source, below'⟩ fs :=
  List.filterMap_congr fun g hg => h g (hfs g hg)

private theorem each_namedParts_congr :
    each ⟨source, below⟩ f.namedParts = each ⟨source, below'⟩ f.namedParts :=
  each_congr h fun _ => Focus.depth_lt_of_mem_namedParts

private theorem bind_partIn?_congr (field : String) :
    (f.partIn? field).bind below = (f.partIn? field).bind below' := by
  cases hg : f.partIn? field with
  | none => rfl
  | some g => exact h g (Focus.depth_lt_of_partIn? hg)

private theorem whole_congr (kind : Kind) :
    whole ⟨source, below⟩ f kind = whole ⟨source, below'⟩ f kind := by
  rw [whole, whole, each_namedParts_congr h]

private theorem annotationsOf_congr :
    annotationsOf ⟨source, below⟩ f = annotationsOf ⟨source, below'⟩ f :=
  each_congr h fun _ hg => depth_lt_of_mem_modifierParts (List.mem_of_mem_filter hg)

/-- The members of a body inside the construct. -/
theorem membersOf_congr {body : Focus} (hbody : body.piece.depth < f.piece.depth) :
    membersOf ⟨source, below⟩ body = membersOf ⟨source, below'⟩ body := by
  refine List.flatMap_congr fun m hm => ?_
  have hm' : below m = below' m :=
    h m (Nat.lt_trans (depth_lt_of_mem_membersIn body.piece hm) hbody)
  simp only [hm']

private theorem typeDecl_congr (kind : TypeKind) :
    typeDecl ⟨source, below⟩ f kind = typeDecl ⟨source, below'⟩ f kind := by
  simp only [typeDecl, annotationsOf_congr h]
  cases hbody : f.partIn? "body" with
  | none => rfl
  | some body =>
    dsimp only
    rw [membersOf_congr h (Focus.depth_lt_of_partIn? hbody)]
    rfl

private theorem callable_congr (make : CallableDecl → Kind) (returnType : Option String) :
    callable ⟨source, below⟩ f make returnType = callable ⟨source, below'⟩ f make returnType := by
  simp only [callable, annotationsOf_congr h, bind_partIn?_congr h]
  -- what is left are texts, which only the source decides about
  rfl

private theorem variableOf_congr (type : String) :
    variableOf ⟨source, below⟩ f type = variableOf ⟨source, below'⟩ f type := by
  simp only [variableOf, bind_partIn?_congr h]
  rfl

private theorem variablesOf_congr :
    variablesOf ⟨source, below⟩ f = variablesOf ⟨source, below'⟩ f := by
  refine List.map_congr_left fun d hd => ?_
  have hlt : d.piece.depth < f.piece.depth :=
    Focus.depth_lt_of_mem_parts (List.mem_of_mem_filter hd)
  exact variableOf_congr (fun g hg => h g (Nat.lt_trans hg hlt)) _

private theorem fieldDecl_congr : fieldDecl ⟨source, below⟩ f = fieldDecl ⟨source, below'⟩ f := by
  simp only [fieldDecl, annotationsOf_congr h, variablesOf_congr h]
  rfl

private theorem enumConstant_congr :
    enumConstant ⟨source, below⟩ f = enumConstant ⟨source, below'⟩ f := by
  simp only [enumConstant, each_namedParts_congr h]
  rfl

omit h in
/-- The arguments of an annotation are parts of the list of its arguments. -/
private theorem depth_lt_of_mem_annotationValues {g : Focus} (hg : g ∈ annotationValues f) :
    g.piece.depth < f.piece.depth := by
  rw [annotationValues] at hg
  split at hg
  · next list hlist =>
    have hpart := Focus.depth_lt_of_mem_namedParts (List.mem_of_mem_filter hg)
    exact Nat.lt_trans hpart (Focus.depth_lt_of_partIn? hlist)
  · cases hg

/-- Values that are given by name lie one level below the pairs that they are in. -/
private theorem namedValues_congr {fs : List Focus}
    (hfs : ∀ g ∈ fs, g.piece.depth < f.piece.depth) :
    namedValues ⟨source, below⟩ fs = namedValues ⟨source, below'⟩ fs := by
  refine List.filterMap_congr fun p hp => ?_
  have hvalue := bind_partIn?_congr (fun g hg => h g (Nat.lt_trans hg (hfs p hp))) "value"
  rw [hvalue]
  rfl

private theorem annotationUse_congr :
    annotationUse ⟨source, below⟩ f = annotationUse ⟨source, below'⟩ f := by
  have hvalues : ∀ g ∈ annotationValues f, g.piece.depth < f.piece.depth := fun _ =>
    depth_lt_of_mem_annotationValues
  have hfirst : (annotationValues f).head?.bind below = (annotationValues f).head?.bind below' := by
    cases hhead : (annotationValues f).head? with
    | none => rfl
    | some g => exact h g (hvalues g (List.mem_of_head? hhead))
  simp only [annotationUse, namedValues_congr h hvalues, hfirst]
  rfl

private theorem forEach_congr : forEach ⟨source, below⟩ f = forEach ⟨source, below'⟩ f := by
  simp only [forEach, bind_partIn?_congr h]
  rfl

/-- A part of the construct; between parentheses, the lock is a part of that part. -/
theorem hold_congr (held : Held) {part : Focus} (hpart : part.piece.depth < f.piece.depth) :
    hold ⟨source, below⟩ held part = hold ⟨source, below'⟩ held part := by
  simp only [hold, h part hpart]
  split
  · split
    · next inner hinner =>
      have hlt := Focus.depth_lt_of_mem_namedParts (List.mem_of_find?_eq_some hinner)
      rw [h inner (Nat.lt_trans hlt hpart)]
    · rfl
  · rfl

/-- All parts of a statement that holds a lock, one after the other. -/
private theorem foldl_hold_congr {parts : List Focus}
    (hparts : ∀ g ∈ parts, g.piece.depth < f.piece.depth) (held : Held) :
    parts.foldl (hold ⟨source, below⟩) held = parts.foldl (hold ⟨source, below'⟩) held := by
  induction parts generalizing held with
  | nil => rfl
  | cons part parts ih =>
    rw [List.foldl_cons, List.foldl_cons, hold_congr h held (hparts part List.mem_cons_self)]
    exact ih (fun g hg => hparts g (List.mem_cons_of_mem part hg)) _

private theorem synchronized_congr :
    synchronized ⟨source, below⟩ f = synchronized ⟨source, below'⟩ f := by
  rw [synchronized, foldl_hold_congr h fun _ => Focus.depth_lt_of_mem_namedParts]
  rfl

private theorem statement_congr (form : Stmt) :
    statement ⟨source, below⟩ f form = statement ⟨source, below'⟩ f form := by
  cases form with
  | forEach => exact forEach_congr h
  | synchronized lock body => exact synchronized_congr h
  | throwStmt e => simp only [statement, each_namedParts_congr h]
  | returnStmt e => simp only [statement, each_namedParts_congr h]
  | _ => exact whole_congr h _

private theorem argumentsOf_congr :
    argumentsOf ⟨source, below⟩ f = argumentsOf ⟨source, below'⟩ f := by
  rw [argumentsOf, argumentsOf]
  split
  · next list hlist =>
    have hlt := Focus.depth_lt_of_partIn? hlist
    exact each_congr h fun _ hg => Nat.lt_trans (Focus.depth_lt_of_mem_namedParts hg) hlt
  · rfl

private theorem call_congr : call ⟨source, below⟩ f = call ⟨source, below'⟩ f := by
  simp only [call, argumentsOf_congr h, bind_partIn?_congr h]
  rfl

private theorem creation_congr : creation ⟨source, below⟩ f = creation ⟨source, below'⟩ f := by
  have hmembers : (f.namedParts.filter (·.kind == "class_body")).flatMap
      (membersOf ⟨source, below⟩) =
      (f.namedParts.filter (·.kind == "class_body")).flatMap (membersOf ⟨source, below'⟩) :=
    List.flatMap_congr fun g hg =>
      membersOf_congr h (Focus.depth_lt_of_mem_namedParts (List.mem_of_mem_filter hg))
  simp only [creation, argumentsOf_congr h, hmembers]
  rfl

private theorem infixed_congr (make : String → Option Nat → Expr) :
    infixed ⟨source, below⟩ f make = infixed ⟨source, below'⟩ f make := by
  simp only [infixed, bind_partIn?_congr h]
  rfl

private theorem fieldAccess_congr :
    fieldAccess ⟨source, below⟩ f = fieldAccess ⟨source, below'⟩ f := by
  simp only [fieldAccess, bind_partIn?_congr h]
  rfl

private theorem parenthesized_congr :
    parenthesized ⟨source, below⟩ f = parenthesized ⟨source, below'⟩ f := by
  simp only [parenthesized, each_namedParts_congr h]

/-- A construct depends on the drafts of less deep pieces only. -/
theorem draft_congr : draft ⟨source, below⟩ f = draft ⟨source, below'⟩ f := by
  rw [draft, draft]
  cases Construct.ofKind f.kind
  case typeDecl kind => exact congrArg some (typeDecl_congr h kind)
  case methodDecl => exact congrArg some (callable_congr h _ _)
  case constructorDecl => exact congrArg some (callable_congr h _ _)
  case field => exact congrArg some (fieldDecl_congr h)
  case localVariable => simp only [variablesOf_congr h]
  case resource =>
    have htype : textIn? ⟨source, below⟩ f "type" = textIn? ⟨source, below'⟩ f "type" := rfl
    simp only [htype, variableOf_congr h, whole_congr h]
  case enumConstant => exact congrArg some (enumConstant_congr h)
  case annotationUse => exact congrArg some (annotationUse_congr h)
  case statement form => exact congrArg some (statement_congr h form)
  case call => exact congrArg some (call_congr h)
  case creation => exact congrArg some (creation_congr h)
  case binary => exact congrArg some (infixed_congr h _)
  case assignment => exact congrArg some (infixed_congr h _)
  case fieldAccess => exact congrArg some (fieldAccess_congr h)
  case parenthesized => exact congrArg some (parenthesized_congr h)
  case lambda => simp only [bind_partIn?_congr h]
  case block | initializer | arrayInitializer | otherExpression | other =>
    exact congrArg some (whole_congr h _)
  case folded | name | string | classLiteral | literal => rfl

end

end Lowering

/-! ### The bound -/

/-- Two bounds that are at least the depth of a piece give the same draft. -/
theorem lower_congr (source : List Char) {m n : Nat} {f : Focus} (hm : f.piece.depth ≤ m)
    (hn : f.piece.depth ≤ n) :
    lower source m f = lower source n f := by
  induction m generalizing n f with
  | zero => exact absurd (Nat.le_zero.mp hm) (Concrete.depth_ne_zero f.piece)
  | succ m ih =>
    cases n with
    | zero => exact absurd (Nat.le_zero.mp hn) (Concrete.depth_ne_zero f.piece)
    | succ n =>
      rw [lower, lower]
      exact Lowering.draft_congr fun g hg => ih (by omega) (by omega)

/-- The draft of a construct that is lowered as deep as it is. -/
def lowered (source : List Char) (f : Focus) : Option Draft :=
  lower source f.piece.depth f

/-- A bound that is at least the depth of a piece gives its full lowering. -/
theorem lower_of_depth_le (source : List Char) {depth : Nat} {f : Focus}
    (hdepth : f.piece.depth ≤ depth) :
    lower source depth f = lowered source f :=
  lower_congr source hdepth (Nat.le_refl _)

/-- The tree of concrete syntax leaves nothing out. -/
theorem treeOf_eq (source : String) (concrete : Concrete) :
    treeOf source concrete =
      (SyntaxTree.ofSource source).graftAll 0
        ((Focus.mk [] concrete).namedParts.filterMap (lowered source.toList)) := by
  have hparts : (Focus.mk [] concrete).namedParts.filterMap (lower source.toList concrete.depth) =
      (Focus.mk [] concrete).namedParts.filterMap (lowered source.toList) :=
    List.filterMap_congr fun _ hg =>
      lower_of_depth_le source.toList (Nat.le_of_lt (Focus.depth_lt_of_mem_namedParts hg))
  rw [← hparts]
  rfl

end Excerpt.Java
