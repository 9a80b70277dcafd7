import Excerpt.Proofs.Reading

/-!
# Comments and lowering

Comments leave no trace in a syntax tree but the comments of declarations: deleting the comments
of concrete syntax and lowering it gives the same as lowering it and deleting the comments of
declarations (`Lowering.Transparent`). Each construct is treated on its own, under the assumption
that this is so for what lies below it, and `lower_transparent` discharges the assumption by
induction on the depth.

A construct finds its parts by their roles or by their names, which comments do not have, or makes
drafts of all parts, which is none for a comment. Only the constructs of `Concrete.trustingKinds`
take whatever they find; in these, there must be no comments.

Two constructs need more than that. A statement that holds a lock goes through its parts one after
the other, so a comment among them must be shown to change nothing (`Transparent.hold_comment`).
And the members of a body may be found several levels below it, where the way to them leads
through pieces with comments of their own (`membersIn_withoutComments`).

Deleting comments makes no piece deeper, so the bound on the depth stays large enough
(`lowered_transparent`), and the result is about the whole lowering.

## Main results

* `Lowering.Transparent.draft`: every construct is the same without comments.
* `lower_transparent`, `lowered_transparent`: so is what it is lowered to.
* `treeOf_withoutComments`: comments of a source do not matter.
-/

namespace Excerpt.Java

namespace Concrete

/-- The comments in the piece, however deep, play no roles and are not taken for anything else. -/
def CommentsIgnorable (c : Concrete) : Prop :=
  c.Everywhere fun d => d.CommentsPlayNoRole ∧ d.CommentsNotRead

namespace CommentsIgnorable

variable {c d : Concrete} {f g : Focus}

private theorem playNoRole (h : c.CommentsIgnorable) : c.CommentsPlayNoRole :=
  (Everywhere.here h).1

private theorem notRead (h : c.CommentsIgnorable) : c.CommentsNotRead :=
  (Everywhere.here h).2

private theorem of_mem_parts (h : f.piece.CommentsIgnorable) (hg : g ∈ f.parts) :
    g.piece.CommentsIgnorable :=
  Focus.everywhere_of_mem_parts (fun _ hd => Everywhere.of_mem_children h hd) hg

private theorem of_mem_namedParts (h : f.piece.CommentsIgnorable) (hg : g ∈ f.namedParts) :
    g.piece.CommentsIgnorable :=
  h.of_mem_parts (List.mem_of_mem_filter hg)

private theorem of_partIn? {field : String} (h : f.piece.CommentsIgnorable)
    (hg : f.partIn? field = some g) :
    g.piece.CommentsIgnorable :=
  h.of_mem_parts (List.mem_of_find?_eq_some hg)

/-- The parts of a construct that takes whatever it finds are no comments. -/
theorem isComment_of_mem_parts (h : f.piece.CommentsIgnorable) (hkind : f.kind ∈ trustingKinds)
    (hg : g ∈ f.parts) :
    g.isComment = false :=
  h.notRead hkind g.piece (Focus.piece_mem_of_mem_along hg)

end CommentsIgnorable

end Concrete

/-- A construct with a form of its own that no other kind has. -/
theorem Construct.kind_of_ofKind {kind kind' : String} {form : Construct} (h : ofKind kind = form)
    (hform : form ∉ [.folded, .literal, .statement .other, .otherExpression, .other])
    (hforms : ∀ entry ∈ forms, entry.2 = form → entry.1 = kind') : kind = kind' := by
  rw [ofKind] at h
  split at h
  · simp [← h] at hform
  · split at h
    · simp [← h] at hform
    · split at h
      · next found hfound =>
        obtain ⟨before, after, hsplit, -⟩ := List.lookup_eq_some_iff.mp hfound
        have hmem : (kind, found) ∈ forms := hsplit ▸ List.mem_append_cons_self
        exact hforms (kind, found) hmem h
      · split at h
        · simp [← h] at hform
        · split at h <;> simp [← h] at hform

namespace Lowering

variable {l : Lowering} {f : Focus}

/-! ### Positions and texts -/

/-- The characters of a piece are those of its range. -/
@[simp]
theorem charsOf_withoutComments (f : Focus) : l.charsOf f.withoutComments = l.charsOf f := by
  rw [charsOf, charsOf, Focus.range_withoutComments]

/-- The text of a piece is that of its range, with the comments in it. -/
@[simp]
theorem textOf_withoutComments (f : Focus) : l.textOf f.withoutComments = l.textOf f := by
  rw [textOf, textOf, charsOf_withoutComments]

/-- An identifier is the text of its range, on its line. -/
@[simp]
theorem identOf_withoutComments (f : Focus) : l.identOf f.withoutComments = l.identOf f := by
  rw [identOf, identOf, textOf_withoutComments, Focus.range_withoutComments]

/-- A node over a piece has its range and nothing of its parts. -/
@[simp]
theorem nodeOver_withoutComments (f : Focus) (kind : Kind) (name : Option Ident) :
    nodeOver f.withoutComments kind name = nodeOver f kind name := by
  rw [nodeOver, nodeOver, Focus.range_withoutComments]

/-- Nodes that are made without a comment have none to delete. -/
@[simp]
theorem withoutComments_nodeOver (f : Focus) (kind : Kind) (name : Option Ident) (cs : List Draft) :
    (Draft.node (nodeOver f kind name) cs).withoutComments =
      .node (nodeOver f kind name) (cs.map Draft.withoutComments) := by
  rw [Draft.withoutComments_node]
  cases h : kind.isDeclaration <;> simp [Node.withoutComment, nodeOver, h]

section

variable (hf : f.piece.CommentsPlayNoRole) (field : String)

include hf

private theorem textIn?_withoutComments :
    l.textIn? f.withoutComments field = l.textIn? f field := by
  simp [textIn?, Focus.partIn?_withoutComments hf, Function.comp_def]

private theorem textIn_withoutComments : l.textIn f.withoutComments field = l.textIn f field := by
  rw [textIn, textIn, textIn?_withoutComments hf]

private theorem identIn?_withoutComments :
    l.identIn? f.withoutComments field = l.identIn? f field := by
  simp [identIn?, Focus.partIn?_withoutComments hf, Function.comp_def]

end

private theorem partOf?_withoutComments (f : Focus) (kind : String)
    (hkind : kind ≠ "line_comment" ∧ kind ≠ "block_comment") :
    partOf? f.withoutComments kind = (partOf? f kind).map Focus.withoutComments := by
  rw [partOf?, Focus.namedParts_withoutComments, Focus.filter_kind_remaining hkind,
    List.getLast?_map, partOf?]

/-- The text of a part that is found by its kind. -/
theorem map_textOf_partOf? (f : Focus) (kind : String)
    (hkind : kind ≠ "line_comment" ∧ kind ≠ "block_comment") :
    (partOf? f.withoutComments kind).map l.textOf = (partOf? f kind).map l.textOf := by
  simp [partOf?_withoutComments f kind hkind, Function.comp_def]

private theorem mem_parts_of_partOf? {p : Focus} {kind : String} (hp : partOf? f kind = some p) :
    p ∈ f.parts ∧ p.kind = kind := by
  obtain ⟨hmem, hkind⟩ := List.mem_filter.mp (List.mem_of_getLast? hp)
  exact ⟨List.mem_of_mem_filter hmem, eq_of_beq hkind⟩

/-! ### Declarations -/

private theorem modifierParts_withoutComments (f : Focus) :
    modifierParts f.withoutComments = Focus.remaining (modifierParts f) := by
  rw [modifierParts, modifierParts, Focus.parts_withoutComments,
    Focus.find?_kind_remaining (by decide)]
  cases f.parts.find? (·.kind == "modifiers") with
  | none => rfl
  | some m => exact m.parts_withoutComments

private theorem ofKeyword?_of_isComment {p : Focus} (hp : p.isComment = true) :
    Modifier.ofKeyword? p.kind = none := by
  have hkind : p.kind = "line_comment" ∨ p.kind = "block_comment" := Concrete.kind_of_isComment hp
  rcases hkind with h | h <;> rw [h] <;> decide

private theorem modifiersOf_withoutComments (f : Focus) :
    modifiersOf f.withoutComments = modifiersOf f := by
  rw [modifiersOf, modifierParts_withoutComments, modifiersOf]
  rw [Focus.filterMap_remaining (fun p _ => ofKeyword?_of_isComment) (e := id), List.map_id]
  intro p _
  rw [Focus.kind_withoutComments, Option.map_id, id]

/-- No comment comes directly before a construct when comments are deleted. -/
theorem commentOf?_withoutComments (f : Focus) : l.commentOf? f.withoutComments = none := by
  rw [commentOf?]
  cases hbefore : f.withoutComments.before with
  | nil => rfl
  | cons previous before =>
    have hmem : previous ∈ f.withoutComments.before := hbefore ▸ List.mem_cons_self
    simp [Concrete.isComment_of_mem_among hmem]

private theorem declNode_withoutComments (f : Focus) (kind : Kind)
    (hkind : kind.isDeclaration = true) (name : Option Ident) :
    l.declNode f.withoutComments kind name = (l.declNode f kind name).withoutComment := by
  simp [declNode, Node.withoutComment, modifiersOf_withoutComments, commentOf?_withoutComments,
    nodeOver, hkind]

mutual

/-- The types of a list without comments. -/
theorem typeNames_withoutComments (source : List Char) :
    (c : Concrete) → c.kind ∈ Concrete.trustingKinds →
    c.CommentsIgnorable → typeNames source c.withoutComments = typeNames source c
  | .node kind named field range cs missing, hkind, hc => by
    rw [Concrete.withoutComments, typeNames, typeNames]
    exact typeNamesAmong_among source cs (hc.notRead hkind) fun d hd =>
      Concrete.Everywhere.of_mem_children hc hd

private theorem typeNamesAmong_among (source : List Char) :
    (cs : List Concrete) → (∀ c ∈ cs, c.isComment = false) →
    (∀ c ∈ cs, c.CommentsIgnorable) →
    typeNamesAmong source (Concrete.withoutComments.among cs) = typeNamesAmong source cs
  | [], _, _ => rfl
  | c :: cs, hcomment, hcs => by
    have hrest := typeNamesAmong_among source cs
      (fun d hd => hcomment d (List.mem_cons_of_mem c hd))
      fun d hd => hcs d (List.mem_cons_of_mem c hd)
    have hlist : c.kind = "type_list" →
        typeNames source c.withoutComments = typeNames source c := fun hkind =>
      typeNames_withoutComments source c (by rw [hkind]; decide) (hcs c List.mem_cons_self)
    rw [Concrete.withoutComments.among, if_neg (by simp [hcomment c List.mem_cons_self]),
      typeNamesAmong, typeNamesAmong, hrest, c.isNamed_withoutComments, c.kind_withoutComments,
      c.range_withoutComments]
    -- a list inside the list is read in the same way, of anything else the text is taken
    by_cases hkind : c.kind = "type_list"
    · rw [hlist hkind]
    · simp [hkind]

end

/-- The types listed in parts that hold nothing but types. -/
theorem typesIn_withoutComments (hf : f.piece.CommentsIgnorable) (kinds : List String)
    (hkinds : ∀ kind ∈ kinds, kind ∈ Concrete.trustingKinds) :
    l.typesIn f.withoutComments kinds = l.typesIn f kinds := by
  have htrusting : ∀ g : Focus, kinds.contains g.kind = true → g.kind ∈ Concrete.trustingKinds :=
    fun g hg => hkinds g.kind (List.contains_iff_mem.mp hg)
  have hcomment : ∀ g : Focus, kinds.contains g.kind = true → g.isComment = false := by
    intro g hg
    have hne : ∀ kind ∈ Concrete.trustingKinds, kind ≠ "line_comment" ∧ kind ≠ "block_comment" := by
      decide
    exact Focus.isComment_eq_false_of_kind (hne g.kind (htrusting g hg)) (beq_self_eq_true g.kind)
  rw [typesIn, Focus.namedParts_withoutComments, typesIn,
    Focus.filter_remaining_eq_map (fun g _ => by rw [Focus.kind_withoutComments]) fun g _ =>
      hcomment g,
    List.flatMap_map]
  refine List.flatMap_congr fun g hg => ?_
  obtain ⟨hmem, hkind⟩ := List.mem_filter.mp hg
  exact typeNames_withoutComments l.source g.piece (htrusting g hkind) (hf.of_mem_namedParts hmem)

mutual

/-- The members of a body are the same, less the comments among them. -/
theorem membersIn_withoutComments :
    (c : Concrete) → membersIn c.withoutComments = Focus.remaining (membersIn c)
  | .node kind named field range cs missing => by
    rw [Concrete.withoutComments, membersIn, membersIn]
    exact membersAmong_among [] cs

private theorem membersAmong_among (before : List Concrete) : (cs : List Concrete) →
    membersAmong (Concrete.withoutComments.among before) (Concrete.withoutComments.among cs) =
      Focus.remaining (membersAmong before cs)
  | [] => by simp [Concrete.withoutComments.among, membersAmong, Focus.remaining]
  | c :: cs => by
    have hrest := membersAmong_among (c :: before) cs
    have hbody := membersIn_withoutComments c
    rw [Concrete.withoutComments.among] at hrest
    rw [Concrete.withoutComments.among, membersAmong, Focus.remaining_append, ← hrest]
    -- a comment counts as a member of the body as long as it is there
    by_cases hc : c.isComment = true
    · have hkind := Concrete.kind_ne_of_isComment hc "enum_body_declarations" (by decide)
      have hdropped : Focus.remaining [⟨before, c⟩] = [] := if_pos hc
      rw [if_pos hc, if_pos hc]
      cases c.isNamed <;> simp [hkind, hdropped, Focus.remaining]
    · have hkept : Focus.remaining [⟨before, c⟩] = [Focus.withoutComments ⟨before, c⟩] := if_neg hc
      rw [if_neg hc, if_neg hc, membersAmong, c.isNamed_withoutComments,
        c.kind_withoutComments, hbody]
      cases c.isNamed
      · simp [Focus.remaining]
      · by_cases hkind : c.kind = "enum_body_declarations"
        · simp [hkind]
        · simp [hkind, hkept, Focus.withoutComments]

end

/-- A parameter with a variable number of arguments holds no comments. -/
theorem spreadParam_withoutComments (hf : f.piece.CommentsIgnorable)
    (hkind : f.kind = "spread_parameter") :
    l.spreadParam f.withoutComments = l.spreadParam f := by
  have htype : f.withoutComments.namedParts.find?
      (fun c => c.kind != "modifiers" && c.kind != "variable_declarator") =
      (f.namedParts.find? fun c => c.kind != "modifiers" && c.kind != "variable_declarator").map
        Focus.withoutComments := by
    -- a comment would be taken for the type, since it is none of the other two
    rw [Focus.namedParts_withoutComments]
    refine Focus.find?_remaining (fun g _ => by rw [Focus.kind_withoutComments]) fun g hg _ => ?_
    exact hf.isComment_of_mem_parts (by rw [hkind]; decide) (List.mem_of_mem_filter hg)
  rw [spreadParam, spreadParam, htype, partOf?_withoutComments f "variable_declarator" (by decide)]
  congr 1
  · cases f.namedParts.find? fun c => c.kind != "modifiers" && c.kind != "variable_declarator" <;>
      simp
  · cases hd : partOf? f "variable_declarator" with
    | none => rfl
    | some d =>
      exact textIn_withoutComments (hf.of_mem_parts (mem_parts_of_partOf? hd).1).playNoRole "name"

private theorem paramsOf_withoutComments (hf : f.piece.CommentsIgnorable) :
    l.paramsOf f.withoutComments = l.paramsOf f := by
  rw [paramsOf, Focus.namedParts_withoutComments, paramsOf]
  rw [Focus.filterMap_remaining (e := id), List.map_id]
  · intro p _ hc
    have hformal := Concrete.kind_ne_of_isComment hc "formal_parameter" (by decide)
    have hspread := Concrete.kind_ne_of_isComment hc "spread_parameter" (by decide)
    simp [Focus.kind, hformal, hspread]
  · intro p hp
    have hplain := hf.of_mem_namedParts hp
    rw [Option.map_id, id, Focus.kind_withoutComments, textIn_withoutComments hplain.playNoRole,
      textIn_withoutComments hplain.playNoRole]
    by_cases hspread : p.kind = "spread_parameter"
    · rw [spreadParam_withoutComments hplain hspread]
    · simp [hspread]

/-! ### Lists of drafts -/

/-- What lies below constructs does not depend on comments, and comments are left out. -/
structure Transparent (l : Lowering) : Prop where
  comment : ∀ f : Focus, f.isComment = true → l.below f = none
  below : ∀ f : Focus, f.piece.CommentsIgnorable →
    l.below f.withoutComments = (l.below f).map Draft.withoutComments

private theorem first?_map_withoutComments (ds : List Draft) :
    Draft.first? (ds.map Draft.withoutComments) = Draft.first? ds := by
  cases ds <;> rfl

/-- References to drafts that may be missing. -/
theorem map_const_withoutComments (o : Option Draft) (k : NodeId) :
    (o.map Draft.withoutComments).map (fun _ => k) = o.map fun _ => k := by
  cases o <;> rfl

variable (hl : l.Transparent) (hf : f.piece.CommentsIgnorable)

include hl

private theorem Transparent.each_remaining {fs : List Focus}
    (hfs : ∀ p ∈ fs, p.piece.CommentsIgnorable) :
    l.each (Focus.remaining fs) = (l.each fs).map Draft.withoutComments :=
  Focus.filterMap_remaining (fun p _ => hl.comment p) fun p hp => hl.below p (hfs p hp)

include hf

private theorem Transparent.each_namedParts :
    l.each f.withoutComments.namedParts = (l.each f.namedParts).map Draft.withoutComments := by
  rw [Focus.namedParts_withoutComments]
  exact hl.each_remaining fun p => hf.of_mem_namedParts

/-- The draft of a part in a role. -/
theorem Transparent.bind_partIn? (field : String) :
    (f.withoutComments.partIn? field).bind l.below =
      ((f.partIn? field).bind l.below).map Draft.withoutComments := by
  rw [Focus.partIn?_withoutComments hf.playNoRole]
  cases hp : f.partIn? field with
  | none => rfl
  | some p => exact hl.below p (hf.of_partIn? hp)

/-- A construct made of all its parts. -/
theorem Transparent.whole (kind : Kind) :
    l.whole f.withoutComments kind = (l.whole f kind).withoutComments := by
  rw [Lowering.whole, Lowering.whole, withoutComments_nodeOver, nodeOver_withoutComments,
    hl.each_namedParts hf]

/-- A node with the drafts of all parts that refers to the first of them. -/
theorem Transparent.first (make : Option NodeId → Kind) :
    Draft.node (nodeOver f.withoutComments
      (make (Draft.first? (l.each f.withoutComments.namedParts))) none)
        (l.each f.withoutComments.namedParts) =
      (Draft.node (nodeOver f (make (Draft.first? (l.each f.namedParts))) none)
        (l.each f.namedParts)).withoutComments := by
  rw [hl.each_namedParts hf, first?_map_withoutComments, withoutComments_nodeOver,
    nodeOver_withoutComments]

/-- The annotations of a declaration. -/
theorem Transparent.annotationsOf :
    l.annotationsOf f.withoutComments = (l.annotationsOf f).map Draft.withoutComments := by
  rw [Lowering.annotationsOf, modifierParts_withoutComments, Lowering.annotationsOf,
    Focus.filter_remaining fun g _ => by rw [Focus.kind_withoutComments]]
  refine hl.each_remaining fun p hp => ?_
  have hmem : p ∈ modifierParts f := List.mem_of_mem_filter hp
  rw [modifierParts] at hmem
  split at hmem
  · next m hm => exact (hf.of_mem_parts (List.mem_of_find?_eq_some hm)).of_mem_parts hmem
  · cases hmem

/-- The members of a body. -/
theorem Transparent.membersOf :
    l.membersOf f.withoutComments = (l.membersOf f).map Draft.withoutComments := by
  have hmembers : membersIn f.withoutComments.piece = Focus.remaining (membersIn f.piece) :=
    membersIn_withoutComments f.piece
  rw [Lowering.membersOf, hmembers]
  refine Focus.flatMap_remaining (fun m _ hc => ?_) fun m hm => ?_
  · have hkind := Concrete.kind_ne_of_isComment hc "block" (by decide)
    simp [Focus.kind, hkind, hl.comment m hc]
  · rw [hl.below m (everywhere_of_mem_membersIn f.piece hf hm), Focus.kind_withoutComments,
      nodeOver_withoutComments, Option.toList_map]
    split
    · rw [List.map_singleton, withoutComments_nodeOver]
    · rfl

/-- A type, with the types that it extends. -/
theorem Transparent.typeDecl (kind : TypeKind) :
    l.typeDecl f.withoutComments kind = (l.typeDecl f kind).withoutComments := by
  simp only [Lowering.typeDecl, Draft.withoutComments_node,
    map_textOf_partOf? f "type_parameters" (by decide),
    typesIn_withoutComments hf ["superclass", "extends_interfaces"] (by decide),
    typesIn_withoutComments hf ["super_interfaces"] (by decide),
    identIn?_withoutComments hf.playNoRole, hl.annotationsOf hf, List.map_append,
    declNode_withoutComments f (.typeDecl _) rfl, Focus.partIn?_withoutComments hf.playNoRole]
  cases hbody : f.partIn? "body" with
  | none => rfl
  | some body => simp only [Option.map_some, hl.membersOf (hf.of_partIn? hbody)]

/-- A method or constructor, with its parameters. -/
theorem Transparent.callable {make : CallableDecl → Kind}
    (hmake : ∀ d, (make d).isDeclaration = true) (returnType : Option String) :
    l.callable f.withoutComments make returnType =
      (l.callable f make returnType).withoutComments := by
  have hparams : ∀ list, partOf? f "formal_parameters" = some list →
      l.paramsOf list.withoutComments = l.paramsOf list := fun list hlist =>
    paramsOf_withoutComments (hf.of_mem_parts (mem_parts_of_partOf? hlist).1)
  have hthrows : ∀ list, partOf? f "throws" = some list →
      typeNames l.source list.withoutComments.piece = typeNames l.source list.piece := by
    intro list hlist
    obtain ⟨hmem, hkind⟩ := mem_parts_of_partOf? hlist
    have htrusting : list.kind ∈ Concrete.trustingKinds := by rw [hkind]; decide
    exact typeNames_withoutComments l.source list.piece htrusting (hf.of_mem_parts hmem)
  simp only [Lowering.callable, Draft.withoutComments_node,
    map_textOf_partOf? f "type_parameters" (by decide), identIn?_withoutComments hf.playNoRole,
    hl.annotationsOf hf, hl.bind_partIn? hf, map_const_withoutComments, List.length_map,
    List.map_append, Option.toList_map, declNode_withoutComments f (make _) (hmake _),
    partOf?_withoutComments f "formal_parameters" (by decide),
    partOf?_withoutComments f "throws" (by decide)]
  -- what is left are the parameters and the exceptions
  cases hlist : partOf? f "formal_parameters" <;> cases hlist' : partOf? f "throws" <;>
    simp [hparams, hthrows, hlist, hlist']

/-- A variable and its value. -/
theorem Transparent.variableOf (type : String) :
    l.variableOf f.withoutComments type = (l.variableOf f type).withoutComments := by
  simp only [Lowering.variableOf, withoutComments_nodeOver, nodeOver_withoutComments,
    hl.bind_partIn? hf, map_const_withoutComments, identIn?_withoutComments hf.playNoRole,
    Option.toList_map]

/-- The variables of a declaration. -/
theorem Transparent.variablesOf :
    l.variablesOf f.withoutComments = (l.variablesOf f).map Draft.withoutComments := by
  rw [Lowering.variablesOf, Focus.partsIn_withoutComments hf.playNoRole, Lowering.variablesOf,
    List.map_map, List.map_map]
  refine List.map_congr_left fun d hd => ?_
  have hplain := hf.of_mem_parts (List.mem_of_mem_filter hd)
  rw [Function.comp_apply, Function.comp_apply, textIn_withoutComments hf.playNoRole,
    textIn_withoutComments hplain.playNoRole, hl.variableOf hplain]

/-- A declaration of fields. -/
theorem Transparent.fieldDecl :
    l.fieldDecl f.withoutComments = (l.fieldDecl f).withoutComments := by
  simp only [Lowering.fieldDecl, Draft.withoutComments_node, textIn_withoutComments hf.playNoRole,
    declNode_withoutComments f (.fieldDecl _) rfl, hl.annotationsOf hf, hl.variablesOf hf,
    List.map_append]

/-- A constant of an enum. -/
theorem Transparent.enumConstant (hkind : f.kind = "enum_constant") :
    l.enumConstant f.withoutComments = (l.enumConstant f).withoutComments := by
  rw [Lowering.enumConstant, Lowering.enumConstant, Draft.withoutComments_node,
    hl.each_namedParts hf, Focus.kind_withoutComments, identIn?_withoutComments hf.playNoRole,
    commentOf?_withoutComments, nodeOver_withoutComments]
  -- the node is a declaration because of the name of its construct
  simp [Node.withoutComment, nodeOver, hkind, Kind.isDeclaration]

/-! ### Annotations -/

omit hl in
private theorem annotationName_withoutComments :
    l.annotationName f.withoutComments = l.annotationName f := by
  simp [annotationName, Focus.partIn?_withoutComments hf.playNoRole, Function.comp_def]

omit hl in
/-- The arguments of an annotation are those that are no comments. -/
theorem annotationValues_withoutComments :
    annotationValues f.withoutComments = (annotationValues f).map Focus.withoutComments := by
  rw [annotationValues, annotationValues, Focus.partIn?_withoutComments hf.playNoRole]
  cases f.partIn? "arguments" with
  | none => rfl
  | some list =>
    simp only [Option.map_some]
    rw [Focus.namedParts_withoutComments]
    exact Focus.filter_remaining_eq_map (fun g _ => by rw [Focus.isComment_withoutComments])
        fun g _ hg => by
      simpa using hg

omit hl in
private theorem ignorable_of_mem_annotationValues {p : Focus} (hp : p ∈ annotationValues f) :
    p.piece.CommentsIgnorable := by
  rw [annotationValues] at hp
  split at hp
  · next list hlist => exact (hf.of_partIn? hlist).of_mem_namedParts (List.mem_of_mem_filter hp)
  · cases hp

omit hf in
/-- The values of an annotation that are given by name. -/
theorem Transparent.namedValues {fs : List Focus} (hfs : ∀ p ∈ fs, p.piece.CommentsIgnorable) :
    l.namedValues (fs.map Focus.withoutComments) =
      (l.namedValues fs).map (Prod.map id Draft.withoutComments) := by
  rw [Lowering.namedValues, List.filterMap_map, Lowering.namedValues, List.map_filterMap]
  refine List.filterMap_congr fun p hp => ?_
  rw [Function.comp_apply, hl.bind_partIn? (hfs p hp), textIn_withoutComments (hfs p hp).playNoRole]
  cases (p.partIn? "value").bind l.below <;> rfl

/-- An annotation with one value, with named values, or with none. -/
theorem Transparent.annotationUse :
    l.annotationUse f.withoutComments = (l.annotationUse f).withoutComments := by
  have hpairs : (annotationValues f.withoutComments).any (·.kind == "element_value_pair") =
      (annotationValues f).any (·.kind == "element_value_pair") := by
    rw [annotationValues_withoutComments hf, List.any_map]
    simp [Function.comp_def]
  have hentries : l.namedValues (annotationValues f.withoutComments) =
      (l.namedValues (annotationValues f)).map (Prod.map id Draft.withoutComments) := by
    rw [annotationValues_withoutComments hf]
    exact hl.namedValues fun p => ignorable_of_mem_annotationValues hf
  have hfirst : (annotationValues f.withoutComments).head?.bind l.below =
      ((annotationValues f).head?.bind l.below).map Draft.withoutComments := by
    rw [annotationValues_withoutComments hf, List.head?_map]
    cases hp : (annotationValues f).head? with
    | none => rfl
    | some p => exact hl.below p (ignorable_of_mem_annotationValues hf (List.mem_of_head? hp))
  simp only [Lowering.annotationUse, hpairs, hentries, hfirst, annotationName_withoutComments hf]
  -- named values, one value, or none
  split
  · simp [Function.comp_def]
  · cases (annotationValues f).head?.bind l.below <;> simp

/-! ### Statements -/

/-- A loop over a collection. -/
theorem Transparent.forEach : l.forEach f.withoutComments = (l.forEach f).withoutComments := by
  simp only [Lowering.forEach, withoutComments_nodeOver, nodeOver_withoutComments,
    hl.bind_partIn? hf, List.map_append, Option.toList_map]
  congr 3
  -- the variable of the loop, which is made of its type and its name
  rw [Focus.partIn?_withoutComments hf.playNoRole, Focus.partIn?_withoutComments hf.playNoRole]
  cases f.partIn? "type" with
  | none => rfl
  | some type =>
    cases f.partIn? "name" with
    | none => rfl
    | some name => simp [Draft.withoutComments_node, Node.withoutComment]

/-- What is known of a statement that holds a lock, without comments. -/
def Held.withoutComments (h : Held) : Held :=
  { h with drafts := h.drafts.map Draft.withoutComments }

omit hl hf in
private theorem Held.add_withoutComments (h : Held) (d : Option Draft) :
    h.withoutComments.add (d.map Draft.withoutComments) = (h.add d).withoutComments := by
  simp [Held.add, Held.withoutComments, Option.toList_map]

omit hl hf in
private theorem Held.next?_withoutComments (h : Held) (d : Option Draft) :
    h.withoutComments.next? (d.map Draft.withoutComments) = h.next? d := by
  simp [Held.next?, Held.withoutComments, Function.comp_def]

omit hf in
/-- A comment among the parts of a statement that holds a lock. -/
theorem Transparent.hold_comment {p : Focus} (hp : p.isComment = true) (h : Held) :
    l.hold h p = h := by
  have hparens := Concrete.kind_ne_of_isComment hp "parenthesized_expression" (by decide)
  have hblock := Concrete.kind_ne_of_isComment hp "block" (by decide)
  simp [Lowering.hold, Focus.kind, hparens, hblock, hl.comment p hp, Held.add]

/-- Any other part. Between parentheses, the lock is the first part that is no comment. -/
theorem Transparent.hold (h : Held) :
    l.hold h.withoutComments f.withoutComments = (l.hold h f).withoutComments := by
  -- what is held is sought among parts that are no comments anyway
  have hinner : f.withoutComments.namedParts.find? (!·.isComment) =
      (f.namedParts.find? (!·.isComment)).map Focus.withoutComments := by
    rw [Focus.namedParts_withoutComments]
    exact Focus.find?_remaining (fun g _ => by rw [Focus.isComment_withoutComments]) fun g _ hg =>
      by simpa using hg
  rw [Lowering.hold, Lowering.hold, Focus.kind_withoutComments, hinner, hl.below f hf]
  split
  · cases hp : f.namedParts.find? (!·.isComment) with
    | none => rfl
    | some p =>
      have hbelow := hl.below p (hf.of_mem_namedParts (List.mem_of_find?_eq_some hp))
      simp only [Option.map_some, hbelow, Held.add_withoutComments, Held.next?_withoutComments]
      rfl
  · simp only [Held.add_withoutComments, Held.next?_withoutComments]
    split <;> rfl

omit hf in
/-- All parts of a statement that holds a lock, one after the other. -/
theorem Transparent.foldl_hold {fs : List Focus} (hfs : ∀ p ∈ fs, p.piece.CommentsIgnorable)
    (h : Held) :
    (Focus.remaining fs).foldl l.hold h.withoutComments = (fs.foldl l.hold h).withoutComments := by
  induction fs generalizing h with
  | nil => rfl
  | cons p fs ih =>
    have hrest := ih (fun q hq => hfs q (List.mem_cons_of_mem p hq)) (l.hold h p)
    rw [Focus.remaining, List.foldl_cons, ← hrest]
    split
    · next hp => rw [hl.hold_comment hp]
    · rw [List.foldl_cons, hl.hold (hfs p List.mem_cons_self)]

/-- A statement that holds a lock. -/
theorem Transparent.synchronized :
    l.synchronized f.withoutComments = (l.synchronized f).withoutComments := by
  have hheld : f.withoutComments.namedParts.foldl l.hold {} =
      (f.namedParts.foldl l.hold {}).withoutComments := by
    rw [Focus.namedParts_withoutComments]
    exact hl.foldl_hold (fun p => hf.of_mem_namedParts) {}
  simp only [Lowering.synchronized, hheld, withoutComments_nodeOver, nodeOver_withoutComments,
    Held.withoutComments]

/-- Each form of statement. -/
theorem Transparent.statement (form : Stmt) :
    l.statement f.withoutComments form = (l.statement f form).withoutComments := by
  cases form with
  | forEach => exact hl.forEach hf
  | synchronized lock body => exact hl.synchronized hf
  | throwStmt e => exact hl.first hf fun e => .stmt (.throwStmt e)
  | returnStmt e => exact hl.first hf fun e => .stmt (.returnStmt e)
  | _ => exact hl.whole hf _

/-! ### Expressions -/

/-- The arguments of a call. -/
theorem Transparent.argumentsOf :
    l.argumentsOf f.withoutComments = (l.argumentsOf f).map Draft.withoutComments := by
  rw [Lowering.argumentsOf, Lowering.argumentsOf, Focus.partIn?_withoutComments hf.playNoRole]
  cases hp : f.partIn? "arguments" with
  | none => rfl
  | some list => exact hl.each_namedParts (hf.of_partIn? hp)

/-- A call and what it is made on. -/
theorem Transparent.call : l.call f.withoutComments = (l.call f).withoutComments := by
  simp only [Lowering.call, withoutComments_nodeOver, nodeOver_withoutComments, hl.bind_partIn? hf,
    hl.argumentsOf hf, Option.toList_map, first?_map_withoutComments, List.length_map,
    List.map_append, identIn?_withoutComments hf.playNoRole]

/-- A construction, with the members of its class. -/
theorem Transparent.creation : l.creation f.withoutComments = (l.creation f).withoutComments := by
  have hmembers : (f.withoutComments.namedParts.filter (·.kind == "class_body")).flatMap
      l.membersOf =
      ((f.namedParts.filter (·.kind == "class_body")).flatMap l.membersOf).map
        Draft.withoutComments := by
    rw [Focus.namedParts_withoutComments, Focus.filter_kind_remaining (by decide), List.flatMap_map,
      List.map_flatMap]
    exact List.flatMap_congr fun p hp =>
      hl.membersOf (hf.of_mem_namedParts (List.mem_of_mem_filter hp))
  simp only [Lowering.creation, withoutComments_nodeOver, nodeOver_withoutComments,
    hl.argumentsOf hf, hmembers, List.length_map, List.map_append,
    textIn_withoutComments hf.playNoRole]

/-- An operator between two operands. -/
theorem Transparent.infixed (make : String → Option Nat → Expr) :
    l.infixed f.withoutComments make = (l.infixed f make).withoutComments := by
  have hline : ((f.withoutComments.partIn? "operator").map fun o => o.range.startRow + 1) =
      (f.partIn? "operator").map fun o => o.range.startRow + 1 := by
    simp [Focus.partIn?_withoutComments hf.playNoRole, Function.comp_def]
  simp only [Lowering.infixed, withoutComments_nodeOver, nodeOver_withoutComments,
    hl.bind_partIn? hf, hline, textIn_withoutComments hf.playNoRole, List.map_append,
    Option.toList_map]
  cases (f.partIn? "left").bind l.below <;> cases (f.partIn? "right").bind l.below <;> rfl

/-- A field access and its object. -/
theorem Transparent.fieldAccess :
    l.fieldAccess f.withoutComments = (l.fieldAccess f).withoutComments := by
  simp only [Lowering.fieldAccess, withoutComments_nodeOver, nodeOver_withoutComments,
    hl.bind_partIn? hf, map_const_withoutComments, identIn?_withoutComments hf.playNoRole,
    Option.toList_map]

omit hl in
/-- The type of a class literal is whatever comes first, which is no comment. -/
theorem classLiteral_withoutComments (hkind : f.kind = "class_literal") :
    l.classLiteral f.withoutComments = (l.classLiteral f).withoutComments := by
  have hparts : f.withoutComments.namedParts = f.namedParts.map Focus.withoutComments := by
    rw [Focus.namedParts_withoutComments]
    exact Focus.remaining_eq_map fun g hg =>
      hf.isComment_of_mem_parts (by rw [hkind]; decide) (List.mem_of_mem_filter hg)
  rw [classLiteral, classLiteral, withoutComments_nodeOver, hparts, List.head?_map]
  cases f.namedParts.head? <;> simp

/-- What stands between parentheses. -/
theorem Transparent.parenthesized :
    l.parenthesized f.withoutComments = (l.parenthesized f).withoutComments :=
  hl.first hf fun e => .expr (.parenthesized e)

/-! ### All constructs -/

omit hl hf in
private theorem ofKind_of_isComment {p : Focus} (hp : p.isComment = true) :
    Construct.ofKind p.kind = .folded := by
  have hkind : p.kind = "line_comment" ∨ p.kind = "block_comment" := Concrete.kind_of_isComment hp
  rcases hkind with h | h <;> rw [h] <;> decide

/-- Every construct is the same without comments. -/
theorem Transparent.draft : l.draft f.withoutComments = (l.draft f).map Draft.withoutComments := by
  rw [Lowering.draft, Lowering.draft, Focus.kind_withoutComments]
  -- one case for each construct, as in the definition
  cases hkind : Construct.ofKind f.kind
  case folded => rfl
  case typeDecl kind => exact congrArg some (hl.typeDecl hf kind)
  case methodDecl =>
    refine congrArg some ?_
    rw [textIn?_withoutComments hf.playNoRole]
    exact hl.callable hf (fun _ => rfl) _
  case constructorDecl => exact congrArg some (hl.callable hf (fun _ => rfl) _)
  case field => exact congrArg some (hl.fieldDecl hf)
  case localVariable => simp [hl.variablesOf hf]
  case resource =>
    simp only [textIn?_withoutComments hf.playNoRole]
    cases l.textIn? f "type" with
    | none => exact congrArg some (hl.whole hf _)
    | some type => exact congrArg some (hl.variableOf hf type)
  case enumConstant =>
    have hname : f.kind = "enum_constant" :=
      Construct.kind_of_ofKind hkind (by decide) (by decide)
    exact congrArg some (hl.enumConstant hf hname)
  case annotationUse => exact congrArg some (hl.annotationUse hf)
  case statement form => exact congrArg some (hl.statement hf form)
  case call => exact congrArg some (hl.call hf)
  case creation => exact congrArg some (hl.creation hf)
  case binary => exact congrArg some (hl.infixed hf _)
  case assignment => exact congrArg some (hl.infixed hf _)
  case fieldAccess => exact congrArg some (hl.fieldAccess hf)
  case classLiteral =>
    exact congrArg some (classLiteral_withoutComments hf
      (Construct.kind_of_ofKind hkind (by decide) (by decide)))
  case parenthesized => exact congrArg some (hl.parenthesized hf)
  case lambda =>
    simp only [Option.map_some, withoutComments_nodeOver, nodeOver_withoutComments,
      hl.bind_partIn? hf, Option.toList_map]
  case name | string | literal => simp
  case block | initializer | arrayInitializer | otherExpression | other =>
    exact congrArg some (hl.whole hf _)

end Lowering

/-- Lowering does not depend on comments, however deep it goes. -/
theorem lower_transparent (source : List Char) (depth : Nat) :
    Lowering.Transparent ⟨source, lower source depth⟩ := by
  induction depth with
  | zero => exact ⟨fun _ _ => rfl, fun _ _ => rfl⟩
  | succ depth ih =>
    refine ⟨fun f hf => ?_, fun f hf => ih.draft hf⟩
    change Lowering.draft ⟨source, lower source depth⟩ f = none
    rw [Lowering.draft, Lowering.ofKind_of_isComment hf]

/-- The bound on the depth stays large enough when comments are deleted. -/
theorem lowered_transparent (source : List Char) :
    Lowering.Transparent ⟨source, lowered source⟩ where
  comment f hf := (lower_transparent source f.piece.depth).comment f hf
  below f hf :=
    calc lowered source f.withoutComments
      _ = lower source f.piece.depth f.withoutComments :=
        (lower_of_depth_le source f.piece.depth_withoutComments_le).symm
      _ = (lowered source f).map Draft.withoutComments :=
        (lower_transparent source f.piece.depth).below f hf

/-! ### Trees -/

/-- **Comments do not matter.** In the concrete syntax of a source, comments play no roles. In any
concrete syntax where they play none, and where no comment is a part of a construct that takes its
parts for what they should be, all comments can be deleted: the tree is the same, up to the
comments of its declarations. -/
theorem treeOf_withoutComments :
    (∀ (text : List Char) (concrete : Concrete), Concrete.ofSource text = .ok concrete →
      concrete.Everywhere Concrete.CommentsPlayNoRole) ∧
    (∀ (source : String) (concrete : Concrete), concrete.Everywhere Concrete.CommentsPlayNoRole →
      concrete.Everywhere Concrete.CommentsNotRead →
      treeOf source concrete.withoutComments = (treeOf source concrete).withoutComments) := by
  refine ⟨fun text concrete => Concrete.commentsPlayNoRole_ofSource,
    fun source concrete hrole hread => ?_⟩
  have hparts : (Focus.mk [] concrete.withoutComments).namedParts.filterMap
      (lowered source.toList) =
      ((Focus.mk [] concrete).namedParts.filterMap (lowered source.toList)).map
        Draft.withoutComments :=
    (lowered_transparent source.toList).each_namedParts (f := Focus.mk [] concrete)
      (hrole.and hread)
  rw [treeOf_eq, treeOf_eq, hparts, ← SyntaxTree.graftAll_withoutComments,
    SyntaxTree.ofSource_withoutComments]

/-- A class with comments before it, in its body, and in a statement. -/
def commentedClass : String :=
  "/*a*/class A\x7b/*b*/int f()\x7breturn/*c*/x;\x7d\x7d"

/-- All three comments can be deleted, and the class had kept the first one. -/
theorem treeOf_commentedClass :
    ∃ concrete, Concrete.ofSource commentedClass.toList = .ok concrete ∧
      ((treeOf commentedClass concrete).node 1).comment = some ⟨"/*a*/", 1⟩ ∧
      concrete.Everywhere Concrete.CommentsNotRead ∧
      treeOf commentedClass concrete.withoutComments =
        (treeOf commentedClass concrete).withoutComments := by
  have hevaluated : (Concrete.ofSource commentedClass.toList).toOption.any (fun concrete =>
      decide (((treeOf commentedClass concrete).node 1).comment = some ⟨"/*a*/", 1⟩ ∧
        concrete.Everywhere Concrete.CommentsNotRead)) = true := by
    decide +kernel
  obtain ⟨hrole, htransparent⟩ := treeOf_withoutComments
  cases hconcrete : Concrete.ofSource commentedClass.toList with
  | error row =>
    rw [hconcrete] at hevaluated
    cases hevaluated
  | ok concrete =>
    rw [hconcrete] at hevaluated
    obtain ⟨hcomment, hread⟩ := of_decide_eq_true hevaluated
    exact ⟨concrete, rfl, hcomment, hread,
      htransparent commentedClass concrete (hrole commentedClass.toList concrete hconcrete) hread⟩

end Excerpt.Java
