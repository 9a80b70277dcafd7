import Excerpt.Proofs.Lowering
import Excerpt.Proofs.WellPlaced

/-!
# Ranges of lowered trees

Well-placed syntax becomes placed drafts. As for soundness, each construct is treated on its own,
under the assumption that the drafts below it are placed (`Lowering.Placed`), and `lower_placed`
discharges the assumption by induction on the depth. A construct has the range of its piece,
except for the variable of a loop over a collection, which reaches from its type to its name.

Where a construct makes its children from parts in the order of the source there is nothing to
show. Most constructs take their children by role, in an order of their own: annotations first,
then the receiver, the arguments, the body. That this is the order of the source is part of what
well-placed syntax is: parts that play different roles come in the order of the grammar
(`Concrete.WellPlaced`).

It follows that the ranges of a tree of well-placed syntax are nested as the nodes are, that they
count lines as the source does, and that they begin in pre-order. Whether syntax is well placed
can be computed, so the condition is checked where a source is given.

## Main results

* `Lowering.Placed.draft`: every well-placed construct becomes a draft in its range.
* `lower_placed`: well-placed syntax becomes placed drafts.
* `treeOf_spans`: the ranges of a tree of well-placed syntax.
-/

namespace Excerpt.Java

/-! ### Roles and the order of the grammar -/

namespace Concrete

variable {c d : Concrete} {a b : String}

private theorem precedes_of_modifiers (hc : c.kind = "modifiers") (hd : d.field = some a) :
    c.precedes d := by
  simp [precedes, hc, hd]

private theorem precedes_classBody (hc : c.field = some "arguments") (hd : d.kind = "class_body") :
    c.precedes d := by
  simp [precedes, hc, hd]

private theorem precedes_of_roles (hc : c.field = some a) (hd : d.field = some b)
    (h : (roleOrders.any fun roles => [a, b].isSublist roles) = true) : c.precedes d := by
  simp only [precedes, hc, hd, h, Bool.or_true]

end Concrete

namespace Focus

variable {f p : Focus} {field : String}

private theorem mem_parts_of_partIn? (hp : p ∈ f.partIn? field) : p ∈ f.parts :=
  List.mem_of_find?_eq_some hp

private theorem field_of_partIn? (hp : p ∈ f.partIn? field) : p.piece.field = some field := by
  simpa using List.find?_some hp

private theorem partIn?_sublist (f : Focus) (field : String) :
    (f.partIn? field).toList.Sublist f.parts := by
  cases hp : f.partIn? field with
  | none => exact List.nil_sublist _
  | some p => exact List.singleton_sublist.mpr (mem_parts_of_partIn? hp)

private theorem namedParts_sublist (f : Focus) : f.namedParts.Sublist f.parts :=
  List.filter_sublist

end Focus

namespace Lowering

/-- What lies below well-placed constructs becomes drafts in their ranges. -/
def Placed (l : Lowering) : Prop :=
  ∀ f d, f.piece.WellPlaced l.source → l.below f = some d →
    d.Placed l.source f.range.startByte f.range.endByte

variable {l : Lowering} {f : Focus}

/-! ### Lists of drafts -/

private theorem toList_bind_below (o : Option Focus) :
    (o.bind l.below).toList = o.toList.flatMap fun p => (l.below p).toList := by
  cases o <;> simp

private theorem each_eq_flatMap (fs : List Focus) :
    l.each fs = fs.flatMap fun p => (l.below p).toList :=
  List.filterMap_eq_flatMap_toList _ _

private theorem annotationsOf_eq_flatMap (f : Focus) :
    l.annotationsOf f = (f.parts.find? (·.kind == "modifiers")).toList.flatMap fun m =>
      l.each (m.parts.filter fun p => Construct.ofKind p.kind = .annotationUse) := by
  rw [annotationsOf, modifierParts]
  cases f.parts.find? (·.kind == "modifiers") <;> simp [each]

private theorem argumentsOf_eq_flatMap (f : Focus) :
    l.argumentsOf f = (f.partIn? "arguments").toList.flatMap fun list =>
      l.each list.namedParts := by
  rw [argumentsOf]
  cases f.partIn? "arguments" <;> simp

section

variable {source : List Char}

/-- A node with the range of a well-placed piece. -/
theorem placed_node (hf : f.piece.WellPlaced source) {head : Node} {cs : List Draft}
    (hspan : head.span = some (spanBetween f.range f.range)) (hcs : f.Covers source cs) :
    (Draft.node head cs).Placed source f.range.startByte f.range.endByte := by
  obtain ⟨hstart, hend, hle, hstartRow, hendRow⟩ := hf.range_liesIn
  have hs : (spanBetween f.range f.range).LiesIn source :=
    ⟨hstart, hend, hle, congrArg (· + 1) hstartRow, congrArg (· + 1) hendRow⟩
  exact ⟨_, hspan, hs, Nat.le_refl _, Nat.le_refl _, hcs⟩

private theorem covers_nil (hf : f.piece.WellPlaced source) : f.Covers source [] :=
  hf.range_liesIn.2.2.1

mutual

/-- The members of a well-placed body lie within it, one after the other. -/
theorem inOrder_membersIn : (c : Concrete) → c.WellPlaced source →
    Range.InOrder c.range.startByte c.range.endByte ((membersIn c).map Focus.range)
  | .node kind named field range cs missing, hc => by
    rw [membersIn]
    exact inOrder_membersAmong cs (fun c hmem => hc.of_mem_children hmem) hc.inOrder

private theorem inOrder_membersAmong {before : List Concrete} {lo hi : Nat} : (cs : List Concrete) →
    (∀ c ∈ cs, c.WellPlaced source) → Range.InOrder lo hi (cs.map Concrete.range) →
    Range.InOrder lo hi ((membersAmong before cs).map Focus.range)
  | [], _, h => by rwa [membersAmong]
  | c :: cs, hcs, ⟨hlo, hle, hrest⟩ => by
    have hmore : Range.InOrder c.range.endByte hi
        ((membersAmong (c :: before) cs).map Focus.range) :=
      inOrder_membersAmong cs (fun d hd => hcs d (List.mem_cons_of_mem c hd)) hrest
    rw [membersAmong, List.map_append]
    split
    · exact hmore.lower (Nat.le_trans hlo hle)
    · split
      · exact ((inOrder_membersIn c (hcs c List.mem_cons_self)).lower hlo).append hmore
      · exact ⟨hlo, hle, hmore⟩

end

end

variable (hl : l.Placed) (hf : f.piece.WellPlaced l.source)

include hl

private theorem Placed.covers_below {p : Focus} (hp : p.piece.WellPlaced l.source) :
    p.Covers l.source (l.below p).toList :=
  Draft.placedAll_toList hp.range_liesIn.2.2.1 fun d hd => hl p d hp hd

include hf

/-- The drafts of some parts in their order. -/
theorem Placed.each {fs : List Focus} (hfs : fs.Sublist f.parts) :
    f.Covers l.source (l.each fs) := by
  rw [each_eq_flatMap]
  exact Focus.covers_flatMap hf hfs fun p hp =>
    hl.covers_below (Focus.wellPlaced_of_mem_parts hf (hfs.subset hp))

/-- The draft of a part in a role. -/
theorem Placed.bind_partIn? (field : String) :
    f.Covers l.source ((f.partIn? field).bind l.below).toList := by
  rw [toList_bind_below]
  refine Focus.covers_flatMap hf (f.partIn?_sublist field) fun p hp => ?_
  exact hl.covers_below
    (Focus.wellPlaced_of_mem_parts hf (Focus.mem_parts_of_partIn? (Option.mem_toList.mp hp)))

/-- Annotations come before parts in roles. -/
theorem Placed.annotationsOf_append {fs : List Focus} {g : Focus → List Draft}
    (hfs : fs.Sublist f.parts) (hroles : ∀ q ∈ fs, ∃ field, q.piece.field = some field)
    (hg : ∀ q ∈ fs, q.Covers l.source (g q)) :
    f.Covers l.source (l.annotationsOf f ++ fs.flatMap g) := by
  rw [annotationsOf_eq_flatMap]
  have hmem : ∀ p ∈ f.parts.find? (·.kind == "modifiers"), p ∈ f.parts :=
    fun p hp => List.mem_of_find?_eq_some hp
  refine Focus.covers_append hf hmem hfs (fun p hp q hq => ?_) (fun p hp => ?_) hg
  · obtain ⟨field, hfield⟩ := hroles q hq
    have hkind : p.kind = "modifiers" := by simpa using List.find?_some hp
    exact Concrete.precedes_of_modifiers hkind hfield
  · exact hl.each (Focus.wellPlaced_of_mem_parts hf (hmem p hp)) List.filter_sublist

/-- The members of a body lie within it. -/
theorem Placed.membersOf : f.Covers l.source (l.membersOf f) := by
  refine Focus.placedAll_flatMap (inOrder_membersIn f.piece hf) fun m hm => ?_
  have hplaced : m.piece.WellPlaced l.source := everywhere_of_mem_membersIn f.piece hf hm
  have hbelow := hl.covers_below hplaced
  split
  · exact Draft.placedAll_singleton (placed_node hplaced rfl hbelow)
  · exact hbelow

/-- A construct made of all its parts lies in its range. -/
theorem Placed.whole (kind : Kind) :
    (l.whole f kind).Placed l.source f.range.startByte f.range.endByte :=
  placed_node hf rfl (hl.each hf f.namedParts_sublist)

/-! ### Declarations -/

/-- The annotations of a type come before its members. -/
theorem Placed.typeDecl (kind : TypeKind) :
    (l.typeDecl f kind).Placed l.source f.range.startByte f.range.endByte := by
  refine placed_node hf rfl ?_
  have hcovers := hl.annotationsOf_append hf (f.partIn?_sublist "body")
    (fun q hq => ⟨"body", Focus.field_of_partIn? (Option.mem_toList.mp hq)⟩)
    (fun q hq => hl.membersOf (Focus.wellPlaced_of_mem_parts hf
      (Focus.mem_parts_of_partIn? (Option.mem_toList.mp hq))))
  cases hbody : f.partIn? "body" with
  | none => simpa [hbody] using hcovers
  | some body => simpa [hbody] using hcovers

/-- The annotations of a method or constructor come before its body. -/
theorem Placed.callable (make : CallableDecl → Kind) (returnType : Option String) :
    (l.callable f make returnType).Placed l.source f.range.startByte f.range.endByte := by
  refine placed_node hf rfl ?_
  rw [toList_bind_below]
  exact hl.annotationsOf_append hf (f.partIn?_sublist "body")
    (fun q hq => ⟨"body", Focus.field_of_partIn? (Option.mem_toList.mp hq)⟩)
    (fun q hq => hl.covers_below (Focus.wellPlaced_of_mem_parts hf
      (Focus.mem_parts_of_partIn? (Option.mem_toList.mp hq))))

/-- The value of a variable lies within it. -/
theorem Placed.variableOf (type : String) :
    (l.variableOf f type).Placed l.source f.range.startByte f.range.endByte :=
  placed_node hf rfl (hl.bind_partIn? hf "value")

omit hl hf in
private theorem variablesOf_eq_flatMap (f : Focus) :
    l.variablesOf f = (f.partsIn "declarator").flatMap fun d =>
      [l.variableOf d (l.textIn f "type" ++ l.textIn d "dimensions")] :=
  List.map_eq_flatMap

private theorem Placed.covers_variable {d : Focus} (hd : d ∈ f.partsIn "declarator")
    (type : String) :
    d.Covers l.source [l.variableOf d type] :=
  Draft.placedAll_singleton
    (hl.variableOf (Focus.wellPlaced_of_mem_parts hf (List.mem_of_mem_filter hd)) type)

/-- The variables of a declaration lie within it. -/
theorem Placed.variablesOf : f.Covers l.source (l.variablesOf f) := by
  rw [variablesOf_eq_flatMap]
  exact Focus.covers_flatMap hf List.filter_sublist fun d hd => hl.covers_variable hf hd _

/-- The annotations of a declaration of fields come before its variables. -/
theorem Placed.fieldDecl : (l.fieldDecl f).Placed l.source f.range.startByte f.range.endByte := by
  refine placed_node hf rfl ?_
  rw [variablesOf_eq_flatMap]
  refine hl.annotationsOf_append hf List.filter_sublist (fun q hq => ?_) fun d hd =>
    hl.covers_variable hf hd _
  exact ⟨"declarator", by simpa using List.of_mem_filter hq⟩

/-- The parts of a constant of an enum lie within it. -/
theorem Placed.enumConstant :
    (l.enumConstant f).Placed l.source f.range.startByte f.range.endByte :=
  placed_node hf rfl (hl.each hf f.namedParts_sublist)

/-! ### Annotations -/

omit hl in
/-- What is made of some arguments of an annotation in their order. -/
theorem covers_annotationValues {fs : List Focus} {g : Focus → List Draft}
    (hfs : fs.Sublist (annotationValues f))
    (hg : ∀ p ∈ fs, p.piece.WellPlaced l.source → p.Covers l.source (g p)) :
    f.Covers l.source (fs.flatMap g) := by
  rw [annotationValues] at hfs
  split at hfs
  · next list hlist =>
    have hmem := Focus.mem_parts_of_partIn? hlist
    have hplaced := Focus.wellPlaced_of_mem_parts hf hmem
    have hparts : fs.Sublist list.parts :=
      hfs.trans (List.filter_sublist.trans list.namedParts_sublist)
    -- values lie in the list of arguments, and the list lies in the annotation
    have hinner : list.Covers l.source (fs.flatMap g) :=
      Focus.covers_flatMap hplaced hparts fun p hp =>
        hg p hp (Focus.wellPlaced_of_mem_parts hplaced (hparts.subset hp))
    have houter : f.Covers l.source ([list].flatMap fun _ => fs.flatMap g) :=
      Focus.covers_flatMap hf (List.singleton_sublist.mpr hmem)
        (List.forall_mem_singleton.mpr hinner)
    simpa using houter
  · rw [List.sublist_nil.mp hfs]
    exact covers_nil hf

omit hl hf in
private theorem map_snd_namedValues (fs : List Focus) :
    (l.namedValues fs).map Prod.snd = fs.flatMap fun p =>
      ((p.partIn? "value").bind l.below).toList := by
  rw [namedValues, List.map_filterMap, List.filterMap_eq_flatMap_toList]
  refine List.flatMap_congr fun p _ => ?_
  cases (p.partIn? "value").bind l.below <;> simp

/-- The values of an annotation lie within it. -/
theorem Placed.annotationUse :
    (l.annotationUse f).Placed l.source f.range.startByte f.range.endByte := by
  rw [Lowering.annotationUse]
  split
  · refine placed_node hf rfl ?_
    rw [map_snd_namedValues]
    exact covers_annotationValues hf (List.Sublist.refl _) fun p _ hp => hl.bind_partIn? hp "value"
  · -- without pairs, only the first value counts
    have hfirst : f.Covers l.source ((annotationValues f).head?.bind l.below).toList := by
      rw [toList_bind_below]
      refine covers_annotationValues hf ?_ fun p _ hp => hl.covers_below hp
      cases annotationValues f with
      | nil => exact List.nil_sublist _
      | cons p ps => exact List.singleton_sublist.mpr List.mem_cons_self
    split
    · next v hv =>
      rw [hv] at hfirst
      exact placed_node hf rfl hfirst
    · exact placed_node hf rfl (covers_nil hf)

/-! ### Statements -/

/-- The variable reaches from its type to its name; the values and the body come after it. -/
theorem Placed.forEach : (l.forEach f).Placed l.source f.range.startByte f.range.endByte := by
  refine placed_node hf rfl ?_
  have hlater : ((f.partIn? "value").toList ++ (f.partIn? "body").toList).Sublist f.parts := by
    cases hvalue : f.partIn? "value" with
    | none => exact f.partIn?_sublist "body"
    | some value =>
      refine Focus.cons_sublist_parts hf (Focus.mem_parts_of_partIn? hvalue)
        (f.partIn?_sublist "body") ?_
      intro q hq
      exact Concrete.precedes_of_roles (Focus.field_of_partIn? hvalue)
        (Focus.field_of_partIn? (Option.mem_toList.mp hq)) (by decide)
  have hbelow : ∀ q ∈ (f.partIn? "value").toList ++ (f.partIn? "body").toList,
      q.Covers l.source (l.below q).toList := by
    intro q hq
    exact hl.covers_below (Focus.wellPlaced_of_mem_parts hf (hlater.subset hq))
  rw [List.append_assoc, toList_bind_below, toList_bind_below, ← List.flatMap_append]
  split
  · next type name htype hname =>
    -- type, name, value and body stand in this order
    have hroles : ∀ a, (roleOrders.any fun roles => [a, "value"].isSublist roles) = true →
        (roleOrders.any fun roles => [a, "body"].isSublist roles) = true → ∀ p ∈ f.partIn? a,
        ∀ q ∈ (f.partIn? "value").toList ++ (f.partIn? "body").toList,
          p.piece.precedes q.piece := by
      intro a hvalue hbody p hp q hq
      rcases List.mem_append.mp hq with hq | hq
      · exact Concrete.precedes_of_roles (Focus.field_of_partIn? hp)
          (Focus.field_of_partIn? (Option.mem_toList.mp hq)) hvalue
      · exact Concrete.precedes_of_roles (Focus.field_of_partIn? hp)
          (Focus.field_of_partIn? (Option.mem_toList.mp hq)) hbody
    have hname' := Focus.cons_sublist_parts hf (Focus.mem_parts_of_partIn? hname) hlater
      (hroles "name" (by decide) (by decide) name hname)
    have htype' := Focus.cons_sublist_parts hf (Focus.mem_parts_of_partIn? htype) hname' (by
      refine List.forall_mem_cons.mpr ⟨?_, hroles "type" (by decide) (by decide) type htype⟩
      exact Concrete.precedes_of_roles (Focus.field_of_partIn? htype) (Focus.field_of_partIn? hname)
        (by decide))
    obtain ⟨hlo, htypeLe, hbetween, hnameLe, hrest⟩ := Focus.inOrder_of_sublist_parts hf htype'
    obtain ⟨hstart, -, -, hstartRow, -⟩ :=
      (Focus.wellPlaced_of_mem_parts hf (Focus.mem_parts_of_partIn? htype)).range_liesIn
    obtain ⟨-, hend, -, -, hendRow⟩ :=
      (Focus.wellPlaced_of_mem_parts hf (Focus.mem_parts_of_partIn? hname)).range_liesIn
    have hle : type.range.startByte ≤ name.range.endByte :=
      Nat.le_trans htypeLe (Nat.le_trans hbetween hnameLe)
    have hspan : (spanBetween type.range name.range).LiesIn l.source :=
      ⟨hstart, hend, hle, congrArg (· + 1) hstartRow, congrArg (· + 1) hendRow⟩
    exact ⟨name.range.endByte, ⟨_, rfl, hspan, hlo, Nat.le_refl _, hle⟩,
      Focus.placedAll_flatMap hrest hbelow⟩
  · exact Focus.covers_flatMap hf hlater hbelow

/-- The drafts that a part adds to a statement that holds a lock. -/
def heldDrafts (l : Lowering) (part : Focus) : List Draft :=
  if part.kind == "parenthesized_expression" then
    ((part.namedParts.find? (!·.isComment)).bind l.below).toList
  else (l.below part).toList

omit hl hf in
private theorem drafts_hold (h : Held) (part : Focus) :
    (l.hold h part).drafts = h.drafts ++ l.heldDrafts part := by
  rw [hold, heldDrafts]
  split
  · cases part.namedParts.find? (!·.isComment) <;> simp [Held.add]
  · split <;> rfl

omit hl hf in
private theorem drafts_foldl_hold (h : Held) (parts : List Focus) :
    (parts.foldl l.hold h).drafts = h.drafts ++ parts.flatMap l.heldDrafts := by
  induction parts generalizing h with
  | nil => simp
  | cons part parts ih =>
    rw [List.foldl_cons, ih, drafts_hold, List.flatMap_cons, List.append_assoc]

private theorem Placed.heldDrafts : f.Covers l.source (l.heldDrafts f) := by
  rw [Lowering.heldDrafts]
  split
  · rw [toList_bind_below]
    have hsublist : (f.namedParts.find? (!·.isComment)).toList.Sublist f.parts := by
      cases hinner : f.namedParts.find? (!·.isComment) with
      | none => exact List.nil_sublist _
      | some inner =>
        exact List.singleton_sublist.mpr
          (f.namedParts_sublist.subset (List.mem_of_find?_eq_some hinner))
    exact Focus.covers_flatMap hf hsublist fun p hp =>
      hl.covers_below (Focus.wellPlaced_of_mem_parts hf (hsublist.subset hp))
  · exact hl.covers_below hf

/-- The parts of a statement that holds a lock lie within it, in their order. -/
theorem Placed.synchronized :
    (l.synchronized f).Placed l.source f.range.startByte f.range.endByte := by
  refine placed_node hf rfl ?_
  rw [drafts_foldl_hold, List.nil_append]
  exact Focus.covers_flatMap hf f.namedParts_sublist fun p hp =>
    hl.heldDrafts (Focus.wellPlaced_of_mem_parts hf (f.namedParts_sublist.subset hp))

/-- Each form of statement. -/
theorem Placed.statement (form : Stmt) :
    (l.statement f form).Placed l.source f.range.startByte f.range.endByte := by
  cases form with
  | forEach => exact hl.forEach hf
  | synchronized lock body => exact hl.synchronized hf
  | throwStmt e => exact placed_node hf rfl (hl.each hf f.namedParts_sublist)
  | returnStmt e => exact placed_node hf rfl (hl.each hf f.namedParts_sublist)
  | _ => exact hl.whole hf _

/-! ### Expressions -/

private theorem Placed.covers_arguments {list : Focus} (hlist : list ∈ f.partIn? "arguments") :
    list.Covers l.source (l.each list.namedParts) :=
  hl.each (Focus.wellPlaced_of_mem_parts hf (Focus.mem_parts_of_partIn? hlist))
    list.namedParts_sublist

/-- The receiver of a call comes before its arguments. -/
theorem Placed.call : (l.call f).Placed l.source f.range.startByte f.range.endByte := by
  refine placed_node hf rfl ?_
  rw [toList_bind_below, argumentsOf_eq_flatMap]
  refine Focus.covers_append hf (fun p => Focus.mem_parts_of_partIn?)
    (f.partIn?_sublist "arguments") ?_ ?_ ?_
  · intro p hp q hq
    exact Concrete.precedes_of_roles (Focus.field_of_partIn? hp)
      (Focus.field_of_partIn? (Option.mem_toList.mp hq))
      (by decide)
  · exact fun p hp => hl.covers_below
      (Focus.wellPlaced_of_mem_parts hf (Focus.mem_parts_of_partIn? hp))
  · exact fun q hq => hl.covers_arguments hf (Option.mem_toList.mp hq)

/-- The arguments of a construction come before its members. -/
theorem Placed.creation : (l.creation f).Placed l.source f.range.startByte f.range.endByte := by
  refine placed_node hf rfl ?_
  rw [argumentsOf_eq_flatMap]
  have hbodies : (f.namedParts.filter (·.kind == "class_body")).Sublist f.parts :=
    List.filter_sublist.trans f.namedParts_sublist
  refine Focus.covers_append hf (fun p => Focus.mem_parts_of_partIn?) hbodies ?_ ?_ ?_
  · intro p hp q hq
    have hkind : q.kind = "class_body" := by simpa using List.of_mem_filter hq
    exact Concrete.precedes_classBody (Focus.field_of_partIn? hp) hkind
  · exact fun p hp => hl.covers_arguments hf hp
  · exact fun q hq => hl.membersOf (Focus.wellPlaced_of_mem_parts hf (hbodies.subset hq))

/-- The left operand comes before the right one. -/
theorem Placed.infixed (make : String → Option Nat → Expr) :
    (l.infixed f make).Placed l.source f.range.startByte f.range.endByte := by
  refine placed_node hf rfl ?_
  rw [toList_bind_below, toList_bind_below]
  have hbelow : ∀ field, ∀ p ∈ f.partIn? field, p.Covers l.source (l.below p).toList := by
    intro field p hp
    exact hl.covers_below (Focus.wellPlaced_of_mem_parts hf (Focus.mem_parts_of_partIn? hp))
  refine Focus.covers_append hf (fun p => Focus.mem_parts_of_partIn?) (f.partIn?_sublist "right") ?_
    (hbelow "left") fun q hq => hbelow "right" q (Option.mem_toList.mp hq)
  intro p hp q hq
  exact Concrete.precedes_of_roles (Focus.field_of_partIn? hp)
    (Focus.field_of_partIn? (Option.mem_toList.mp hq))
    (by decide)

/-- The object of a field access lies within it. -/
theorem Placed.fieldAccess : (l.fieldAccess f).Placed l.source f.range.startByte f.range.endByte :=
  placed_node hf rfl (hl.bind_partIn? hf "object")

/-- What stands between parentheses lies within them. -/
theorem Placed.parenthesized :
    (l.parenthesized f).Placed l.source f.range.startByte f.range.endByte :=
  placed_node hf rfl (hl.each hf f.namedParts_sublist)

/-! ### All constructs -/

/-- Every well-placed construct becomes a draft in its range. -/
theorem Placed.draft {d : Draft} (hd : l.draft f = some d) :
    d.Placed l.source f.range.startByte f.range.endByte := by
  rw [Lowering.draft] at hd
  -- one case for each construct; those without parts of their own cover nothing
  cases hkind : Construct.ofKind f.kind <;> rw [hkind] at hd
  case folded => cases hd
  case resource =>
    cases htype : l.textIn? f "type" <;> simp only [htype] at hd <;> obtain rfl :=
      Option.some.inj hd
    case none => exact hl.whole hf _
    case some type => exact hl.variableOf hf type
  all_goals obtain rfl := Option.some.inj hd
  case typeDecl kind => exact hl.typeDecl hf kind
  case methodDecl => exact hl.callable hf _ _
  case constructorDecl => exact hl.callable hf _ _
  case field => exact hl.fieldDecl hf
  case localVariable => exact placed_node hf rfl (hl.variablesOf hf)
  case enumConstant => exact hl.enumConstant hf
  case annotationUse => exact hl.annotationUse hf
  case statement form => exact hl.statement hf form
  case call => exact hl.call hf
  case creation => exact hl.creation hf
  case binary => exact hl.infixed hf _
  case assignment => exact hl.infixed hf _
  case fieldAccess => exact hl.fieldAccess hf
  case parenthesized => exact hl.parenthesized hf
  case lambda => exact placed_node hf rfl (hl.bind_partIn? hf "body")
  case name | string | classLiteral | literal => exact placed_node hf rfl (covers_nil hf)
  case block | initializer | arrayInitializer | otherExpression | other => exact hl.whole hf _

end Lowering

/-- Well-placed syntax becomes placed drafts, however deep it is lowered. -/
theorem lower_placed (source : List Char) (depth : Nat) :
    Lowering.Placed ⟨source, lower source depth⟩ := by
  induction depth with
  | zero =>
    intro f d _ hd
    cases hd
  | succ depth ih =>
    intro f d hf hd
    exact ih.draft hf hd

/-- The drafts below the root of a well-placed syntax. -/
theorem placedAll_namedParts {source : String} {concrete : Concrete}
    (h : concrete.WellPlaced source.toList) (depth : Nat) :
    Draft.PlacedAll source.toList 0 source.utf8ByteSize
      ((Focus.mk [] concrete).namedParts.filterMap (lower source.toList depth)) := by
  have hcovers :=
    (lower_placed source.toList depth).each (f := ⟨[], concrete⟩) h (Focus.namedParts_sublist _)
  have hend : concrete.range.endByte ≤ source.utf8ByteSize := by
    rw [← Text.byteLength_toList]
    exact Text.le_byteLength_of_isBoundary h.range_liesIn.2.1
  exact Draft.PlacedAll.mono hcovers (Nat.zero_le _) hend

/-- **Ranges of a tree.** In the tree of well-placed syntax, every node besides the root has a
range in the source, within the range of its parent. Its lines count the line feeds before it, and
it is on a single line if and only if its text holds no line feed. In pre-order, no node begins
before another that precedes it. -/
theorem treeOf_spans (source : String) (concrete : Concrete)
    (h : concrete.WellPlaced source.toList) :
    (∀ i, 0 < i → i < (treeOf source concrete).size → ∃ p s q,
      (treeOf source concrete).parent? i = some p ∧
      ((treeOf source concrete).node i).span = some s ∧
      ((treeOf source concrete).node p).span = some q ∧
      q.startByte ≤ s.startByte ∧ s.startByte ≤ s.endByte ∧ s.endByte ≤ q.endByte ∧
      s.endByte ≤ source.utf8ByteSize ∧
      Text.isBoundary s.startByte source.toList ∧ Text.isBoundary s.endByte source.toList ∧
      s.startLine = Text.lineFeedsBefore s.startByte source.toList + 1 ∧
      s.endLine = Text.lineFeedsBefore s.endByte source.toList + 1 ∧
      (s.isSingleLine ↔ '\n' ∉ ((treeOf source concrete).text i).toList)) ∧
    (treeOf source concrete).preorder.Pairwise fun i j =>
      ((treeOf source concrete).node i).StartsBefore ((treeOf source concrete).node j) := by
  have hplaced := placedAll_namedParts h concrete.depth
  have hsound := (lower_sound source.toList concrete.depth).each (Focus.mk [] concrete).namedParts
  constructor
  · intro i hpos hi
    obtain ⟨p, s, q, hp, hs, hq, hin, hlo, hhi⟩ := SyntaxTree.nested_graftAll hplaced hpos hi
    have hend : s.endByte ≤ source.utf8ByteSize :=
      Text.byteLength_toList source ▸ Text.le_byteLength_of_isBoundary hin.end_boundary
    -- the text of a node is the slice of its range, whose line feeds the lines count
    have htext : ((treeOf source concrete).text i).toList = SyntaxTree.sliceOf source s := by
      have hsource : (treeOf source concrete).source = source := SyntaxTree.source_graftAll _ _ _
      have hspan : ((treeOf source concrete).node i).span = some s := hs
      simp only [SyntaxTree.text, String.toList_ofList, SyntaxTree.textChars, hspan, hsource]
    refine ⟨p, s, q, hp, hs, hq, hlo, hin.start_le_end, hhi, hend, hin.start_boundary,
      hin.end_boundary, hin.startLine_eq, hin.endLine_eq, ?_⟩
    rw [htext]
    exact hin.isSingleLine_iff
  · exact SyntaxTree.pairwise_startsBefore_graftAll hsound hplaced

/-- A loop over a collection, on two lines and with a name of more bytes than characters. -/
def loopSource : String := "for (int é :\n xs) f(é);"

/-- The concrete syntax of `loopSource`. -/
def loop : Concrete :=
  .node "program" true none ⟨0, 25, 0, 1⟩
    [.node "enhanced_for_statement" true none ⟨0, 25, 0, 1⟩
      [.node "for" false none ⟨0, 3, 0, 0⟩ [],
       .node "(" false none ⟨4, 5, 0, 0⟩ [],
       .node "integral_type" true (some "type") ⟨5, 8, 0,
         0⟩ [.node "int" false none ⟨5, 8, 0, 0⟩ []],
       .node "identifier" true (some "name") ⟨9, 11, 0, 0⟩ [],
       .node ":" false none ⟨12, 13, 0, 0⟩ [],
       .node "identifier" true (some "value") ⟨15, 17, 1, 1⟩ [],
       .node ")" false none ⟨17, 18, 1, 1⟩ [],
       .node "expression_statement" true (some "body") ⟨19, 25, 1, 1⟩
        [.node "method_invocation" true none ⟨19, 24, 1, 1⟩
          [.node "identifier" true (some "name") ⟨19, 20, 1, 1⟩ [],
           .node "argument_list" true (some "arguments") ⟨20, 24, 1, 1⟩
            [.node "(" false none ⟨20, 21, 1, 1⟩ [],
             .node "identifier" true none ⟨21, 23, 1, 1⟩ [],
             .node ")" false none ⟨23, 24, 1, 1⟩ []]],
         .node ";" false none ⟨24, 25, 1, 1⟩ []]]]

/-- The variable of a loop reaches from its type to its name, inside the loop. -/
theorem treeOf_loop_spans :
    loop.WellPlaced loopSource.toList ∧
    ((treeOf loopSource loop).node 2).span = some ⟨1, 1, 5, 11⟩ ∧
    (∃ p s q, (treeOf loopSource loop).parent? 2 = some p ∧
      ((treeOf loopSource loop).node 2).span = some s ∧
      ((treeOf loopSource loop).node p).span = some q ∧ q.startByte ≤ s.startByte ∧
      s.endByte ≤ q.endByte ∧
      (s.isSingleLine ↔ '\n' ∉ ((treeOf loopSource loop).text 2).toList)) ∧
    (treeOf loopSource loop).preorder.Pairwise fun i j =>
      ((treeOf loopSource loop).node i).StartsBefore ((treeOf loopSource loop).node j) := by
  have h : loop.WellPlaced loopSource.toList := by decide +kernel
  obtain ⟨hspans, hpreorder⟩ := treeOf_spans loopSource loop h
  obtain ⟨p, s, q, hp, hs, hq, hlo, -, hhi, -, -, -, -, -, hline⟩ :=
    hspans 2 (by decide) (by decide +kernel)
  exact ⟨h, by decide +kernel, ⟨p, s, q, hp, hs, hq, hlo, hhi, hline⟩, hpreorder⟩

end Excerpt.Java
