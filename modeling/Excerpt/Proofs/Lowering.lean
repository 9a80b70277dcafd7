import Excerpt.Proofs.Depth
import Excerpt.Proofs.Drafts

/-!
# Lowered trees

Every draft that is made of concrete syntax is sound, whatever the kinds and fields of its pieces
are: no construct refers to anything but its own children. Each construct is treated on its own,
under the assumption that the drafts below it are sound (`Lowering.Sound`); `lower_sound`
discharges the assumption by induction on the depth.

For most constructs there is nothing to do but to count. The children of a construct are put
together from lists of drafts, some of which may be empty, and a reference counts the drafts in
the lists before it. Statements that hold locks differ, because they go through their parts and
collect references on the way; for them soundness is an invariant of the loop (`Held.Sound.add`,
`Sound.foldl_hold`).

It follows that in the tree of concrete syntax each reference of a node is one of its children,
and that the indices count the nodes in pre-order. Since nothing is cut off at the bound on the
depth (`treeOf_eq`), this is a statement about all constructs.

## Main results

* `Lowering.Sound.draft`: every construct refers to its own children only.
* `lower_sound`: concrete syntax becomes sound drafts.
* `treeOf_references_and_preorder`: references and indices in the tree of concrete syntax.
-/

namespace Excerpt.Java

/-- A reference to a draft that may be missing, after `k` others. -/
theorem reference_lt {o : Option Draft} {j k : Nat} (hj : j ∈ (o.map fun _ => k).toList) :
    j < k + o.toList.length := by
  cases o with
  | none => simp at hj
  | some d =>
    obtain rfl : j = k := by simpa using hj
    exact Nat.lt_succ_self j

private theorem first?_lt {ds : List Draft} {j : Nat} (hj : j ∈ (Draft.first? ds).toList) :
    j < ds.length := by
  cases ds with
  | nil => simp [Draft.first?] at hj
  | cons d ds =>
    obtain rfl : j = 0 := by simpa [Draft.first?] using hj
    exact Nat.zero_lt_succ _

private theorem positions_lt {skipped n j : Nat} (hj : j ∈ Draft.positions skipped n) :
    j < skipped + n :=
  (List.mem_range'_1.mp hj).2

namespace Lowering

/-- What lies below the constructs becomes sound drafts. -/
def Sound (l : Lowering) : Prop :=
  ∀ f d, l.below f = some d → d.Sound

variable {l : Lowering} (hl : l.Sound) (f : Focus)

include hl

/-! ### Lists of drafts -/

private theorem Sound.below_toList (o : Option Focus) : ∀ d ∈ (o.bind l.below).toList, d.Sound := by
  intro d hd
  obtain ⟨g, -, hg⟩ := Option.bind_eq_some_iff.mp (Option.mem_toList.mp hd)
  exact hl g d hg

/-- The drafts of pieces, one after the other. -/
theorem Sound.each (fs : List Focus) : ∀ d ∈ l.each fs, d.Sound := by
  intro d hd
  obtain ⟨g, -, hg⟩ := List.mem_filterMap.mp hd
  exact hl g d hg

/-- The annotations of a declaration. -/
theorem Sound.annotationsOf : ∀ d ∈ l.annotationsOf f, d.Sound :=
  hl.each _

/-- A construct that refers to nothing. -/
theorem Sound.whole {kind : Kind} (hkind : kind.references = []) : (l.whole f kind).Sound :=
  .node rfl (by simp [nodeOver, hkind]) (hl.each _)

/-- The members of a body. -/
theorem Sound.membersOf : ∀ d ∈ l.membersOf f, d.Sound := by
  intro d hd
  obtain ⟨m, -, hm⟩ := List.mem_flatMap.mp hd
  have hbelow := hl.below_toList (some m)
  split at hm
  · rw [List.mem_singleton] at hm
    exact hm ▸ .node rfl (by simp [nodeOver, Kind.references]) hbelow
  · exact hbelow d hm

/-! ### Declarations -/

/-- A type refers to nothing. -/
theorem Sound.typeDecl (kind : TypeKind) : (l.typeDecl f kind).Sound := by
  refine .node rfl (by simp [declNode, nodeOver, Kind.references]) ?_
  refine List.forall_mem_append.mpr ⟨hl.annotationsOf f, ?_⟩
  split
  · exact hl.membersOf _
  · simp

/-- The body is the only child after the annotations. -/
theorem Sound.callable {make : CallableDecl → Kind}
    (hmake : ∀ d, (make d).references = d.body.toList) (returnType : Option String) :
    (l.callable f make returnType).Sound := by
  refine .node rfl ?_ (List.forall_mem_append.mpr ⟨hl.annotationsOf f, hl.below_toList _⟩)
  intro j hj
  rw [declNode, nodeOver, hmake] at hj
  rw [List.length_append]
  exact reference_lt hj

/-- The value is the only child. -/
theorem Sound.variableOf (type : String) : (l.variableOf f type).Sound := by
  refine .node rfl ?_ (hl.below_toList _)
  intro j hj
  simpa using reference_lt hj

/-- The variables of a declaration. -/
theorem Sound.variablesOf : ∀ d ∈ l.variablesOf f, d.Sound := by
  intro d hd
  obtain ⟨g, -, rfl⟩ := List.mem_map.mp hd
  exact hl.variableOf g _

/-- A declaration of fields refers to nothing. -/
theorem Sound.fieldDecl : (l.fieldDecl f).Sound :=
  .node rfl (by simp [declNode, nodeOver, Kind.references])
    (List.forall_mem_append.mpr ⟨hl.annotationsOf f, hl.variablesOf f⟩)

/-- A constant of an enum refers to nothing. -/
theorem Sound.enumConstant : (l.enumConstant f).Sound :=
  .node rfl (by simp [nodeOver, Kind.references]) (hl.each _)

/-- The values of an annotation that are given by name. -/
theorem Sound.namedValues (fs : List Focus) : ∀ e ∈ l.namedValues fs, e.2.Sound := by
  intro e he
  obtain ⟨g, -, hg⟩ := List.mem_filterMap.mp he
  obtain ⟨v, hv, rfl⟩ := Option.map_eq_some_iff.mp hg
  exact hl.below_toList _ v (Option.mem_toList.mpr hv)

/-- Named values are counted in the order in which they are drafted. -/
theorem Sound.annotationUse : (l.annotationUse f).Sound := by
  rw [Lowering.annotationUse]
  split
  · refine .node rfl ?_ (List.forall_mem_map.mpr (hl.namedValues _))
    intro j hj
    obtain ⟨e, he, rfl⟩ := List.mem_map.mp hj
    simpa using positions_lt (List.of_mem_zip he).2
  · split
    · next v hv =>
      refine .node rfl (by simp [nodeOver, Kind.references]) ?_
      exact List.forall_mem_singleton.mpr (hl.below_toList _ v (Option.mem_toList.mpr hv))
    · exact .node rfl (by simp [nodeOver, Kind.references]) (by simp)

/-! ### Statements -/

/-- A loop over a collection refers to nothing. -/
theorem Sound.forEach : (l.forEach f).Sound := by
  refine .node rfl (by simp [nodeOver, Kind.references]) ?_
  refine List.forall_mem_append.mpr ⟨List.forall_mem_append.mpr ⟨?_, hl.below_toList _⟩,
    hl.below_toList _⟩
  split
  · exact List.forall_mem_singleton.mpr (.node rfl (by simp [Kind.references]) (by simp))
  · simp

/-- What is known of a statement that holds a lock refers to drafts that are there. -/
structure Held.Sound (h : Held) : Prop where
  drafts : ∀ d ∈ h.drafts, d.Sound
  lock : ∀ j ∈ h.lock.toList, j < h.drafts.length
  body : ∀ j ∈ h.body.toList, j < h.drafts.length

omit hl in
private theorem Held.length_le_length_add (h : Held) (o : Option Draft) :
    h.drafts.length ≤ (h.add o).drafts.length := by
  simp [Held.add]

omit hl in
private theorem Held.next?_lt {h : Held} {o : Option Draft} {j : Nat}
    (hj : j ∈ (h.next? o).toList) :
    j < (h.add o).drafts.length := by
  simpa [Held.add] using reference_lt hj

omit hl in
/-- Adding a draft keeps the references. -/
theorem Held.Sound.add {h : Held} (hh : h.Sound) {o : Option Draft} (ho : ∀ d ∈ o.toList, d.Sound) :
    (h.add o).Sound where
  drafts := List.forall_mem_append.mpr ⟨hh.drafts, ho⟩
  lock j hj := Nat.lt_of_lt_of_le (hh.lock j hj) (h.length_le_length_add o)
  body j hj := Nat.lt_of_lt_of_le (hh.body j hj) (h.length_le_length_add o)

/-- One part of a statement that holds a lock. -/
theorem Sound.hold {h : Held} (hh : h.Sound) (part : Focus) : (l.hold h part).Sound := by
  rw [Lowering.hold]
  split
  · split
    · next inner _ =>
      -- the draft of an earlier lock stays, even if it is no longer referred to
      have hadd := hh.add (hl.below_toList (some inner))
      exact ⟨hadd.drafts, fun j hj => Held.next?_lt hj, hadd.body⟩
    · exact hh
  · have hadd := hh.add (hl.below_toList (some part))
    split
    · exact ⟨hadd.drafts, hadd.lock, fun j hj => Held.next?_lt hj⟩
    · exact hadd

/-- All parts of a statement that holds a lock, one after the other. -/
theorem Sound.foldl_hold {h : Held} (hh : h.Sound) (parts : List Focus) :
    (parts.foldl l.hold h).Sound := by
  induction parts generalizing h with
  | nil => exact hh
  | cons part parts ih => exact ih (hl.hold hh part)

/-- The lock and the body are among the drafts that have been collected on the way. -/
theorem Sound.synchronized : (l.synchronized f).Sound := by
  have hstart : Held.Sound {} := ⟨by simp, by simp, by simp⟩
  have hheld := hl.foldl_hold hstart f.namedParts
  exact .node rfl (List.forall_mem_append.mpr ⟨hheld.lock, hheld.body⟩) hheld.drafts

/-- Each form of statement. -/
theorem Sound.statement (form : Stmt) : (l.statement f form).Sound := by
  cases form with
  | forEach => exact hl.forEach f
  | synchronized lock body => exact hl.synchronized f
  | throwStmt e => exact .node rfl (fun j hj => first?_lt hj) (hl.each _)
  | returnStmt e => exact .node rfl (fun j hj => first?_lt hj) (hl.each _)
  | _ => exact hl.whole f rfl

/-! ### Expressions -/

/-- The arguments of a call. -/
theorem Sound.argumentsOf : ∀ d ∈ l.argumentsOf f, d.Sound := by
  rw [Lowering.argumentsOf]
  split
  · exact hl.each _
  · simp

/-- The receiver comes before the arguments. -/
theorem Sound.call : (l.call f).Sound := by
  refine .node rfl ?_ (List.forall_mem_append.mpr ⟨hl.below_toList _, hl.argumentsOf f⟩)
  intro j hj
  rw [List.length_append]
  rcases List.mem_append.mp hj with hj | hj
  · exact Nat.lt_add_right _ (first?_lt hj)
  · exact positions_lt hj

/-- The arguments come before the members. -/
theorem Sound.creation : (l.creation f).Sound := by
  refine .node rfl ?_ (List.forall_mem_append.mpr ⟨hl.argumentsOf f, ?_⟩)
  · intro j hj
    rw [List.length_append, ← Nat.zero_add (l.argumentsOf f).length]
    exact Nat.lt_add_right _ (positions_lt hj)
  · exact List.forall_mem_flatMap.mpr fun g _ => hl.membersOf g

/-- Operands are referred to only if both are there. -/
theorem Sound.infixed {make : String → Option Nat → Expr}
    (hmake : ∀ op line, (Kind.expr (make op line)).references = [0, 1]) :
    (l.infixed f make).Sound := by
  refine .node rfl ?_ (List.forall_mem_append.mpr ⟨hl.below_toList _, hl.below_toList _⟩)
  intro j hj
  cases hleft : (f.partIn? "left").bind l.below with
  | none => simp [nodeOver, hleft, Kind.references] at hj
  | some left =>
    cases hright : (f.partIn? "right").bind l.below with
    | none => simp [nodeOver, hleft, hright, Kind.references] at hj
    | some right =>
      simp only [nodeOver, hleft, hright, hmake] at hj
      simp only [Option.toList_some, List.cons_append, List.nil_append, List.length_cons,
        List.length_nil]
      rcases List.mem_pair.mp hj with rfl | rfl <;> decide

/-- The object is the only child. -/
theorem Sound.fieldAccess : (l.fieldAccess f).Sound := by
  refine .node rfl ?_ (hl.below_toList _)
  intro j hj
  simpa using reference_lt hj

/-- What stands between parentheses is the only child. -/
theorem Sound.parenthesized : (l.parenthesized f).Sound :=
  .node rfl (fun _ hj => first?_lt hj) (hl.each _)

/-! ### All constructs -/

omit hl in
/-- A construct without parts that refers to nothing. -/
theorem sound_leaf {kind : Kind} (hkind : kind.references = []) (name : Option Ident) :
    (Draft.node (nodeOver f kind name) []).Sound :=
  .node rfl (by simp [nodeOver, hkind]) (by simp)

/-- Every construct refers to its own children only. -/
theorem Sound.draft {d : Draft} (hd : l.draft f = some d) : d.Sound := by
  rw [Lowering.draft] at hd
  cases hkind : Construct.ofKind f.kind <;> rw [hkind] at hd
  case folded => cases hd
  case resource =>
    cases htype : l.textIn? f "type" <;> simp only [htype] at hd <;> obtain rfl :=
      Option.some.inj hd
    case none => exact hl.whole f rfl
    case some type => exact hl.variableOf f type
  all_goals obtain rfl := Option.some.inj hd
  case typeDecl kind => exact hl.typeDecl f kind
  case methodDecl => exact hl.callable f (fun _ => rfl) _
  case constructorDecl => exact hl.callable f (fun _ => rfl) _
  case field => exact hl.fieldDecl f
  case localVariable => exact .node rfl (by simp [nodeOver, Kind.references]) (hl.variablesOf f)
  case enumConstant => exact hl.enumConstant f
  case annotationUse => exact hl.annotationUse f
  case statement form => exact hl.statement f form
  case call => exact hl.call f
  case creation => exact hl.creation f
  case binary => exact hl.infixed f fun _ _ => rfl
  case assignment => exact hl.infixed f fun _ _ => rfl
  case fieldAccess => exact hl.fieldAccess f
  case parenthesized => exact hl.parenthesized f
  case lambda => exact .node rfl (by simp [nodeOver, Kind.references]) (hl.below_toList _)
  case name | string | classLiteral | literal => exact sound_leaf f rfl _
  case block | initializer | arrayInitializer | otherExpression | other => exact hl.whole f rfl

end Lowering

/-- Concrete syntax becomes sound drafts, however deep it is lowered. -/
theorem lower_sound (source : List Char) (depth : Nat) :
    Lowering.Sound ⟨source, lower source depth⟩ := by
  induction depth with
  | zero =>
    intro f d hd
    cases hd
  | succ depth ih =>
    intro f d hd
    exact ih.draft f hd

end Excerpt.Java
