import Excerpt.Proofs.Bindings
import Excerpt.Proofs.Extension
import Excerpt.Proofs.FieldSlots
import Excerpt.Proofs.NameSearch

/-!
# Built-in detectors stay in their tree

In a self-contained tree the payloads of nodes refer to children. A detector that follows such
references, walks up to ancestors or down to what lies below a node never leaves the tree. This
shows in two ways. The call completes; and it comes to the same findings in every tree that
extends the given one, whatever stands after the nodes of the given one and however large the
bounds become that are computed from the size of the tree (`Detector.IsConfined`).

The two are proved together. A search is `Settled` if it comes to an end in all trees that extend
the given one, and to the same one. Searches that are put together from settled ones are settled
(`Settled.bind`, `Settled.map`), so the proofs follow the detectors, with one lemma for each of
them. What a detector starts with is settled because references lead into the tree
(`settled_follow_bind`), because the way up from a node and the nodes below it are those of the
given tree, or because a search for a name ends (`exists_nameEnds_extends`).

## Main results

* `exists_nameEnds_extends`: the name that a node gives is found, and is the same in larger trees.
* `isConfined_of_mem_builtin`: no built-in detector leaves the tree.
-/

namespace Excerpt

namespace SyntaxTree

/-! ### Searches that come to the same end -/

/-- The search comes to the same end in every tree that extends `t`. -/
def Settled {α : Type} (t : SyntaxTree) (search : SyntaxTree → Option α) : Prop :=
  ∃ a, ∀ t', t'.Extends t → search t' = some a

section Settled

variable {α β : Type} {t : SyntaxTree} {j : Nat}

/-- A search that agrees with a settled one in all trees that extend the given one is settled. -/
theorem Settled.congr {f g : SyntaxTree → Option α} (hfg : ∀ t', t'.Extends t → f t' = g t')
    (h : t.Settled g) :
    t.Settled f := by
  obtain ⟨a, ha⟩ := h
  exact ⟨a, fun t' he => (hfg t' he).trans (ha t' he)⟩

/-- A result that does not depend on the tree is settled. -/
private theorem settled_pure (a : α) : t.Settled fun _ => some a :=
  ⟨a, fun _ _ => rfl⟩

/-- What is read off a tree is settled if all trees that extend the given one show the same. There
is nothing to search for, so the search ends at once. -/
private theorem settled_some {f : SyntaxTree → α} (h : ∀ t', t'.Extends t → f t' = f t) :
    t.Settled fun t' => some (f t') :=
  ⟨f t, fun t' he => congrArg some (h t' he)⟩

/-- A search that goes on from a settled one, in a settled way, is settled. -/
theorem Settled.bind {f : SyntaxTree → Option α} {g : SyntaxTree → α → Option β} (hf : t.Settled f)
    (hg : ∀ a, t.Settled fun t' => g t' a) : t.Settled fun t' => (f t').bind (g t') := by
  obtain ⟨a, ha⟩ := hf
  obtain ⟨b, hb⟩ := hg a
  refine ⟨b, fun t' he => ?_⟩
  calc (f t').bind (g t') = g t' a := by rw [ha t' he, Option.bind_some]
    _ = some b := hb t' he

/-- What is made of the end of a settled search is settled. -/
theorem Settled.map {f : SyntaxTree → Option α} (hf : t.Settled f) (g : α → β) :
    t.Settled fun t' => (f t').map g := by
  obtain ⟨a, ha⟩ := hf
  exact ⟨g a, fun t' he => congrArg (Option.map g) (ha t' he)⟩

/-- A reference into the tree can be followed. -/
theorem settled_follow_bind {g : SyntaxTree → NodeId → Option β} (hj : j < t.size)
    (hg : t.Settled fun t' => g t' j) :
    t.Settled fun t' => (t'.follow j).bind (g t') := by
  refine .congr (fun t' he => ?_) hg
  rw [he.follow_eq hj, Option.bind_some]

/-- What is read off a node behind a reference is settled, if the reference leads into the given
tree and the node looks the same in all trees that extend it. -/
private theorem settled_follow_map {g : SyntaxTree → NodeId → β} (hj : j < t.size)
    (hg : ∀ t', t'.Extends t → g t' j = g t j) : t.Settled fun t' => (t'.follow j).map (g t') := by
  refine .congr (fun t' he => ?_) (settled_some hg)
  rw [he.follow_eq hj, Option.map_some]

/-- A search through a list is settled if it is at each of the elements. The list itself must be
the same in all trees; where it is not obvious, it is rewritten first. -/
private theorem settled_gather {xs : List α} {f : SyntaxTree → α → Option (List β)}
    (h : ∀ x ∈ xs, t.Settled fun t' => f t' x) : t.Settled fun t' => gather xs (f t') := by
  induction xs with
  | nil => exact settled_pure _
  | cons x xs ih =>
    have hhere := h x List.mem_cons_self
    have hmore := ih fun y hy => h y (List.mem_cons_of_mem _ hy)
    exact hhere.bind fun here => hmore.bind fun more => settled_pure _

end Settled

end SyntaxTree

open SyntaxTree

/-- At every node of a self-contained tree the detector completes, with findings that do not
change when further nodes are added to the tree. -/
def Detector.IsConfined (d : Detector) : Prop :=
  ∀ t : SyntaxTree, t.SelfContained → ∀ i < t.size, ∀ (rule : Rule) (path : String),
    ∃ findings, ∀ t', t'.Extends t → d.detect ⟨t', i, rule, path⟩ = .completed findings

/-- A detector that only searches is confined if its search is settled at every node of every
self-contained tree, under whatever rule. -/
private theorem Detector.isConfined_searching {name : String}
    {search : Context → Option (List Finding)}
      (h : ∀ t : SyntaxTree, t.SelfContained → ∀ i < t.size, ∀ (rule : Rule) (path : String),
      t.Settled fun t' => search ⟨t', i, rule, path⟩) :
    (Detector.searching name search).IsConfined := by
  intro t ht i hi rule path
  obtain ⟨findings, hfindings⟩ := h t ht i hi rule path
  exact ⟨findings, fun t' he => congrArg Outcome.ofSearch (hfindings t' he)⟩

namespace Detect

open Detector

variable {t : SyntaxTree} {i j : Nat}

/-! ### Names and documentation -/

/-- The signature of a variable needs the text of its value, which is a child of the variable. -/
private theorem settled_variableText (ht : t.SelfContained) (hi : i < t.size) :
    t.Settled fun t' => t'.variableText i := by
  apply Settled.congr
  · intro t' he
    rw [variableText, he.kind_eq hi, he.ofVariable_eq ht hi]
  cases hkind : t.kind i with
  | declarator type value =>
    cases value with
    | none => exact settled_pure _
    | some value =>
      have hvalue : value < t.size := ht.lt_size hkind (by simp [Kind.references])
      exact settled_follow_map hvalue fun _ _ => rfl
  | _ => exact settled_pure _

/-- Names are judged by what a declaration says about itself, and a variable also by its value. -/
private theorem isConfined_naming : naming.IsConfined := by
  refine isConfined_searching fun t ht i hi rule path => ?_
  have hdeclaration : t.Settled fun t' => namedDeclaration ⟨t', i, rule, path⟩ := by
    apply Settled.congr
    · intro t' he
      rw [namedDeclaration, he.contextKind_eq hi]
    cases t.kind i with
    | typeDecl _ => exact settled_some fun t' he => congrArg some (he.header_eq hi)
    | methodDecl _ => exact settled_some fun t' he => congrArg some (he.ofCallable_eq hi)
    | declarator _ _ => exact (settled_variableText ht hi).map some
    | _ => exact settled_pure _
  refine hdeclaration.bind fun declaration => ?_
  cases declaration with
  | none => exact settled_pure _
  | some text =>
    refine settled_some fun t' he => ?_
    rw [he.nameLine_eq hi, he.contextName_eq hi, Context.name]

/-- Whether javadoc counts is told by the node and by the type that is its parent. -/
private theorem isDocumented_extends {t' : SyntaxTree} (he : t'.Extends t) (ht : t.SelfContained)
    (hi : i < t.size) {rule : Rule} {path : String} :
    isDocumented ⟨t', i, rule, path⟩ = isDocumented ⟨t, i, rule, path⟩ := by
  have howner : ownerKind? t' i = ownerKind? t i := by
    rw [ownerKind?, he.parent?_eq hi, ownerKind?]
    cases hp : t.parent? i with
    | none => rfl
    | some p =>
      have hlt : p < i := ht.wellFormed.lt_of_parent? hp
      rw [Option.bind_some, he.kind_eq (Nat.lt_trans hlt hi), Option.bind_some]
  have hvisible : isVisible t' i = isVisible t i := by
    rw [isVisible, he.node_eq hi, howner, isVisible]
  rw [isDocumented, he.contextKind_eq hi, hvisible, isDocumented, Context.kind]

/-- A description is taken from the comment of the node, and nothing is followed for it. -/
private theorem isConfined_javadoc : javadoc.IsConfined := by
  refine isConfined_searching fun t ht i hi rule path => ?_
  apply Settled.congr
  · intro t' he
    rw [isDocumented_extends he ht hi, he.node_eq hi, he.ofNode_eq ht hi, he.contextName_eq hi]
  cases (if isDocumented ⟨t, i, rule, path⟩ then (t.node i).javadoc? else none) with
  | none => exact settled_pure _
  | some doc =>
    dsimp only
    split
    · exact settled_pure _
    · exact settled_pure _

/-- The documentation of a method is taken from its comment, and nothing is followed for it. -/
private theorem isConfined_methodDoc : methodDoc.IsConfined := by
  refine isConfined_searching fun t ht i hi rule path => ?_
  apply Settled.congr
  · intro t' he
    rw [he.contextKind_eq hi, he.node_eq hi, he.nameLine_eq hi, he.contextName_eq hi]
  split
  · exact settled_pure _
  · exact settled_pure _

/-! ### Members and constants -/

private theorem dropWhile_congr {α : Type} {p q : α → Bool} {xs : List α}
    (h : ∀ x ∈ xs, p x = q x) :
    xs.dropWhile p = xs.dropWhile q := by
  induction xs with
  | nil => rfl
  | cons x xs ih =>
    have hx : p x = q x := h x List.mem_cons_self
    rw [List.dropWhile_cons, List.dropWhile_cons, hx,
      ih fun y hy => h y (List.mem_cons_of_mem _ hy)]

/-- Constructors are told by their kinds, which members of the given tree keep. -/
private theorem strayConstructor?_extends {t' : SyntaxTree} (he : t'.Extends t)
    {members : List NodeId} (hmembers : ∀ m ∈ members, m < t.size) :
    strayConstructor? t' members = strayConstructor? t members := by
  have hkind : ∀ m ∈ members, isConstructor (t'.kind m) = isConstructor (t.kind m) := by
    intro m hm
    rw [he.kind_eq (hmembers m hm)]
  have hfirst : members.dropWhile (fun m => !isConstructor (t'.kind m)) =
      members.dropWhile fun m => !isConstructor (t.kind m) :=
    dropWhile_congr fun m hm => congrArg (!·) (hkind m hm)
  have hrest : ∀ m ∈ members.dropWhile (fun m => !isConstructor (t.kind m)),
      isConstructor (t'.kind m) = isConstructor (t.kind m) :=
    fun m hm => hkind m ((List.dropWhile_sublist _).subset hm)
  rw [strayConstructor?, strayConstructor?]
  dsimp only
  rw [hfirst, dropWhile_congr hrest]
  exact List.find?_congr fun m hm => hrest m ((List.dropWhile_sublist _).subset hm)

/-- A constructor that is out of place is a member, hence a node of the given tree. -/
private theorem mem_of_strayConstructor? {members : List NodeId}
    (hj : strayConstructor? t members = some j) :
    j ∈ members :=
  (List.dropWhile_sublist _).subset
    ((List.dropWhile_sublist _).subset (List.mem_of_find?_eq_some hj))

/-- Methods that are out of place are members, in their order. The pass may drop a member but
never makes one up, whatever names are open or finished. -/
private theorem strayMethods_sublist (current : Option String) (finished : List String)
    (ms : List Member) :
    (strayMethods current finished ms).Sublist (ms.map Member.node) := by
  induction ms generalizing current finished with
  | nil => exact .slnil
  | cons m ms ih =>
    rw [strayMethods, List.map_cons]
    split
    · exact (ih _ _).cons _
    · next name _ =>
      have hrest : (if current = some name then strayMethods current finished ms
          else strayMethods (some name) (current.toList ++ finished) ms).Sublist
            (ms.map Member.node) := by
        split <;> exact ih _ _
      dsimp only
      split
      · exact hrest.cons_cons _
      · exact hrest.cons _

/-- The members of a type are its children, and what is reported on them is their text. -/
private theorem isConfined_continuity : continuity.IsConfined := by
  refine isConfined_searching fun t ht i hi rule path => ?_
  have hmembers : ∀ m ∈ t.members i, m < t.size := fun m hm => ht.lt_size_of_mem_members hm
  have hmembersOf : ∀ t', t'.Extends t → membersOf t' i = membersOf t i := by
    intro t' he
    rw [membersOf, he.members_eq ht.wellFormed hi, membersOf]
    refine List.map_congr_left fun m hm => ?_
    rw [he.kind_eq (hmembers m hm), he.node_eq (hmembers m hm)]
  apply Settled.congr
  · intro t' he
    rw [he.contextKind_eq hi, he.contextName_eq hi]
  split
  · refine settled_some fun t' he => ?_
    rw [he.members_eq ht.wellFormed hi, strayConstructor?_extends he hmembers, hmembersOf t' he]
    congr 1
    · refine List.map_congr_left fun c hc => ?_
      have hsize : c < t.size := hmembers c (mem_of_strayConstructor? (Option.mem_toList.mp hc))
      rw [he.line_eq hsize, he.trimmedText_eq hsize]
    · refine List.map_congr_left fun (m : Nat) hm => ?_
      -- the pass makes up no members, so what it reports is in the tree
      have hnodes : (membersOf t i).map Member.node = t.members i := by
        simp [membersOf, Function.comp_def]
      have hsize : m < t.size := hmembers m (hnodes ▸ (strayMethods_sublist none [] _).subset hm)
      rw [he.line_eq hsize, he.trimmedText_eq hsize, he.node_eq hsize]
  · exact settled_pure _

/-- The outline of a type is made of the texts of its members. -/
private theorem isConfined_classOutline : classOutline.IsConfined := by
  refine isConfined_searching fun t ht i hi rule path => ?_
  have hlines : ∀ t' : SyntaxTree, t'.Extends t →
      (t'.members i).filterMap (outlineLine t') = (t.members i).filterMap (outlineLine t) := by
    intro t' he
    rw [he.members_eq ht.wellFormed hi]
    refine List.filterMap_congr fun m hm => ?_
    have hsize := ht.lt_size_of_mem_members hm
    rw [outlineLine, he.kind_eq hsize, he.trimmedText_eq hsize, he.ofCallable_eq hsize, outlineLine]
  apply Settled.congr
  · intro t' he
    rw [he.contextKind_eq hi, hlines t' he, he.contextLine_eq hi, he.ofType_eq hi]
  split
  · exact settled_pure _
  · exact settled_pure _

/-- The value of a variable is a child, so it can be looked at. -/
private theorem settled_hasLiteralValue (ht : t.SelfContained) (hi : i < t.size) :
    t.Settled fun t' => hasLiteralValue t' i := by
  apply Settled.congr
  · intro t' he
    rw [hasLiteralValue, he.kind_eq hi]
  cases hkind : t.kind i with
  | declarator type value =>
    cases value with
    | none => exact settled_pure _
    | some value =>
      have hvalue : value < t.size := ht.lt_size hkind (by simp [Kind.references])
      refine settled_follow_map hvalue fun t' he => ?_
      rw [he.kind_eq hvalue]
  | _ => exact settled_pure _

/-- The fields of an interface are members, their variables lie below them, and the values of
these are children again. -/
private theorem isConfined_interfaceConstants : interfaceConstants.IsConfined := by
  refine isConfined_searching fun t ht i hi rule path => ?_
  dsimp only
  apply Settled.congr
  · intro t' he
    rw [he.contextKind_eq hi, he.filter_members_eq ht.wellFormed hi isField, he.header_eq hi]
  split
  · refine settled_gather fun (field : Nat) hfield => ?_
    have hfield : field < t.size := ht.lt_size_of_mem_members (List.mem_of_mem_filter hfield)
    apply Settled.congr
    · intro t' he
      rw [he.declarators_eq ht.wellFormed hfield, he.trimmedText_eq hfield]
    refine settled_gather fun (var : Nat) hvar => ?_
    have hvar : var < t.size := ht.lt_size_of_mem_declarators hvar
    refine (settled_hasLiteralValue ht hvar).bind fun literal => ?_
    apply Settled.congr
    · intro t' he
      rw [he.node_eq hvar, he.line_eq hvar]
    split
    · exact settled_pure _
    · exact settled_pure _
  · exact settled_pure _

/-- The variables of a declaration lie below it, and their values are children of these. -/
private theorem isConfined_constants : constants.IsConfined := by
  refine isConfined_searching fun t ht i hi rule path => ?_
  dsimp only
  -- what is read off the nodes of the tree first, and then what is searched from there
  apply Settled.congr
  · intro t' he
    rw [he.node_eq hi, he.declarators_eq ht.wellFormed hi]
  split
  · refine settled_gather fun (var : Nat) hvar => ?_
    have hvar : var < t.size := ht.lt_size_of_mem_declarators hvar
    apply Settled.congr
    · intro t' he
      rw [he.kind_eq hvar, he.node_eq hvar, he.nameLine_eq hvar]
    cases hkind : t.kind var with
    | declarator type value =>
      refine Settled.bind (f := fun t' => valueText t' value) ?_ fun text => settled_pure _
      cases value with
      | none => exact settled_pure _
      | some value =>
        have hvalue : value < t.size := ht.lt_size hkind (by simp [Kind.references])
        exact settled_follow_map hvalue fun t' he => he.text_eq hvalue
    | _ => exact settled_pure _
  · exact settled_pure _

/-! ### Request paths -/

/-- The annotations of a declaration are among its children. -/
private theorem annotationsOf_extends {t' : SyntaxTree} (he : t'.Extends t) (ht : t.SelfContained)
    (hi : i < t.size) :
    annotationsOf t' i = annotationsOf t i := by
  rw [annotationsOf, he.children_eq hi, annotationsOf]
  refine List.filter_congr fun (c : Nat) hc => ?_
  rw [he.kind_eq (ht.lt_size_of_mem_children hc)]

/-- The values of an argument are children, whether the argument is a list or the value itself. -/
private theorem settled_argumentValues (ht : t.SelfContained) (hi : i < t.size) :
    t.Settled fun t' => argumentValues t' i := by
  refine settled_follow_map hi fun t' he => ?_
  rw [he.kind_eq hi, he.children_eq hi, he.valueOrText_eq hi]
  have hvalues : (t.children i).map t'.valueOrText = (t.children i).map t.valueOrText :=
    List.map_congr_left fun c hc => he.valueOrText_eq (ht.lt_size_of_mem_children hc)
  rw [hvalues]

/-- The paths of an annotation are given by its arguments, which are children. An annotation
without arguments refers to nothing. -/
private theorem settled_mappedPaths (ht : t.SelfContained) (hi : i < t.size) :
    t.Settled fun t' => mappedPaths t' i := by
  apply Settled.congr
  · intro t' he
    rw [mappedPaths, he.kind_eq hi]
  cases hkind : t.kind i with
  | annotationUse args =>
    cases args with
    | absent => exact settled_pure _
    | single value =>
      have hvalue : value < t.size := ht.lt_size hkind (by simp [Kind.references])
      exact (settled_argumentValues ht hvalue).bind fun found => settled_pure _
    | pairs entries =>
      refine (settled_gather fun e hmem => ?_).bind fun found => settled_pure _
      have hvalue : e.2 ∈ (Kind.annotationUse (.pairs entries)).references :=
        List.mem_map_of_mem (List.mem_of_mem_filter hmem)
      exact settled_argumentValues ht (ht.lt_size hkind hvalue)
  | _ => exact settled_pure _

/-- Annotations that are told apart by their names. -/
theorem filter_annotationsOf_extends {t' : SyntaxTree} (he : t'.Extends t) (ht : t.SelfContained)
    (hi : i < t.size) (p : String → Bool) :
    (annotationsOf t' i).filter (fun a => p (t'.node a).nameText) =
      (annotationsOf t i).filter fun a => p (t.node a).nameText := by
  rw [annotationsOf_extends he ht hi]
  refine List.filter_congr fun (a : Nat) ha => ?_
  rw [he.node_eq (ht.lt_size_of_mem_children (List.mem_of_mem_filter ha))]

/-- The first parts of request paths are those of the last annotation that gives some, but the
arguments of all of them are searched. -/
private theorem settled_basePaths (ht : t.SelfContained) (hi : i < t.size) (base : String) :
    t.Settled fun t' => basePaths t' i base := by
  apply Settled.congr
  · intro t' he
    rw [basePaths, filter_annotationsOf_extends he ht hi (· == base)]
  refine Settled.bind (settled_gather fun (a : Nat) ha => ?_) fun all => settled_pure _
  have ha : a < t.size :=
    ht.lt_size_of_mem_children (List.mem_of_mem_filter (List.mem_of_mem_filter ha))
  exact (settled_mappedPaths ht ha).map _

/-- Request paths come from the annotations of a type and of its methods, all of which are in the
tree. -/
private theorem isConfined_requestPath (base suffix : String) :
    (requestPath base suffix).IsConfined := by
  refine isConfined_searching fun t ht i hi rule path => ?_
  dsimp only
  apply Settled.congr
  · intro t' he
    rw [he.contextKind_eq hi, he.filter_members_eq ht.wellFormed hi Kind.isMethod]
  split
  · refine (settled_basePaths ht hi base).bind fun bases =>
      settled_gather fun (method : Nat) hmethod => ?_
    have hmethod : method < t.size := ht.lt_size_of_mem_members (List.mem_of_mem_filter hmethod)
    apply Settled.congr
    · intro t' he
      rw [filter_annotationsOf_extends he ht hmethod (endsWith suffix), he.node_eq hmethod]
    refine settled_gather fun (a : Nat) ha => ?_
    have ha : a < t.size :=
      ht.lt_size_of_mem_children (List.mem_of_mem_filter (List.mem_of_mem_filter ha))
    refine (settled_mappedPaths ht ha).bind fun paths => settled_some fun t' he => ?_
    rw [he.line_eq ha]
  · exact settled_pure _

/-! ### Accessors -/

/-- The name of a field is told by the node that is assigned to or returned. -/
private theorem settled_fieldName (hi : i < t.size) : t.Settled fun t' => fieldName t' i := by
  refine settled_follow_map hi fun t' he => ?_
  rw [he.kind_eq hi, he.node_eq hi]

/-- What is assigned to is the left operand of an assignment, hence a child. -/
private theorem settled_writtenAt (ht : t.SelfContained) (hi : i < t.size) :
    t.Settled fun t' => writtenAt t' i := by
  apply Settled.congr
  · intro t' he
    rw [writtenAt, he.kind_eq hi]
  cases hkind : t.kind i with
  | expr e =>
    cases e with
    | assignment op target value =>
      exact settled_fieldName (ht.lt_size hkind (by simp [Kind.references]))
    | _ => exact settled_pure _
  | _ => exact settled_pure _

/-- What is returned is the operand of a return statement, hence a child. -/
private theorem settled_returnedAt (ht : t.SelfContained) (hi : i < t.size) :
    t.Settled fun t' => returnedAt t' i := by
  apply Settled.congr
  · intro t' he
    rw [returnedAt, he.kind_eq hi]
  cases hkind : t.kind i with
  | stmt s =>
    cases s with
    | returnStmt e =>
      cases e with
      | none => exact settled_pure _
      | some e => exact settled_fieldName (ht.lt_size hkind (by simp [Kind.references]))
    | _ => exact settled_pure _
  | _ => exact settled_pure _

/-- The body of a method or constructor is among the nodes that it refers to. -/
theorem mem_references_of_body {k : Kind} (hj : k.callable?.bind CallableDecl.body = some j) :
    j ∈ k.references := by
  cases k with
  | methodDecl d | constructorDecl d => exact Option.mem_toList.mpr hj
  | _ => cases hj

/-- The body of a method is a child of it, and what lies below the body stays in the tree. -/
private theorem settled_methodAccess (ht : t.SelfContained) (hi : i < t.size) :
    t.Settled fun t' => methodAccess t' i := by
  apply Settled.congr
  · intro t' he
    rw [methodAccess, he.kind_eq hi, he.node_eq hi]
  cases hbody : (t.kind i).callable?.bind CallableDecl.body with
  | none => exact settled_pure _
  | some body =>
    have hsize : body < t.size := ht.lt_size rfl (mem_references_of_body hbody)
    have hbelow : ∀ j ∈ t.descendants body, j < t.size :=
      fun j hj => ht.lt_size_of_mem_descendants hj
    refine settled_follow_bind hsize ?_
    apply Settled.congr
    · intro t' he
      rw [he.descendants_eq ht.wellFormed hsize]
    refine (settled_gather fun (j : Nat) hj => settled_writtenAt ht (hbelow j hj)).bind
      fun writes => ?_
    refine (settled_gather fun (j : Nat) hj => settled_returnedAt ht (hbelow j hj)).bind
      fun reads => ?_
    exact settled_pure _

/-- With the loop over methods replaced by a description without a state, the detector is a search
through methods and a look at what was found. -/
private theorem isConfined_accessors : accessors.IsConfined := by
  rw [accessors_eq]
  refine isConfined_searching fun t ht i hi rule path => ?_
  -- the methods are members of the type around the fields
  have haccesses : t.Settled fun t' => typeAccesses t' i := by
    apply Settled.congr
    · intro t' he
      rw [typeAccesses, methodsAround, enclosingType?, he.findAncestor?_eq ht.wellFormed hi]
    cases howner : t.findAncestor? i Kind.isType with
    | none => exact settled_pure _
    | some owner =>
      have howner : owner < t.size := ht.lt_size_of_findAncestor? howner
      dsimp only [Option.elim_some]
      apply Settled.congr
      · intro t' he
        rw [he.filter_members_eq ht.wellFormed howner Kind.isMethod]
      refine settled_gather fun (method : Nat) hmethod => settled_methodAccess ht ?_
      exact ht.lt_size_of_mem_members (List.mem_of_mem_filter hmethod)
  -- the variables are told by their names, in whatever tree
  have hfindings : ∀ t' : SyntaxTree, t'.Extends t → ∀ accesses,
      accessorFindings ⟨t', i, rule, path⟩ accesses =
        accessorFindings ⟨t, i, rule, path⟩ accesses := by
    intro t' he accesses
    have hnames : (t'.declarators i).map (fun v => (t'.node v).nameText) =
        (t.declarators i).map fun v => (t.node v).nameText := by
      rw [he.declarators_eq ht.wellFormed hi]
      refine List.map_congr_left fun v hv => ?_
      rw [he.node_eq (ht.lt_size_of_mem_declarators hv)]
    rw [accessorFindings, hnames, he.contextLine_eq hi, he.contextTrimmedText_eq hi]
    rfl
  apply Settled.congr
  · intro t' he
    rw [he.contextKind_eq hi, funext (hfindings t' he)]
  split
  · obtain ⟨accesses, haccesses⟩ := haccesses
    exact ⟨accessorFindings ⟨t, i, rule, path⟩ accesses,
      fun t' he => congrArg (Option.map _) (haccesses t' he)⟩
  · exact settled_pure _

/-! ### Long statements -/

namespace LongStatement

variable (d : LongStatement)

/-- Whether a node is too long is told by its own range and text. -/
private theorem isTooLong_extends {t' : SyntaxTree} (he : t'.Extends t) (hi : i < t.size) :
    d.isTooLong t' i = d.isTooLong t i := by
  rw [isTooLong, he.node_eq hi, he.textChars_eq hi, isTooLong]

/-- The nodes around a node are the same, and so is where the search through them ends. -/
private theorem hasLongAncestor_extends {t' : SyntaxTree} (he : t'.Extends t) (ht : t.SelfContained)
    (hi : i < t.size) :
    d.hasLongAncestor t' i = d.hasLongAncestor t i := by
  have habove : ∀ a ∈ t.ancestors i, a < t.size := fun a ha => ht.lt_size_of_mem_ancestors ha
  rw [hasLongAncestor, he.ancestors_eq ht.wellFormed hi, hasLongAncestor]
  generalize t.ancestors i = above at habove
  induction above with
  | nil => rfl
  | cons a as ih =>
    have ha : a < t.size := habove a List.mem_cons_self
    have hmore := ih fun b hb => habove b (List.mem_cons_of_mem _ hb)
    have hlong : d.isLongCandidate t' a = d.isLongCandidate t a := by
      rw [isLongCandidate, he.kind_eq ha, d.isTooLong_extends he ha, isLongCandidate]
    rw [List.takeWhile_cons, List.takeWhile_cons, he.kind_eq ha]
    split
    · rw [List.any_cons, List.any_cons, hlong, hmore]
    · rfl

/-- An argument that is an operation refers to its left operand, a child, and the lines of both
decide. -/
private theorem settled_argumentFindings (ht : t.SelfContained) (hi : i < t.size) (hj : j < t.size)
    (rule : Rule) (path signature : String) :
    t.Settled fun t' => d.argumentFindings ⟨t', i, rule, path⟩ signature j := by
  refine settled_follow_bind hj ?_
  apply Settled.congr
  · intro t' he
    rw [he.kind_eq hj, he.node_eq hj, he.contextTrimmedText_eq hi]
  cases hkind : t.kind j with
  | expr e =>
    cases e with
    | binary op opLine left right =>
      have hleft : left < t.size := ht.lt_size hkind (by simp [Kind.references])
      refine settled_follow_bind hleft ?_
      apply Settled.congr
      · intro t' he
        rw [he.node_eq hleft]
      split
      · split
        · exact settled_pure _
        · exact settled_pure _
      · exact settled_pure _
    | _ => exact settled_pure _
  | _ => exact settled_pure _

/-- The arguments of a call are among the nodes that it refers to. -/
theorem mem_references_of_mem_argumentsOf {k : Kind} (hj : j ∈ argumentsOf k) :
    j ∈ k.references := by
  cases k with
  | expr e =>
    cases e with
    | call receiver args => exact List.mem_append_right _ hj
    | _ => cases hj
  | _ => cases hj

end LongStatement

/-- A call refers to its arguments, which are children, and the rest is told by the nodes around
it. -/
private theorem isConfined_longStatement (d : LongStatement) : d.detector.IsConfined := by
  refine isConfined_searching fun t ht i hi rule path => ?_
  apply Settled.congr
  · intro t' he
    rw [he.contextKind_eq hi, enclosingCallable?, he.findAncestor?_eq ht.wellFormed hi]
  cases hcallable : (if LongStatement.isCandidate (t.kind i) then t.findAncestor? i Kind.isCallable
      else none) with
  | none => exact settled_pure _
  | some callable =>
    have hsize : callable < t.size := by
      split at hcallable
      · exact ht.lt_size_of_findAncestor? hcallable
      · cases hcallable
    dsimp only
    apply Settled.congr
    · intro t' he
      rw [he.ofCallable_eq hsize]
    -- the arguments are searched; the length asks only for the node and for what is around it
    refine Settled.bind (settled_gather fun (arg : Nat) harg => ?_) fun broken => ?_
    · have hsize : arg < t.size :=
        ht.lt_size rfl (LongStatement.mem_references_of_mem_argumentsOf harg)
      exact d.settled_argumentFindings ht hi hsize rule path _
    · refine settled_some fun t' he => ?_
      rw [LongStatement.lengthFindings, d.isTooLong_extends he hi,
        d.hasLongAncestor_extends he ht hi, he.contextLine_eq hi, he.contextTrimmedText_eq hi]
      rfl

/-! ### Messages -/

/-- The variables before a statement lie below the nearest block around it, which is a node of the
given tree. -/
private theorem priorDeclaration?_extends {t' : SyntaxTree} (he : t'.Extends t)
    (ht : t.SelfContained) (hi : i < t.size) (name : String) :
    priorDeclaration? t' i name = priorDeclaration? t i name := by
  rw [priorDeclaration?, he.findAncestor?_eq ht.wellFormed hi, he.node_eq hi, priorDeclaration?]
  split
  · next block limit hblock _ =>
    have hsize : block < t.size := ht.lt_size_of_findAncestor? hblock
    dsimp only
    rw [he.descendants_eq ht.wellFormed hsize]
    refine congrArg List.getLast? (List.filter_congr fun v hv => ?_)
    have hv : v < t.size := ht.lt_size_of_mem_descendants hv
    rw [he.kind_eq hv, he.node_eq hv]
  · rfl

/-- The variable that is looked up lies below an ancestor of the statement, hence in the tree. -/
private theorem lt_size_of_priorDeclaration? (ht : t.SelfContained) {name : String}
    (hj : priorDeclaration? t i name = some j) : j < t.size := by
  rw [priorDeclaration?] at hj
  split at hj
  · exact ht.lt_size_of_mem_descendants (List.mem_of_mem_filter (List.mem_of_getLast? hj))
  · cases hj

/-- The variable that is thrown refers to its value, and a construction to its arguments. -/
private theorem settled_thrownVariable (ht : t.SelfContained) (hi : i < t.size) (hj : j < t.size)
    (rule : Rule) (path : String) : t.Settled fun t' => thrownVariable ⟨t', i, rule, path⟩ j := by
  apply Settled.congr
  · intro t' he
    rw [thrownVariable, he.kind_eq hj, he.contextLine_eq hi, he.ofVariable_eq ht hj]
  cases hkind : t.kind j with
  | declarator type value =>
    cases value with
    | none => exact settled_pure _
    | some value =>
      have hvalue : value < t.size := ht.lt_size hkind (by simp [Kind.references])
      refine settled_follow_bind hvalue ?_
      apply Settled.congr
      · intro t' he
        rw [he.kind_eq hvalue]
      split
      · next first _ hcreation =>
        have hfirst : first < t.size := ht.lt_size hcreation (by simp [Kind.references])
        refine settled_follow_bind hfirst (settled_some fun t' he => ?_)
        rw [he.valueOrText_eq hfirst]
      · exact settled_pure _
  | _ => exact settled_pure _

/-- A statement refers to what it throws. If this is a construction, its arguments are children;
if it is a name, the variable is looked up in the tree. -/
private theorem isConfined_throwMessage : throwMessage.IsConfined := by
  refine isConfined_searching fun t ht i hi rule path => ?_
  dsimp only
  apply Settled.congr
  · intro t' he
    rw [he.contextKind_eq hi, he.contextLine_eq hi, he.contextTrimmedText_eq hi]
  split
  · next expr hthrow =>
    have hexpr : expr < t.size := ht.lt_size hthrow (by simp [Kind.references])
    refine settled_follow_bind hexpr ?_
    apply Settled.congr
    · intro t' he
      rw [he.kind_eq hexpr, he.node_eq hexpr, priorDeclaration?_extends he ht hi]
    split
    · next args hcreation =>
      refine settled_gather fun (arg : Nat) harg => ?_
      have harg : arg < t.size := ht.lt_size hcreation harg
      refine settled_follow_map harg fun t' he => ?_
      rw [he.valueOrText_eq harg]
    · -- a name is that of a variable below a block around the statement, if there is one
      cases hprior : priorDeclaration? t i (t.node expr).nameText with
      | none => exact settled_pure _
      | some var =>
        exact settled_thrownVariable ht hi (lt_size_of_priorDeclaration? ht hprior) rule path
    · exact settled_pure _
  · exact settled_pure _

/-- Calls that write to a log are told by their names. -/
private theorem isConfined_logMessage (methods : List String) :
    (logMessage methods).IsConfined := by
  refine isConfined_searching fun t ht i hi rule path => ?_
  apply Settled.congr
  · intro t' he
    rw [he.contextKind_eq hi, he.contextName_eq hi, he.contextLine_eq hi,
      he.contextTrimmedText_eq hi]
  split
  · split
    · exact settled_pure _
    · exact settled_pure _
  · exact settled_pure _

/-! ### Loops -/

/-- What belongs to a method lies below it, and whether a node does is told by its ancestors. -/
private theorem ownNodes_extends {t' : SyntaxTree} (he : t'.Extends t) (ht : t.SelfContained)
    (hi : i < t.size) :
    ownNodes t' i = ownNodes t i := by
  rw [ownNodes, he.descendants_eq ht.wellFormed hi, ownNodes]
  refine List.filter_congr fun j hj => ?_
  rw [enclosingCallable?, he.findAncestor?_eq ht.wellFormed (ht.lt_size_of_mem_descendants hj),
    enclosingCallable?]

private theorem lt_size_of_mem_ownNodes (ht : t.SelfContained) (hj : j ∈ ownNodes t i) :
    j < t.size :=
  ht.lt_size_of_mem_descendants (List.mem_of_mem_filter hj)

/-- Loops are among the nodes that belong to a method. -/
private theorem isConfined_loopBody : loopBody.IsConfined := by
  refine isConfined_searching fun t ht i hi rule path => ?_
  have hloops : ∀ t' : SyntaxTree, t'.Extends t →
      (ownNodes t' i).filter (fun j => (t'.kind j).isLoop) = (ownNodes t i).filter fun j =>
        (t.kind j).isLoop := by
    intro t' he
    rw [ownNodes_extends he ht hi]
    refine List.filter_congr fun j hj => ?_
    rw [he.kind_eq (lt_size_of_mem_ownNodes ht hj)]
  dsimp only
  apply Settled.congr
  · intro t' he
    rw [he.contextKind_eq hi, hloops t' he, he.ofCallable_eq hi]
  split
  · refine settled_some fun t' he => List.map_congr_left fun j hj => ?_
    have hj : j < t.size := lt_size_of_mem_ownNodes ht (List.mem_of_mem_filter hj)
    rw [he.line_eq hj, he.trimmedText_eq hj]
  · exact settled_pure _

/-- The nearest loop around a node is one of its ancestors. -/
private theorem enclosingLoop?_extends {t' : SyntaxTree} (he : t'.Extends t) (ht : t.SelfContained)
    (hi : i < t.size) :
    enclosingLoop? t' i = enclosingLoop? t i := by
  have habove : ∀ a ∈ t.ancestors i, a < t.size := fun a ha => ht.lt_size_of_mem_ancestors ha
  have hfind : ((t.ancestors i).find? fun a =>
      (t'.kind a).isLoop || (t'.kind a).isCallable || (t'.kind a).isType) =
      (t.ancestors i).find? fun a =>
        (t.kind a).isLoop || (t.kind a).isCallable || (t.kind a).isType := by
    refine List.find?_congr fun a ha => ?_
    rw [he.kind_eq (habove a ha)]
  rw [enclosingLoop?, he.ancestors_eq ht.wellFormed hi, hfind, enclosingLoop?]
  cases hfound : (t.ancestors i).find? fun a =>
    (t.kind a).isLoop || (t.kind a).isCallable || (t.kind a).isType with
  | none => rfl
  | some a =>
    rw [Option.filter_some, he.kind_eq (habove a (List.mem_of_find?_eq_some hfound)),
      Option.filter_some]

private theorem lt_size_of_enclosingLoop? (ht : t.SelfContained)
    (hj : enclosingLoop? t i = some j) : j < t.size :=
  ht.lt_size_of_mem_ancestors (List.mem_of_find?_eq_some (Option.filter_eq_some_iff.mp hj).1)

/-- The variables that are looked at lie below the method. -/
private theorem declaresAs_extends {t' : SyntaxTree} (he : t'.Extends t) (ht : t.SelfContained)
    (hi : i < t.size) (types : List String) (name : String) :
    declaresAs t' types i name = declaresAs t types i name := by
  rw [declaresAs, he.descendants_eq ht.wellFormed hi, declaresAs, Bool.eq_iff_iff, List.any_eq_true,
    List.any_eq_true]
  refine exists_congr fun j => and_congr_right fun hj => ?_
  have hj : j < t.size := ht.lt_size_of_mem_descendants hj
  rw [he.kind_eq hj, he.node_eq hj]

/-- A call refers to what it is made on, which is a child; all else is told by nodes around the
call and below the method. -/
private theorem settled_scanFindings (ht : t.SelfContained) (hi : i < t.size) (hj : j < t.size)
    (types : List String) :
    t.Settled fun t' => scanFindings t' types i j := by
  apply Settled.congr
  · intro t' he
    rw [scanFindings, he.kind_eq hj, he.node_eq hj, enclosingLoop?_extends he ht hj, he.line_eq hj,
      he.trimmedText_eq hj]
  split
  · next receiver _ hcall =>
    have hreceiver : receiver < t.size := ht.lt_size hcall (by simp [Kind.references])
    split
    · refine settled_follow_bind hreceiver ?_
      apply Settled.congr
      · intro t' he
        rw [he.kind_eq hreceiver, he.node_eq hreceiver, declaresAs_extends he ht hi]
      split
      · next loop _ hloop =>
        have hloop : loop < t.size := lt_size_of_enclosingLoop? ht hloop
        split
        · refine settled_some fun t' he => ?_
          rw [he.trimmedText_eq hloop]
        · exact settled_pure _
      · exact settled_pure _
    · exact settled_pure _
  · exact settled_pure _

/-- Calls are among the nodes that belong to a method, and at each of them the search is settled. -/
private theorem isConfined_loopContains (types : List String) :
    (loopContains types).IsConfined := by
  refine isConfined_searching fun t ht i hi rule path => ?_
  dsimp only
  apply Settled.congr
  · intro t' he
    rw [he.contextKind_eq hi, ownNodes_extends he ht hi]
  split
  · exact settled_gather fun (j : Nat) hj =>
      settled_scanFindings ht hi (lt_size_of_mem_ownNodes ht hj) types
  · exact settled_pure _

/-! ### Threads and locks -/

/-- A leaf of an expression is called the same in all trees that extend the given one. -/
private theorem leafName_extends {t' : SyntaxTree} (he : t'.Extends t) (hi : i < t.size) :
    leafName t' i = leafName t i := by
  rw [leafName, leafName, he.kind_eq hi, he.node_eq hi, he.trimmedText_eq hi]

/-- The search for a name ends with one, the same in all trees that extend the given one. -/
theorem exists_nameEnds_extends (ht : t.SelfContained) (hi : i < t.size) :
    ∃ name, ∀ t' : SyntaxTree, t'.Extends t → NameEnds t' i (some name) := by
  -- references lead to greater indices, so the induction is on what is left of the tree
  induction hk : t.size - i using Nat.strongRecOn generalizing i with
  | ind k ih =>
    have hpart : ∀ j ∈ (t.kind i).references, ∃ name, ∀ t' : SyntaxTree, t'.Extends t →
        NameEnds t' j (some name) := by
      intro j hj
      have hlt : i < j := ht.lt_of_mem_references rfl hj
      exact ih (t.size - j) (by omega) (ht.lt_size rfl hj) rfl
    have hsize : ∀ t' : SyntaxTree, t'.Extends t → i < t'.size := fun t' he =>
      Nat.lt_of_lt_of_le hi he.size_le
    cases hkind : isGrouping (t.kind i) with
    | false =>
      refine ⟨leafName t i, fun t' he => ?_⟩
      rw [← leafName_extends he hi]
      exact .leaf (hsize t' he) (by rw [he.kind_eq hi, hkind])
    | true =>
      rcases isGrouping_iff.mp hkind with ⟨line, left, right, h⟩ | ⟨inner, h⟩
      · obtain ⟨l, hl⟩ := hpart left (by simp [h, Kind.references])
        obtain ⟨r, hr⟩ := hpart right (by simp [h, Kind.references])
        exact ⟨l ++ r, fun t' he =>
          .sum (hsize t' he) ((he.kind_eq hi).trans h) (hl t' he) (hr t' he)⟩
      · obtain ⟨name, hname⟩ := hpart inner (by simp [h, Kind.references])
        exact ⟨name, fun t' he => .group (hsize t' he) ((he.kind_eq hi).trans h) (hname t' he)⟩

/-- The bound of the search is larger in a larger tree, which makes no difference, since a search
that ends is not stopped by its bound. -/
private theorem settled_resolveName (ht : t.SelfContained) (hi : i < t.size) :
    t.Settled fun t' => resolveName t' i := by
  obtain ⟨name, hname⟩ := exists_nameEnds_extends ht hi
  exact ⟨name, fun t' he => resolveName_eq_some_iff.mpr (hname t' he)⟩

/-- What owns an expression is around it, except for the value of a variable, which is a child of
the owner. -/
private theorem settled_ownerText (ht : t.SelfContained) (hi : i < t.size) :
    t.Settled fun t' => ownerText t' i := by
  apply Settled.congr
  · intro t' he
    rw [ownerText, he.findAncestor?_eq ht.wellFormed hi, he.findAncestor?_eq ht.wellFormed hi,
      he.trimmedText_eq hi]
  split
  · next stmt hstmt =>
    have hstmt : stmt < t.size := ht.lt_size_of_findAncestor? hstmt
    exact settled_some fun t' he => he.trimmedText_eq hstmt
  · split
    · next owner howner =>
      have howner : owner < t.size := ht.lt_size_of_findAncestor? howner
      apply Settled.congr
      · intro t' he
        rw [he.kind_eq howner, he.trimmedText_eq howner]
      split
      · -- of all owners, only a variable shows what it refers to
        exact settled_variableText ht howner
      · exact settled_pure _
    · exact settled_pure _

/-- A name that is reported needs the name and the code, both of which are settled. -/
private theorem settled_nameFinding (ht : t.SelfContained) (hi : i < t.size) (hj : j < t.size)
    (rule : Rule) (path : String) : t.Settled fun t' => nameFinding ⟨t', i, rule, path⟩ j := by
  refine (settled_ownerText ht hi).bind fun owner => (settled_resolveName ht hj).bind fun name => ?_
  refine settled_some fun t' he => ?_
  rw [he.contextLine_eq hi, Context.line]

/-- A construction refers to its arguments and a call to its one argument; from there on names are
searched for. -/
private theorem isConfined_threadName (types : List String) (setter : String) :
    (threadName types setter).IsConfined := by
  refine isConfined_searching fun t ht i hi rule path => ?_
  apply Settled.congr
  · intro t' he
    rw [he.contextKind_eq hi, he.contextName_eq hi]
  split
  · next type args hcreation =>
    split
    · refine settled_gather fun (arg : Nat) harg => ?_
      have harg : arg < t.size := ht.lt_size hcreation harg
      refine settled_follow_bind harg ?_
      apply Settled.congr
      · intro t' he
        rw [he.kind_eq harg]
      split
      · exact settled_nameFinding ht hi harg rule path
      · exact settled_pure _
    · exact settled_pure _
  · next arg hcall =>
    have harg : arg < t.size := ht.lt_size hcall (by simp [Kind.references])
    split
    · exact settled_nameFinding ht hi harg rule path
    · exact settled_pure _
  · exact settled_pure _

/-- The callable around a node is an ancestor. -/
private theorem callableSubject_extends {t' : SyntaxTree} (he : t'.Extends t) (ht : t.SelfContained)
    (hi : i < t.size) :
    callableSubject t' i = callableSubject t i := by
  rw [callableSubject, enclosingCallable?, he.findAncestor?_eq ht.wellFormed hi, callableSubject,
    enclosingCallable?]
  split
  · next callable hcallable => exact he.ofCallable_eq (ht.lt_size_of_findAncestor? hcallable)
  · rfl

/-- The body of the callable around a node is a child of it. -/
private theorem settled_guardedCode (ht : t.SelfContained) (hi : i < t.size) :
    t.Settled fun t' => guardedCode t' i := by
  apply Settled.congr
  · intro t' he
    rw [guardedCode, he.findAncestor?_eq ht.wellFormed hi, he.trimmedText_eq hi]
  split
  · next guard hguard =>
    have hguard : guard < t.size := ht.lt_size_of_findAncestor? hguard
    apply Settled.congr
    · intro t' he
      rw [he.kind_eq hguard, he.trimmedText_eq hguard]
    have hbody : ∀ body ∈ (t.kind guard).references, t.Settled fun t' =>
        (t'.follow body).map t'.text := by
      intro body hbody
      have hsize : body < t.size := ht.lt_size rfl hbody
      exact settled_follow_map hsize fun t' he => he.text_eq hsize
    cases hkind : t.kind guard with
    | methodDecl d | constructorDecl d =>
      dsimp only
      cases hd : d.body with
      | none => exact settled_pure _
      | some body => exact hbody body (by simp [hkind, Kind.references, hd])
    | _ => exact settled_pure _
  · exact settled_pure _

/-- A method refers to its body, a statement to what it locks, and the construction of a lock is
reported with the body around it. -/
private theorem isConfined_lock (types : List String) : (lock types).IsConfined := by
  refine isConfined_searching fun t ht i hi rule path => ?_
  dsimp only
  apply Settled.congr
  · intro t' he
    rw [he.contextKind_eq hi, he.node_eq hi, he.contextLine_eq hi, he.contextTrimmedText_eq hi,
      callableSubject_extends he ht hi, he.ofCallable_eq hi]
  split
  · next d hmethod =>
    cases hbody : d.body with
    | none => exact settled_pure _
    | some body =>
      have hsize : body < t.size := ht.lt_size hmethod (by simp [Kind.references, hbody])
      dsimp only
      split
      · refine settled_follow_bind hsize (settled_some fun t' he => ?_)
        rw [he.text_eq hsize]
      · exact settled_pure _
  · next held _ hsynchronized =>
    have hheld : held < t.size := ht.lt_size hsynchronized (by simp [Kind.references])
    refine settled_follow_bind hheld ?_
    apply Settled.congr
    · intro t' he
      rw [he.kind_eq hheld]
    split
    · exact settled_pure _
    · exact settled_pure _
  · split
    · exact (settled_guardedCode ht hi).bind fun code => settled_pure _
    · exact settled_pure _
  · exact settled_pure _

/-- No built-in detector leaves the tree. -/
theorem isConfined_of_mem_builtin {s : Settings} {d : Detector} (hd : d ∈ builtin s) :
    d.IsConfined := by
  simp only [builtin, List.mem_cons, List.not_mem_nil, or_false] at hd
  rcases hd with rfl | rfl | rfl | rfl | rfl | rfl | rfl | rfl | rfl | rfl | rfl | rfl | rfl
    | rfl | rfl | rfl
  · exact isConfined_naming
  · exact isConfined_javadoc
  · exact isConfined_methodDoc
  · exact isConfined_requestPath _ _
  · exact isConfined_continuity
  · exact isConfined_interfaceConstants
  · exact isConfined_accessors
  · exact isConfined_classOutline
  · exact isConfined_longStatement _
  · exact isConfined_throwMessage
  · exact isConfined_constants
  · exact isConfined_loopContains _
  · exact isConfined_loopBody
  · exact isConfined_threadName _ _
  · exact isConfined_lock _
  · exact isConfined_logMessage _

end Detect

end Excerpt
