import Excerpt.Proofs.Arena
import Excerpt.Proofs.Inside

/-!
# Deleting comments

Comments can be deleted from concrete syntax (`Concrete.withoutComments`): all other pieces stay,
with their roles and ranges. This module says what is left of a construct when its comments are
deleted, and what is left of a tree.

* **Parts.** Of the parts of a construct, those remain that are no comments (`Focus.remaining`).
  What a construct finds among them is what it found before, provided that it looks for pieces by
  their names (`Focus.find?_kind_remaining`, `Focus.filter_kind_remaining`) or that comments play
  no roles (`Focus.partIn?_withoutComments`).
* **Results.** What is made of each of the parts is made of the remaining ones as well, as long as
  nothing is made of a comment (`Focus.filterMap_remaining`, `Focus.flatMap_remaining`).
* **Trees.** In a syntax tree, only declarations carry comments. Deleting these from a draft and
  adding it to a tree gives the same as adding the draft and deleting the comments of the tree
  (`SyntaxTree.graftAll_withoutComments`).

Deleting comments makes no piece deeper (`Concrete.depth_withoutComments_le`), so what is left can
be lowered to the depth that was enough for the whole.
-/

namespace Excerpt

/-! ### Trees -/

/-- Declarations, which carry the comment before them. -/
def Kind.isDeclaration : Kind → Bool
  | typeDecl _ | methodDecl _ | constructorDecl _ | fieldDecl _ => true
  | other grammar => grammar == "enum_constant"
  | _ => false

/-- The node without its comment, if it is a declaration; any other node as it is. -/
def Node.withoutComment (n : Node) : Node :=
  { n with comment := if n.kind.isDeclaration then none else n.comment }

/-- The tree without the comments of declarations. -/
def SyntaxTree.withoutComments (t : SyntaxTree) : SyntaxTree :=
  { t with nodes := t.nodes.map Node.withoutComment }

/-- Where references lead has no bearing on which nodes are declarations. -/
@[simp]
theorem Kind.isDeclaration_redirect (f : NodeId → NodeId) (k : Kind) :
    (k.redirect f).isDeclaration = k.isDeclaration := by
  cases k with
  | stmt s => cases s <;> rfl
  | expr e => cases e <;> rfl
  | annotationUse args => cases args <;> rfl
  | _ => rfl

namespace Draft

/-- The draft without the comments of declarations. -/
def withoutComments : Draft → Draft
  | node head cs => node head.withoutComment (all cs)
where
  all : List Draft → List Draft
    | [] => []
    | d :: ds => d.withoutComments :: all ds

private theorem withoutComments_all (ds : List Draft) :
    withoutComments.all ds = ds.map withoutComments := by
  induction ds with
  | nil => rfl
  | cons d ds ih => rw [withoutComments.all, ih, List.map_cons]

/-- Deleting comments from a draft deletes them from its head and from each of its children. -/
theorem withoutComments_node (head : Node) (cs : List Draft) :
    (node head cs).withoutComments = node head.withoutComment (cs.map withoutComments) := by
  rw [withoutComments, withoutComments_all]

mutual

/-- A draft keeps its nodes. -/
@[simp]
theorem size_withoutComments : (d : Draft) → d.withoutComments.size = d.size
  | node head cs => by rw [withoutComments_node, size, size, sizes_withoutComments]

/-- Drafts keep their nodes. -/
@[simp]
theorem sizes_withoutComments : (ds : List Draft) → sizes (ds.map withoutComments) = sizes ds
  | [] => rfl
  | d :: ds => by rw [List.map_cons, sizes, sizes, size_withoutComments, sizes_withoutComments]

end

end Draft

namespace SyntaxTree

/-- A tree keeps its nodes. -/
@[simp]
theorem size_withoutComments (t : SyntaxTree) : t.withoutComments.size = t.size := by
  simp [withoutComments, size]

/-- There are no comments in the tree of a source alone. -/
theorem ofSource_withoutComments (source : String) :
    (ofSource source).withoutComments = ofSource source := by
  simp [withoutComments, ofSource, Node.withoutComment]

private theorem placedKind_withoutComments (id : NodeId) (kind : Kind) (cs : List Draft) :
    placedKind id kind (cs.map Draft.withoutComments) = placedKind id kind cs := by
  simp only [placedKind, ← List.map_take, Draft.sizes_withoutComments]

private theorem push_withoutComments (t : SyntaxTree) (p : NodeId) (n : Node) :
    t.withoutComments.push p n.withoutComment = (t.push p n).withoutComments := by
  have hnodes : (t.withoutComments.push p n.withoutComment).nodes =
      (t.push p n).withoutComments.nodes := by
    refine Array.ext_getElem? fun i => ?_
    simp only [push, withoutComments, size, Array.getElem?_modify, Array.getElem?_push,
      Array.getElem?_map, Array.size_map]
    split <;> split <;> simp [Node.withoutComment, Function.comp_def]
  exact congrArg (fun nodes => SyntaxTree.mk t.source nodes) hnodes

mutual

private theorem graft_withoutComments (p : NodeId) : (t : SyntaxTree) → (d : Draft) →
    t.withoutComments.graft p d.withoutComments = (t.graft p d).withoutComments
  | t, .node head cs => by
    have hplaced : { head.withoutComment with kind := placedKind t.size head.kind cs } =
        ({ head with kind := placedKind t.size head.kind cs } : Node).withoutComment := by
      simp [Node.withoutComment, placedKind]
    have hkind : head.withoutComment.kind = head.kind := rfl
    rw [Draft.withoutComments_node, graft, graft, placedKind_withoutComments, size_withoutComments,
      hkind, hplaced, push_withoutComments, graftAll_withoutComments]

/-- Comments may be deleted from drafts before they are added to a tree, or from the tree
afterwards. -/
theorem graftAll_withoutComments (p : NodeId) : (t : SyntaxTree) → (ds : List Draft) →
    t.withoutComments.graftAll p (ds.map Draft.withoutComments) = (t.graftAll p ds).withoutComments
  | t, [] => by rw [List.map_nil, graftAll, graftAll]
  | t, d :: ds => by
    rw [List.map_cons, graftAll, graftAll, graft_withoutComments, graftAll_withoutComments]

end

end SyntaxTree

/-! ### Concrete syntax -/

namespace Java

namespace Concrete

/-- The piece without the comments inside it. -/
def withoutComments : Concrete → Concrete
  | node kind named field range cs missing => node kind named field range (among cs) missing
where
  /-- The pieces of a list that are no comments, without the comments inside them. -/
  among : List Concrete → List Concrete
    | [] => []
    | c :: cs => if c.isComment then among cs else c.withoutComments :: among cs

variable (c : Concrete)

/-- A piece keeps its name. -/
@[simp]
theorem kind_withoutComments : c.withoutComments.kind = c.kind := by
  cases c; rfl

/-- A piece stays named or unnamed. -/
@[simp]
theorem isNamed_withoutComments : c.withoutComments.isNamed = c.isNamed := by
  cases c; rfl

/-- A piece keeps its role. -/
@[simp]
theorem field_withoutComments : c.withoutComments.field = c.field := by
  cases c; rfl

/-- A piece keeps its range, also where comments at its ends are deleted. -/
@[simp]
theorem range_withoutComments : c.withoutComments.range = c.range := by
  cases c; rfl

/-- A comment stays one, if it is not itself deleted. -/
@[simp]
theorem isComment_withoutComments : c.withoutComments.isComment = c.isComment := by
  rw [isComment, isComment, kind_withoutComments]

private theorem children_withoutComments :
    c.withoutComments.children = withoutComments.among c.children := by
  cases c; rfl

/-- No comment remains in a list. -/
theorem isComment_of_mem_among {c : Concrete} {cs : List Concrete}
    (hc : c ∈ withoutComments.among cs) :
    c.isComment = false := by
  induction cs with
  | nil => cases hc
  | cons d cs ih =>
    rw [withoutComments.among] at hc
    split at hc
    · exact ih hc
    · next hd =>
      rcases List.mem_cons.mp hc with rfl | hc
      · simpa using hd
      · exact ih hc

/-- There are two kinds of comments. -/
theorem kind_of_isComment {c : Concrete} (hc : c.isComment = true) :
    c.kind = "line_comment" ∨ c.kind = "block_comment" := by
  simpa [isComment] using hc

/-- A comment is of no other kind. -/
theorem kind_ne_of_isComment {c : Concrete} (hc : c.isComment = true) (kind : String)
    (hkind : kind ≠ "line_comment" ∧ kind ≠ "block_comment") : c.kind ≠ kind := by
  rintro rfl
  rcases kind_of_isComment hc with h | h
  · exact hkind.1 h
  · exact hkind.2 h

mutual

/-- Deleting comments makes no piece deeper. -/
theorem depth_withoutComments_le : (c : Concrete) → c.withoutComments.depth ≤ c.depth
  | node kind named field range cs missing => by
    rw [withoutComments, depth, depth]
    exact Nat.succ_le_succ (depths_among_le cs)

private theorem depths_among_le :
    (cs : List Concrete) → depth.depths (withoutComments.among cs) ≤ depth.depths cs
  | [] => Nat.le_refl _
  | c :: cs => by
    have hc := depth_withoutComments_le c
    have hcs := depths_among_le cs
    rw [withoutComments.among, depth.depths]
    split
    · exact Nat.le_trans hcs (Nat.le_max_right _ _)
    · rw [depth.depths]
      exact Nat.max_le.mpr ⟨Nat.le_trans hc (Nat.le_max_left _ _),
        Nat.le_trans hcs (Nat.le_max_right _ _)⟩

end

/-- The comments among the parts of the piece play no role in it. -/
def CommentsPlayNoRole (c : Concrete) : Prop :=
  ∀ d ∈ c.children, d.isComment = true → d.field = none

instance (c : Concrete) : Decidable c.CommentsPlayNoRole :=
  inferInstanceAs (Decidable (∀ d ∈ c.children, _))

/-- Constructs whose named parts are taken for what they should be, whatever they are. -/
def trustingKinds : List String :=
  ["superclass", "super_interfaces", "extends_interfaces", "type_list", "throws",
    "spread_parameter", "class_literal"]

/-- No comment is a part of the piece if its parts are taken for what they should be. -/
def CommentsNotRead (c : Concrete) : Prop :=
  c.kind ∈ trustingKinds → ∀ d ∈ c.children, d.isComment = false

instance (c : Concrete) : Decidable c.CommentsNotRead :=
  inferInstanceAs (Decidable (_ → ∀ d ∈ c.children, _))

end Concrete

namespace Focus

/-- The piece and the pieces before it without comments. -/
def withoutComments (f : Focus) : Focus :=
  ⟨Concrete.withoutComments.among f.before, f.piece.withoutComments⟩

variable (f : Focus)

/-- A piece in its place keeps its name. -/
@[simp]
theorem kind_withoutComments : f.withoutComments.kind = f.kind :=
  f.piece.kind_withoutComments

/-- A piece in its place keeps its range. -/
@[simp]
theorem range_withoutComments : f.withoutComments.range = f.range :=
  f.piece.range_withoutComments

/-- A piece in its place stays a comment, or none. -/
@[simp]
theorem isComment_withoutComments : f.withoutComments.isComment = f.isComment :=
  f.piece.isComment_withoutComments

/-- What is left of a list of pieces when comments are deleted. -/
def remaining : List Focus → List Focus
  | [] => []
  | f :: fs => if f.isComment then remaining fs else f.withoutComments :: remaining fs

/-- What remains of two lists remains of one after the other. -/
theorem remaining_append (fs gs : List Focus) :
    remaining (fs ++ gs) = remaining fs ++ remaining gs := by
  induction fs with
  | nil => rfl
  | cons f fs ih =>
    rw [List.cons_append, remaining, remaining, ih]
    split <;> rfl

private theorem along_among (before cs : List Concrete) :
    along (Concrete.withoutComments.among before) (Concrete.withoutComments.among cs) =
      remaining (along before cs) := by
  induction cs generalizing before with
  | nil => rfl
  | cons c cs ih =>
    have hrest := ih (c :: before)
    rw [Concrete.withoutComments.among] at hrest
    rw [Concrete.withoutComments.among, along, remaining]
    -- a comment is neither kept nor counted among the pieces before the others
    by_cases hc : c.isComment = true
    · rw [if_pos hc] at hrest ⊢
      rw [hrest]
      exact (if_pos hc).symm
    · rw [if_neg hc] at hrest ⊢
      rw [along, hrest]
      exact (if_neg hc).symm

/-- The parts that remain are those that are no comments. -/
theorem parts_withoutComments : f.withoutComments.parts = remaining f.parts := by
  have hchildren : f.withoutComments.piece.children =
      Concrete.withoutComments.among f.piece.children :=
    f.piece.children_withoutComments
  rw [parts, hchildren]
  exact along_among [] f.piece.children

variable {fs : List Focus} {q : Focus → Bool}

/-- A condition that comments inside a piece do not matter for picks the same pieces before and
after. -/
theorem filter_remaining (hq : ∀ g ∈ fs, q g.withoutComments = q g) :
    (remaining fs).filter q = remaining (fs.filter q) := by
  induction fs with
  | nil => rfl
  | cons g fs ih =>
    have hg := hq g List.mem_cons_self
    have hfs := ih fun g hg => hq g (List.mem_cons_of_mem _ hg)
    by_cases hc : g.isComment = true <;> cases hqg : q g <;> simp [remaining, hc, hg, hqg, hfs]

/-- The named parts that remain are those that are no comments. -/
theorem namedParts_withoutComments : f.withoutComments.namedParts = remaining f.namedParts := by
  rw [namedParts, parts_withoutComments]
  exact filter_remaining fun g _ => g.piece.isNamed_withoutComments

/-- Where there are no comments, all pieces remain. -/
theorem remaining_eq_map (hfs : ∀ g ∈ fs, g.isComment = false) :
    remaining fs = fs.map withoutComments := by
  induction fs with
  | nil => rfl
  | cons g fs ih =>
    have hg := hfs g List.mem_cons_self
    rw [remaining, ih fun g hg => hfs g (List.mem_cons_of_mem _ hg)]
    simp [hg]

/-- A piece that is not looked for among comments is found as before. -/
theorem find?_remaining (hq : ∀ g ∈ fs, q g.withoutComments = q g)
    (hcomment : ∀ g ∈ fs, q g = true → g.isComment = false) :
    (remaining fs).find? q = (fs.find? q).map withoutComments := by
  induction fs with
  | nil => rfl
  | cons g fs ih =>
    have hg := hq g List.mem_cons_self
    have hgc := hcomment g List.mem_cons_self
    have hfs := ih (fun g hg => hq g (List.mem_cons_of_mem _ hg)) fun g hg =>
      hcomment g (List.mem_cons_of_mem _ hg)
    cases hqg : q g with
    | true => simp [remaining, hgc hqg, hg, hqg]
    | false => by_cases hc : g.isComment = true <;> simp [remaining, hc, hg, hqg, hfs]

/-- Pieces that are not looked for among comments are found as before. -/
theorem filter_remaining_eq_map (hq : ∀ g ∈ fs, q g.withoutComments = q g)
    (hcomment : ∀ g ∈ fs, q g = true → g.isComment = false) :
    (remaining fs).filter q = (fs.filter q).map withoutComments := by
  rw [filter_remaining hq]
  refine remaining_eq_map fun g hg => ?_
  obtain ⟨hmem, hqg⟩ := List.mem_filter.mp hg
  exact hcomment g hmem hqg

/-- What is made of the remaining pieces, if nothing is made of comments. -/
theorem flatMap_remaining {α : Type} {g : Focus → List α} {e : α → α}
    (hcomment : ∀ p ∈ fs, p.isComment = true → g p = [])
    (hg : ∀ p ∈ fs, g p.withoutComments = (g p).map e) :
    (remaining fs).flatMap g = (fs.flatMap g).map e := by
  induction fs with
  | nil => rfl
  | cons p fs ih =>
    have hp := hg p List.mem_cons_self
    have hpc := hcomment p List.mem_cons_self
    have hfs := ih (fun p hp => hcomment p (List.mem_cons_of_mem _ hp)) fun p hp =>
      hg p (List.mem_cons_of_mem _ hp)
    by_cases hc : p.isComment = true
    · simp [remaining, hc, hpc hc, hfs]
    · simp [remaining, hc, hp, hfs]

/-- What is made of some of the remaining pieces, if nothing is made of comments. -/
theorem filterMap_remaining {α : Type} {g : Focus → Option α} {e : α → α}
    (hcomment : ∀ p ∈ fs, p.isComment = true → g p = none)
    (hg : ∀ p ∈ fs, g p.withoutComments = (g p).map e) :
    (remaining fs).filterMap g = (fs.filterMap g).map e := by
  rw [List.filterMap_eq_flatMap_toList, List.filterMap_eq_flatMap_toList]
  refine flatMap_remaining (fun p hp hc => ?_) fun p hp => ?_
  · rw [hcomment p hp hc, Option.toList_none]
  · rw [hg p hp, Option.toList_map]

/-! ### Looking for parts -/

section

variable {kind : String} (hkind : kind ≠ "line_comment" ∧ kind ≠ "block_comment")

include hkind

/-- A piece whose name is that of no comment is no comment. -/
theorem isComment_eq_false_of_kind {g : Focus} (hg : (g.kind == kind) = true) :
    g.isComment = false := by
  cases hc : g.isComment with
  | false => rfl
  | true => exact absurd (eq_of_beq hg) (Concrete.kind_ne_of_isComment hc kind hkind)

/-- A piece is found by its name as before. -/
theorem find?_kind_remaining (fs : List Focus) :
    (remaining fs).find? (·.kind == kind) = (fs.find? (·.kind == kind)).map withoutComments :=
  find?_remaining (fun g _ => by rw [kind_withoutComments]) fun _ _ =>
    isComment_eq_false_of_kind hkind

/-- Pieces are found by their name as before. -/
theorem filter_kind_remaining (fs : List Focus) :
    (remaining fs).filter (·.kind == kind) = (fs.filter (·.kind == kind)).map withoutComments :=
  filter_remaining_eq_map (fun g _ => by rw [kind_withoutComments]) fun _ _ =>
    isComment_eq_false_of_kind hkind

end

section

variable {f : Focus} (hf : f.piece.CommentsPlayNoRole) (field : String)

include hf

private theorem isComment_eq_false_of_field {g : Focus} (hg : g ∈ f.parts)
    (hfield : (g.piece.field == some field) = true) :
    g.isComment = false := by
  cases hc : g.isComment with
  | false => rfl
  | true => simp [hf g.piece (piece_mem_of_mem_along hg) hc] at hfield

/-- The first part in a role is found as before, if comments play no roles. -/
theorem partIn?_withoutComments :
    f.withoutComments.partIn? field = (f.partIn? field).map withoutComments := by
  rw [partIn?, parts_withoutComments]
  refine find?_remaining (fun g _ => ?_) fun g => isComment_eq_false_of_field hf field
  exact congrArg (· == some field) g.piece.field_withoutComments

/-- The parts in a role are found as before, if comments play no roles. -/
theorem partsIn_withoutComments :
    f.withoutComments.partsIn field = (f.partsIn field).map withoutComments := by
  rw [partsIn, parts_withoutComments]
  refine filter_remaining_eq_map (fun g _ => ?_) fun g => isComment_eq_false_of_field hf field
  exact congrArg (· == some field) g.piece.field_withoutComments

end

end Focus

end Java

end Excerpt
