import Excerpt.Java.Lowering
import Mathlib.Data.List.Basic

/-!
# Comments before declarations

A declaration keeps the comment right before it, unless the comment follows other code on its row
and so belongs to this code. What is looked at is the one piece before the comment. The first
comment after a piece of code is therefore left to the code, but a second one on the same row is
kept by the declaration that follows it, although it follows the code as well
(`Lowering.draft_comment_iff`).

What it means that a comment trails code is said by `Trails`: between the code and the comment
there are only comments, all of them on the row on which the code ends. The theorem compares this
with what the lowering looks at, and finds that the two differ in just one case.

The pieces before a declaration are given to its focus, nearest first (`Focus.mem_along_iff`), so
what the lowering looks at are the first two of them. Rows of siblings are in order, hence if the
last of several comments is on the row of the code, then so are all of them (`Trails.on_row`).

## Main results

* `Lowering.commentOf?_eq_some_iff`: which comment the lowering takes.
* `Lowering.exists_draft_comment`: a declaration keeps its comment.
* `Lowering.draft_comment_iff`: which comment a declaration keeps.
-/

namespace Excerpt.Java

namespace Concrete

/-- A declaration of a type, a method, a constructor or a field, or a constant of an enum. -/
def IsDeclaration (c : Concrete) : Prop :=
  (∃ kind, Construct.ofKind c.kind = .typeDecl kind) ∨ Construct.ofKind c.kind = .methodDecl ∨
    Construct.ofKind c.kind = .constructorDecl ∨ Construct.ofKind c.kind = .field ∨
    Construct.ofKind c.kind = .enumConstant

/-- No piece ends before the row it begins on, or after the row that a later piece begins on. -/
def RowsInOrder (cs : List Concrete) : Prop :=
  (∀ c ∈ cs, c.range.startRow ≤ c.range.endRow) ∧
    cs.Pairwise fun c d => c.range.endRow ≤ d.range.startRow

/-- Of the pieces before `c`, the last one that is no comment ends on the row that `c` begins on. -/
def Trails (earlier : List Concrete) (c : Concrete) : Prop :=
  ∃ before code comments, earlier = before ++ code :: comments ∧ code.isComment = false ∧
    (∀ d ∈ comments, d.isComment = true) ∧ code.range.endRow = c.range.startRow

variable {earlier : List Concrete} {c d : Concrete}

private theorem not_trails_nil : ¬ Trails [] c := by
  rintro ⟨before, code, comments, hsplit, -⟩
  simp at hsplit

private theorem trails_concat_of_code (hd : d.isComment = false) :
    Trails (earlier ++ [d]) c ↔ d.range.endRow = c.range.startRow := by
  constructor
  · rintro ⟨before, code, comments, hsplit, -, hcomments, hrow⟩
    -- a last piece that is no comment is the code itself
    rcases List.eq_nil_or_concat' comments with rfl | ⟨comments, e, rfl⟩
    · obtain ⟨-, rfl⟩ := List.append_singleton_inj.1 hsplit
      exact hrow
    · rw [← List.cons_append, ← List.append_assoc] at hsplit
      obtain ⟨-, rfl⟩ := List.append_singleton_inj.1 hsplit
      have hcomment := hcomments d (by simp)
      rw [hd] at hcomment
      cases hcomment
  · intro hrow
    exact ⟨earlier, d, [], rfl, hd, nofun, hrow⟩

/-- All comments between the code and the comment that trails it lie on one row. -/
theorem Trails.on_row (h : Trails (earlier ++ [d]) c) (hd : d.isComment = true)
    (hrows : RowsInOrder (earlier ++ [d] ++ [c])) :
    d.range.startRow = c.range.startRow ∧ d.range.endRow = c.range.startRow := by
  obtain ⟨before, code, comments, hsplit, hcode, -, hrow⟩ := h
  have hmem : code ∈ earlier := by
    have hcodeMem : code ∈ earlier ++ [d] := by simp [hsplit]
    rcases List.mem_append.1 hcodeMem with hearlier | hlast
    · exact hearlier
    · rw [List.mem_singleton.1 hlast, hd] at hcode
      cases hcode
  obtain ⟨hwithin, hpairs⟩ := hrows
  obtain ⟨hpairs, -, hlast⟩ := List.pairwise_append.1 hpairs
  -- between the code and the comment, rows can only grow
  have hcode : code.range.endRow ≤ d.range.startRow :=
    (List.pairwise_append.1 hpairs).2.2 code hmem d (List.mem_singleton_self d)
  have hself : d.range.startRow ≤ d.range.endRow := hwithin d (by simp)
  have hnext : d.range.endRow ≤ c.range.startRow := hlast d (by simp) c (List.mem_singleton_self c)
  omega

end Concrete

open Concrete

/-- A piece among others has those before it, nearest first, in its focus. -/
theorem Focus.mem_along_iff {f : Focus} {before cs : List Concrete} :
    f ∈ Focus.along before cs ↔
      ∃ earlier later, cs = earlier ++ f.piece :: later ∧ f.before = earlier.reverse ++ before := by
  induction cs generalizing before with
  | nil => simp [Focus.along]
  | cons c cs ih =>
    rw [Focus.along, List.mem_cons, ih]
    constructor
    · rintro (rfl | ⟨earlier, later, rfl, hbefore⟩)
      · exact ⟨[], cs, rfl, rfl⟩
      · exact ⟨c :: earlier, later, rfl, by simp [hbefore]⟩
    · rintro ⟨earlier, later, hcs, hbefore⟩
      cases earlier with
      | nil =>
        obtain ⟨hc, -⟩ := List.cons.inj hcs
        exact .inl (by cases f; simp_all)
      | cons e earlier =>
        obtain ⟨rfl, rfl⟩ := List.cons.inj hcs
        exact .inr ⟨earlier, later, rfl, by simpa using hbefore⟩

namespace Lowering

variable {l : Lowering} {f : Focus} {earlier : List Concrete} {c d : Concrete} {comment : Comment}

/-- The comment that a piece of syntax is. -/
def commentAt (l : Lowering) (c : Concrete) : Comment :=
  ⟨String.ofList (sourceUnder l.source c.range), c.range.startRow + 1⟩

private theorem commentOf?_of_before {before : List Concrete} (h : f.before = c :: before) :
    l.commentOf? f = if c.isComment &&
      !(before.head?.any fun d => !d.isComment && d.range.endRow == c.range.startRow)
      then some (l.commentAt c) else none := by
  rw [commentOf?, h]
  cases before <;> rfl

/-- The comment of a construct is the piece right before it, if this is one. The piece before the
comment must be a comment itself or end on another row. -/
theorem commentOf?_eq_some_iff : l.commentOf? f = some comment ↔
    ∃ earlier c, f.before.reverse = earlier ++ [c] ∧ c.isComment = true ∧ comment = l.commentAt c ∧
      ∀ d ∈ earlier.getLast?, d.isComment = true ∨ d.range.endRow ≠ c.range.startRow := by
  cases hbefore : f.before with
  | nil => simp [commentOf?, hbefore]
  | cons c before =>
    -- pieces before a piece are listed from the nearest one
    have hrow : (before.head?.any fun d => !d.isComment && d.range.endRow == c.range.startRow) =
        false ↔
        ∀ d ∈ before.reverse.getLast?, d.isComment = true ∨ d.range.endRow ≠ c.range.startRow := by
      cases before with
      | nil => simp
      | cons d before => cases hd : d.isComment <;> simp [hd]
    rw [commentOf?_of_before hbefore, Option.ite_none_right_eq_some, Bool.and_eq_true,
      Bool.not_eq_true', hrow, Option.some.injEq, List.reverse_cons]
    constructor
    · rintro ⟨⟨hc, hlast⟩, rfl⟩
      exact ⟨before.reverse, c, rfl, hc, rfl, hlast⟩
    · rintro ⟨earlier, c', hsplit, hc, rfl, hlast⟩
      obtain ⟨rfl, rfl⟩ := List.append_singleton_inj.1 hsplit
      exact ⟨⟨hc, hlast⟩, rfl⟩

/-- A declaration keeps its comment. -/
theorem exists_draft_comment (hf : f.piece.IsDeclaration) :
    ∃ node parts, l.draft f = some (.node node parts) ∧ node.comment = l.commentOf? f := by
  rcases hf with ⟨kind, h⟩ | h | h | h | h <;> exact ⟨_, _, by rw [draft, Focus.kind, h]; rfl, rfl⟩

/-- A comment that trails code is kept from the next declaration unless another comment stands
between the two. -/
theorem forall_getLast?_iff (hrows : RowsInOrder (earlier ++ [c])) :
    (∀ d ∈ earlier.getLast?, d.isComment = true ∨ d.range.endRow ≠ c.range.startRow) ↔
      ¬ Trails earlier c ∨ ∃ d ∈ earlier.getLast?, d.isComment = true ∧
        d.range.startRow = c.range.startRow ∧ d.range.endRow = c.range.startRow := by
  rcases List.eq_nil_or_concat' earlier with rfl | ⟨earlier, d, rfl⟩
  · simp [not_trails_nil]
  · rw [List.getLast?_concat]
    simp only [Option.mem_def, Option.some.injEq, forall_eq', exists_eq_left']
    cases hd : d.isComment with
    | false => simp [trails_concat_of_code hd]
    | true =>
      refine iff_of_true (.inl rfl) ?_
      by_cases htrails : Trails (earlier ++ [d]) c
      · exact .inr ⟨rfl, htrails.on_row hd hrows⟩
      · exact .inl htrails

/-- **Which comment a declaration keeps.** Let the rows of some siblings be in order. A
declaration among them keeps a comment just if the sibling right before it is a comment, and this
is the comment it keeps, that trails no code, or has another comment right before it on the same
row. -/
theorem draft_comment_iff (l : Lowering) {siblings : List Concrete} (hrows : RowsInOrder siblings)
    (hf : f ∈ Focus.along [] siblings) (hdecl : f.piece.IsDeclaration) :
    ∃ node parts, l.draft f = some (.node node parts) ∧ ∀ comment, node.comment = some comment ↔
      ∃ earlier c later, siblings = earlier ++ c :: f.piece :: later ∧
        f.before.reverse = earlier ++ [c] ∧
        c.isComment = true ∧ comment = l.commentAt c ∧
        (¬ Trails earlier c ∨ ∃ d ∈ earlier.getLast?, d.isComment = true ∧
          d.range.startRow = c.range.startRow ∧ d.range.endRow = c.range.startRow) := by
  obtain ⟨before, later, hsiblings, hbefore⟩ := Focus.mem_along_iff.1 hf
  obtain ⟨node, parts, hdraft, hcomment⟩ := exists_draft_comment (l := l) hdecl
  refine ⟨node, parts, hdraft, fun comment => ?_⟩
  rw [hcomment, commentOf?_eq_some_iff]
  rw [List.append_nil] at hbefore
  -- the pieces before the declaration are in order as well
  have hsplit : ∀ earlier c, f.before.reverse = earlier ++ [c] →
      siblings = earlier ++ c :: f.piece :: later ∧ RowsInOrder (earlier ++ [c]) := by
    intro earlier c h
    rw [hbefore, List.reverse_reverse] at h
    subst h
    refine ⟨by rw [hsiblings, List.append_assoc]; rfl, ?_⟩
    rw [hsiblings] at hrows
    exact ⟨fun d hd => hrows.1 d (List.mem_append_left _ hd), (List.pairwise_append.1 hrows.2).1⟩
  constructor
  · rintro ⟨earlier, c, h, hc, rfl, hlast⟩
    exact ⟨earlier, c, later, (hsplit earlier c h).1, h, hc, rfl,
      (forall_getLast?_iff (hsplit earlier c h).2).1 hlast⟩
  · rintro ⟨earlier, c, -, -, h, hc, rfl, hlast⟩
    exact ⟨earlier, c, h, hc, rfl, (forall_getLast?_iff (hsplit earlier c h).2).2 hlast⟩

/-- Two fields with two comments between them, all but the second field on one row. -/
def trailed : List Concrete :=
  [.node "field_declaration" true none ⟨0, 6, 0, 0⟩ [],
   .node "block_comment" true none ⟨7, 14, 0, 0⟩ [],
   .node "block_comment" true none ⟨15, 22, 0, 0⟩ [],
   .node "field_declaration" true none ⟨23, 29, 1, 1⟩ []]

/-- The second comment trails the first field, and the second field keeps it. -/
theorem draft_comment_trailed :
    let l : Lowering := ⟨"int x; /* a */ /* b */\nint y;".toList, fun _ => none⟩
    let f : Focus :=
      ⟨(trailed.take 3).reverse, .node "field_declaration" true none ⟨23, 29, 1, 1⟩ []⟩
    let second : Concrete := .node "block_comment" true none ⟨15, 22, 0, 0⟩ []
    RowsInOrder trailed ∧ f ∈ Focus.along [] trailed ∧ f.piece.IsDeclaration ∧
      Trails (trailed.take 2) second ∧
      ∃ node parts, l.draft f = some (.node node parts) ∧ node.comment = some ⟨"/* b */", 1⟩ := by
  intro l f second
  have hrows : RowsInOrder trailed :=
    ⟨by simp [trailed, Concrete.range], by simp [trailed, Concrete.range]⟩
  have hf : f ∈ Focus.along [] trailed := by simp [f, trailed, Focus.along]
  have hdecl : f.piece.IsDeclaration := .inr (.inr (.inr (.inl (by decide))))
  obtain ⟨node, parts, hdraft, hcomment⟩ := draft_comment_iff l hrows hf hdecl
  refine ⟨hrows, hf, hdecl, ⟨[], _, _, rfl, by decide, by decide, rfl⟩, node, parts, hdraft, ?_⟩
  exact (hcomment _).2 ⟨trailed.take 2, second, [], rfl, rfl, by decide, by decide,
    .inr ⟨_, rfl, by decide, rfl, rfl⟩⟩

end Lowering

end Excerpt.Java
