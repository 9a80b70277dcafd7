import Excerpt.Java.Grammar
import Excerpt.Proofs.Comments

/-!
# Comments in syntax that is read

Comments play no roles in concrete syntax that is read from a source
(`Concrete.commentsPlayNoRole_ofSource`). This is what it takes for comments to be deleted
without a change of the tree, and it is a property of the reader, since nothing in the type of
concrete syntax keeps a comment from having a role.

A role is given to pieces that are no comments (`assign`) and to a piece that goes on with a tail
(`readTails`), which is no comment either, because it is the first piece that is none, or what a
tail made of such a piece. For the latter, the pieces that tails make must not be called comments;
`Phrase.tailsAreNoComments` says so of a phrase, and the phrases of Java satisfy it.

The reading of a phrase nests as deep as its fuel, so the proof is by induction on the fuel. What
is carried through it is a property of lists of pieces (`CommentsIdle`): comments in them and
inside them play no roles. It is kept by all that a reading does with its pieces, which is to put
lists one after the other, to make a list the parts of one piece, and to give out roles.

## Main results

* `Grammar.tailsAreNoComments_phrase`: the grammar of Java makes comments of nothing else.
* `CommentsIdle.assign`, `commentsIdle_readTails`: the two ways to give out roles.
* `Concrete.commentsPlayNoRole_ofSource`: comments play no roles in the syntax of a source.
-/

namespace Excerpt.Java

/-! ### Tails -/

mutual

/-- The tails in the phrase make no comments. -/
def Phrase.tailsAreNoComments {κ : Type} : Phrase κ → Bool
  | .seq ps => Phrase.tailsAreNoCommentsIn ps
  | .alt ps => Phrase.tailsAreNoCommentsIn ps
  | .opt p => p.tailsAreNoComments
  | .many p => p.tailsAreNoComments
  | .role _ p => p.tailsAreNoComments
  | .piece _ p => p.tailsAreNoComments
  | .only _ p => p.tailsAreNoComments
  | .ahead p => p.tailsAreNoComments
  | .unless p => p.tailsAreNoComments
  | .grow base tails => base.tailsAreNoComments && Tail.areNoComments tails
  | .punct _ => true
  | .glyphs _ => true
  | .word _ => true
  | .name _ _ => true
  | .literal => true
  | .inner _ _ => true
  | .cat _ => true

/-- The tails in the phrases make no comments. -/
def Phrase.tailsAreNoCommentsIn {κ : Type} : List (Phrase κ) → Bool
  | [] => true
  | p :: ps => p.tailsAreNoComments && Phrase.tailsAreNoCommentsIn ps

/-- The tail makes no comments. -/
def Tail.isNoComment {κ : Type} : Tail κ → Bool
  | .mk kind _ _ rest =>
    kind != "line_comment" && kind != "block_comment" && rest.tailsAreNoComments

/-- The tails make no comments. -/
def Tail.areNoComments {κ : Type} : List (Tail κ) → Bool
  | [] => true
  | t :: ts => t.isNoComment && Tail.areNoComments ts

end

private theorem Tail.areNoComments_iff {κ : Type} {tails : List (Tail κ)} :
    areNoComments tails = true ↔ ∀ t ∈ tails, t.isNoComment = true := by
  induction tails with
  | nil => simp [areNoComments]
  | cons t ts ih => simp [areNoComments, ih]

/-- The tails of operators above a level are some of all. -/
theorem Grammar.areNoComments_operatorTails (above : Nat) (arrow : Bool) :
    Tail.areNoComments (((operatorTails arrow).filter fun t => above < t.1).map Prod.snd) =
      true := by
  have hall : Tail.areNoComments ((operatorTails arrow).map Prod.snd) = true := by
    cases arrow <;> rfl
  rw [Tail.areNoComments_iff] at hall ⊢
  intro t ht
  obtain ⟨entry, hentry, rfl⟩ := List.mem_map.mp ht
  exact hall entry.2 (List.mem_map_of_mem (List.mem_of_mem_filter hentry))

/-- The grammar of Java makes comments of nothing else. -/
theorem Grammar.tailsAreNoComments_phrase (k : Category) :
    (phrase k).tailsAreNoComments = true := by
  cases k with
  | expression above arrow => exact areNoComments_operatorTails above arrow
  | operand arrow => cases arrow <;> rfl
  | _ => rfl

/-! ### Pieces -/

/-- The comments among the pieces, and in them, play no roles. -/
def CommentsIdle (ps : List Concrete) : Prop :=
  ∀ p ∈ ps, (p.isComment = true → p.field = none) ∧ p.Everywhere Concrete.CommentsPlayNoRole

namespace CommentsIdle

variable {ps qs : List Concrete}

/-- There are no comments in an empty list. -/
theorem nil : CommentsIdle [] := fun _ hp => nomatch hp

/-- Lists of pieces one after the other. -/
theorem append (hps : CommentsIdle ps) (hqs : CommentsIdle qs) : CommentsIdle (ps ++ qs) :=
  List.forall_mem_append.mpr ⟨hps, hqs⟩

/-- Some of the pieces of a list. -/
theorem subset (hps : CommentsIdle ps) (h : qs ⊆ ps) : CommentsIdle qs :=
  fun p hp => hps p (h hp)

/-- A piece that is no comment may have a role. -/
theorem singleton {p : Concrete} (hcomment : p.isComment = false)
    (hp : p.Everywhere Concrete.CommentsPlayNoRole) :
    CommentsIdle [p] :=
  List.forall_mem_singleton.mpr ⟨fun h => absurd h (by simp [hcomment]), hp⟩

/-- The pieces become the parts of one piece without a role. -/
theorem node (hps : CommentsIdle ps) (kind : String) (named : Bool) (range : Range) :
    CommentsIdle [.node kind named none range ps] := by
  refine List.forall_mem_singleton.mpr ⟨fun _ => rfl, Concrete.everywhere_iff.mpr ⟨?_, ?_⟩⟩
  · exact fun d hd => (hps d hd).1
  · exact fun d hd => (hps d hd).2

/-- A token is read without a role. -/
theorem take (c : Cursor) (n : Nat) (kind : String) (named : Bool) :
    CommentsIdle [(c.take n kind named).1] :=
  nil.node kind named _

/-- Pieces that are put into one piece, or kept as they are. -/
theorem enclose (hps : CommentsIdle ps) (kind : String) : CommentsIdle (enclose kind ps) := by
  have hlead : CommentsIdle (ps.takeWhile Concrete.isComment) :=
    hps.subset (List.takeWhile_subset _)
  have hrest : CommentsIdle (ps.dropWhile Concrete.isComment) :=
    hps.subset (List.dropWhile_subset _)
  rw [Java.enclose]
  split
  · exact hlead
  · next first more hsplit =>
    rw [hsplit] at hrest
    exact hlead.append (hrest.node kind true _)

end CommentsIdle

/-- What a piece holds does not depend on its role. -/
theorem Concrete.everywhere_withField {c : Concrete} (hc : c.Everywhere CommentsPlayNoRole)
    (field : Option String) :
    (c.withField field).Everywhere CommentsPlayNoRole := by
  obtain ⟨hhere, hchildren⟩ := everywhere_iff.mp hc
  exact everywhere_iff.mpr ⟨hhere, hchildren⟩

/-- Only pieces that are no comments get roles. -/
theorem CommentsIdle.assign {ps : List Concrete} (hps : CommentsIdle ps) (field : String) :
    CommentsIdle (assign field ps) := by
  intro p hp
  obtain ⟨q, hq, rfl⟩ := List.mem_map.mp hp
  by_cases hc : q.isComment = true
  · rw [if_pos hc]
    exact hps q hq
  · rw [if_neg hc]
    refine ⟨fun h => absurd h hc, Concrete.everywhere_withField (hps q hq).2 _⟩

/-! ### Tokens -/

private theorem commentsIdle_trivia (c : Cursor) : CommentsIdle c.trivia.1 := by
  fun_induction Cursor.trivia c with
  | case1 => exact .nil
  | case2 c ch rest hc hsep hlt ih => exact ih
  | case3 c ch rest hc hsep n kind hcomment hlt more d hmore ih =>
    rw [hmore] at ih
    exact (CommentsIdle.take c n kind true).append ih
  | case4 => exact .nil

/-- The comments in what is read play no roles. -/
def Reading.CommentsIdle : Reading → Prop
  | some (ps, _) => Java.CommentsIdle ps
  | none => True

private theorem commentsIdle_readToken (c : Cursor)
    (find : List Char → Option (Nat × String × Bool)) :
    (readToken c find).CommentsIdle := by
  have hcomments := commentsIdle_trivia c
  rw [readToken]
  split
  next comments d htrivia =>
    rw [htrivia] at hcomments
    split
    · exact hcomments.append (.take d _ _ _)
    · trivial

/-! ### Phrases -/

/-- What keeps the property of pieces may be done to the pieces of a reading. -/
theorem Reading.CommentsIdle.map {r : Reading} (hr : r.CommentsIdle)
    {g : List Concrete → List Concrete}
    (hg : ∀ ps, Java.CommentsIdle ps → Java.CommentsIdle (g ps)) :
    Reading.CommentsIdle (r.map fun (ps, d) => (g ps, d)) := by
  cases r with
  | none => trivial
  | some reading => exact hg reading.1 hr

/-- A piece that is no comment begins the piece that it becomes a part of. -/
theorem enclose_cons (left : Concrete) (hleft : left.isComment = false) (kind : String)
    (ps : List Concrete) :
    ∃ range, enclose kind (left :: ps) = [.node kind true none range (left :: ps)] := by
  simp [enclose, hleft]

section

variable {κ : Type} {grammar : κ → Phrase κ}

mutual

private theorem commentsIdle_read (hgrammar : ∀ k, (grammar k).tailsAreNoComments = true) :
    (fuel : Nat) → (p : Phrase κ) → (c : Cursor) → p.tailsAreNoComments = true →
    (read grammar fuel p c).CommentsIdle
  | 0, _, _, _ => by rw [read]; trivial
  | fuel + 1, .punct text, c, _ => by rw [read]; exact commentsIdle_readToken c _
  | fuel + 1, .glyphs text, c, _ => by rw [read]; exact commentsIdle_readToken c _
  | fuel + 1, .word text, c, _ => by rw [read]; exact commentsIdle_readToken c _
  | fuel + 1, .name kind reserved, c, _ => by rw [read]; exact commentsIdle_readToken c _
  | fuel + 1, .literal, c, _ => by rw [read]; exact commentsIdle_readToken c _
  | fuel + 1, .inner kind scan, c, _ => by
    rw [read]
    split
    · next n _ => exact CommentsIdle.take c n kind true
    · trivial
  | fuel + 1, .cat k, c, _ => by
    rw [read]; exact commentsIdle_read hgrammar fuel (grammar k) c (hgrammar k)
  | fuel + 1, .seq qs, c, hp => by rw [read]; exact commentsIdle_readAll hgrammar fuel qs c hp
  | fuel + 1, .alt qs, c, hp => by rw [read]; exact commentsIdle_readFirst hgrammar fuel qs c hp
  | fuel + 1, .opt q, c, hp => by
    have hq := commentsIdle_read hgrammar fuel q c hp
    rw [read]
    cases hread : read grammar fuel q c with
    | none => exact CommentsIdle.nil
    | some reading =>
      rw [hread] at hq
      exact hq
  | fuel + 1, .many q, c, hp => by rw [read]; exact commentsIdle_readMany hgrammar fuel q c hp
  | fuel + 1, .role field q, c, hp => by
    rw [read]
    exact (commentsIdle_read hgrammar fuel q c hp).map fun ps hps => hps.assign field
  | fuel + 1, .piece kind q, c, hp => by
    rw [read]
    exact (commentsIdle_read hgrammar fuel q c hp).map fun ps hps => hps.enclose kind
  | fuel + 1, .only kinds q, c, hp => by
    have hq := commentsIdle_read hgrammar fuel q c hp
    rw [read]
    split
    · next ps d hread =>
      split
      · exact hread ▸ hq
      · trivial
    · trivial
  | fuel + 1, .ahead q, c, _ => by
    rw [read]
    split
    · exact CommentsIdle.nil
    · trivial
  | fuel + 1, .unless q, c, _ => by
    rw [read]
    split
    · trivial
    · exact CommentsIdle.nil
  | fuel + 1, .grow base tails, c, hp => by
    rw [Phrase.tailsAreNoComments, Bool.and_eq_true] at hp
    have hbase := commentsIdle_read hgrammar fuel base c hp.1
    rw [read]
    split
    · next ps d hread =>
      rw [hread] at hbase
      split
      · next left hleft =>
        -- `left` is the first piece after the comments
        have hmem : left ∈ ps := List.dropWhile_subset _ (hleft ▸ List.mem_singleton_self left)
        have hcomment : left.isComment = false := by
          have hhead := List.head_dropWhile_not Concrete.isComment (l := ps) (by simp [hleft])
          simpa [hleft] using hhead
        have hgrown := commentsIdle_readTails hgrammar fuel tails tails left d hp.2 hp.2 hcomment
          (hbase left hmem).2
        have hlead : CommentsIdle (ps.takeWhile Concrete.isComment) :=
          CommentsIdle.subset hbase (List.takeWhile_subset _)
        exact hlead.append hgrown
      · exact hbase
    · trivial

private theorem commentsIdle_readAll (hgrammar : ∀ k, (grammar k).tailsAreNoComments = true) :
    (fuel : Nat) → (qs : List (Phrase κ)) → (c : Cursor) → Phrase.tailsAreNoCommentsIn qs = true →
    (readAll grammar fuel qs c).CommentsIdle
  | 0, _, _, _ => by rw [readAll]; trivial
  | fuel + 1, [], c, _ => by rw [readAll]; exact CommentsIdle.nil
  | fuel + 1, q :: qs, c, hqs => by
    rw [Phrase.tailsAreNoCommentsIn, Bool.and_eq_true] at hqs
    have hhere := commentsIdle_read hgrammar fuel q c hqs.1
    rw [readAll]
    split
    · next here d hread =>
      have hmore := commentsIdle_readAll hgrammar fuel qs d hqs.2
      rw [hread] at hhere
      split
      · next more e hreadAll =>
        rw [hreadAll] at hmore
        exact CommentsIdle.append hhere hmore
      · trivial
    · trivial

private theorem commentsIdle_readFirst (hgrammar : ∀ k, (grammar k).tailsAreNoComments = true) :
    (fuel : Nat) → (qs : List (Phrase κ)) → (c : Cursor) → Phrase.tailsAreNoCommentsIn qs = true →
    (readFirst grammar fuel qs c).CommentsIdle
  | 0, _, _, _ => by rw [readFirst]; trivial
  | fuel + 1, [], c, _ => by rw [readFirst]; trivial
  | fuel + 1, q :: qs, c, hqs => by
    rw [Phrase.tailsAreNoCommentsIn, Bool.and_eq_true] at hqs
    have hfirst := commentsIdle_read hgrammar fuel q c hqs.1
    rw [readFirst]
    split
    · next reading hread => exact hread ▸ hfirst
    · exact commentsIdle_readFirst hgrammar fuel qs c hqs.2

private theorem commentsIdle_readMany (hgrammar : ∀ k, (grammar k).tailsAreNoComments = true) :
    (fuel : Nat) → (q : Phrase κ) → (c : Cursor) → q.tailsAreNoComments = true →
    (readMany grammar fuel q c).CommentsIdle
  | 0, _, _, _ => by rw [readMany]; trivial
  | fuel + 1, q, c, hq => by
    have hhere := commentsIdle_read hgrammar fuel q c hq
    rw [readMany]
    split
    · next here d hread =>
      have hmore := commentsIdle_readMany hgrammar fuel q d hq
      rw [hread] at hhere
      split
      · exact CommentsIdle.nil
      · split
        · next more e hreadMany =>
          rw [hreadMany] at hmore
          exact CommentsIdle.append hhere hmore
        · trivial
    · exact CommentsIdle.nil

/-- What a piece that is no comment grows into is no comment either, so that it may get a role in
turn. -/
theorem commentsIdle_readTails (hgrammar : ∀ k, (grammar k).tailsAreNoComments = true) :
    (fuel : Nat) → (tails more : List (Tail κ)) → (left : Concrete) → (c : Cursor) →
    Tail.areNoComments tails = true → Tail.areNoComments more = true → left.isComment = false →
    left.Everywhere Concrete.CommentsPlayNoRole →
    CommentsIdle [(readTails grammar fuel tails more left c).1]
  | 0, _, _, left, c, _, _, hcomment, hleft => by
    rw [readTails]
    exact CommentsIdle.singleton hcomment hleft
  | fuel + 1, _, [], left, c, _, _, hcomment, hleft => by
    rw [readTails]
    exact CommentsIdle.singleton hcomment hleft
  | fuel + 1, tails, .mk kind after first rest :: more, left, c, htails, hmore,
      hcomment, hleft => by
    rw [Tail.areNoComments, Bool.and_eq_true, Tail.isNoComment, Bool.and_eq_true] at hmore
    obtain ⟨⟨hkind, hrest⟩, hmore⟩ := hmore
    simp only [readTails]
    split
    · next piece d hgrown =>
      split at hgrown
      · split at hgrown
        · next ps e hread =>
          have hps := commentsIdle_read hgrammar fuel rest c hrest
          rw [hread] at hps
          -- `left` has a role now, and what the tail makes begins with it
          obtain ⟨range, henclose⟩ := enclose_cons (left.withField first) hcomment kind ps
          rw [henclose] at hgrown
          obtain ⟨rfl, -⟩ := Prod.mk.inj (Option.some.inj hgrown)
          have hfirst : CommentsIdle [left.withField first] :=
            .singleton hcomment (Concrete.everywhere_withField hleft first)
          have hparts := hfirst.append hps
          refine commentsIdle_readTails hgrammar fuel tails tails _ d htails htails ?_ ?_
          · simpa [Concrete.isComment, Concrete.kind] using hkind
          · exact (hparts.node kind true range _ (List.mem_singleton_self _)).2
        · cases hgrown
      · cases hgrown
    · exact commentsIdle_readTails hgrammar fuel tails more left c htails hmore hcomment hleft

end

end

/-- Comments play no roles in the concrete syntax of a source. -/
theorem Concrete.commentsPlayNoRole_ofSource {source : List Char} {c : Concrete}
    (h : ofSource source = .ok c) :
    c.Everywhere CommentsPlayNoRole := by
  rw [ofSource, readSource] at h
  -- a source is a piece like any other, with comments after its last statement
  have hread := commentsIdle_read Grammar.tailsAreNoComments_phrase (200 * (source.length + 1))
    (.many (.alt [.cat .statement, .cat .methodDeclaration])) (Cursor.ofSource source) rfl
  split at h
  · next pieces d hpieces =>
    rw [hpieces] at hread
    split at h
    next comments e htrivia =>
      have hcomments := commentsIdle_trivia d
      rw [htrivia] at hcomments
      split at h
      · obtain rfl := Except.ok.inj h
        exact ((CommentsIdle.append hread hcomments).node "program" true _ _
          (List.mem_singleton_self _)).2
      · cases h
  · cases h

end Excerpt.Java
