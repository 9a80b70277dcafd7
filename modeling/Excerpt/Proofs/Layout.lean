import Excerpt.Proofs.Drafts
import Excerpt.Proofs.Places

/-!
# Ranges in trees of drafts

A range lies in a source if it begins and ends between characters, not before it begins, and if
its lines count the line feeds before it (`Span.LiesIn`). The source under such a range spans
several lines if and only if it holds a line feed (`Span.LiesIn.isSingleLine_iff`).

A draft is placed between two bytes of its source if its range lies there and its children are
placed within that range, one after the other (`Draft.Placed`). Two bounds are carried along
besides the range of the draft, so that drafts can be put after each other without a look at their
ranges.

What is placed can be moved into larger bounds (`Draft.Placed.mono`), and lists of drafts are
placed one after the other (`Draft.PlacedAll.append`). The lemmas about single constructs are put
together from these two. Laying out placed drafts in a tree then turns the bounds into facts about
the ranges of nodes.

## Main results

* `Span.LiesIn.isSingleLine_iff`: lines and line feeds of a range.
* `SyntaxTree.nested_graftAll`: in a tree of placed drafts the range of each node lies within the
  range of its parent.
* `SyntaxTree.pairwise_startsBefore_graftAll`: no node begins before one that precedes it in
  pre-order.
-/

namespace Excerpt

/-! ### Ranges in a source -/

/-- The range lies between characters of the source, and its lines count line feeds. -/
structure Span.LiesIn (source : List Char) (s : Span) : Prop where
  start_boundary : Text.isBoundary s.startByte source
  end_boundary : Text.isBoundary s.endByte source
  start_le_end : s.startByte ≤ s.endByte
  startLine_eq : s.startLine = Text.lineFeedsBefore s.startByte source + 1
  endLine_eq : s.endLine = Text.lineFeedsBefore s.endByte source + 1

/-- A range begins and ends on one line if there is no line feed under it. -/
theorem Span.LiesIn.isSingleLine_iff {source : String} {s : Span} (h : s.LiesIn source.toList) :
    s.isSingleLine ↔ '\n' ∉ SyntaxTree.sliceOf source s := by
  obtain ⟨mid, hmid⟩ := Text.exists_byteSlice? h.start_boundary h.end_boundary h.start_le_end
  rw [SyntaxTree.sliceOf, hmid, Option.getD_some, ← Text.lineFeedsBefore_eq_iff hmid,
    Span.isSingleLine, beq_iff_eq, h.startLine_eq, h.endLine_eq, Nat.add_right_cancel_iff]

/-! ### Placed drafts -/

namespace Draft

mutual

/-- The draft lies between the bytes `lo` and `hi` of the source, and its children within its
range. -/
def Placed (source : List Char) (lo hi : Nat) : Draft → Prop
  | node head cs =>
    ∃ s, head.span = some s ∧ s.LiesIn source ∧ lo ≤ s.startByte ∧ s.endByte ≤ hi ∧
      PlacedAll source s.startByte s.endByte cs

/-- The drafts lie between the bytes `lo` and `hi` of the source, one after the other. -/
def PlacedAll (source : List Char) (lo hi : Nat) : List Draft → Prop
  | [] => lo ≤ hi
  | d :: ds => ∃ mid, d.Placed source lo mid ∧ PlacedAll source mid hi ds

end

variable {source : List Char} {lo lo' mid hi hi' : Nat} {d : Draft} {ds es : List Draft}

/-- A draft that lies in a range also lies in a larger one. -/
theorem Placed.mono (h : d.Placed source lo hi) (hlo : lo' ≤ lo) (hhi : hi ≤ hi') :
    d.Placed source lo' hi' := by
  cases d with
  | node head cs =>
    obtain ⟨s, hspan, hs, hstart, hend, hcs⟩ := h
    exact ⟨s, hspan, hs, Nat.le_trans hlo hstart, Nat.le_trans hend hhi, hcs⟩

/-- The bounds of a placed draft are in order. -/
theorem Placed.le (h : d.Placed source lo hi) : lo ≤ hi := by
  cases d with
  | node head cs =>
    obtain ⟨s, -, hs, hstart, hend, -⟩ := h
    exact Nat.le_trans hstart (Nat.le_trans hs.start_le_end hend)

/-- The bounds of placed drafts are in order. -/
theorem PlacedAll.le (h : PlacedAll source lo hi ds) : lo ≤ hi := by
  induction ds generalizing lo with
  | nil => exact h
  | cons d ds ih =>
    obtain ⟨mid, hd, hds⟩ := h
    exact Nat.le_trans hd.le (ih hds)

/-- Drafts are placed after others if they begin where these end. -/
theorem PlacedAll.append (hds : PlacedAll source lo mid ds) (hes : PlacedAll source mid hi es) :
    PlacedAll source lo hi (ds ++ es) := by
  induction ds generalizing lo with
  | nil =>
    cases es with
    | nil => exact Nat.le_trans hds hes
    | cons e es =>
      obtain ⟨mid', he, hes⟩ := hes
      exact ⟨mid', he.mono hds (Nat.le_refl _), hes⟩
  | cons d ds ih =>
    obtain ⟨mid', hd, hds⟩ := hds
    exact ⟨mid', hd, ih hds⟩

/-- Drafts that lie in a range also lie in a larger one. -/
theorem PlacedAll.mono (h : PlacedAll source lo hi ds) (hlo : lo' ≤ lo) (hhi : hi ≤ hi') :
    PlacedAll source lo' hi' ds := by
  have hbefore : PlacedAll source lo' lo [] := hlo
  have hafter : PlacedAll source hi hi' [] := hhi
  simpa using (hbefore.append h).append hafter

/-- One placed draft is a list of placed drafts. -/
theorem placedAll_singleton (h : d.Placed source lo hi) : PlacedAll source lo hi [d] :=
  ⟨hi, h, Nat.le_refl hi⟩

/-- A draft that may be missing takes no place if it is. -/
theorem placedAll_toList {o : Option Draft} (hle : lo ≤ hi)
    (h : ∀ d, o = some d → d.Placed source lo hi) :
    PlacedAll source lo hi o.toList := by
  cases o with
  | none => exact hle
  | some d => exact placedAll_singleton (h d rfl)

end Draft

/-! ### Where placed drafts begin -/

/-- Both nodes have a range, and that of the first does not begin after that of the second. -/
def Node.StartsBefore (m n : Node) : Prop :=
  ∃ s s', m.span = some s ∧ n.span = some s' ∧ s.startByte ≤ s'.startByte

namespace Draft

variable {source : List Char}

mutual

/-- The nodes of a placed draft begin between its bounds. -/
theorem Placed.start_of_mem : {d : Draft} → {lo hi parent id : Nat} → d.Placed source lo hi →
    ∀ n ∈ d.laidOut parent id, ∃ s, n.span = some s ∧ lo ≤ s.startByte ∧ s.startByte ≤ hi
  | .node head cs, lo, hi, parent, id, ⟨s, hspan, hs, hstart, hend, hcs⟩ => by
    intro n hn
    rw [laidOut, List.mem_cons] at hn
    rcases hn with rfl | hn
    · exact ⟨s, hspan, hstart, Nat.le_trans hs.start_le_end hend⟩
    · obtain ⟨s', hspan', hstart', hend'⟩ := hcs.start_of_mem n hn
      exact ⟨s', hspan', Nat.le_trans hstart hstart', Nat.le_trans hend' hend⟩

private theorem PlacedAll.start_of_mem :
    {ds : List Draft} → {lo hi parent id : Nat} → PlacedAll source lo hi ds →
    ∀ n ∈ laidOutAll parent id ds, ∃ s, n.span = some s ∧ lo ≤ s.startByte ∧ s.startByte ≤ hi
  | [], _, _, _, _, _ => by simp [laidOutAll]
  | d :: ds, lo, hi, parent, id, ⟨mid, hd, hds⟩ => by
    intro n hn
    rw [laidOutAll, List.mem_append] at hn
    rcases hn with hn | hn
    · obtain ⟨s, hspan, hstart, hend⟩ := hd.start_of_mem n hn
      exact ⟨s, hspan, hstart, Nat.le_trans hend hds.le⟩
    · obtain ⟨s, hspan, hstart, hend⟩ := hds.start_of_mem n hn
      exact ⟨s, hspan, Nat.le_trans hd.le hstart, hend⟩

end

mutual

private theorem Placed.pairwise_startsBefore :
    {d : Draft} → {lo hi parent id : Nat} → d.Placed source lo hi →
    (d.laidOut parent id).Pairwise Node.StartsBefore
  | .node head cs, lo, hi, parent, id, ⟨s, hspan, hs, hstart, hend, hcs⟩ => by
    rw [laidOut, List.pairwise_cons]
    refine ⟨fun n hn => ?_, hcs.pairwise_startsBefore⟩
    obtain ⟨s', hspan', hle, -⟩ := hcs.start_of_mem n hn
    exact ⟨s, s', hspan, hspan', hle⟩

private theorem PlacedAll.pairwise_startsBefore :
    {ds : List Draft} → {lo hi parent id : Nat} → PlacedAll source lo hi ds →
    (laidOutAll parent id ds).Pairwise Node.StartsBefore
  | [], _, _, _, _, _ => List.Pairwise.nil
  | d :: ds, lo, hi, parent, id, ⟨mid, hd, hds⟩ => by
    rw [laidOutAll, List.pairwise_append]
    refine ⟨hd.pairwise_startsBefore, hds.pairwise_startsBefore, fun m hm n hn => ?_⟩
    -- the place where `d` ends separates the two
    obtain ⟨s, hspan, -, hle⟩ := hd.start_of_mem m hm
    obtain ⟨s', hspan', hge, -⟩ := hds.start_of_mem n hn
    exact ⟨s, s', hspan, hspan', Nat.le_trans hle hge⟩

end

end Draft

/-! ### Trees of placed drafts -/

namespace SyntaxTree

/-- The node has a parent, and its range lies in the source and within the range of its parent. -/
def Nested (source : List Char) (t : SyntaxTree) (i : NodeId) : Prop :=
  ∃ p s q, t.parent? i = some p ∧ (t.node i).span = some s ∧ (t.node p).span = some q ∧
    s.LiesIn source ∧ q.startByte ≤ s.startByte ∧ s.endByte ≤ q.endByte

mutual

private theorem source_graft (t : SyntaxTree) (p : NodeId) :
    (d : Draft) → (t.graft p d).source = t.source
  | .node head cs => by rw [graft, source_graftAll]; rfl

/-- Grafting does not touch the source. -/
@[simp]
theorem source_graftAll (t : SyntaxTree) (p : NodeId) :
    (ds : List Draft) → (t.graftAll p ds).source = t.source
  | [] => by rw [graftAll]
  | d :: ds => by rw [graftAll, source_graftAll, source_graft]

end

variable {source : List Char} {t : SyntaxTree}

mutual

/-- A tree that holds the nodes of a placed draft from `id` on, below a node around them, nests
them. -/
theorem nested_of_laidOut {parent id lo hi : Nat} {q : Span} (hq : (t.node parent).span = some q)
    (hlo : q.startByte ≤ lo) (hhi : hi ≤ q.endByte) : {d : Draft} → d.Placed source lo hi →
    d.laidOut parent id <+: t.nodes.toList.drop id → ∀ i, id ≤ i → i < id + d.size →
      t.Nested source i
  | .node head cs, ⟨s, hspan, hs, hstart, hend, hcs⟩, hnodes, i, hid, hi => by
    rw [Draft.laidOut] at hnodes
    have hnode := node_of_drop hnodes
    have hhead : (t.node id).span = some s := by rw [hnode, ← hspan]
    rcases Nat.eq_or_lt_of_le hid with rfl | hlt
    · exact ⟨parent, s, q, by rw [parent?, hnode], hhead, hq, hs, Nat.le_trans hlo hstart,
        Nat.le_trans hend hhi⟩
    · rw [Draft.size] at hi
      have hbelow : Draft.laidOutAll id (id + 1) cs <+: t.nodes.toList.drop (id + 1) :=
        drop_add_length (l := [_]) hnodes
      exact nested_of_laidOutAll hhead (Nat.le_refl _)
        (Nat.le_refl _) cs hcs hbelow i hlt (by omega)

private theorem nested_of_laidOutAll {parent id lo hi : Nat} {q : Span}
    (hq : (t.node parent).span = some q) (hlo : q.startByte ≤ lo) (hhi : hi ≤ q.endByte) :
    (ds : List Draft) → Draft.PlacedAll source lo hi ds →
    Draft.laidOutAll parent id ds <+: t.nodes.toList.drop id →
    ∀ i, id ≤ i → i < id + Draft.sizes ds → t.Nested source i
  | [], _, _, i, hid, hi => by
    rw [Draft.sizes] at hi
    omega
  | d :: ds, ⟨mid, hd, hds⟩, hnodes, i, hid, hi => by
    rw [Draft.laidOutAll] at hnodes
    rw [Draft.sizes] at hi
    rcases Nat.lt_or_ge i (id + d.size) with hlt | hge
    · exact nested_of_laidOut hq hlo (Nat.le_trans hds.le hhi) hd
        ((List.prefix_append _ _).trans hnodes) i hid hlt
    · have hrest := drop_add_length hnodes
      rw [Draft.length_laidOut] at hrest
      exact nested_of_laidOutAll hq (Nat.le_trans hlo hd.le) hhi ds hds hrest i hge (by omega)

end

variable {source : String} {ds : List Draft}

/-- In a tree of placed drafts, the range of each node lies within that of its parent. -/
theorem nested_graftAll (hds : Draft.PlacedAll source.toList 0 source.utf8ByteSize ds) {i : Nat}
    (hpos : 0 < i) (hi : i < ((ofSource source).graftAll 0 ds).size) :
    ((ofSource source).graftAll 0 ds).Nested source.toList i := by
  have hnodes := nodes_graftAll_ofSource source ds
  generalize (ofSource source).graftAll 0 ds = t at hnodes hi ⊢
  have hsize : t.size = 1 + Draft.sizes ds := by
    simpa [size, Nat.add_comm] using congrArg List.length hnodes
  have hroot : t.node 0 = addChildren (Draft.starts 1 ds) ((ofSource source).node 0) :=
    node_of_drop (l := Draft.laidOutAll 0 1 ds) (by rw [hnodes]; exact List.prefix_rfl)
  have hprefix : Draft.laidOutAll 0 1 ds <+: t.nodes.toList.drop 1 := by
    rw [hnodes]; exact List.prefix_rfl
  have hspan : (t.node 0).span = ((ofSource source).node 0).span := by rw [hroot]; rfl
  exact nested_of_laidOutAll hspan (Nat.le_refl _) (Nat.le_refl _) ds hds hprefix i hpos
    (hsize ▸ hi)

private theorem map_node_range (t : SyntaxTree) :
    (List.range t.size).map t.node = t.nodes.toList := by
  refine List.ext_getElem (by simp [size]) fun i hi hi' => ?_
  rw [Array.length_toList] at hi'
  simp [node, node?, hi']

/-- In a tree of placed drafts, no node begins before one that precedes it in pre-order. -/
theorem pairwise_startsBefore_graftAll (hsound : ∀ d ∈ ds, d.Sound)
    (hds : Draft.PlacedAll source.toList 0 source.utf8ByteSize ds) :
    ((ofSource source).graftAll 0 ds).preorder.Pairwise fun i j =>
      (((ofSource source).graftAll 0 ds).node i).StartsBefore
          (((ofSource source).graftAll 0 ds).node j) := by
  rw [preorder_graftAll hsound, ← List.pairwise_map, map_node_range, nodes_graftAll_ofSource,
    List.pairwise_cons]
  refine ⟨fun n hn => ?_, hds.pairwise_startsBefore⟩
  obtain ⟨s, hspan, hle, -⟩ := hds.start_of_mem n hn
  exact ⟨_, s, rfl, hspan, hle⟩

end SyntaxTree

end Excerpt
