import Excerpt.Proofs.Inside
import Excerpt.Proofs.Layout

/-!
# Well-placed syntax

Concrete syntax is well placed in its source if its ranges lie in the source, if the parts of
every piece lie within the piece, one after the other, and if parts that play different roles come
in the order of the grammar. All of this can be computed, so it is decidable whether given syntax
is well placed (`Concrete.WellPlaced`).

What is made of the parts of a well-placed piece lies within the piece, as long as the parts are
taken in their order (`Focus.covers_flatMap`). A part that is looked for by its role has a place
in this order because of the grammar: it stands before the parts that the grammar has after it
(`Focus.cons_sublist_parts`, `Focus.covers_append`).

The order of the grammar is a relation between parts, which says that one must not come after the
other. It is needed for pairs only, since constructs are put together from one part and a list of
parts that come after it.

## Main results

* `Focus.cons_sublist_parts`: a part that precedes others stands before them.
* `Focus.covers_flatMap`: what is made of some parts in their order.
* `Focus.covers_append`: what is made of a part and of parts that it precedes.
-/

namespace Excerpt.Java

/-! ### Well-placed syntax -/

/-- The range lies between characters of the source, and its rows count line feeds. -/
def Range.LiesIn (source : List Char) (r : Range) : Prop :=
  Text.isBoundary r.startByte source ∧ Text.isBoundary r.endByte source ∧ r.startByte ≤ r.endByte ∧
    r.startRow = Text.lineFeedsBefore r.startByte source ∧
    r.endRow = Text.lineFeedsBefore r.endByte source

instance (source : List Char) (r : Range) : Decidable (r.LiesIn source) :=
  inferInstanceAs (Decidable (_ ∧ _))

/-- The ranges lie between the bytes `lo` and `hi`, one after the other. -/
def Range.InOrder (lo hi : Nat) : List Range → Prop
  | [] => lo ≤ hi
  | r :: rs => lo ≤ r.startByte ∧ r.startByte ≤ r.endByte ∧ InOrder r.endByte hi rs

instance Range.decidableInOrder (lo hi : Nat) : (rs : List Range) → Decidable (InOrder lo hi rs)
  | [] => inferInstanceAs (Decidable (lo ≤ hi))
  | r :: rs =>
    have := decidableInOrder r.endByte hi rs
    inferInstanceAs (Decidable (_ ∧ _ ∧ _))

/-- Roles that come in this order wherever they occur together. -/
def roleOrders : List (List String) :=
  [["type", "name", "value", "body"], ["object", "arguments"], ["left", "right"]]

/-- The grammar has the first part before the second one, if both are parts of one piece.
Modifiers come before whatever plays a role, and the body of a class comes after the object and
the arguments. -/
def Concrete.precedes (c d : Concrete) : Bool :=
  (c.kind == "modifiers" && d.field.isSome) ||
  ([some "object", some "arguments"].contains c.field && d.kind == "class_body") ||
  match c.field, d.field with
  | some a, some b => roleOrders.any fun roles => [a, b].isSublist roles
  | _, _ => false

/-- No part comes before one that the grammar has before it. -/
def Concrete.InGrammarOrder (cs : List Concrete) : Prop :=
  (∀ c ∈ cs, ¬ c.precedes c) ∧ cs.Pairwise fun c d => ¬ d.precedes c

instance (cs : List Concrete) : Decidable (Concrete.InGrammarOrder cs) :=
  inferInstanceAs (Decidable (_ ∧ _))

/-- The range of the piece lies in the source. Its parts lie within it, one after the other and in
the order of the grammar. -/
def Concrete.PlacedHere (source : List Char) (c : Concrete) : Prop :=
  c.range.LiesIn source ∧
  Range.InOrder c.range.startByte c.range.endByte (c.children.map Concrete.range) ∧
    InGrammarOrder c.children

instance (source : List Char) : DecidablePred (Concrete.PlacedHere source) := fun _ =>
  inferInstanceAs (Decidable (_ ∧ _ ∧ _))

/-- The piece and all that is in it have their place in the source. -/
def Concrete.WellPlaced (source : List Char) (c : Concrete) : Prop :=
  c.Everywhere (PlacedHere source)

instance (source : List Char) (c : Concrete) : Decidable (c.WellPlaced source) :=
  inferInstanceAs (Decidable (c.Everywhere _))

variable {source : List Char}

namespace Concrete.WellPlaced

variable {c d : Concrete}

/-- A well-placed piece lies in the source. -/
theorem range_liesIn (h : c.WellPlaced source) : c.range.LiesIn source :=
  h.here.1

/-- The parts of a well-placed piece lie within it, one after the other. -/
theorem inOrder (h : c.WellPlaced source) :
    Range.InOrder c.range.startByte c.range.endByte (c.children.map Concrete.range) :=
  h.here.2.1

private theorem inGrammarOrder (h : c.WellPlaced source) : InGrammarOrder c.children :=
  h.here.2.2

/-- The parts of a well-placed piece are well placed. -/
theorem of_mem_children (h : c.WellPlaced source) (hd : d ∈ c.children) : d.WellPlaced source :=
  Everywhere.of_mem_children h hd

end Concrete.WellPlaced

/-! ### Ranges in order -/

namespace Range.InOrder

variable {lo lo' mid hi : Nat} {rs rs' : List Range}

/-- Ranges in order may begin later than they have to. -/
theorem lower (h : InOrder lo hi rs) (hlo : lo' ≤ lo) : InOrder lo' hi rs := by
  cases rs with
  | nil => exact Nat.le_trans hlo h
  | cons r rs => exact ⟨Nat.le_trans hlo h.1, h.2⟩

/-- Some of the ranges, in the same order. -/
theorem sublist (hrs : rs'.Sublist rs) (h : InOrder lo hi rs) : InOrder lo hi rs' := by
  induction hrs generalizing lo with
  | slnil => exact h
  | cons r _ ih => exact (ih h.2.2).lower (Nat.le_trans h.1 h.2.1)
  | cons_cons r _ ih => exact ⟨h.1, h.2.1, ih h.2.2⟩

/-- Ranges in order after others in order. -/
theorem append (h : InOrder lo mid rs) (h' : InOrder mid hi rs') : InOrder lo hi (rs ++ rs') := by
  induction rs generalizing lo with
  | nil => exact h'.lower h
  | cons r rs ih => exact ⟨h.1, h.2.1, ih h.2.2⟩

end Range.InOrder

/-- In a list where nothing comes before what has to come after it, an element and others that it
precedes stand in this order. -/
theorem cons_sublist_of_precedes {α : Type} {R : α → α → Prop} {l ys : List α} {x : α}
    (hirrefl : ∀ a ∈ l, ¬ R a a) (hl : l.Pairwise fun a b => ¬ R b a) (hx : x ∈ l)
    (hys : ys.Sublist l) (hR : ∀ y ∈ ys, R x y) :
    (x :: ys).Sublist l := by
  induction l generalizing ys with
  | nil => cases hx
  | cons a l ih =>
    obtain ⟨hfirst, hrest⟩ := List.pairwise_cons.mp hl
    rcases List.sublist_cons_iff.mp hys with htail | ⟨ys, rfl, -⟩
    · rcases List.mem_cons.mp hx with rfl | hx
      · exact htail.cons_cons x
      · exact (ih (fun b hb => hirrefl b (List.mem_cons_of_mem a hb)) hrest hx htail hR).cons a
    · -- `a` cannot come first, since `x` precedes it
      have hxa : R x a := hR a List.mem_cons_self
      rcases List.mem_cons.mp hx with rfl | hx
      · exact absurd hxa (hirrefl x List.mem_cons_self)
      · exact absurd hxa (hfirst x hx)

/-! ### Drafts in a range -/

namespace Focus

variable {f p q : Focus}

private theorem map_piece_along (before cs : List Concrete) :
    (along before cs).map Focus.piece = cs := by
  induction cs generalizing before with
  | nil => rfl
  | cons c cs ih => rw [along, List.map_cons, ih]

private theorem map_piece_parts (f : Focus) : f.parts.map Focus.piece = f.piece.children :=
  map_piece_along [] f.piece.children

/-- The parts of a well-placed construct are well placed. -/
theorem wellPlaced_of_mem_parts (hf : f.piece.WellPlaced source) (hp : p ∈ f.parts) :
    p.piece.WellPlaced source :=
  everywhere_of_mem_parts (fun _ hd => hf.of_mem_children hd) hp

/-- Some of the parts of a well-placed construct lie within it, one after the other. -/
theorem inOrder_of_sublist_parts (hf : f.piece.WellPlaced source) {fs : List Focus}
    (hfs : fs.Sublist f.parts) :
    Range.InOrder f.range.startByte f.range.endByte (fs.map Focus.range) := by
  have hparts : f.parts.map Focus.range = f.piece.children.map Concrete.range := by
    rw [← map_piece_parts, List.map_map]
    rfl
  have hall := hf.inOrder
  rw [← hparts] at hall
  exact hall.sublist (hfs.map Focus.range)

/-- A part that precedes others stands before them. -/
theorem cons_sublist_parts (hf : f.piece.WellPlaced source) {fs : List Focus} (hp : p ∈ f.parts)
    (hfs : fs.Sublist f.parts) (hbefore : ∀ q ∈ fs, p.piece.precedes q.piece) :
    (p :: fs).Sublist f.parts := by
  obtain ⟨hirrefl, hpairwise⟩ := hf.inGrammarOrder
  have hparts : ∀ p ∈ f.parts, ¬ p.piece.precedes p.piece :=
    fun p hp => hirrefl p.piece (piece_mem_of_mem_along hp)
  rw [← map_piece_parts] at hpairwise
  exact cons_sublist_of_precedes hparts (List.pairwise_map.mp hpairwise) hp hfs hbefore

/-- The drafts lie within the range of the piece, one after the other. -/
def Covers (source : List Char) (f : Focus) (ds : List Draft) : Prop :=
  Draft.PlacedAll source f.range.startByte f.range.endByte ds

variable {fs : List Focus} {g g' : Focus → List Draft}

/-- What is made of parts in order is placed in their order. -/
theorem placedAll_flatMap {lo hi : Nat} (hfs : Range.InOrder lo hi (fs.map Focus.range))
    (hg : ∀ p ∈ fs, p.Covers source (g p)) : Draft.PlacedAll source lo hi (fs.flatMap g) := by
  induction fs generalizing lo with
  | nil => exact hfs
  | cons p fs ih =>
    obtain ⟨hlo, -, hrest⟩ := hfs
    have hfirst : Draft.PlacedAll source lo p.range.endByte (g p) :=
      Draft.PlacedAll.mono (hg p List.mem_cons_self) hlo (Nat.le_refl _)
    exact hfirst.append (ih hrest fun q hq => hg q (List.mem_cons_of_mem p hq))

/-- What is made of some parts in their order lies within the whole. -/
theorem covers_flatMap (hf : f.piece.WellPlaced source) (hfs : fs.Sublist f.parts)
    (hg : ∀ p ∈ fs, p.Covers source (g p)) : f.Covers source (fs.flatMap g) :=
  placedAll_flatMap (inOrder_of_sublist_parts hf hfs) hg

/-- What is made of a part, if there is one, and of parts that it precedes lies within the whole. -/
theorem covers_append (hf : f.piece.WellPlaced source) {o : Option Focus}
    (ho : ∀ p ∈ o, p ∈ f.parts) (hfs : fs.Sublist f.parts)
    (hbefore : ∀ p ∈ o, ∀ q ∈ fs, p.piece.precedes q.piece) (hg : ∀ p ∈ o, p.Covers source (g p))
    (hg' : ∀ q ∈ fs, q.Covers source (g' q)) :
    f.Covers source (o.toList.flatMap g ++ fs.flatMap g') := by
  cases o with
  | none => exact covers_flatMap hf hfs hg'
  | some p =>
    have hsublist := cons_sublist_parts hf (ho p rfl) hfs (hbefore p rfl)
    obtain ⟨hlo, -, hrest⟩ := inOrder_of_sublist_parts hf hsublist
    have hfirst : Draft.PlacedAll source f.range.startByte p.range.endByte (g p) :=
      Draft.PlacedAll.mono (hg p rfl) hlo (Nat.le_refl _)
    rw [Option.toList_some, List.flatMap_singleton]
    exact hfirst.append (placedAll_flatMap hrest hg')

end Focus

end Excerpt.Java
