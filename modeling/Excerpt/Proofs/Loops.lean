import Excerpt.Detect.Loops
import Excerpt.Proofs.Sweep
import Excerpt.Proofs.Walk
import Mathlib.Data.List.Forall2

/-!
# Every loop belongs to one method

Methods are inside each other where classes are local or anonymous, so what lies below one method
may lie below another one. What belongs to a method does not: a node belongs to the nearest
callable around it (`mem_ownNodes_iff`). So the nodes of the callables, one callable after the
other, are the nodes that have a callable around them, each once (`flatMap_ownNodes_perm`). A
sweep that reports on the nodes of each method therefore reports on each node once.

Two detectors report on the nodes of a method: one on all loops, the other on calls inside loops
that search collections. For both, the sweep is a list of pieces, one for each callable, and in
each piece some nodes are reported with one finding each (`exists_sublist_forall₂`).

For loops, these are all of them. A search is told by the variable that the call is made on, hence
by a reference. So what is reported is right in any tree, but it takes references that stay in the
tree to report everything.

## Main results

* `mem_ownNodes_iff`: the nodes that belong to a callable.
* `flatMap_ownNodes_perm`: every node in a callable belongs to one.
* `exists_searches_at`: what is reported on the nodes of one callable.
* `sweep_loops_once`: what sweeps for loops and for searches report.
-/

namespace Excerpt

namespace SyntaxTree

/-- What a call is made on is in the tree. -/
theorem ReferencesWithin.receiver {t : SyntaxTree} {c : NodeId} (h : t.ReferencesWithin)
    (r : NodeId) (args : List NodeId) (hkind : t.kind c = .expr (.call (some r) args)) :
    r < t.size := by
  refine h c r ?_
  rw [hkind]
  exact List.mem_append_left args (List.mem_singleton_self r)

end SyntaxTree

namespace Detect

variable {t : SyntaxTree} {c i m loop : Nat} {types : List String} {rule : Rule} {path : String}

open SyntaxTree (WellFormed)

/-! ### What belongs to a callable -/

/-- A node belongs to the nearest callable around it. -/
theorem mem_ownNodes_iff (h : t.WellFormed) :
    i ∈ ownNodes t m ↔ t.enclosingCallable? i = some m := by
  rw [ownNodes, List.mem_filter, beq_iff_eq, h.mem_descendants_iff]
  exact and_iff_right_of_imp fun hm => List.mem_of_find?_eq_some hm

private theorem nodup_flatMap_ownNodes (h : t.WellFormed) :
    (t.preorder.flatMap (ownNodes t)).Nodup := by
  have hown : ∀ m, (ownNodes t m).Nodup :=
    fun m => ((List.nodup_cons.mp (h.nodup_segment m)).2).filter _
  refine List.nodup_flatMap.mpr ⟨fun m _ => hown m, (h.nodup_segment 0).imp fun {m m'} hne => ?_⟩
  refine List.disjoint_left.mpr fun i hi hi' => hne ?_
  rw [mem_ownNodes_iff h] at hi hi'
  exact Option.some.inj (hi.symm.trans hi')

private theorem mem_flatMap_ownNodes_iff (h : t.WellFormed) :
    i ∈ t.preorder.flatMap (ownNodes t) ↔ ∃ m, t.enclosingCallable? i = some m := by
  simp only [List.mem_flatMap, mem_ownNodes_iff h, h.mem_preorder_iff]
  refine exists_congr fun m => and_iff_right_of_imp fun hm => ?_
  have hancestor : m ∈ t.ancestors i := List.mem_of_find?_eq_some hm
  exact Nat.lt_trans (h.lt_of_mem_ancestors hancestor) (h.lt_size_of_mem_ancestors hancestor)

/-- The nodes of the callables, one callable after the other, are those with a callable around
them, each once. -/
theorem flatMap_ownNodes_perm (h : t.WellFormed) :
    (t.preorder.flatMap (ownNodes t)).Perm
      ((List.range t.size).filter fun i => (t.enclosingCallable? i).isSome) := by
  refine (List.perm_ext_iff_of_nodup (nodup_flatMap_ownNodes h) (List.nodup_range.filter _)).mpr
    fun i => ?_
  rw [mem_flatMap_ownNodes_iff h, List.mem_filter, List.mem_range, Option.isSome_iff_exists]
  refine (and_iff_right_of_imp ?_).symm
  rintro ⟨m, hm⟩
  exact h.lt_size_of_mem_ancestors (List.mem_of_find?_eq_some hm)

/-! ### Loops of methods -/

/-- What a loop is evidence of: under the method that it belongs to, the line and the text of the
loop, about the signature of the method. -/
def loopEvidence? (t : SyntaxTree) (l : NodeId) : Option (NodeId × Finding) :=
  if (t.kind l).isLoop then
    ((t.enclosingCallable? l).filter fun m => (t.kind m).isMethod).map fun m =>
      (m, ⟨t.line l, t.trimmedText l, Signature.ofCallable t m⟩)
  else none

private theorem sweep_loopBody (h : t.WellFormed) :
    loopBody.sweep t rule path = (t.preorder.flatMap (ownNodes t)).filterMap (loopEvidence? t) := by
  rw [Detector.sweep, List.filterMap_flatMap]
  refine List.flatMap_congr fun (m : Nat) _ => ?_
  -- the nodes that belong to `m` are evidence under `m`, if `m` is a method
  have hevidence : ∀ l ∈ ownNodes t m, loopEvidence? t l =
      if (t.kind l).isLoop && (t.kind m).isMethod then
        some (m, ⟨t.line l, t.trimmedText l, Signature.ofCallable t m⟩) else none := by
    intro l hl
    rw [loopEvidence?, (mem_ownNodes_iff h).mp hl]
    cases (t.kind l).isLoop <;> cases hm : (t.kind m).isMethod <;> simp [hm]
  rw [List.filterMap_congr hevidence]
  cases hm : (t.kind m).isMethod with
  | false => simp [loopBody, Detector.searching, Context.kind, hm]
  | true =>
    simp only [loopBody, Detector.searching, Context.kind, hm, if_true, Bool.and_true,
      Outcome.findings?_ofSearch, Option.getD_some, List.map_map]
    rw [← List.filterMap_eq_map, List.filterMap_filter]
    rfl

/-! ### Searches in loops -/

/-- The nearest loop around a node, with no callable and no type in between. -/
def IsNearestLoop (t : SyntaxTree) (i loop : NodeId) : Prop :=
  ∃ below above, t.ancestors i = below ++ loop :: above ∧ (t.kind loop).isLoop = true ∧
    ∀ a ∈ below, (t.kind a).isLoop = false ∧ (t.kind a).isCallable = false ∧
      (t.kind a).isType = false

private theorem enclosingLoop?_eq_some_iff :
    enclosingLoop? t i = some loop ↔ IsNearestLoop t i loop := by
  rw [enclosingLoop?, Option.filter_eq_some_iff, List.find?_eq_some_iff_append]
  constructor
  · rintro ⟨⟨-, below, above, hsplit, hbelow⟩, hloop⟩
    exact ⟨below, above, hsplit, hloop, fun a ha => by simpa [and_assoc] using hbelow a ha⟩
  · rintro ⟨below, above, hsplit, hloop, hbelow⟩
    exact ⟨⟨by simp [hloop], below, above, hsplit, fun a ha => by simp [hbelow a ha]⟩, hloop⟩

/-- The call `c` of `contains` searches a variable of one of the types in a loop, and `found` is
what it is evidence of: under the method that it belongs to, the line of the call, the text of the
nearest loop around it and that of the call. -/
structure IsSearch (t : SyntaxTree) (types : List String) (c : NodeId)
    (found : NodeId × Finding) : Prop where
  receiver : ∃ r args, t.kind c = .expr (.call (some r) args) ∧ t.kind r = .expr .name ∧
    declaresAs t types found.1 (t.node r).nameText = true
  name : (t.node c).nameText = "contains"
  callable : t.enclosingCallable? c = some found.1
  method : (t.kind found.1).isMethod = true
  finding : ∃ loop, IsNearestLoop t c loop ∧
    found.2 = ⟨t.line c, t.trimmedText loop, t.trimmedText c⟩

/-- A node that belongs to a method gives no finding or the one that it is evidence of. -/
theorem scanFindings_eq_some {fs : List Finding} (hfs : scanFindings t types m c = some fs)
    (hc : t.enclosingCallable? c = some m) (hm : (t.kind m).isMethod = true) :
    fs = [] ∨ ∃ f, fs = [f] ∧ IsSearch t types c (m, f) := by
  -- a call is reported only if none of the four tests fails
  rw [scanFindings] at hfs
  split at hfs
  · next r args hkind =>
    split at hfs
    · next hname =>
      obtain ⟨r', hr', hfs⟩ := Option.bind_eq_some_iff.mp hfs
      obtain ⟨-, rfl⟩ := SyntaxTree.follow_eq_some_iff.mp hr'
      split at hfs
      · next hreceiver hloop =>
        split at hfs
        · next hdeclares =>
          exact Or.inr ⟨_, (Option.some.inj hfs).symm, ⟨r, args, hkind, hreceiver, hdeclares⟩,
            by simpa using hname, hc, hm, _, enclosingLoop?_eq_some_iff.mp hloop, rfl⟩
        · exact Or.inl (Option.some.inj hfs).symm
      · exact Or.inl (Option.some.inj hfs).symm
    · exact Or.inl (Option.some.inj hfs).symm
  · exact Or.inl (Option.some.inj hfs).symm

/-- A search in a loop is found, if what the call is made on is in the tree. -/
theorem IsSearch.scanFindings_eq {found : NodeId × Finding} (h : IsSearch t types c found)
    (hin : ∀ r args, t.kind c = .expr (.call (some r) args) → r < t.size) :
    scanFindings t types found.1 c = some [found.2] := by
  obtain ⟨r, args, hkind, hr, hdeclares⟩ := h.receiver
  obtain ⟨loop, hloop, hfinding⟩ := h.finding
  have hfollow : t.follow r = some r := if_pos (hin r args hkind)
  simp [scanFindings, hkind, h.name, hfollow, hr, enclosingLoop?_eq_some_iff.mpr hloop,
    hdeclares, hfinding]

/-- Where references stay in the tree, the search for findings comes to an end. -/
theorem isSome_scanFindings (hin : ∀ r args, t.kind c = .expr (.call (some r) args) → r < t.size) :
    (scanFindings t types m c).isSome := by
  rw [scanFindings]
  split
  · next r args hkind =>
    have hfollow : t.follow r = some r := if_pos (hin r args hkind)
    split
    · rw [hfollow, Option.bind_eq_bind, Option.bind_some]
      split
      · split <;> rfl
      · rfl
    · rfl
  · rfl

/-! ### Sweeps -/

/-- Pieces of lists are reported on one after the other: if in each piece some elements are
reported, with one finding each, and among them all that satisfy `Q`, then so they are in the
pieces together. -/
theorem exists_sublist_forall₂ {α β γ : Type} {R : β → γ → Prop} {Q : β → Prop} {f : α → List β}
    {g : α → List γ} {xs : List α}
    (h : ∀ x ∈ xs, ∃ us, us.Sublist (f x) ∧ List.Forall₂ R us (g x) ∧ ∀ u ∈ f x, Q u → u ∈ us) :
    ∃ us, us.Sublist (xs.flatMap f) ∧ List.Forall₂ R us (xs.flatMap g) ∧ ∀ u ∈ xs.flatMap f, Q u →
      u ∈ us := by
  induction xs with
  | nil => exact ⟨[], .refl [], .nil, fun u hu => by cases hu⟩
  | cons x xs ih =>
    obtain ⟨hx, hxs⟩ := List.forall_mem_cons.mp h
    obtain ⟨us, hsub, hrel, hall⟩ := hx
    obtain ⟨vs, hsub', hrel', hall'⟩ := ih hxs
    rw [List.flatMap_cons, List.flatMap_cons]
    refine ⟨us ++ vs, hsub.append hsub', List.rel_append hrel hrel', fun u hu hq => ?_⟩
    rw [List.mem_append] at hu ⊢
    exact hu.imp (hall u · hq) (hall' u · hq)

/-- A node of a method is reported, with one finding, or it is no search. -/
theorem exists_searches_of_isSome (hsome : (scanFindings t types m c).isSome)
    (hc : t.enclosingCallable? c = some m) (hm : (t.kind m).isMethod = true) :
    ∃ calls : List NodeId, calls.Sublist [c] ∧
      List.Forall₂ (IsSearch t types) calls
        (((scanFindings t types m c).getD []).map fun f => (m, f)) ∧
      ∀ c' ∈ [c], (t.ReferencesWithin ∧ ∃ found, IsSearch t types c' found) → c' ∈ calls := by
  obtain ⟨fs, hfs⟩ := Option.isSome_iff_exists.mp hsome
  rw [hfs, Option.getD_some]
  rcases scanFindings_eq_some hfs hc hm with rfl | ⟨f, rfl, hsearch⟩
  · refine ⟨[], List.nil_sublist _, .nil, ?_⟩
    rintro c' hc' ⟨hwithin, ⟨m', f⟩, hsearch⟩
    obtain rfl := List.mem_singleton.mp hc'
    obtain rfl : m = m' := Option.some.inj (hc.symm.trans hsearch.callable)
    rw [hsearch.scanFindings_eq hwithin.receiver] at hfs
    cases hfs
  · exact ⟨[c], .refl _, .cons hsearch .nil, fun _ hc' _ => hc'⟩

/-- Of the nodes of a callable some are reported, each once; if references stay in the tree, all
searches are. -/
theorem exists_searches_at (h : t.WellFormed) (types : List String) (m : NodeId) :
    ∃ calls : List NodeId, calls.Sublist (ownNodes t m) ∧
      List.Forall₂ (IsSearch t types) calls
        ((((loopContains types).detect ⟨t, m, rule, path⟩).findings?.getD []).map fun f => (m, f)) ∧
      ∀ c ∈ ownNodes t m, (t.ReferencesWithin ∧ ∃ found, IsSearch t types c found) → c ∈ calls := by
  have hfindings : ((loopContains types).detect ⟨t, m, rule, path⟩).findings? =
      if (t.kind m).isMethod then gather (ownNodes t m) (scanFindings t types m) else some [] := by
    rw [loopContains, Detector.searching, Outcome.findings?_ofSearch]
    rfl
  have hown : ∀ c ∈ ownNodes t m, t.enclosingCallable? c = some m :=
    fun c hc => (mem_ownNodes_iff h).mp hc
  rw [hfindings]
  cases hm : (t.kind m).isMethod with
  | false =>
    refine ⟨[], List.nil_sublist _, .nil, ?_⟩
    rintro c hc ⟨-, ⟨m', f⟩, hsearch⟩
    obtain rfl : m = m' := Option.some.inj ((hown c hc).symm.trans hsearch.callable)
    have hmethod := hsearch.method
    rw [hm] at hmethod
    cases hmethod
  | true =>
    rw [if_pos rfl]
    cases hgather : gather (ownNodes t m) (scanFindings t types m) with
    | none =>
      -- the call crashes, so not all references stay in the tree
      refine ⟨[], List.nil_sublist _, .nil, ?_⟩
      rintro c - ⟨hwithin, -⟩
      rw [gather_eq_some_iff.mpr ⟨fun c _ => isSome_scanFindings hwithin.receiver, rfl⟩] at hgather
      cases hgather
    | some fs =>
      obtain ⟨hsome, rfl⟩ := gather_eq_some_iff.mp hgather
      have hpieces := exists_sublist_forall₂ fun c hc =>
        exists_searches_of_isSome (hsome c hc) (hown c hc) hm
      rwa [List.flatMap_singleton', ← List.map_flatMap] at hpieces

/-- **Loops are reported once.** What a loop is evidence of is reported once, in whatever tree: a
sweep for loops reports each loop that belongs to a method, under this method, and no other loop.
A sweep for searches in loops reports searches, each at most once, under the method that the call
belongs to and with the nearest loop as its code; if references stay in the tree, it reports them
all. -/
theorem sweep_loops_once (ht : t.Reachable) (types : List String) (rule : Rule) (path : String) :
    (loopBody.sweep t rule path).Perm ((List.range t.size).filterMap (loopEvidence? t)) ∧
    ∃ calls : List NodeId, calls.Nodup ∧
      List.Forall₂ (IsSearch t types) calls ((loopContains types).sweep t rule path) ∧
      (t.ReferencesWithin → ∀ c found, IsSearch t types c found → c ∈ calls) := by
  have h := ht.wellFormed
  constructor
  · have hrange : (List.range t.size).filterMap (loopEvidence? t) =
        ((List.range t.size).filter fun i => (t.enclosingCallable? i).isSome).filterMap
          (loopEvidence? t) := by
      rw [List.filterMap_filter]
      refine List.filterMap_congr fun l _ => ?_
      cases hl : t.enclosingCallable? l <;> simp [loopEvidence?, hl]
    rw [sweep_loopBody h, hrange]
    exact (flatMap_ownNodes_perm h).filterMap _
  · obtain ⟨calls, hsub, hrel, hall⟩ :=
      exists_sublist_forall₂ fun m (_ : m ∈ t.preorder) => exists_searches_at h types m
    refine ⟨calls, (nodup_flatMap_ownNodes h).sublist hsub, hrel, fun hwithin c found hsearch => ?_⟩
    exact hall c ((mem_flatMap_ownNodes_iff h).mpr ⟨_, hsearch.callable⟩) ⟨hwithin, found, hsearch⟩

/-- A method that searches a list in a loop. In the loop stands a class with a method and a loop
of its own. -/
def nestedLoops : SyntaxTree :=
  SyntaxTree.ofSource "while(xs.contains(y))"
    |>.push 0 { kind := .methodDecl {}, name := some ⟨"f", none⟩ }
    |>.push 1 { kind := .declarator "List<A>" none, name := some ⟨"xs", none⟩ }
    |>.push 1 { kind := .stmt .whileLoop, span := some ⟨2, 4, 0, 21⟩ }
    |>.push 3
      { kind := .expr (.call (some 5) []), name := some ⟨"contains", none⟩,
        span := some ⟨2, 2, 6, 20⟩ }
    |>.push 4 { kind := .expr .name, name := some ⟨"xs", none⟩ }
    |>.push 3 { kind := .typeDecl { kind := .classType } }
    |>.push 6 { kind := .methodDecl {}, name := some ⟨"g", none⟩ }
    |>.push 7 { kind := .stmt .forLoop, span := some ⟨3, 3, 0, 0⟩ }

/-- A loop in a class inside another loop belongs to the method of this class, and is reported
under it. -/
theorem sweep_nestedLoops :
    let rule : Rule := { id := "RULE-024", scope := "METHOD" }
    nestedLoops.Reachable ∧
    (loopBody.sweep nestedLoops rule "A.java").Perm
      [(1, ⟨2, "while(xs.contains(y))", "f()"⟩), (7, ⟨3, "", "g()"⟩)] ∧
    ∃ calls : List NodeId, calls.Nodup ∧
      List.Forall₂ (IsSearch nestedLoops ["List"]) calls
        ((loopContains ["List"]).sweep nestedLoops rule "A.java") ∧
      (loopContains ["List"]).sweep nestedLoops rule "A.java" =
        [(1, ⟨2, "while(xs.contains(y))", "xs.contains(y)"⟩)] ∧
      nestedLoops.ReferencesWithin ∧ 4 ∈ calls := by
  intro rule
  have hreachable : nestedLoops.Reachable := by
    iterate 8 refine .push ?_ (by decide) rfl
    exact .ofSource _
  have hwithin : nestedLoops.ReferencesWithin := by
    intro i j hj
    rcases Nat.lt_or_ge i 9 with hi | hi
    · exact (by decide : ∀ i < 9, ∀ j ∈ (nestedLoops.kind i).references, j <
        nestedLoops.size) i hi j hj
    · have hkind : nestedLoops.kind i = .compilationUnit := by
        rw [SyntaxTree.kind, SyntaxTree.node, SyntaxTree.node?_of_size_le hi, Option.getD_none]
      rw [hkind] at hj
      cases hj
  have hsearch : IsSearch nestedLoops ["List"] 4
      (1, ⟨2, "while(xs.contains(y))", "xs.contains(y)"⟩) :=
    { receiver := ⟨5, [], rfl, rfl, by decide +kernel⟩
      name := rfl
      callable := by decide +kernel
      method := rfl
      finding := ⟨3, enclosingLoop?_eq_some_iff.mp (by decide +kernel), by decide +kernel⟩ }
  obtain ⟨hloops, calls, hnodup, hrel, hall⟩ := sweep_loops_once hreachable ["List"] rule "A.java"
  have hevidence : (List.range nestedLoops.size).filterMap (loopEvidence? nestedLoops) =
      [(1, ⟨2, "while(xs.contains(y))", "f()"⟩), (7, ⟨3, "", "g()"⟩)] := by
    decide +kernel
  exact ⟨hreachable, hevidence ▸ hloops, calls, hnodup, hrel, by decide +kernel, hwithin,
    hall hwithin 4 _ hsearch⟩

end Detect

end Excerpt
