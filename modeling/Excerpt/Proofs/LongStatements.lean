import Excerpt.Detect.LongStatements
import Excerpt.Proofs.Completion
import Excerpt.Proofs.Spans
import Excerpt.Proofs.Sweep
import Mathlib.Logic.Relation

/-!
# Reports of long statements

A call of the detector for long statements makes a report for the length of the node and then
reports for its arguments (`detect_eq`). The settings act on the two parts separately, so sweeps
with different settings are compared part by part (`sweep_sublist_of`).

With `outermostOnly`, a node is reported for its length if and only if it is long and no node
around it in the same statement is (`lengthPart_ne_nil_iff_outermost`). Going outwards from a long
node ends at such a node (`IsLong.exists_outermost`), so every long node is accounted for.

What is reported is said in terms of what a call finds (`Reported`), not of the part for the
length. A call that cannot look at its arguments finds nothing at all, and then its node is not
reported, however long it is. Where references stay in the tree this does not happen
(`exists_argumentPart_eq_some`), and the part for the length decides.

A larger limit makes fewer nodes long, which could uncover nodes that had been hidden. In trees
with nested ranges it does not: a text is no longer than the texts around it
(`SyntaxTree.SpansNested.length_textChars_le`).

## Main results

* `exists_argumentPart_eq_some`: calls complete if references stay in the tree.
* `lengthPart_ne_nil_iff_outermost`: which nodes are reported for their length.
* `reports_outermost`: only the outermost long nodes are reported, and all of them.
* `sweep_sublist_of_stricter`: stricter settings report less.
-/

namespace Excerpt.SyntaxTree

variable {t : SyntaxTree} {i a : Nat} {s : Span}

/-! ### Nested ranges -/

/-- A node with a range has a parent with a range around it, unless it has no parent. -/
def SpansNested (t : SyntaxTree) : Prop :=
  ∀ i p s, t.parent? i = some p → (t.node i).span = some s →
    ∃ q, (t.node p).span = some q ∧ q.startByte ≤ s.startByte ∧ s.endByte ≤ q.endByte

private theorem SpansNested.of_mem_ancestors (h : t.SpansNested) (hs : (t.node i).span = some s)
    (ha : a ∈ t.ancestors i) :
    ∃ q, (t.node a).span = some q ∧ q.startByte ≤ s.startByte ∧ s.endByte ≤ q.endByte := by
  fun_induction ancestors t i generalizing s with
  | case1 i p hp hlt ih =>
    obtain ⟨q, hq, hlo, hhi⟩ := h i p s hp hs
    rcases List.mem_cons.mp ha with rfl | ha
    · exact ⟨q, hq, hlo, hhi⟩
    · obtain ⟨r, hr, hlo', hhi'⟩ := ih hq ha
      exact ⟨r, hr, Nat.le_trans hlo' hlo, Nat.le_trans hhi hhi'⟩
  | case2 i p hp _ =>
    obtain rfl := List.mem_singleton.mp ha
    exact h i a s hp hs
  | case3 => cases ha

private theorem byteSlice?_of_sliceOf_ne_nil {source : String} (h : sliceOf source s ≠ []) :
    Text.byteSlice? s.startByte s.endByte source.toList = some (sliceOf source s) := by
  rw [sliceOf] at h ⊢
  cases hslice : Text.byteSlice? s.startByte s.endByte source.toList with
  | none =>
    rw [hslice] at h
    exact absurd rfl h
  | some mid => rfl

/-- A text is no longer than the text of an ancestor. Nothing is asked of the places where the
ranges begin and end: a range that does not lie between characters has no text. -/
theorem SpansNested.length_textChars_le (h : t.SpansNested) (ha : a ∈ t.ancestors i)
    (hi : t.textChars i ≠ []) (hne : t.textChars a ≠ []) :
    (t.textChars i).length ≤ (t.textChars a).length := by
  rw [textChars] at hi ⊢
  cases hs : (t.node i).span with
  | none =>
    rw [hs] at hi
    exact absurd rfl hi
  | some s =>
    obtain ⟨q, hq, hlo, hhi⟩ := h.of_mem_ancestors hs ha
    rw [hs] at hi
    rw [textChars, hq] at hne ⊢
    -- the bytes of one range are among those of the other, and so are the characters
    have hinfix : sliceOf t.source s <:+: sliceOf t.source q :=
      Text.infix_of_byteSlice? (byteSlice?_of_sliceOf_ne_nil hi)
        (byteSlice?_of_sliceOf_ne_nil hne) hlo hhi
    exact hinfix.length_le

end Excerpt.SyntaxTree

namespace Excerpt.Java

/-- Well-placed syntax becomes a tree with nested ranges. -/
theorem spansNested_treeOf {source : String} {concrete : Concrete}
    (h : concrete.WellPlaced source.toList) : (treeOf source concrete).SpansNested := by
  intro i p s hp hs
  have hi : i < (treeOf source concrete).size := SyntaxTree.WellFormed.lt_size_of_parent? hp
  have hpos : 0 < i :=
    Nat.zero_lt_of_lt ((selfContained_treeOf source concrete).wellFormed.lt_of_parent? hp)
  obtain ⟨p', s', q, hp', hs', hq, -, hlo, hhi⟩ :=
    SyntaxTree.nested_graftAll (placedAll_namedParts h concrete.depth) hpos hi
  obtain rfl : p = p' := Option.some.inj (hp.symm.trans hp')
  obtain rfl : s = s' := Option.some.inj (hs.symm.trans hs')
  exact ⟨q, hq, hlo, hhi⟩

end Excerpt.Java

namespace Excerpt.Detect.LongStatement

variable {t : SyntaxTree} {i p a : Nat} {d e : LongStatement} {cx : Context} {rule : Rule}
  {path : String}

/-! ### The parts of a call -/

/-- The method or constructor around a candidate. -/
def callable? (cx : Context) : Option NodeId :=
  if isCandidate cx.kind then cx.tree.enclosingCallable? cx.node else none

/-- What a call reports for the length of the node. -/
def lengthPart (d : LongStatement) (cx : Context) : List Finding :=
  (callable? cx).elim [] fun c => d.lengthFindings cx (Signature.ofCallable cx.tree c)

/-- What a call reports for the arguments of the node, if the tree has them all. -/
def argumentPart (d : LongStatement) (cx : Context) : Option (List Finding) :=
  (callable? cx).elim (some []) fun c =>
    gather (argumentsOf cx.kind) (d.argumentFindings cx (Signature.ofCallable cx.tree c))

/-- A call reports first for the length of the node and then for its arguments. -/
theorem detect_eq (d : LongStatement) (cx : Context) :
    d.detector.detect cx = .ofSearch ((d.argumentPart cx).map (d.lengthPart cx ++ ·)) := by
  simp only [detector, Detector.searching, argumentPart, lengthPart, callable?]
  cases (if isCandidate cx.kind then cx.tree.enclosingCallable? cx.node else none) with
  | none => rfl
  | some c =>
    simp only [Option.elim_some]
    cases gather (argumentsOf cx.kind) (d.argumentFindings cx (Signature.ofCallable cx.tree c)) <;>
      rfl

private theorem isSome_callable?_iff : (callable? cx).isSome ↔
    isCandidate cx.kind = true ∧ ∃ c, cx.tree.enclosingCallable? cx.node = some c := by
  rw [callable?, ← Option.isSome_iff_exists]
  split <;> simp [*]

/-- A search through the arguments of a node comes to an end if references stay in the tree: the
left operand of an argument is a reference of the argument. -/
theorem exists_argumentPart_eq_some (d : LongStatement) (cx : Context)
    (hwithin : cx.tree.ReferencesWithin) :
    ∃ broken, d.argumentPart cx = some broken := by
  rw [argumentPart]
  cases callable? cx with
  | none => exact ⟨[], rfl⟩
  | some c =>
    refine ⟨_, gather_eq_some_iff.mpr ⟨fun arg harg => ?_, rfl⟩⟩
    rw [argumentFindings, hwithin.follow_eq (mem_references_of_mem_argumentsOf harg)]
    simp only [Option.bind_eq_bind, Option.bind_some]
    split
    · next _ opLine left _ hbinary =>
      -- an argument that is broken is an operation, and its left operand is a reference of it
      have hleft : left ∈ (cx.tree.kind arg).references := by
        rw [hbinary]
        exact List.mem_cons_self
      rw [hwithin.follow_eq hleft, Option.bind_some]
      split
      · split <;> rfl
      · rfl
    · rfl

/-! ### Settings that report less -/

/-- Settings that report fewer breaks give up at the same arguments, and report less of the
others. -/
theorem argumentFindings_rel {signature : String} {arg : NodeId}
    (h : ∀ arg left opLine, d.reportsBreak arg left opLine = true →
      e.reportsBreak arg left opLine = true) :
    Option.Rel List.Sublist (d.argumentFindings cx signature arg)
        (e.argumentFindings cx signature arg) := by
  rw [argumentFindings, argumentFindings]
  -- neither looks at the settings before both references have been followed
  cases cx.tree.follow arg with
  | none => exact .none
  | some arg' =>
    simp only [Option.bind_eq_bind, Option.bind_some]
    split
    · next _ opLine left _ _ =>
      cases cx.tree.follow left with
      | none => exact .none
      | some left' =>
        simp only [Option.bind_some]
        split
        · next argSpan leftSpan _ _ =>
          by_cases hd : d.reportsBreak argSpan leftSpan opLine = true
          · rw [if_pos hd, if_pos (h _ _ _ hd)]
            exact .some (.refl _)
          · rw [if_neg hd]
            split
            · exact .some (List.nil_sublist _)
            · exact .some (.refl _)
        · exact .some (.refl _)
    · exact .some (.refl _)

private theorem argumentPart_rel
    (h : ∀ arg left opLine, d.reportsBreak arg left opLine = true →
      e.reportsBreak arg left opLine = true) :
    Option.Rel List.Sublist (d.argumentPart cx) (e.argumentPart cx) := by
  rw [argumentPart, argumentPart]
  cases callable? cx with
  | none => exact .some (.refl [])
  | some c => exact gather_sublist fun _ _ => argumentFindings_rel h

/-- A report for the length of a node is one finding, which does not depend on the settings. -/
theorem lengthPart_eq_of_ne_nil (hd : d.lengthPart cx ≠ []) :
    ∃ c, cx.tree.enclosingCallable? cx.node = some c ∧
      d.lengthPart cx = [⟨cx.line, cx.trimmedText, Signature.ofCallable cx.tree c⟩] := by
  rw [lengthPart] at hd ⊢
  cases hc : callable? cx with
  | none =>
    rw [hc] at hd
    exact absurd rfl hd
  | some c =>
    have henclosing : cx.tree.enclosingCallable? cx.node = some c :=
      (Option.ite_none_right_eq_some.mp hc).2
    rw [hc, Option.elim_some, lengthFindings] at hd
    rw [Option.elim_some, lengthFindings]
    exact ⟨c, henclosing, if_pos (by_contra fun h => hd (if_neg h))⟩

/-- Settings that report fewer nodes for their length and fewer breaks report less in a sweep. -/
theorem sweep_sublist_of
    (hlength : ∀ i, d.lengthPart ⟨t, i, rule, path⟩ ≠ [] → e.lengthPart ⟨t, i, rule, path⟩ ≠ [])
    (hbreak : ∀ arg left opLine, d.reportsBreak arg left opLine = true →
      e.reportsBreak arg left opLine = true) :
    (d.detector.sweep t rule path).Sublist (e.detector.sweep t rule path) := by
  refine Detector.sweep_sublist fun i => ?_
  have hpart : (d.lengthPart ⟨t, i, rule, path⟩).Sublist (e.lengthPart ⟨t, i, rule, path⟩) := by
    by_cases hd : d.lengthPart ⟨t, i, rule, path⟩ = []
    · rw [hd]
      exact List.nil_sublist _
    · -- a node has one finding for its length at most, and the settings do not show in it
      obtain ⟨c, hc, heq⟩ := lengthPart_eq_of_ne_nil hd
      obtain ⟨c', hc', heq'⟩ := lengthPart_eq_of_ne_nil (hlength i hd)
      obtain rfl : c = c' := Option.some.inj (hc.symm.trans hc')
      rw [heq, heq']
  have harguments : Option.Rel List.Sublist (d.argumentPart ⟨t, i, rule, path⟩)
      (e.argumentPart ⟨t, i, rule, path⟩) :=
    argumentPart_rel hbreak
  rw [detect_eq, detect_eq, Outcome.findings?_ofSearch, Outcome.findings?_ofSearch]
  -- both calls fail or both complete, since they follow the same references
  generalize d.argumentPart ⟨t, i, rule, path⟩ = broken at harguments
  generalize e.argumentPart ⟨t, i, rule, path⟩ = broken' at harguments
  cases harguments with
  | none => exact .refl []
  | some hbroken => exact hpart.append hbroken

/-! ### Long nodes -/

/-- A candidate inside a method or constructor that has one line and is too long for it. -/
structure IsLong (d : LongStatement) (t : SyntaxTree) (i : NodeId) : Prop where
  candidate : isCandidate (t.kind i) = true
  inside : ∃ c, t.enclosingCallable? i = some c
  long : ∃ s, (t.node i).span = some s ∧ s.startLine = s.endLine ∧ d.maxLength < (t.text i).length

private theorem isTooLong_iff : d.isTooLong t i = true ↔
    ∃ s, (t.node i).span = some s ∧ s.startLine = s.endLine ∧ d.maxLength < (t.text i).length := by
  rw [isTooLong, SyntaxTree.text, String.length_ofList]
  cases (t.node i).span <;> simp [Span.isSingleLine]

private theorem lengthPart_ne_nil_iff : d.lengthPart cx ≠ [] ↔
    d.IsLong cx.tree cx.node ∧
    ¬ (d.outermostOnly = true ∧ d.hasLongAncestor cx.tree cx.node = true) := by
  have hlong : d.IsLong cx.tree cx.node ↔
      (callable? cx).isSome ∧ d.isTooLong cx.tree cx.node = true := by
    rw [isSome_callable?_iff, isTooLong_iff]
    exact ⟨fun h => ⟨⟨h.candidate, h.inside⟩, h.long⟩, fun h => ⟨h.1.1, h.1.2, h.2⟩⟩
  rw [hlong, lengthPart]
  cases callable? cx with
  | none => simp
  | some c => simp [lengthFindings]

/-! ### Around a node -/

/-- One step up inside a statement: to the parent, unless the search for longer things ends
there. -/
def StepsUp (t : SyntaxTree) (i p : NodeId) : Prop :=
  t.parent? i = some p ∧ isBarrier (t.kind p) = false

/-- Node `a` is around node `i` in the same statement: no statement, block, callable or type is
crossed on the way from `i` up to `a`. -/
def Around (t : SyntaxTree) : NodeId → NodeId → Prop :=
  Relation.TransGen (StepsUp t)

section ParentsFirst

variable (hparents : ∀ i p, t.parent? i = some p → p < i)
include hparents

/-- The nodes around a node are those that the search for longer things sees. -/
theorem mem_takeWhile_ancestors_iff :
    a ∈ (t.ancestors i).takeWhile (fun a => !isBarrier (t.kind a)) ↔ Around t i a := by
  -- parents come before their children, so the way up is followed by induction on the node
  induction i using Nat.strongRecOn with
  | ind i ih =>
    rw [Around, Relation.TransGen.head'_iff]
    cases hp : t.parent? i with
    | none =>
      rw [SyntaxTree.WellFormed.ancestors_of_parent?_eq_none hp]
      simp [StepsUp, hp]
    | some p =>
      have habove : a ∈ (t.ancestors p).takeWhile (fun a => !isBarrier (t.kind a)) ↔ Around t p a :=
        ih p (hparents i p hp)
      rw [SyntaxTree.ancestors_of_lt hp (hparents i p hp), List.takeWhile_cons]
      cases hbarrier : isBarrier (t.kind p) with
      | true => simp [StepsUp, hp, hbarrier]
      | false =>
        simp only [Bool.not_false, if_true, List.mem_cons, habove, StepsUp, hp, Option.some.injEq]
        rw [Around, ← Relation.reflTransGen_iff_eq_or_transGen]
        exact ⟨fun h => ⟨p, ⟨rfl, hbarrier⟩, h⟩, fun ⟨_, ⟨rfl, _⟩, h⟩ => h⟩

private theorem Around.lt (h : Around t i a) : a < i := by
  induction h with
  | single hstep => exact hparents _ _ hstep.1
  | tail _ hstep ih => exact Nat.lt_trans (hparents _ _ hstep.1) ih

/-- What is around a node in the same statement is in the same method or constructor. -/
theorem StepsUp.enclosingCallable?_eq (h : StepsUp t i p) :
    t.enclosingCallable? i = t.enclosingCallable? p := by
  have hcallable : (t.kind p).isCallable = false := by
    have hfree := h.2
    simp only [isBarrier, Bool.or_eq_false_iff] at hfree
    exact hfree.1.2
  rw [SyntaxTree.enclosingCallable?, SyntaxTree.findAncestor?,
    SyntaxTree.ancestors_of_lt h.1 (hparents i p h.1), List.find?_cons_of_neg (by simp [hcallable])]
  rfl

private theorem Around.enclosingCallable?_eq (h : Around t i a) :
    t.enclosingCallable? i = t.enclosingCallable? a := by
  induction h with
  | single hstep => exact hstep.enclosingCallable?_eq hparents
  | tail _ hstep ih => exact ih.trans (hstep.enclosingCallable?_eq hparents)

/-- Inside a method or constructor, the search for longer things finds the long nodes around a
node. -/
theorem hasLongAncestor_iff (hinside : ∃ c, t.enclosingCallable? i = some c) :
    d.hasLongAncestor t i = true ↔ ∃ a, Around t i a ∧ d.IsLong t a := by
  simp only [hasLongAncestor, List.any_eq_true, mem_takeWhile_ancestors_iff hparents,
    isLongCandidate, Bool.and_eq_true, isTooLong_iff]
  refine exists_congr fun a => and_congr_right fun ha => ?_
  have hinside' : ∃ c, t.enclosingCallable? a = some c :=
    ha.enclosingCallable?_eq hparents ▸ hinside
  exact ⟨fun h => ⟨h.1, hinside', h.2⟩, fun h => ⟨h.candidate, h.long⟩⟩

/-- If only the outermost are reported, these are the long nodes without a long node around them. -/
theorem lengthPart_ne_nil_iff_outermost (hd : d.outermostOnly = true) :
    d.lengthPart ⟨t, i, rule, path⟩ ≠ [] ↔ d.IsLong t i ∧ ∀ a, Around t i a → ¬ d.IsLong t a := by
  rw [lengthPart_ne_nil_iff]
  refine and_congr_right fun hlong => ?_
  simp only [hd, true_and, hasLongAncestor_iff hparents hlong.inside, not_exists, not_and]

/-- A long node is outermost, or an outermost long node is around it. -/
theorem IsLong.exists_outermost (hi : d.IsLong t i) :
    ∃ a, (a = i ∨ Around t i a) ∧ d.IsLong t a ∧ ∀ b, Around t a b → ¬ d.IsLong t b := by
  -- whatever is around a node has a smaller index, so the search outwards ends
  induction i using Nat.strongRecOn with
  | ind i ih =>
    by_cases houter : ∃ a, Around t i a ∧ d.IsLong t a
    · obtain ⟨a, ha, hlong⟩ := houter
      obtain ⟨b, hb, houtermost⟩ := ih a (ha.lt hparents) hlong
      refine ⟨b, Or.inr ?_, houtermost⟩
      rcases hb with rfl | hb
      · exact ha
      · exact ha.trans hb
    · exact ⟨i, Or.inl rfl, hi, fun a ha hlong => houter ⟨a, ha, hlong⟩⟩

end ParentsFirst

/-! ### Reported nodes -/

/-- The node is reported for its length: the call at the node completes, and ahead of what it
finds at the arguments of the node it finds one thing more, the node itself. -/
def Reported (d : LongStatement) (cx : Context) : Prop :=
  ∃ c broken, cx.tree.enclosingCallable? cx.node = some c ∧ d.argumentPart cx = some broken ∧
    d.detector.detect cx =
      .completed (⟨cx.line, cx.trimmedText, Signature.ofCallable cx.tree c⟩ :: broken)

/-- A report for the length is a part of what a call finds that is not there for the arguments. -/
theorem Reported.lengthPart_ne_nil (h : d.Reported cx) : d.lengthPart cx ≠ [] := by
  obtain ⟨c, broken, -, hbroken, hdetect⟩ := h
  intro hnil
  rw [detect_eq, hbroken, hnil, Option.map_some, Outcome.ofSearch_eq_completed_iff] at hdetect
  have hlength := congrArg List.length (Option.some.inj hdetect)
  simp at hlength

/-- Where the arguments can be looked at, the part of a call for the length is all that it takes
to be reported. -/
theorem reported_iff_of_argumentPart {broken : List Finding}
    (hbroken : d.argumentPart cx = some broken) :
    d.Reported cx ↔ d.lengthPart cx ≠ [] := by
  refine ⟨Reported.lengthPart_ne_nil, fun hne => ?_⟩
  obtain ⟨c, hc, hlength⟩ := lengthPart_eq_of_ne_nil hne
  refine ⟨c, broken, hc, hbroken, ?_⟩
  rw [detect_eq, hbroken, hlength]
  rfl

/-- A node that is not reported for its length is reported for its arguments only. -/
theorem detect_of_not_reported {broken : List Finding} (hbroken : d.argumentPart cx = some broken)
    (h : ¬ d.Reported cx) : d.detector.detect cx = .completed broken := by
  rw [reported_iff_of_argumentPart hbroken, not_not] at h
  rw [detect_eq, hbroken, h]
  rfl

/-- **Only the outermost long nodes are reported, and all of them.** Let the parents of a tree
come before their children. With `outermostOnly`, a node that is reported for its length is long,
and no node around it is long, so no reported node is around another one. A sweep finds no more
than without `outermostOnly`.

If moreover the references of the tree stay in it, every call completes, with what it finds at the
arguments and, for a reported node, with one finding for the length ahead of them. Then the
reported nodes are all long nodes without a long one around them, and every long node is reported
or has a reported one around it. -/
theorem reports_outermost (hparents : ∀ i p, t.parent? i = some p → p < i) (maxLength : Nat)
    (continuation : Continuation) (rule : Rule) (path : String) :
    let d : LongStatement := ⟨maxLength, continuation, true⟩
    let reported := fun i => d.Reported ⟨t, i, rule, path⟩
    (∀ i, reported i → d.IsLong t i ∧ ∀ a, Around t i a → ¬ d.IsLong t a) ∧
    (∀ i a, reported i → Around t i a → ¬ reported a) ∧
    (d.detector.sweep t rule path).Sublist
      ((⟨maxLength, continuation, false⟩ : LongStatement).detector.sweep t rule path) ∧
    (t.ReferencesWithin →
      (∀ i, ∃ broken, d.argumentPart ⟨t, i, rule, path⟩ = some broken ∧
        (¬ reported i → d.detector.detect ⟨t, i, rule, path⟩ = .completed broken) ∧
        (reported i → ∃ c, t.enclosingCallable? i = some c ∧ d.detector.detect ⟨t, i, rule, path⟩ =
          .completed (⟨t.line i, t.trimmedText i, Signature.ofCallable t c⟩ :: broken))) ∧
      (∀ i, reported i ↔ d.IsLong t i ∧ ∀ a, Around t i a → ¬ d.IsLong t a) ∧
      (∀ i, d.IsLong t i → reported i ∨ ∃ a, Around t i a ∧ reported a)) := by
  intro d reported
  have houtermost : ∀ i, d.lengthPart ⟨t, i, rule, path⟩ ≠ [] ↔
      d.IsLong t i ∧ ∀ a, Around t i a → ¬ d.IsLong t a :=
    fun i => lengthPart_ne_nil_iff_outermost hparents rfl
  have hlong : ∀ i, reported i → d.IsLong t i ∧ ∀ a, Around t i a → ¬ d.IsLong t a :=
    fun i hi => (houtermost i).mp hi.lengthPart_ne_nil
  refine ⟨hlong, fun i a hi ha hreported => (hlong i hi).2 a ha (hlong a hreported).1, ?_,
    fun hwithin => ?_⟩
  · refine sweep_sublist_of (fun i hi => ?_) fun _ _ _ h => h
    obtain ⟨hcandidate, -⟩ := (houtermost i).mp hi
    exact lengthPart_ne_nil_iff.mpr
      ⟨⟨hcandidate.candidate, hcandidate.inside, hcandidate.long⟩, by simp⟩
  · -- where the search at the arguments completes, the length alone decides
    have hreported : ∀ i, reported i ↔ d.IsLong t i ∧ ∀ a, Around t i a → ¬ d.IsLong t a := by
      intro i
      obtain ⟨broken, hbroken⟩ := d.exists_argumentPart_eq_some ⟨t, i, rule, path⟩ hwithin
      rw [← houtermost i]
      exact reported_iff_of_argumentPart hbroken
    refine ⟨fun i => ?_, hreported, fun i hi => ?_⟩
    · obtain ⟨broken, hbroken⟩ := d.exists_argumentPart_eq_some ⟨t, i, rule, path⟩ hwithin
      refine ⟨broken, hbroken, detect_of_not_reported hbroken, ?_⟩
      rintro ⟨c, broken', hc, hbroken', hdetect⟩
      obtain rfl : broken = broken' := Option.some.inj (hbroken.symm.trans hbroken')
      exact ⟨c, hc, hdetect⟩
    · obtain ⟨a, rfl | ha, hfree⟩ := hi.exists_outermost hparents
      · exact .inl ((hreported a).mpr hfree)
      · exact .inr ⟨a, ha, (hreported a).mpr hfree⟩

/-- A call with a call as its argument, in a method. -/
def callInCall : SyntaxTree :=
  SyntaxTree.ofSource "f(g(x))"
    |>.push 0 { kind := .methodDecl {} }
    |>.push 1 { kind := .expr (.call none [3]), span := some ⟨1, 1, 0, 7⟩ }
    |>.push 2 { kind := .expr (.call none [4]), span := some ⟨1, 1, 2, 6⟩ }
    |>.push 3 { kind := .expr .name, span := some ⟨1, 1, 4, 5⟩ }

/-- The outer call is reported with all its text; the call inside is long as well, but not
reported. -/
theorem reports_callInCall :
    let d : LongStatement := ⟨3, .anyBreak, true⟩
    let rule : Rule := { id := "RULE-005", scope := "METHOD_CALL" }
    (∀ i p, callInCall.parent? i = some p → p < i) ∧ callInCall.ReferencesWithin ∧
    d.IsLong callInCall 3 ∧ Around callInCall 3 2 ∧ d.Reported ⟨callInCall, 2, rule, "A.java"⟩ ∧
    d.detector.detect ⟨callInCall, 2, rule, "A.java"⟩ = .completed [⟨1, "f(g(x))", "()"⟩] ∧
    ¬ d.Reported ⟨callInCall, 3, rule, "A.java"⟩ ∧
    d.detector.detect ⟨callInCall, 3, rule, "A.java"⟩ = .completed [] ∧
    (∃ a, Around callInCall 3 a ∧ d.Reported ⟨callInCall, a, rule, "A.java"⟩) ∧
    (d.detector.sweep callInCall rule "A.java").Sublist
      ((⟨3, .anyBreak, false⟩ : LongStatement).detector.sweep callInCall rule "A.java") := by
  intro d rule
  have hreachable : callInCall.Reachable := by
    iterate 4 refine .push ?_ (by decide) rfl
    exact .ofSource _
  have hparents : ∀ i p, callInCall.parent? i = some p → p < i :=
    fun _ _ => hreachable.wellFormed.lt_of_parent?
  have hwithin : callInCall.ReferencesWithin := SyntaxTree.referencesWithin_iff.mpr (by decide)
  have hlong : d.IsLong callInCall 3 :=
    ⟨rfl, ⟨1, by decide +kernel⟩, _, rfl, rfl, by decide +kernel⟩
  have haround : Around callInCall 3 2 := .single ⟨rfl, rfl⟩
  have hdetect : d.detector.detect ⟨callInCall, 2, rule, "A.java"⟩ =
      .completed [⟨1, "f(g(x))", "()"⟩] := by
    decide +kernel
  obtain ⟨-, hdisjoint, hsublist, hcomplete⟩ := reports_outermost hparents 3 .anyBreak rule "A.java"
  obtain ⟨hcalls, -, hcovered⟩ := hcomplete hwithin
  have houter : d.Reported ⟨callInCall, 2, rule, "A.java"⟩ := by
    obtain ⟨broken, hbroken, hsilent, -⟩ := hcalls 2
    by_contra hnot
    obtain rfl : [] = broken :=
      Option.some.inj ((by decide +kernel : _ = some []).symm.trans hbroken)
    exact absurd (hdetect.symm.trans (hsilent hnot)) (by decide)
  have hinner : ¬ d.Reported ⟨callInCall, 3, rule, "A.java"⟩ :=
    fun h => hdisjoint 3 2 h haround houter
  refine ⟨hparents, hwithin, hlong, haround, houter, hdetect, hinner, ?_,
    (hcovered 3 hlong).resolve_left hinner, hsublist⟩
  obtain ⟨broken, hbroken, hsilent, -⟩ := hcalls 3
  obtain rfl : [] = broken := Option.some.inj ((by decide +kernel : _ = some []).symm.trans hbroken)
  exact hsilent hinner

/-! ### Stricter settings -/

private theorem isTooLong_of_maxLength_le (hle : d.maxLength ≤ e.maxLength)
    (h : e.isTooLong t i = true) :
    d.isTooLong t i = true := by
  obtain ⟨s, hs, hline, hlength⟩ := isTooLong_iff.mp h
  exact isTooLong_iff.mpr ⟨s, hs, hline, Nat.lt_of_le_of_lt hle hlength⟩

/-- What is around a node that is too long is too long as well, if it has one line and is not
empty. -/
theorem isTooLong_of_mem_ancestors (ht : t.SpansNested) (ha : a ∈ t.ancestors i)
    (hi : e.isTooLong t i = true) (hd : d.isTooLong t a = true) : e.isTooLong t a = true := by
  rw [isTooLong, Bool.and_eq_true, decide_eq_true_eq] at hi hd ⊢
  refine ⟨hd.1, Nat.lt_of_lt_of_le hi.2 (ht.length_textChars_le ha ?_ ?_)⟩
  · exact List.ne_nil_of_length_pos (Nat.zero_lt_of_lt hi.2)
  · exact List.ne_nil_of_length_pos (Nat.zero_lt_of_lt hd.2)

/-- In nested ranges, a larger limit does not uncover a node: what is around it and too long for
the smaller limit is at least as long as the node, hence too long for the larger limit as well. -/
theorem lengthPart_ne_nil_of_maxLength_le (ht : t.SpansNested)
    (he : e.lengthPart ⟨t, i, rule, path⟩ ≠ []) (hle : d.maxLength ≤ e.maxLength)
    (houtermost : d.outermostOnly = e.outermostOnly) : d.lengthPart ⟨t, i, rule, path⟩ ≠ [] := by
  rw [lengthPart_ne_nil_iff] at he ⊢
  obtain ⟨⟨hcandidate, hinside, hlong⟩, hfree⟩ := he
  have htooLong : e.isTooLong t i = true := isTooLong_iff.mpr hlong
  refine ⟨⟨hcandidate, hinside, isTooLong_iff.mp (isTooLong_of_maxLength_le hle htooLong)⟩, ?_⟩
  rintro ⟨hd, hhidden⟩
  -- what hides the node from the smaller limit would hide it from the larger one
  refine hfree ⟨houtermost ▸ hd, ?_⟩
  obtain ⟨a, ha, hlonger⟩ := List.any_eq_true.mp hhidden
  refine List.any_eq_true.mpr ⟨a, ha, ?_⟩
  rw [isLongCandidate, Bool.and_eq_true] at hlonger ⊢
  exact ⟨hlonger.1, isTooLong_of_mem_ancestors ht (List.takeWhile_subset _ ha) htooLong hlonger.2⟩

/-- **Stricter settings report less.** In a tree with nested ranges, whatever is found with a
larger limit is found with a smaller one, whether or not only the outermost are reported. What is
found where the operator ends a line is found where any break counts. -/
theorem sweep_sublist_of_stricter (ht : t.SpansNested) (rule : Rule) (path : String) :
    (∀ (small large : Nat) (continuation : Continuation) (outermostOnly : Bool), small ≤ large →
      ((⟨large, continuation, outermostOnly⟩ : LongStatement).detector.sweep t rule path).Sublist
        ((⟨small, continuation, outermostOnly⟩ : LongStatement).detector.sweep t rule path)) ∧
    (∀ (maxLength : Nat) (outermostOnly : Bool),
      ((⟨maxLength, .trailingOperator, outermostOnly⟩ : LongStatement).detector.sweep t rule
        path).Sublist
        ((⟨maxLength, .anyBreak, outermostOnly⟩ : LongStatement).detector.sweep t rule path)) := by
  constructor
  · intro small large continuation outermostOnly hle
    exact sweep_sublist_of (fun i he => lengthPart_ne_nil_of_maxLength_le ht he hle rfl)
      fun _ _ _ h => h
  · intro maxLength outermostOnly
    refine sweep_sublist_of (fun i h => h) fun arg left opLine h => ?_
    simp only [reportsBreak, Bool.and_eq_true] at h ⊢
    exact ⟨h.1, by simp⟩

/-- A long call with a call in it, and a call with a sum that is broken before the operator. -/
def brokenSum : String :=
  "class A\x7bvoid f()\x7bg(h(x));k(a\n+b);\x7d\x7d"

/-- Of two calls inside each other, the inner one is found with the smaller limit only, and is
hidden by the outer one. The sum in the third call is broken before its operator. -/
theorem sweep_brokenSum :
    let rule : Rule := { id := "RULE-005", scope := "METHOD_CALL" }
    ∃ concrete, Java.parse false "A.java" brokenSum =
      .ok ⟨"A.java", Java.treeOf brokenSum concrete⟩ ∧
      (Java.treeOf brokenSum concrete).SpansNested ∧
      ((⟨5, .anyBreak, false⟩ : LongStatement).detector.sweep
        (Java.treeOf brokenSum concrete) rule "A.java").Sublist
        ((⟨3, .anyBreak, false⟩ : LongStatement).detector.sweep
          (Java.treeOf brokenSum concrete) rule "A.java") ∧
      ((⟨3, .anyBreak, false⟩ : LongStatement).detector.sweep
        (Java.treeOf brokenSum concrete) rule "A.java").map
        (fun f => f.2.code) = ["g(h(x))", "h(x)", "k(a\n+b)"] ∧
      ((⟨3, .trailingOperator, true⟩ : LongStatement).detector.sweep
        (Java.treeOf brokenSum concrete) rule
        "A.java").Sublist
        ((⟨3, .anyBreak, true⟩ : LongStatement).detector.sweep
          (Java.treeOf brokenSum concrete) rule "A.java") ∧
      ((⟨3, .anyBreak, true⟩ : LongStatement).detector.sweep
        (Java.treeOf brokenSum concrete) rule "A.java").map
        (fun f => f.2.code) = ["g(h(x))", "k(a\n+b)"] := by
  intro rule
  have hevaluated : (Java.Concrete.ofSource brokenSum.toList).toOption.any (fun concrete =>
      decide (concrete.hasFault = false ∧ concrete.WellPlaced brokenSum.toList ∧
        ((⟨3, .anyBreak, false⟩ : LongStatement).detector.sweep
          (Java.treeOf brokenSum concrete) rule "A.java").map
          (fun f => f.2.code) = ["g(h(x))", "h(x)", "k(a\n+b)"] ∧
        ((⟨3, .anyBreak, true⟩ : LongStatement).detector.sweep
          (Java.treeOf brokenSum concrete) rule "A.java").map
          (fun f => f.2.code) = ["g(h(x))", "k(a\n+b)"])) = true := by
    decide +kernel
  cases hconcrete : Java.Concrete.ofSource brokenSum.toList with
  | error row =>
    rw [hconcrete] at hevaluated
    cases hevaluated
  | ok concrete =>
    rw [hconcrete] at hevaluated
    obtain ⟨hfault, hplaced, hall, houtermost⟩ := of_decide_eq_true hevaluated
    have hparse : Java.parse false "A.java" brokenSum =
        .ok ⟨"A.java", Java.treeOf brokenSum concrete⟩ :=
      Java.parse_of_ofSource hconcrete hfault
    have hnested := Java.spansNested_treeOf hplaced
    obtain ⟨hlimit, hbreak⟩ := sweep_sublist_of_stricter hnested rule "A.java"
    exact ⟨concrete, hparse, hnested, hlimit 3 5 .anyBreak false (by decide), hall,
      hbreak 3 true, houtermost⟩

end Excerpt.Detect.LongStatement
